import GnnSandbox.Bench.Scenario
import GnnSandbox.Lib.Footprint

/-!
# The footprints of the defect classes

The tables that a spec reads and writes: those of its candidates, those in which `apply`
looks rows up or takes values from, and those that it changes.
-/

namespace GnnSandbox.Bench

open Raise

variable {env : Env} {R W : Set Loc}

/-! ## Primitive steps -/

theorem footprint_rowsAt {loc : Loc} (h : loc ∈ R) :
    Footprint R W (rowsAt loc : Inject env _) := .read h

theorem footprint_setRows {loc : Loc} (h : loc ∈ W) (rows : List Row) :
    Footprint R W (setRows loc rows : Inject env _) := .write h rows

theorem footprint_draw {α : Type} (f : env.rng.State → α × env.rng.State) :
    Footprint R W (draw f : Inject env _) := .modifyPrivate f

theorem footprint_randint (a b : ℤ) : Footprint R W (randint a b : Inject env _) :=
  footprint_draw _

theorem footprint_choice {α : Type} (items : List α) :
    Footprint R W (choice items : Inject env _) := by
  refine .bind (footprint_draw _) fun i => ?_
  split
  · exact .pure _
  · exact .throw _

theorem footprint_sample {α : Type} (items : List α) (k : ℤ) :
    Footprint R W (sample items k : Inject env _) := by
  unfold sample
  split
  · exact .bind (footprint_draw _) fun _ => .pure _
  · exact .throw _

theorem footprint_alter {loc : Loc} (hR : loc ∈ R) (hW : loc ∈ W) (f : List Row → List Row) :
    Footprint R W (alter loc f : Inject env _) :=
  .bind (footprint_rowsAt hR) fun _ => footprint_setRows hW _

/-- The table of a name on one side. -/
def own (side : Side) (table : String) : Set Loc := {loc | loc.1 = side ∧ loc.2.name = table}

theorem mem_own {side : Side} {t : Table} {table : String} (h : Table.ofName table = some t) :
    (side, t) ∈ own side table := ⟨rfl, Table.name_of_ofName h⟩

theorem own_name_subset {side : Side} {t : Table} (h : (side, t) ∈ R) : own side t.name ⊆ R := by
  rintro ⟨s, u⟩ ⟨hs, hu⟩
  have hut : u = t := Table.name_injective hu
  have hss : s = side := hs
  rwa [hut, hss]

theorem own_subset {side : Side} {t : Table} {table : String} (h : own side table ⊆ R)
    (ht : tableNamed table = .ok t) : (side, t) ∈ R := h (mem_own (tableNamed_eq_ok.mp ht))

theorem footprint_find {side : Side} {table : String} (h : own side table ⊆ R) (id : String) :
    Footprint R W (find side table id : Inject env _) := by
  refine .liftExcept_bind fun t ht => ?_
  split
  · exact .pure _
  · exact .bind (footprint_rowsAt (own_subset h ht)) fun rows => .pure _

theorem loc_of_mem_refs {loc : Loc} {rows : List Row} {ref : Ref} (h : ref ∈ refs loc rows) :
    ref.loc = loc := by
  obtain ⟨p, -, rfl⟩ := List.mem_map.mp h
  rfl

/-- What follows a search works on a row of the table. -/
theorem footprint_find_bind {α : Type} {side : Side} {table : String} {id : String}
    {f : Option Ref → Inject env α} (h : own side table ⊆ R) (hnone : Footprint R W (f none))
    (hsome : ∀ ref, ref.loc ∈ own side table → Footprint R W (f (some ref))) :
    Footprint R W (find side table id >>= f) := by
  refine (footprint_find h id).bind_of (P := fun found => ∀ ref, found = some ref →
    ref.loc ∈ own side table) ?_ fun found hfound => ?_
  · intro s found s' hrun ref href
    obtain ⟨-, t, ht, hfound⟩ := Runs.find hrun
    rw [hfound] at href
    split at href
    · cases href
    · rw [(findRow_eq_some href).1]
      exact mem_own ht
  · cases found with
    | none => exact hnone
    | some ref => exact hsome ref (hfound ref rfl)

theorem footprint_withColumn {side : Side} {entity : EntityRef} {attr : Value}
    {f : Ref → String → Inject env Mutation}
    (hf : ∀ ref column, ref.loc ∈ own side entity.table →
      Footprint (own side entity.table) (own side entity.table) (f ref column)) :
    Footprint (own side entity.table) (own side entity.table) (withColumn side entity attr f) := by
  refine footprint_find_bind subset_rfl (.pure _) fun ref href => .bind (.liftExcept _) fun named => ?_
  cases named with
  | none => exact .pure _
  | some column => exact hf ref column href

/-- What follows a choice works on one of the items. -/
theorem footprint_choice_bind {α δ : Type} {items : List α} {f : α → Inject env δ}
    (hf : ∀ a ∈ items, Footprint R W (f a)) : Footprint R W (choice items >>= f) :=
  (footprint_choice items).bind_of (fun _ _ _ h => (Runs.choice h).1) hf

theorem footprint_erase {ref : Ref} (hR : ref.loc ∈ R) (hW : ref.loc ∈ W) :
    Footprint R W (erase ref : Inject env _) := footprint_alter hR hW _

theorem footprint_removeRow {kind : String} {ref : Ref} (hR : ref.loc ∈ R) (hW : ref.loc ∈ W) :
    Footprint R W (removeRow kind ref : Inject env _) :=
  .bind (footprint_erase hR hW) fun _ => .pure _

theorem footprint_addRow {kind : String} {loc : Loc} {row : Row} (hR : loc ∈ R) (hW : loc ∈ W) :
    Footprint R W (addRow kind loc row : Inject env _) :=
  .bind (footprint_alter hR hW _) fun _ => .pure _

theorem footprint_writeAttribute {kind column : String} {ref : Ref} {value : Value}
    (hR : ref.loc ∈ R) (hW : ref.loc ∈ W) :
    Footprint R W (writeAttribute kind ref column value : Inject env _) :=
  .bind (footprint_alter hR hW _) fun _ => .pure _

theorem footprint_remove {side : Side} {table : String} (hR : own side table ⊆ R)
    (hW : own side table ⊆ W) (id : Value) :
    Footprint R W (remove side table id : Inject env _) := by
  refine .liftExcept_bind fun t ht => .bind (footprint_rowsAt (own_subset hR ht)) fun rows => ?_
  split
  · exact .pure _
  · next ref href =>
    have hloc : ref.loc = (side, t) := loc_of_mem_refs (List.mem_of_find?_eq_some href)
    refine .bind (footprint_erase ?_ ?_) fun _ => .pure _
    · rw [hloc]
      exact own_subset hR ht
    · rw [hloc]
      exact own_subset hW ht

/-! ## What the classes touch -/

/-- The tables with dependents of a row of `table`. -/
def MissingNode.dependents (table : String) : List Table :=
  if table = "PhysicalRouter" then
    [.physicalInterface, .interfaceLink, .subnetAssociation, .vrf, .bgpSession, .device]
  else if table = "PhysicalInterface" then [.interfaceLink, .subnetAssociation, .device]
  else if table = "PhysicalLink" then [.interfaceLink]
  else []

/-- No table has dependents in itself. -/
theorem MissingNode.not_mem_dependents (t : Table) : t ∉ dependents t.name := by
  cases t <;> decide

/-- What `apply` changes for an entity of `table`. -/
def SingleClass.writes (c : SingleClass) (side : Side) (table : String) : Set Loc :=
  match c with
  | missingNode =>
    own side table ∪ {loc | loc.1 = side ∧ loc.2 ∈ MissingNode.dependents table}
  | endpointShift | asymmetricLink => {(side, .interfaceLink)}
  | splitIdentity | mergedIdentity =>
    match side with
    | .catalog => own .catalog table
    | .telemetry => ∅
  | _ => own side table

/-- What `apply` looks at for an entity of `table`. -/
def SingleClass.reads (c : SingleClass) (side : Side) (table : String) : Set Loc :=
  match c with
  | endpointShift => {(side, .interfaceLink), (side, .physicalInterface)}
  | c => c.writes side table

/-- What `apply` changes for an entity of `table`. -/
def CrossClass.writes (c : CrossClass) (params : Params) (table : String) : Set Loc :=
  match c with
  | attributeConflict => own .catalog table ∪ own .telemetry table
  | structuralConflict => {(.telemetry, .interfaceLink)}
  | existenceConflict => own (ExistenceConflict.side params) table
  | phantomEntity => {loc ∈ own .catalog table | loc.2 = .physicalRouter ∨ loc.2 = .device}
  | shadowEntity => {loc ∈ own .telemetry table | loc.2 = .physicalRouter ∨ loc.2 = .device}

/-- What `apply` looks at for an entity of `table`. -/
def CrossClass.reads (c : CrossClass) (params : Params) (table : String) : Set Loc :=
  match c with
  | structuralConflict => {(.telemetry, .interfaceLink), (.telemetry, .physicalInterface)}
  | c => c.writes params table

theorem SingleClass.writes_subset_reads (c : SingleClass) (side : Side) (table : String) :
    c.writes side table ⊆ c.reads side table := by
  cases c with
  | endpointShift => exact Set.singleton_subset_iff.mpr (Set.mem_insert _ _)
  | _ => exact subset_refl _

theorem CrossClass.writes_subset_reads (c : CrossClass) (params : Params) (table : String) :
    c.writes params table ⊆ c.reads params table := by
  cases c with
  | structuralConflict => exact Set.singleton_subset_iff.mpr (Set.mem_insert _ _)
  | _ => exact subset_refl _

/-! ### Missing node -/

namespace MissingNode

variable {side : Side}

theorem footprint_strip {t : Table} (hR : (side, t) ∈ R) (hW : (side, t) ∈ W) (attr : String)
    (value : Value) : Footprint R W (strip side t attr value : Inject env _) :=
  footprint_alter hR hW _

theorem footprint_cascadeRouter
    (hR : ∀ t ∈ dependents "PhysicalRouter", (side, t) ∈ R)
    (hW : ∀ t ∈ dependents "PhysicalRouter", (side, t) ∈ W) (id : String) :
    Footprint R W (cascadeRouter side id : Inject env _) := by
  refine .bind (footprint_rowsAt (hR _ (by decide))) fun interfaces => .bind (.forM ?_) fun _ => ?_
  · intro i _
    refine .bind (footprint_remove (own_name_subset (t := .physicalInterface) (hR _ (by decide)))
      (own_name_subset (t := .physicalInterface) (hW _ (by decide))) i) fun _ => ?_
    exact .bind (footprint_strip (hR _ (by decide)) (hW _ (by decide)) _ _) fun _ =>
      footprint_strip (hR _ (by decide)) (hW _ (by decide)) _ _
  · refine .bind (footprint_rowsAt (hR _ (by decide))) fun vrfs => .bind (.forM ?_) fun _ => ?_
    · intro i _
      exact .bind (footprint_remove (own_name_subset (t := .vrf) (hR _ (by decide)))
        (own_name_subset (t := .vrf) (hW _ (by decide))) i) fun _ =>
          footprint_strip (hR _ (by decide)) (hW _ (by decide)) _ _
    · exact .bind (footprint_rowsAt (hR _ (by decide))) fun devices =>
        .bind (.liftExcept _) fun _ => footprint_setRows (hW _ (by decide)) _

theorem footprint_cascade {entity : EntityRef}
    (hR : ∀ t ∈ dependents entity.table, (side, t) ∈ R)
    (hW : ∀ t ∈ dependents entity.table, (side, t) ∈ W) :
    Footprint R W (cascade side entity : Inject env _) := by
  unfold cascade
  split
  · next h =>
    rw [h] at hR hW
    exact footprint_cascadeRouter hR hW _
  · split
    · next h =>
      rw [h] at hR hW
      exact .bind (footprint_strip (hR _ (by decide)) (hW _ (by decide)) _ _) fun _ =>
        .bind (footprint_strip (hR _ (by decide)) (hW _ (by decide)) _ _) fun _ =>
          footprint_alter (hR _ (by decide)) (hW _ (by decide)) _
    · split
      · next h =>
        rw [h] at hR hW
        exact footprint_strip (hR _ (by decide)) (hW _ (by decide)) _ _
      · exact .pure _

theorem footprint_apply (entity : EntityRef) (params : Params) :
    Footprint (SingleClass.missingNode.reads side entity.table)
      (SingleClass.missingNode.writes side entity.table)
      (apply side entity params : Inject env _) := by
  refine .bind (footprint_remove Set.subset_union_left Set.subset_union_left _) fun removed => ?_
  split
  · exact .pure _
  · exact .bind (footprint_cascade (fun t ht => .inr ⟨rfl, ht⟩) fun t ht => .inr ⟨rfl, ht⟩)
      fun _ => .pure _

end MissingNode

/-! ### The other classes of one projection -/

section Single

variable {side : Side}

theorem MissingEdge.footprint_apply (entity : EntityRef) (params : Params) :
    Footprint (own side entity.table) (own side entity.table)
      (apply side entity params : Inject env _) := by
  refine .liftExcept_bind fun t ht => ?_
  have hloc : (side, t) ∈ own side entity.table := mem_own (tableNamed_eq_ok.mp ht)
  refine .bind (footprint_rowsAt hloc) fun rows => .liftExcept_bind fun found hfound => ?_
  cases found with
  | none => exact .pure _
  | some ref =>
    have href : ref.loc = (side, t) := loc_of_mem_refs (findEdge_eq_some hfound).1
    exact footprint_removeRow (href ▸ hloc) (href ▸ hloc)

theorem MissingAttribute.footprint_apply (entity : EntityRef) (params : Params) :
    Footprint (own side entity.table) (own side entity.table)
      (apply side entity params : Inject env _) := by
  refine .bind (.liftExcept _) fun attr => footprint_withColumn fun ref column href => ?_
  split
  · exact .pure _
  · exact footprint_writeAttribute href href

theorem AttributeDrift.footprint_apply (entity : EntityRef) (params : Params) :
    Footprint (own side entity.table) (own side entity.table)
      (apply side entity params : Inject env _) := by
  refine .bind (.liftExcept _) fun attr => footprint_withColumn fun ref column href => ?_
  split
  · exact .pure _
  · refine .bind (.liftExcept _) fun table => ?_
    split
    · exact .throw _
    · refine .bind (.liftExcept _) fun values => ?_
      dsimp only
      split
      · exact .pure _
      · exact .bind (footprint_choice _) fun value => footprint_writeAttribute href href

theorem EndpointShift.footprint_apply (entity : EntityRef) (params : Params) :
    Footprint (SingleClass.endpointShift.reads side entity.table)
      (SingleClass.endpointShift.writes side entity.table)
      (apply side entity params : Inject env _) := by
  refine .bind (footprint_rowsAt (.inl rfl)) fun rows => ?_
  split
  · exact .pure _
  · next ref href =>
    have hloc : ref.loc = (side, .interfaceLink) :=
      loc_of_mem_refs (List.mem_of_find?_eq_some href)
    refine .bind (footprint_rowsAt (.inr rfl)) fun interfaces => .bind (.liftExcept _) fun ids => ?_
    split
    · exact .pure _
    · exact .bind (footprint_choice _) fun id => footprint_writeAttribute (.inl hloc) hloc

theorem AsymmetricLink.footprint_apply (entity : EntityRef) (params : Params) :
    Footprint {(side, .interfaceLink)} {(side, .interfaceLink)}
      (apply side entity params : Inject env _) := by
  refine .bind (footprint_rowsAt rfl) fun rows => ?_
  split
  · exact .pure _
  · refine footprint_choice_bind fun victim hvictim => ?_
    have hloc : victim.loc = (side, .interfaceLink) :=
      loc_of_mem_refs (List.mem_of_mem_filter hvictim)
    exact footprint_removeRow hloc hloc

theorem OrphanEntity.footprint_apply (entity : EntityRef) (params : Params) :
    Footprint (own side entity.table) (own side entity.table)
      (apply side entity params : Inject env _) := by
  refine footprint_find_bind subset_rfl (.pure _) fun ref href => ?_
  dsimp only
  split
  · exact .bind (footprint_randint _ _) fun n => footprint_writeAttribute href href
  · split
    · exact .bind (footprint_randint _ _) fun n => footprint_writeAttribute href href
    · exact .throw _

theorem SplitIdentity.footprint_apply (entity : EntityRef) (params : Params) :
    Footprint (own .catalog entity.table) (own .catalog entity.table)
      (apply .catalog entity params : Inject env _) := by
  refine footprint_find_bind subset_rfl (.pure _) fun ref href => .bind (.liftExcept _) fun _ => ?_
  split
  · exact footprint_addRow href href
  · split
    · exact footprint_addRow href href
    · exact .throw _

theorem MergedIdentity.footprint_apply (entity : EntityRef) (params : Params) :
    Footprint (own .catalog entity.table) (own .catalog entity.table)
      (apply .catalog entity params : Inject env _) := by
  refine footprint_find_bind subset_rfl (.pure _) fun target htarget =>
    .bind (footprint_rowsAt htarget) fun rows => ?_
  split
  · exact .pure _
  · refine .bind (footprint_choice _) fun victim => ?_
    split
    · exact .bind (footprint_alter htarget htarget _) fun _ =>
        .bind (footprint_alter htarget htarget _) fun _ => .pure _
    · exact .throw _

theorem MalformedId.footprint_apply (entity : EntityRef) (params : Params) :
    Footprint (own side entity.table) (own side entity.table)
      (apply side entity params : Inject env _) :=
  footprint_find_bind subset_rfl (.pure _) fun _ href => footprint_writeAttribute href href

theorem OutOfRange.footprint_apply (entity : EntityRef) (params : Params) :
    Footprint (own side entity.table) (own side entity.table)
      (apply side entity params : Inject env _) :=
  footprint_withColumn fun _ _ href => footprint_writeAttribute href href

theorem InvalidEnum.footprint_apply (entity : EntityRef) (params : Params) :
    Footprint (own side entity.table) (own side entity.table)
      (apply side entity params : Inject env _) :=
  footprint_withColumn fun _ _ href => footprint_writeAttribute href href

theorem SingleClass.footprint_apply (c : SingleClass) (entity : EntityRef) (params : Params) :
    Footprint (c.reads side entity.table) (c.writes side entity.table)
      (c.apply side entity params : Inject env _) := by
  cases c with
  | missingNode => exact MissingNode.footprint_apply entity params
  | missingEdge => exact MissingEdge.footprint_apply entity params
  | missingAttribute => exact MissingAttribute.footprint_apply entity params
  | attributeDrift => exact AttributeDrift.footprint_apply entity params
  | endpointShift => exact EndpointShift.footprint_apply entity params
  | asymmetricLink => exact AsymmetricLink.footprint_apply entity params
  | orphanEntity => exact OrphanEntity.footprint_apply entity params
  | splitIdentity =>
    cases side with
    | catalog => exact SplitIdentity.footprint_apply entity params
    | telemetry => exact .pure _
  | mergedIdentity =>
    cases side with
    | catalog => exact MergedIdentity.footprint_apply entity params
    | telemetry => exact .pure _
  | malformedId => exact MalformedId.footprint_apply entity params
  | outOfRange => exact OutOfRange.footprint_apply entity params
  | invalidEnum => exact InvalidEnum.footprint_apply entity params

end Single

/-! ### The classes of both projections -/

theorem AttributeConflict.footprint_apply (entity : EntityRef) (params : Params) :
    Footprint (own .catalog entity.table ∪ own .telemetry entity.table)
      (own .catalog entity.table ∪ own .telemetry entity.table)
      (apply entity params : Inject env _) := by
  refine .bind (.liftExcept _) fun attr => footprint_find_bind Set.subset_union_left ?_ ?_
  · exact .bind (footprint_find Set.subset_union_right _) fun _ => .pure _
  · intro cat hcat
    refine footprint_find_bind Set.subset_union_right (.pure _) fun tel htel => ?_
    refine .bind (.liftExcept _) fun column => ?_
    split
    · exact .pure _
    · split
      · exact .pure _
      · refine .bind (.liftExcept _) fun drift => .bind (.liftExcept _) fun values =>
          .bind ?_ fun pair => ?_
        · unfold AttributeConflict.sample2
          split
          · exact .pure _
          · refine .bind (footprint_sample _ _) fun l => ?_
            split
            · exact .pure _
            · exact .throw _
        · split
          · exact .pure _
          · exact .bind (footprint_alter (.inl hcat) (.inl hcat) _) fun _ =>
              .bind (footprint_alter (.inr htel) (.inr htel) _) fun _ => .pure _

theorem StructuralConflict.footprint_apply (entity : EntityRef) (params : Params) :
    Footprint (CrossClass.structuralConflict.reads params entity.table)
      (CrossClass.structuralConflict.writes params entity.table)
      (apply entity params : Inject env _) := by
  refine .bind (footprint_rowsAt (.inl rfl)) fun rows => ?_
  dsimp only
  split
  · exact .pure _
  · refine footprint_choice_bind fun victim hvictim => ?_
    have hloc : victim.loc = (.telemetry, .interfaceLink) :=
      loc_of_mem_refs (List.mem_of_mem_filter hvictim)
    refine .bind (footprint_rowsAt (.inr rfl)) fun interfaces => .bind (.liftExcept _) fun ids => ?_
    split
    · exact .pure _
    · exact .bind (footprint_choice _) fun id => footprint_writeAttribute (.inl hloc) hloc

theorem ExistenceConflict.footprint_apply (entity : EntityRef) (params : Params) :
    Footprint (own (side params) entity.table) (own (side params) entity.table)
      (apply entity params : Inject env _) := by
  refine .bind (footprint_remove subset_rfl subset_rfl _) fun removed => ?_
  split
  · exact .pure _
  · exact .pure _

theorem footprint_fabricate {side : Side} {sideName letter table : String} :
    Footprint {loc ∈ own side table | loc.2 = .physicalRouter ∨ loc.2 = .device}
      {loc ∈ own side table | loc.2 = .physicalRouter ∨ loc.2 = .device}
      (fabricate side sideName letter table : Inject env _) := by
  refine .bind (footprint_randint _ _) fun n => ?_
  dsimp only
  split
  · next h =>
    have hmem : ((side, .physicalRouter) : Loc) ∈
        {loc ∈ own side table | loc.2 = .physicalRouter ∨ loc.2 = .device} :=
      ⟨⟨rfl, h.symm⟩, .inl rfl⟩
    exact footprint_addRow hmem hmem
  · split
    · next h =>
      have hmem : ((side, .device) : Loc) ∈
          {loc ∈ own side table | loc.2 = .physicalRouter ∨ loc.2 = .device} :=
        ⟨⟨rfl, h.symm⟩, .inr rfl⟩
      exact footprint_addRow hmem hmem
    · exact .pure _

theorem CrossClass.footprint_apply (c : CrossClass) (entity : EntityRef) (params : Params) :
    Footprint (c.reads params entity.table) (c.writes params entity.table)
      (c.apply entity params : Inject env _) := by
  cases c with
  | attributeConflict => exact AttributeConflict.footprint_apply entity params
  | structuralConflict => exact StructuralConflict.footprint_apply entity params
  | existenceConflict => exact ExistenceConflict.footprint_apply entity params
  | phantomEntity => exact footprint_fabricate
  | shadowEntity => exact footprint_fabricate

namespace DefectClass

/-- What a class looks at in the entities of `table`. -/
def applyReads (c : DefectClass) (target : TargetProjection) (params : Params) (table : String) :
    Set Loc :=
  match c with
  | single c => c.reads target.side table
  | cross c => c.reads params table

/-- What a class changes in the entities of `table`. -/
def applyWrites (c : DefectClass) (target : TargetProjection) (params : Params) (table : String) :
    Set Loc :=
  match c with
  | single c => c.writes target.side table
  | cross c => c.writes params table

theorem applyWrites_subset (c : DefectClass) (target : TargetProjection) (params : Params)
    (table : String) : c.applyWrites target params table ⊆ c.applyReads target params table := by
  cases c with
  | single c => exact c.writes_subset_reads _ _
  | cross c => exact c.writes_subset_reads _ _

theorem footprint_apply (c : DefectClass) (target : TargetProjection) (entity : EntityRef)
    (params : Params) :
    Footprint (c.applyReads target params entity.table) (c.applyWrites target params entity.table)
      (c.apply target entity params : Inject env _) := by
  cases c with
  | single c => exact c.footprint_apply entity params
  | cross c => exact c.footprint_apply entity params

end DefectClass

end GnnSandbox.Bench
