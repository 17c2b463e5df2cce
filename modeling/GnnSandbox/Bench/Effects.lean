import GnnSandbox.Bench.Footprints

/-!
# What each class does

For every class, what a call that returns has done: nothing, or one change of which the
mutation tells the rows. Everything that is said later about runs follows from these.
-/

namespace GnnSandbox.Bench

open Raise

variable {env : Env} {s s' : env.rng.State × Views} {m : Mutation} {entity : EntityRef}
  {params : Params} {side : Side}

/-- A call that returns at once changes nothing. -/
theorem runs_noop (h : Runs (pure .noop : Inject env Mutation) s m s') :
    m = .noop ∧ s'.2 = s.2 := by
  obtain ⟨hm, hs⟩ := runs_pure.mp h
  exact ⟨hm, congrArg Prod.snd hs⟩

/-! ## Completeness -/

/-- The row with the entity's id goes, then its dependents. -/
theorem MissingNode.effect (params : Params)
    (h : Runs (apply side entity params : Inject env _) s m s') :
    m = .noop ∧ s'.2 = s.2 ∨
      ∃ ref, ref.loc.1 = side ∧ ref.loc.2.name = entity.table ∧ ref.In s.2 ∧
        ref.row.get "id" = .str entity.id ∧ m = .remove "delete_row" ref ∧
        Runs (cascade side entity : Inject env _) (s.1, s.2.erase ref) () s' := by
  unfold apply at h
  obtain ⟨removed, u, hremove, hrest⟩ := runs_bind.mp h
  obtain ⟨t, ht, ⟨-, hnone, hu⟩ | ⟨ref, hfind, hsome, hu⟩⟩ := Runs.remove hremove
  · rw [hnone, hu] at hrest
    exact .inl (runs_noop hrest)
  · rw [hsome, hu] at hrest
    obtain ⟨_, u, hcascade, hend⟩ := runs_bind.mp hrest
    obtain ⟨rfl, rfl⟩ := runs_pure.mp hend
    obtain ⟨hloc, hin, hid⟩ := findRow_eq_some hfind
    refine .inr ⟨ref, ?_, ?_, hin, Value.eq_str.mp hid, rfl, hcascade⟩
    · rw [hloc]
    · rw [hloc]
      exact Table.name_of_ofName ht

/-- The first edge with the natural key goes. -/
theorem MissingEdge.effect (params : Params)
    (h : Runs (apply side entity params : Inject env _) s m s') :
    m = .noop ∧ s'.2 = s.2 ∨
      ∃ ref, ref.loc.1 = side ∧ ref.loc.2.name = entity.table ∧ ref.In s.2 ∧
        edgeId env ref.loc.2 ref.row = .ok entity.id ∧ m = .remove "delete_row" ref ∧
        s' = (s.1, s.2.erase ref) := by
  obtain ⟨t, ht, h⟩ := runs_liftExcept_bind.mp h
  rw [runs_rowsAt_bind] at h
  obtain ⟨found, hfound, h⟩ := runs_liftExcept_bind.mp h
  cases found with
  | none => exact .inl (runs_noop h)
  | some ref =>
    obtain ⟨hm, hs⟩ := runs_removeRow.mp h
    obtain ⟨hmem, hkey⟩ := findEdge_eq_some hfound
    obtain ⟨hloc, hin⟩ := mem_refs.mp hmem
    refine .inr ⟨ref, ?_, ?_, hin, ?_, hm, hs⟩
    · rw [hloc]
    · rw [hloc]
      exact Table.name_of_ofName (tableNamed_eq_ok.mp ht)
    · rw [hloc]
      exact hkey

/-- The attribute, when it has a value, is set to `None`. -/
theorem MissingAttribute.effect (h : Runs (apply side entity params : Inject env _) s m s') :
    Writes s.2 side entity "null_attribute" (fun ref column value =>
      params.get "attribute" .none = .str column ∧ ref.row.get column ≠ .none ∧ value = .none)
      m s'.2 := by
  obtain ⟨attr, hattr, hrest⟩ := runs_liftExcept_bind.mp h
  obtain ⟨rfl, rfl⟩ | ⟨ref, column, href, rfl, hmem, hrun⟩ := Runs.withColumn hrest
  · exact .inl ⟨rfl, rfl⟩
  · split at hrun
    · obtain ⟨rfl, rfl⟩ := runs_pure.mp hrun
      exact .inl ⟨rfl, rfl⟩
    · next hvalue =>
      obtain ⟨rfl, rfl⟩ := runs_writeAttribute.mp hrun
      exact .inr ⟨ref, column, .none, href, hmem, ⟨requiredAttribute_eq_ok hattr, hvalue, rfl⟩,
        rfl, rfl⟩

/-! ## Accuracy -/

/-- The value of the drift table that is drawn for a cell. -/
def AttributeDrift.Drawn (env : Env) (params : Params) (ref : Ref) (column : String)
    (g : env.rng.State) (value : Value) : Prop :=
  ∃ table values, driftTable params (.str column) = .ok (some table) ∧ iterate table = .ok values ∧
    let choices := values.filter fun v => !v.eq (ref.row.get column)
    choices[(env.rng.choice choices.length g).1]? = some value

/-- It is another value. -/
theorem AttributeDrift.Drawn.eq_false {ref : Ref} {column : String} {g : env.rng.State}
    {value : Value} (h : Drawn env params ref column g value) :
    value.eq (ref.row.get column) = false := by
  obtain ⟨_, values, -, -, hvalue⟩ := h
  simpa using (List.mem_filter.mp (List.mem_of_getElem? hvalue)).2

/-- The attribute, when it has a value, is set to another value of the drift table. -/
theorem AttributeDrift.effect (h : Runs (apply side entity params : Inject env _) s m s') :
    Writes s.2 side entity "set_attribute" (fun ref column value =>
      params.get "attribute" .none = .str column ∧ ref.row.get column ≠ .none ∧
        Drawn env params ref column s.1 value) m s'.2 := by
  obtain ⟨attr, hattr, hrest⟩ := runs_liftExcept_bind.mp h
  obtain ⟨rfl, rfl⟩ | ⟨ref, column, href, rfl, hmem, hrun⟩ := Runs.withColumn hrest
  · exact .inl ⟨rfl, rfl⟩
  · split at hrun
    · obtain ⟨rfl, rfl⟩ := runs_pure.mp hrun
      exact .inl ⟨rfl, rfl⟩
    · next hvalue =>
      obtain ⟨table, htable, hrun⟩ := runs_liftExcept_bind.mp hrun
      split at hrun
      · exact (runs_throw.mp hrun).elim
      · next drift =>
        obtain ⟨values, hvalues, hrun⟩ := runs_liftExcept_bind.mp hrun
        dsimp only at hrun
        split at hrun
        · obtain ⟨rfl, rfl⟩ := runs_pure.mp hrun
          exact .inl ⟨rfl, rfl⟩
        · obtain ⟨value, u, hchoice, hwrite⟩ := runs_bind.mp hrun
          have hviews := (Runs.choice hchoice).2
          obtain ⟨rfl, rfl⟩ := runs_writeAttribute.mp hwrite
          refine .inr ⟨ref, column, value, href, hmem,
            ⟨requiredAttribute_eq_ok hattr, hvalue, ?_⟩, rfl, ?_⟩
          · exact ⟨drift, values, htable, hvalues, Runs.choice_getElem? hchoice⟩
          · exact congrArg (fun v => Views.assign v ref (ref.row.set column value)) hviews

/-- What is left after excluding is one of the ids and equal to none that is taken. -/
theorem mem_of_excluding {taken ids rest : List Value} (h : excluding taken ids = .ok rest)
    {id : Value} (hid : id ∈ rest) : id ∈ ids ∧ ∀ a ∈ taken, a.eq id = false := by
  unfold excluding at h
  split at h
  · cases h
    obtain ⟨hmem, hnot⟩ := List.mem_filter.mp hid
    simp only [Bool.not_eq_true', List.any_eq_false] at hnot
    exact ⟨hmem, fun a ha => Bool.eq_false_iff.mpr (hnot a ha)⟩
  · cases h

/-- An end of the edge is moved to an interface that is not on the link. -/
theorem EndpointShift.effect (params : Params)
    (h : Runs (apply side entity params : Inject env _) s m s') :
    m = .noop ∧ s'.2 = s.2 ∨
      ∃ ref value, target env side (s.2 (side, .interfaceLink)) entity.id = some ref ∧
        (∃ row ∈ s.2 (side, .physicalInterface), row.get "id" = value) ∧
        (∀ row ∈ s.2 (side, .interfaceLink), (row.get "link_id").eq (ref.row.get "link_id") = true →
          (row.get "interface_id").eq value = false) ∧
        m = .write "set_attribute" ref "interface_id" value ∧
        s'.2 = s.2.assign ref (ref.row.set "interface_id" value) := by
  unfold apply at h
  rw [runs_rowsAt_bind] at h
  split at h
  · exact .inl (runs_noop h)
  · next ref href =>
    dsimp only at h
    rw [runs_rowsAt_bind] at h
    obtain ⟨candidates, hcandidates, hrest⟩ := runs_liftExcept_bind.mp h
    split at hrest
    · exact .inl (runs_noop hrest)
    · obtain ⟨value, u, hchoice, hwrite⟩ := runs_bind.mp hrest
      obtain ⟨hmem, hviews⟩ := Runs.choice hchoice
      obtain ⟨rfl, rfl⟩ := runs_writeAttribute.mp hwrite
      obtain ⟨hid, htaken⟩ := mem_of_excluding hcandidates hmem
      refine .inr ⟨ref, value, href, List.mem_map.mp hid, fun row hrow hlink => ?_, rfl, ?_⟩
      · exact htaken _ (List.mem_map.mpr ⟨row, List.mem_filter.mpr ⟨hrow, hlink⟩, rfl⟩)
      · exact congrArg (fun v => Views.assign v ref (ref.row.set "interface_id" value)) hviews

/-! ## Consistency -/

/-- One of the edges of the link goes. -/
theorem AsymmetricLink.effect (params : Params)
    (h : Runs (apply side entity params : Inject env _) s m s') :
    m = .noop ∧ s'.2 = s.2 ∨
      ∃ ref, ref ∈ endpoints side (s.2 (side, .interfaceLink)) (linkId entity.id) ∧
        m = .remove "delete_row" ref ∧ s'.2 = s.2.erase ref := by
  unfold apply at h
  rw [runs_rowsAt_bind] at h
  split at h
  · exact .inl (runs_noop h)
  · obtain ⟨ref, u, hchoice, hremove⟩ := runs_bind.mp h
    obtain ⟨hmem, hviews⟩ := Runs.choice hchoice
    obtain ⟨rfl, rfl⟩ := runs_removeRow.mp hremove
    exact .inr ⟨ref, hmem, rfl, congrArg (fun v => Views.erase v ref) hviews⟩

/-- The cell of the reference that an orphan loses, and the reference to a ghost. -/
def OrphanEntity.Ghost (env : Env) (entity : EntityRef) (g : env.rng.State) (column : String)
    (value : Value) : Prop :=
  entity.table = "PhysicalInterface" ∧ column = "router_id" ∧
      value = .str (ghost (env.rng.randint 1000 9999 g).1) ∨
    entity.table = "Device" ∧ column = "interface_id" ∧
      value = .str (ghost (env.rng.randint 1000 9999 g).1 ++ ":interface:eth0")

/-- The reference of the row is set to a ghost. -/
theorem OrphanEntity.effect (params : Params) (hv : Shaped s.2)
    (h : Runs (apply side entity params : Inject env _) s m s') :
    Writes s.2 side entity "set_attribute" (fun _ column value => Ghost env entity s.1 column value)
      m s'.2 := by
  have hfound := Runs.find_bind h
  split at hfound
  · obtain ⟨rfl, rfl⟩ := runs_pure.mp hfound
    exact .inl ⟨rfl, rfl⟩
  · next ref href =>
    obtain ⟨-, htable, -, hin, -⟩ := findIn_eq_some href
    have hcolumns : ∀ {t : Table}, entity.table = t.name → ref.row.columns = t.columns := by
      intro t ht
      rw [hv.columns hin, Table.name_injective (htable.trans ht)]
    split at hfound
    · next hinterface =>
      obtain ⟨n, u, hdraw, hwrite⟩ := runs_bind.mp hfound
      obtain ⟨rfl, rfl⟩ := runs_draw.mp hdraw
      obtain ⟨rfl, rfl⟩ := runs_writeAttribute.mp hwrite
      refine .inr ⟨ref, "router_id", _, href, ?_, .inl ⟨hinterface, rfl, rfl⟩, rfl, rfl⟩
      rw [hcolumns (t := .physicalInterface) hinterface]
      decide
    · split at hfound
      · next hdevice =>
        obtain ⟨n, u, hdraw, hwrite⟩ := runs_bind.mp hfound
        obtain ⟨rfl, rfl⟩ := runs_draw.mp hdraw
        obtain ⟨rfl, rfl⟩ := runs_writeAttribute.mp hwrite
        refine .inr ⟨ref, "interface_id", _, href, ?_, .inr ⟨hdevice, rfl, rfl⟩, rfl, rfl⟩
        rw [hcolumns (t := .device) hdevice]
        decide
      · exact (runs_throw.mp hfound).elim

/-! ## Uniqueness -/

/-- The prefix of the ids of a table that can be cloned. -/
def SplitIdentity.Prefix (entity : EntityRef) (kind : String) : Prop :=
  entity.table = "PhysicalRouter" ∧ kind = "router:" ∨ entity.table = "Device" ∧ kind = "device:"

/-- A renamed clone of the row is added to the catalog. -/
theorem SplitIdentity.effect (params : Params)
    (h : Runs (apply side entity params : Inject env _) s m s') :
    m = .noop ∧ s'.2 = s.2 ∨
      ∃ ref original kind, side = .catalog ∧ findIn s.2 side entity = some ref ∧
        originalName ref.row = .ok original ∧ Prefix entity kind ∧
        m = .add "duplicate_row" (clone kind (cloneName env original) ref.row) ∧
        s' = (s.1, s.2.append ref.loc (clone kind (cloneName env original) ref.row)) := by
  unfold apply at h
  split at h
  · exact .inl (runs_noop h)
  · next hside =>
    have hside := not_not.mp hside
    have hfound := Runs.find_bind h
    split at hfound
    · exact .inl (runs_noop hfound)
    · next ref href =>
      obtain ⟨original, horiginal, hrest⟩ := runs_liftExcept_bind.mp hfound
      split at hrest
      · next htable =>
        obtain ⟨hm, hs⟩ := runs_addRow.mp hrest
        exact .inr ⟨ref, original, _, hside, href, horiginal, .inl ⟨htable, rfl⟩, hm, hs⟩
      · split at hrest
        · next htable =>
          obtain ⟨hm, hs⟩ := runs_addRow.mp hrest
          exact .inr ⟨ref, original, _, hside, href, horiginal, .inr ⟨htable, rfl⟩, hm, hs⟩
        · exact (runs_throw.mp hrest).elim

/-- The mutation that merges two rows. -/
def MergedIdentity.mutation (env : Env) (target victim : Ref) : Mutation :=
  ⟨"merge_rows", some (.rows [("target", target.row), ("victim", victim.row)]),
    some (.row (target.row.set "name" (mergedName env target.row victim.row)))⟩

/-- The row of the entity takes the name of another, which goes with all that share its id. -/
theorem MergedIdentity.effect (params : Params)
    (h : Runs (apply side entity params : Inject env _) s m s') :
    m = .noop ∧ s'.2 = s.2 ∨
      ∃ target victim, side = .catalog ∧ findIn s.2 side entity = some target ∧
        victim ∈ victims entity target (s.2 target.loc) ∧ "name" ∈ target.row.columns ∧
        m = mutation env target victim ∧
        s'.2 = (s.2.assign target
          (target.row.set "name" (mergedName env target.row victim.row))).keep target.loc
            fun row => !(row.get "id").eq (victim.row.get "id") := by
  unfold apply at h
  split at h
  · exact .inl (runs_noop h)
  · next hside =>
    have hside := not_not.mp hside
    have hfound := Runs.find_bind h
    split at hfound
    · exact .inl (runs_noop hfound)
    · next target htarget =>
      rw [runs_rowsAt_bind] at hfound
      split at hfound
      · exact .inl (runs_noop hfound)
      · obtain ⟨victim, u, hchoice, hrest⟩ := runs_bind.mp hfound
        obtain ⟨hmem, hviews⟩ := Runs.choice hchoice
        split at hrest
        · next hname =>
          dsimp only at hrest
          rw [runs_assign_bind, runs_keepRows_bind] at hrest
          obtain ⟨rfl, rfl⟩ := runs_pure.mp hrest
          refine .inr ⟨target, victim, hside, htarget, hmem, hname, rfl, ?_⟩
          dsimp only
          rw [hviews]
        · exact (runs_throw.mp hrest).elim

/-! ## Validity -/

/-- The id is set to the malformed one. -/
theorem MalformedId.effect (params : Params) (hv : Shaped s.2)
    (h : Runs (apply side entity params : Inject env _) s m s') :
    Writes s.2 side entity "rename_id"
      (fun _ column value => column = "id" ∧ value = .str (badId entity.id)) m s'.2 := by
  have hfound := Runs.find_bind h
  split at hfound
  · obtain ⟨rfl, rfl⟩ := runs_pure.mp hfound
    exact .inl ⟨rfl, rfl⟩
  · next ref href =>
    obtain ⟨-, -, hedge, hin, -⟩ := findIn_eq_some href
    obtain ⟨rfl, rfl⟩ := runs_writeAttribute.mp hfound
    refine .inr ⟨ref, "id", _, href, ?_, ⟨rfl, rfl⟩, rfl, rfl⟩
    rw [hv.columns hin]
    exact Table.id_mem_columns hedge

/-- The attribute is set to the value out of range. -/
theorem OutOfRange.effect (h : Runs (apply side entity params : Inject env _) s m s') :
    Writes s.2 side entity "set_attribute"
      (fun _ column v => attr entity params = .str column ∧ v = value column params) m s'.2 := by
  obtain ⟨rfl, rfl⟩ | ⟨ref, column, href, hattr, hmem, hrun⟩ := Runs.withColumn h
  · exact .inl ⟨rfl, rfl⟩
  · obtain ⟨rfl, rfl⟩ := runs_writeAttribute.mp hrun
    exact .inr ⟨ref, column, _, href, hmem, ⟨hattr, rfl⟩, rfl, rfl⟩

/-- The attribute is set to the value outside of its enumeration. -/
theorem InvalidEnum.effect (h : Runs (apply side entity params : Inject env _) s m s') :
    Writes s.2 side entity "set_attribute"
      (fun _ column v => attr entity params = .str column ∧ v = value column params) m s'.2 := by
  obtain ⟨rfl, rfl⟩ | ⟨ref, column, href, hattr, hmem, hrun⟩ := Runs.withColumn h
  · exact .inl ⟨rfl, rfl⟩
  · obtain ⟨rfl, rfl⟩ := runs_writeAttribute.mp hrun
    exact .inr ⟨ref, column, _, href, hmem, ⟨hattr, rfl⟩, rfl, rfl⟩

/-! ## Cross source -/

/-- A sample consists of the items that the generator points at. -/
theorem Runs.sample {α : Type} {items l : List α} {k : ℤ}
    (h : Runs (Bench.sample items k : Inject env _) s l s') :
    l = (env.rng.sample items.length k.toNat s.1).1.filterMap (fun i => items[i]?) ∧
      s'.2 = s.2 := by
  unfold Bench.sample at h
  split at h
  · obtain ⟨indices, t, hdraw, h⟩ := runs_bind.mp h
    obtain ⟨rfl, rfl⟩ := runs_draw.mp hdraw
    obtain ⟨rfl, rfl⟩ := runs_pure.mp h
    exact ⟨rfl, rfl⟩
  · exact (runs_throw.mp h).elim

theorem Runs.mem_of_sample {α : Type} {items l : List α} {k : ℤ}
    (h : Runs (Bench.sample items k : Inject env _) s l s') : ∀ a ∈ l, a ∈ items := by
  intro a ha
  rw [(Runs.sample h).1] at ha
  obtain ⟨i, -, hi⟩ := List.mem_filterMap.mp ha
  exact List.mem_of_getElem? hi

/-- Two values are drawn from the choices, or none when there are too few. -/
theorem AttributeConflict.runs_sample2 {choices : List Value} {pair : Option (Value × Value)}
    (h : Runs (sample2 choices : Inject env _) s pair s') :
    s'.2 = s.2 ∧ ∀ a b, pair = some (a, b) →
      (env.rng.sample choices.length 2 s.1).1.filterMap (fun i => choices[i]?) = [a, b] := by
  unfold sample2 at h
  split at h
  · obtain ⟨rfl, rfl⟩ := runs_pure.mp h
    exact ⟨rfl, nofun⟩
  · obtain ⟨l, u, hsample, hrest⟩ := runs_bind.mp h
    obtain ⟨hl, hviews⟩ := Runs.sample hsample
    split at hrest
    · next a b =>
      obtain ⟨rfl, rfl⟩ := runs_pure.mp hrest
      refine ⟨hviews, fun a' b' heq => ?_⟩
      cases heq
      exact hl.symm
    · exact (runs_throw.mp hrest).elim

/-- The values of the drift table that are drawn for the cells of both sides. -/
def AttributeConflict.Drawn (env : Env) (params : Params) (cat : Ref) (column : String)
    (g : env.rng.State) (catNew telNew : Value) : Prop :=
  ∃ drift values, driftTable params (.str column) = .ok drift ∧
    iterate (drift.getD (.list [])) = .ok values ∧
    let choices := values.filter fun v => !v.eq (cat.row.get column)
    (env.rng.sample choices.length 2 g).1.filterMap (fun i => choices[i]?) = [catNew, telNew]

/-- They are other values than that of the catalog. -/
theorem AttributeConflict.Drawn.eq_false {cat : Ref} {column : String} {g : env.rng.State}
    {catNew telNew : Value} (h : Drawn env params cat column g catNew telNew) :
    catNew.eq (cat.row.get column) = false := by
  obtain ⟨_, values, -, -, hdrawn⟩ := h
  have hmem : catNew ∈ [catNew, telNew] := List.mem_cons_self ..
  rw [← hdrawn] at hmem
  obtain ⟨i, -, hi⟩ := List.mem_filterMap.mp hmem
  simpa using (List.mem_filter.mp (List.mem_of_getElem? hi)).2

/-- The attribute is set on both sides, to values that differ from that of the catalog. -/
theorem AttributeConflict.effect (h : Runs (apply entity params : Inject env _) s m s') :
    m = .noop ∧ s'.2 = s.2 ∨
      ∃ cat tel column catNew telNew, findIn s.2 .catalog entity = some cat ∧
        findIn s.2 .telemetry entity = some tel ∧ column ∈ cat.row.columns ∧
        params.get "attribute" .none = .str column ∧ cat.row.get column ≠ .none ∧
        Drawn env params cat column s.1 catNew telNew ∧
        m = mutation cat tel column catNew telNew ∧
        s'.2 = (s.2.assign cat (cat.row.set column catNew)).assign tel
          (tel.row.set column telNew) := by
  obtain ⟨attr, hattr, hrest⟩ := runs_liftExcept_bind.mp h
  have hcat := Runs.find_bind hrest
  have htel := Runs.find_bind hcat
  split at htel
  · next cat tel hfindCat hfindTel =>
    obtain ⟨named, hnamed, hrest⟩ := runs_liftExcept_bind.mp htel
    cases named with
    | none => exact .inl (runs_noop hrest)
    | some column =>
      obtain ⟨rfl, hmem⟩ := columnOf_eq_some.mp hnamed
      dsimp only at hrest
      split at hrest
      · exact .inl (runs_noop hrest)
      · next hvalue =>
        obtain ⟨drift, hdrift, hrest⟩ := runs_liftExcept_bind.mp hrest
        obtain ⟨values, hvalues, hrest⟩ := runs_liftExcept_bind.mp hrest
        obtain ⟨pair, u, hsample, hrest⟩ := runs_bind.mp hrest
        obtain ⟨hviews, hpair⟩ := runs_sample2 hsample
        cases pair with
        | none =>
          obtain ⟨hm, hs⟩ := runs_noop hrest
          exact .inl ⟨hm, hs.trans hviews⟩
        | some pair =>
          obtain ⟨catNew, telNew⟩ := pair
          dsimp only at hrest
          rw [runs_assign_bind, runs_assign_bind] at hrest
          obtain ⟨rfl, rfl⟩ := runs_pure.mp hrest
          refine .inr ⟨cat, tel, column, catNew, telNew, hfindCat, hfindTel, hmem,
            requiredAttribute_eq_ok hattr, hvalue,
            ⟨drift, values, hdrift, hvalues, hpair catNew telNew rfl⟩, rfl, ?_⟩
          dsimp only
          rw [hviews]
  · exact .inl (runs_noop htel)

/-- In the telemetry, an end of the link is moved to an interface that is not on it. -/
theorem StructuralConflict.effect (params : Params)
    (h : Runs (apply entity params : Inject env _) s m s') :
    m = .noop ∧ s'.2 = s.2 ∨
      ∃ ref value, ref.loc = (.telemetry, .interfaceLink) ∧ ref.In s.2 ∧
        (ref.row.get "link_id").eq (.str entity.id) = true ∧
        (∃ row ∈ s.2 (.telemetry, .physicalInterface), row.get "id" = value) ∧
        (∀ row ∈ s.2 (.telemetry, .interfaceLink), (row.get "link_id").eq (.str entity.id) = true →
          (row.get "interface_id").eq value = false) ∧
        m = .write "endpoint_shift_telemetry" ref "interface_id" value ∧
        s'.2 = s.2.assign ref (ref.row.set "interface_id" value) := by
  unfold apply at h
  rw [runs_rowsAt_bind] at h
  dsimp only at h
  split at h
  · exact .inl (runs_noop h)
  · obtain ⟨ref, u, hvictim, hrest⟩ := runs_bind.mp h
    obtain ⟨href, hviews⟩ := Runs.choice hvictim
    rw [runs_rowsAt_bind] at hrest
    obtain ⟨candidates, hcandidates, hrest⟩ := runs_liftExcept_bind.mp hrest
    split at hrest
    · obtain ⟨hm, hs⟩ := runs_noop hrest
      exact .inl ⟨hm, hs.trans hviews⟩
    · obtain ⟨value, w, hchoice, hwrite⟩ := runs_bind.mp hrest
      obtain ⟨hmem, hviews'⟩ := Runs.choice hchoice
      obtain ⟨rfl, rfl⟩ := runs_writeAttribute.mp hwrite
      obtain ⟨hid, htaken⟩ := mem_of_excluding hcandidates hmem
      obtain ⟨hrefs, hlink⟩ := List.mem_filter.mp href
      obtain ⟨hloc, hin⟩ := mem_refs.mp hrefs
      rw [hviews] at hid
      refine .inr ⟨ref, value, hloc, hin, hlink, List.mem_map.mp hid, fun row hrow hl => ?_, rfl, ?_⟩
      · obtain ⟨i, hi⟩ := List.mem_iff_getElem?.mp hrow
        have hmem : (⟨(.telemetry, .interfaceLink), i, row⟩ : Ref) ∈
            refs (.telemetry, .interfaceLink) (s.2 (.telemetry, .interfaceLink)) :=
          mem_refs.mpr ⟨rfl, hi⟩
        exact htaken _ (List.mem_map.mpr ⟨_, List.mem_filter.mpr ⟨hmem, hl⟩, rfl⟩)
      · dsimp only
        rw [hviews', hviews]

/-- The row goes from one side. -/
theorem ExistenceConflict.effect (h : Runs (apply entity params : Inject env _) s m s') :
    m = .noop ∧ s'.2 = s.2 ∨
      ∃ ref, ref.loc.1 = ExistenceConflict.side params ∧ ref.loc.2.name = entity.table ∧
        ref.In s.2 ∧ ref.row.get "id" = .str entity.id ∧
        m = .remove ("delete_from_" ++ (dropFrom params).format env) ref ∧
        s' = (s.1, s.2.erase ref) := by
  unfold apply at h
  obtain ⟨removed, u, hremove, hrest⟩ := runs_bind.mp h
  obtain ⟨t, ht, ⟨-, hnone, hu⟩ | ⟨ref, hfind, hsome, hu⟩⟩ := Runs.remove hremove
  · rw [hnone, hu] at hrest
    exact .inl (runs_noop hrest)
  · rw [hsome, hu] at hrest
    obtain ⟨hm, hs⟩ := runs_pure.mp hrest
    obtain ⟨hloc, hin, hid⟩ := findRow_eq_some hfind
    refine .inr ⟨ref, ?_, ?_, hin, Value.eq_str.mp hid, hm, hs⟩
    · rw [hloc]
    · rw [hloc]
      exact Table.name_of_ofName ht

/-- The row that is fabricated for a table. -/
def Fabricated (env : Env) (letter table : String) (g : env.rng.State) (t : Table) (row : Row) :
    Prop :=
  let tag := letter ++ toString (env.rng.randint 10000 99999 g).1
  table = "PhysicalRouter" ∧ t = .physicalRouter ∧ row = fabricate.router tag ∨
    table = "Device" ∧ t = .device ∧ row = fabricate.device tag

/-- A fabricated row is added. -/
theorem fabricate_effect {sideName letter table : String}
    (h : Runs (fabricate side sideName letter table : Inject env _) s m s') :
    m = .noop ∧ s'.2 = s.2 ∨
      ∃ t row, Fabricated env letter table s.1 t row ∧ m = .add ("insert_" ++ sideName) row ∧
        s'.2 = s.2.append (side, t) row := by
  unfold fabricate at h
  obtain ⟨n, u, hdraw, hrest⟩ := runs_bind.mp h
  obtain ⟨rfl, rfl⟩ := runs_draw.mp hdraw
  dsimp only at hrest
  split at hrest
  · next htable =>
    obtain ⟨rfl, rfl⟩ := runs_addRow.mp hrest
    exact .inr ⟨_, _, .inl ⟨htable, rfl, rfl⟩, rfl, rfl⟩
  · split at hrest
    · next htable =>
      obtain ⟨rfl, rfl⟩ := runs_addRow.mp hrest
      exact .inr ⟨_, _, .inr ⟨htable, rfl, rfl⟩, rfl, rfl⟩
    · obtain ⟨rfl, rfl⟩ := runs_pure.mp hrest
      exact .inl ⟨rfl, rfl⟩

end GnnSandbox.Bench
