import GnnSandbox.Bench.EdgeTable
import GnnSandbox.Bench.Targets

/-!
# Cross-source disagreement

A cross-source defect is to set the projections against each other. Each class looks at one
side, or draws positions of a list, so that its mutation can also leave them in agreement.
For each class this tells exactly when they disagree after the call.
-/

namespace GnnSandbox.Bench

open Raise

variable {env : Env}

/-! ## Agreement -/

/-- The cell of the row at the position of a reference. -/
def cellAt (v : Views) (ref : Ref) (column : String) : Value :=
  (((v ref.loc)[ref.index]?).getD []).get column

/-- The interfaces at which a link ends. -/
def linkEnds (v : Views) (side : Side) (link : String) : List Value :=
  (edgesOf (v (side, .interfaceLink)) (.str link)).map (Row.get · "interface_id")

/-- The same set of interfaces. -/
def SameEnds (as bs : List Value) : Prop :=
  (∀ a ∈ as, ∃ b ∈ bs, a.eq b = true) ∧ ∀ b ∈ bs, ∃ a ∈ as, a.eq b = true

instance (as bs : List Value) : Decidable (SameEnds as bs) :=
  inferInstanceAs (Decidable (_ ∧ _))

/-- Only the members count. -/
theorem SameEnds.congr {as bs bs' : List Value} (h : ∀ b, b ∈ bs ↔ b ∈ bs') :
    SameEnds as bs ↔ SameEnds as bs' := by
  unfold SameEnds
  simp only [h]

/-- The id is of no row of the twin and of no row of the projection. -/
def Unheard (twin : GoldenTwin) (v : Views) (side : Side) (id : Value) : Prop :=
  ∀ t, (∀ row ∈ twin.entities.rows t, (row.get "id").eq id = false) ∧
    ∀ row ∈ v (side, t), (row.get "id").eq id = false

/-- The projections disagree about the target after the call: about its attribute, about the ends
of the link, about its existence, or about the row that was fabricated. -/
def CrossClass.Disagrees (c : CrossClass) (twin : GoldenTwin) (entity : EntityRef) (params : Params)
    (m : Mutation) (v v' : Views) : Prop :=
  match c with
  | .attributeConflict =>
    ∀ cat tel column, findIn v .catalog entity = some cat → findIn v .telemetry entity = some tel →
      params.get "attribute" .none = .str column →
        (cellAt v' cat column).eq (cellAt v' tel column) = false
  | .structuralConflict =>
    ¬SameEnds (linkEnds v' .catalog entity.id) (linkEnds v' .telemetry entity.id)
  | .existenceConflict =>
    (findIn v' .catalog entity).isSome ≠ (findIn v' .telemetry entity).isSome
  | .phantomEntity =>
    ∀ row, m.after = some (.row row) → Unheard twin v' .telemetry (row.get "id")
  | .shadowEntity =>
    ∀ row, m.after = some (.row row) → Unheard twin v' .catalog (row.get "id")

/-! ## The conditions -/

/-- The other side. -/
def Side.other : Side → Side
  | .catalog => .telemetry
  | .telemetry => .catalog

namespace StructuralConflict

/-- The edges of the link in the telemetry. -/
def endpoints (v : Views) (link : String) : List Ref :=
  (refs (.telemetry, .interfaceLink) (v (.telemetry, .interfaceLink))).filter fun ref =>
    (ref.row.get "link_id").eq (.str link)

/-- The edge and the interface that the generator draws for it. -/
def Drawn (env : Env) (v : Views) (link : String) (g : env.rng.State) (victim : Ref)
    (value : Value) : Prop :=
  (endpoints v link)[(env.rng.choice (endpoints v link).length g).1]? = some victim ∧
    ∃ candidates, excluding ((endpoints v link).map fun ref => ref.row.get "interface_id")
        ((v (.telemetry, .physicalInterface)).map fun row => row.get "id") = .ok candidates ∧
      candidates[(env.rng.choice candidates.length
        (env.rng.choice (endpoints v link).length g).2).1]? = some value

/-- The ends of the other edges, and the new one. -/
def endsWith (v : Views) (link : String) (victim : Ref) (value : Value) : List Value :=
  value :: (((endpoints v link).filter fun ref => ref.index ≠ victim.index).map fun ref =>
    ref.row.get "interface_id")

end StructuralConflict

/-- No other row of the table has the id of the entity. -/
def FoundOnce (v : Views) (side : Side) (entity : EntityRef) : Prop :=
  ∀ ref, findIn v side entity = some ref → ∀ other : Ref, other.loc = ref.loc → other.In v →
    other.row.get "id" = .str entity.id → other.index = ref.index

/-- What the call needs to find: two values of the drift table that differ at the positions that
are drawn; a catalog that does not have the ends that are drawn; a row that is there on both
sides, and only once where it is dropped; a tag that is drawn for the first time. -/
def CrossClass.Conflicts (env : Env) (c : CrossClass) (twin : GoldenTwin) (entity : EntityRef)
    (params : Params) (g : env.rng.State) (v : Views) : Prop :=
  match c with
  | .attributeConflict =>
    ∀ cat column catNew telNew, findIn v .catalog entity = some cat →
      params.get "attribute" .none = .str column →
      AttributeConflict.Drawn env params cat column g catNew telNew → catNew.eq telNew = false
  | .structuralConflict =>
    ∀ victim value, StructuralConflict.Drawn env v entity.id g victim value →
      ¬SameEnds (linkEnds v .catalog entity.id)
        (StructuralConflict.endsWith v entity.id victim value)
  | .existenceConflict =>
    (findIn v (ExistenceConflict.side params).other entity).isSome = true ↔
      FoundOnce v (ExistenceConflict.side params) entity
  | .phantomEntity =>
    ∀ t row, Fabricated env "C" entity.table g t row → Unheard twin v .telemetry (row.get "id")
  | .shadowEntity =>
    ∀ t row, Fabricated env "T" entity.table g t row → Unheard twin v .catalog (row.get "id")

section Call

variable {s s' : env.rng.State × Views} {m : Mutation} {entity : EntityRef} {params : Params}
  {twin : GoldenTwin} {v : Views}

/-! ## Attributes -/

/-- The cell that was written. -/
theorem cellAt_assign_self {ref : Ref} (hin : ref.In v) {column : String}
    (hcolumn : column ∈ ref.row.columns) (value : Value) :
    cellAt (v.assign ref (ref.row.set column value)) ref column = value := by
  unfold cellAt
  obtain ⟨hi, -⟩ := List.getElem?_eq_some_iff.mp hin
  rw [Views.assign_self, List.getElem?_set_self hi, Option.getD_some, Row.get_set_self hcolumn]

/-- A cell of another table. -/
theorem cellAt_assign_of_ne {ref ref' : Ref} {row : Row} (hne : ref.loc ≠ ref'.loc)
    (column : String) : cellAt (v.assign ref' row) ref column = cellAt v ref column := by
  unfold cellAt
  rw [Views.assign_of_ne hne]

/-- The values are drawn from the generator alone. -/
theorem AttributeConflict.Drawn.unique {cat : Ref} {column : String} {g : env.rng.State}
    {a b a' b' : Value} (h : Drawn env params cat column g a b)
    (h' : Drawn env params cat column g a' b') : a = a' ∧ b = b' := by
  obtain ⟨drift, values, hdrift, hvalues, hpair⟩ := h
  obtain ⟨drift', values', hdrift', hvalues', hpair'⟩ := h'
  obtain rfl : drift = drift' := Except.ok.inj (hdrift.symm.trans hdrift')
  obtain rfl : values = values' := Except.ok.inj (hvalues.symm.trans hvalues')
  have heq : [a, b] = [a', b'] := hpair.symm.trans hpair'
  cases heq
  exact ⟨rfl, rfl⟩

theorem AttributeConflict.disagrees_iff (hshaped : Shaped s.2)
    (h : Runs (apply entity params : Inject env _) s m s') (hm : m.kind ≠ "noop") :
    CrossClass.Disagrees .attributeConflict twin entity params m s.2 s'.2 ↔
      CrossClass.Conflicts env .attributeConflict twin entity params s.1 s.2 := by
  obtain ⟨rfl, -⟩ | ⟨cat, tel, column, catNew, telNew, hcat, htel, hcolumn, hattr, -, hdrawn, -,
    hs⟩ := AttributeConflict.effect h
  · exact absurd rfl hm
  · obtain ⟨hin, hin', hne, hcolumns⟩ := hshaped.findIn_both hcat htel
    have hcolumn' : column ∈ tel.row.columns := hcolumns ▸ hcolumn
    have hcatCell : cellAt s'.2 cat column = catNew := by
      rw [hs, cellAt_assign_of_ne hne.symm, cellAt_assign_self hin hcolumn]
    have htelCell : cellAt s'.2 tel column = telNew := by
      rw [hs]
      exact cellAt_assign_self (hin'.assign hne) hcolumn' telNew
    constructor
    · intro hdis cat' column' catNew' telNew' hcat' hattr' hdrawn'
      obtain rfl : cat = cat' := Option.some.inj (hcat.symm.trans hcat')
      obtain rfl : column = column' := Value.str.inj (hattr.symm.trans hattr')
      obtain ⟨rfl, rfl⟩ := hdrawn.unique hdrawn'
      have hcells := hdis cat tel column hcat htel hattr
      rwa [hcatCell, htelCell] at hcells
    · intro hcond cat' tel' column' hcat' htel' hattr'
      obtain rfl : cat = cat' := Option.some.inj (hcat.symm.trans hcat')
      obtain rfl : tel = tel' := Option.some.inj (htel.symm.trans htel')
      obtain rfl : column = column' := Value.str.inj (hattr.symm.trans hattr')
      rw [hcatCell, htelCell]
      exact hcond cat column catNew telNew hcat hattr hdrawn

/-! ## Links -/

namespace StructuralConflict

/-- What is drawn is what is written. -/
theorem effect_drawn (h : Runs (apply entity params : Inject env _) s m s')
    (hm : m.kind ≠ "noop") :
    ∃ victim value, Drawn env s.2 entity.id s.1 victim value ∧
      victim ∈ endpoints s.2 entity.id ∧
      s'.2 = s.2.assign victim (victim.row.set "interface_id" value) := by
  unfold apply at h
  rw [runs_rowsAt_bind] at h
  dsimp only at h
  split at h
  · exact absurd (congrArg Mutation.kind (runs_noop h).1) hm
  · obtain ⟨victim, u, hvictim, hrest⟩ := runs_bind.mp h
    obtain ⟨hmem, hviews⟩ := Runs.choice hvictim
    have hpointed := Runs.choice_getElem? hvictim
    have hu : u = ((env.rng.choice (endpoints s.2 entity.id).length s.1).2, s.2) := by
      unfold choice at hvictim
      obtain ⟨i, t, hdraw, hpick⟩ := runs_bind.mp hvictim
      obtain ⟨rfl, rfl⟩ := runs_draw.mp hdraw
      split at hpick
      · exact (runs_pure.mp hpick).2
      · exact (runs_throw.mp hpick).elim
    subst hu
    rw [runs_rowsAt_bind] at hrest
    obtain ⟨candidates, hcandidates, hrest⟩ := runs_liftExcept_bind.mp hrest
    split at hrest
    · exact absurd (congrArg Mutation.kind (runs_noop hrest).1) hm
    · obtain ⟨value, w, hchoice, hwrite⟩ := runs_bind.mp hrest
      obtain ⟨-, rfl⟩ := runs_writeAttribute.mp hwrite
      refine ⟨victim, value, ⟨hpointed, candidates, hcandidates, Runs.choice_getElem? hchoice⟩,
        hmem, ?_⟩
      dsimp only
      rw [(Runs.choice hchoice).2]

theorem Drawn.unique {link : String} {g : env.rng.State} {victim victim' : Ref}
    {value value' : Value} (h : Drawn env v link g victim value)
    (h' : Drawn env v link g victim' value') : victim = victim' ∧ value = value' := by
  obtain ⟨hvictim, candidates, hcandidates, hvalue⟩ := h
  obtain ⟨hvictim', candidates', hcandidates', hvalue'⟩ := h'
  obtain rfl : candidates = candidates' := Except.ok.inj (hcandidates.symm.trans hcandidates')
  exact ⟨Option.some.inj (hvictim.symm.trans hvictim'), Option.some.inj (hvalue.symm.trans hvalue')⟩

/-- The ends of the link after its edge has been moved. -/
theorem mem_linkEnds_assign {link : String} {victim : Ref} {value : Value}
    (hvictim : victim ∈ endpoints v link) (hcolumn : "interface_id" ∈ victim.row.columns)
    (terminal : Value) :
    terminal ∈ linkEnds (v.assign victim (victim.row.set "interface_id" value)) .telemetry link ↔
      terminal ∈ endsWith v link victim value := by
  obtain ⟨hrefs, hlink⟩ := List.mem_filter.mp hvictim
  obtain ⟨hloc, hin⟩ := mem_refs.mp hrefs
  obtain ⟨hi, -⟩ := List.getElem?_eq_some_iff.mp hin
  have hlink' : (victim.row.set "interface_id" value).get "link_id" = victim.row.get "link_id" :=
    Row.get_set_of_ne (by decide) value
  unfold linkEnds endsWith
  rw [← hloc, Views.assign_self, List.mem_map, List.mem_cons, List.mem_map]
  constructor
  · rintro ⟨row, hrow, rfl⟩
    obtain ⟨hmem, heq⟩ := List.mem_filter.mp hrow
    obtain ⟨j, hj⟩ := List.mem_iff_getElem?.mp hmem
    by_cases hji : victim.index = j
    · subst hji
      rw [List.getElem?_set_self hi] at hj
      rw [← Option.some.inj hj, Row.get_set_self hcolumn]
      exact .inl rfl
    · rw [List.getElem?_set_ne hji] at hj
      refine .inr ⟨⟨victim.loc, j, row⟩, List.mem_filter.mpr ⟨List.mem_filter.mpr ⟨?_, heq⟩, ?_⟩, rfl⟩
      · rw [hloc] at hj ⊢
        exact mem_refs.mpr ⟨rfl, hj⟩
      · exact decide_eq_true (Ne.symm hji)
  · rintro (rfl | ⟨ref, href, rfl⟩)
    · refine ⟨victim.row.set "interface_id" terminal, List.mem_filter.mpr ⟨?_, ?_⟩,
        Row.get_set_self hcolumn terminal⟩
      · exact List.mem_of_getElem? (List.getElem?_set_self hi)
      · rw [hlink']
        exact hlink
    · obtain ⟨hmem, hne⟩ := List.mem_filter.mp href
      obtain ⟨hrefs', hlink''⟩ := List.mem_filter.mp hmem
      obtain ⟨hloc', hin'⟩ := mem_refs.mp hrefs'
      refine ⟨ref.row, List.mem_filter.mpr ⟨?_, hlink''⟩, rfl⟩
      have hget : ((v victim.loc).set victim.index (victim.row.set "interface_id" value))[ref.index]? =
          some ref.row := by
        rw [List.getElem?_set_ne (Ne.symm (of_decide_eq_true hne)), hloc, ← hloc']
        exact hin'
      exact List.mem_of_getElem? hget

theorem disagrees_iff (hshaped : Shaped s.2)
    (h : Runs (apply entity params : Inject env _) s m s') (hm : m.kind ≠ "noop") :
    CrossClass.Disagrees .structuralConflict twin entity params m s.2 s'.2 ↔
      CrossClass.Conflicts env .structuralConflict twin entity params s.1 s.2 := by
  obtain ⟨victim, value, hdrawn, hvictim, hs⟩ := effect_drawn h hm
  obtain ⟨hloc, hin⟩ := mem_refs.mp (List.mem_of_mem_filter hvictim)
  have hcolumn : "interface_id" ∈ victim.row.columns := by
    rw [hshaped.columns hin, hloc]
    exact Table.interface_id_mem_columns
  have hcatalog : linkEnds s'.2 .catalog entity.id = linkEnds s.2 .catalog entity.id := by
    unfold linkEnds
    rw [hs, Views.assign_of_ne]
    rw [hloc]
    exact (nomatch ·)
  have hends : SameEnds (linkEnds s'.2 .catalog entity.id) (linkEnds s'.2 .telemetry entity.id) ↔
      SameEnds (linkEnds s.2 .catalog entity.id) (endsWith s.2 entity.id victim value) := by
    rw [hcatalog, hs]
    exact SameEnds.congr (mem_linkEnds_assign hvictim hcolumn)
  constructor
  · intro hdis victim' value' hdrawn'
    obtain ⟨rfl, rfl⟩ := hdrawn.unique hdrawn'
    exact fun hsame => hdis (hends.mpr hsame)
  · intro hcond hsame
    exact hcond victim value hdrawn (hends.mp hsame)

end StructuralConflict

/-! ## Existence -/

namespace ExistenceConflict

/-- The row that goes is the one that is found. -/
theorem effect_found (hshaped : Shaped s.2)
    (h : Runs (apply entity params : Inject env _) s m s') (hm : m.kind ≠ "noop") :
    ∃ ref, findIn s.2 (side params) entity = some ref ∧ s'.2 = s.2.erase ref := by
  unfold apply at h
  obtain ⟨removed, u, hremove, hrest⟩ := runs_bind.mp h
  obtain ⟨t, ht, ⟨-, hnone, hu⟩ | ⟨ref, hfind, hsome, hu⟩⟩ := Runs.remove hremove
  · rw [hnone, hu] at hrest
    exact absurd (congrArg Mutation.kind (runs_noop hrest).1) hm
  · rw [hsome, hu] at hrest
    obtain ⟨-, rfl⟩ := runs_pure.mp hrest
    obtain ⟨hloc, hin, hid⟩ := findRow_eq_some hfind
    have hedge : ref.loc.2.isEdge = false :=
      hshaped.isEdge_of_id (List.mem_of_getElem? hin) (Value.eq_str.mp hid)
    rw [hloc] at hedge
    refine ⟨ref, ?_, rfl⟩
    unfold findIn
    rw [ht]
    exact (if_neg (Bool.eq_false_iff.mp hedge)).trans hfind

/-- After the row is gone, another row is found exactly when it has the same id. -/
theorem findIn_erase {side : Side} {ref : Ref} (href : findIn v side entity = some ref) :
    (findIn (v.erase ref) side entity).isSome = true ↔ ¬FoundOnce v side entity := by
  obtain ⟨hside, htable, hedge, hin, hid⟩ := findIn_eq_some href
  have hloc : (side, ref.loc.2) = ref.loc := Prod.ext hside.symm rfl
  have hfind : findIn (v.erase ref) side entity =
      findRow ref.loc ((v ref.loc).eraseIdx ref.index) (.str entity.id) := by
    unfold findIn
    rw [← htable, Table.ofName_name]
    refine (if_neg (Bool.eq_false_iff.mp hedge)).trans ?_
    rw [hloc, Views.erase_self]
  rw [hfind, ← not_iff_not, not_not, Option.not_isSome_iff_eq_none, findRow_eq_none]
  constructor
  · intro hnone ref' href' other hother hin' hid'
    obtain rfl : ref = ref' := Option.some.inj (href.symm.trans href')
    by_contra hne
    have hmem : other.row ∈ (v ref.loc).eraseIdx ref.index := by
      rw [List.mem_eraseIdx_iff_getElem?]
      rw [Ref.In, hother] at hin'
      exact ⟨other.index, hne, hin'⟩
    have hfalse := hnone other.row hmem
    rw [hid', Value.eq_self rfl] at hfalse
    cases hfalse
  · intro honce row hrow
    obtain ⟨i, hne, hi⟩ := List.mem_eraseIdx_iff_getElem?.mp hrow
    refine Bool.eq_false_iff.mpr fun heq => hne ?_
    exact honce ref href ⟨ref.loc, i, row⟩ rfl hi (Value.eq_str.mp heq)

/-- The other side is as before. -/
theorem findIn_other {side : Side} {ref : Ref} (href : findIn v side entity = some ref) :
    findIn (v.erase ref) side.other entity = findIn v side.other entity := by
  have hloc : ∀ t, (side.other, t) ≠ ref.loc := by
    intro t heq
    have hside := (findIn_eq_some href).1
    rw [← heq] at hside
    cases side <;> cases hside
  unfold findIn
  split
  · rfl
  · rw [Views.erase_of_ne (hloc _)]

theorem disagrees_iff (hshaped : Shaped s.2)
    (h : Runs (apply entity params : Inject env _) s m s') (hm : m.kind ≠ "noop") :
    CrossClass.Disagrees .existenceConflict twin entity params m s.2 s'.2 ↔
      CrossClass.Conflicts env .existenceConflict twin entity params s.1 s.2 := by
  obtain ⟨ref, href, hs⟩ := effect_found hshaped h hm
  have hdropped := findIn_erase href
  have hother := findIn_other href
  show (findIn s'.2 .catalog entity).isSome ≠ (findIn s'.2 .telemetry entity).isSome ↔
    ((findIn s.2 (side params).other entity).isSome = true ↔ FoundOnce s.2 (side params) entity)
  have hsides : (findIn s'.2 .catalog entity).isSome ≠ (findIn s'.2 .telemetry entity).isSome ↔
      ((findIn s'.2 (side params).other entity).isSome = true ↔
        ¬(findIn s'.2 (side params) entity).isSome = true) := by
    cases side params
    · show _ ↔ ((findIn s'.2 .telemetry entity).isSome = true ↔ _)
      cases (findIn s'.2 .catalog entity).isSome <;> cases (findIn s'.2 .telemetry entity).isSome <;>
        decide
    · show _ ↔ ((findIn s'.2 .catalog entity).isSome = true ↔ _)
      cases (findIn s'.2 .catalog entity).isSome <;> cases (findIn s'.2 .telemetry entity).isSome <;>
        decide
  rw [hsides, hs, hdropped, hother, not_not]

end ExistenceConflict

/-! ## Phantoms and shadows -/

/-- A row that is fabricated has the id that its tag gives it. -/
theorem fabricate_unheard {side : Side} {sideName letter : String}
    (h : Runs (fabricate side sideName letter entity.table : Inject env _) s m s')
    (hm : m.kind ≠ "noop") :
    (∀ row, m.after = some (.row row) → Unheard twin s'.2 side.other (row.get "id")) ↔
      ∀ t row, Fabricated env letter entity.table s.1 t row →
        Unheard twin s.2 side.other (row.get "id") := by
  obtain ⟨rfl, -⟩ | ⟨t, row, hrow, rfl, hs⟩ := fabricate_effect h
  · exact absurd rfl hm
  · have hother : ∀ id, Unheard twin s'.2 side.other id ↔ Unheard twin s.2 side.other id := by
      intro id
      refine forall_congr' fun u => and_congr_right fun _ => ?_
      have hne : (side.other, u) ≠ (side, t) := by
        intro heq
        cases side <;> cases heq
      rw [hs, Views.append_of_ne hne]
    constructor
    · intro hdis t' row' hrow'
      have hid : row'.get "id" = row.get "id" := by
        obtain ⟨htable, -, rfl⟩ | ⟨htable, -, rfl⟩ := hrow
        · obtain ⟨-, -, rfl⟩ | ⟨htable', -, -⟩ := hrow'
          · rfl
          · exact absurd (htable.symm.trans htable') (by decide)
        · obtain ⟨htable', -, -⟩ | ⟨-, -, rfl⟩ := hrow'
          · exact absurd (htable.symm.trans htable') (by decide)
          · rfl
      rw [hid]
      exact (hother _).mp (hdis row rfl)
    · intro hcond row' hrow'
      obtain rfl : row = row' := Payload.row.inj (Option.some.inj hrow')
      exact (hother _).mpr (hcond t row hrow)

/-- **When a cross-source defect creates a disagreement**: after a call that reports a mutation,
the projections disagree about its target exactly when the call found what it needs. -/
theorem cross_source_disagrees_iff (env : Env) (twin : GoldenTwin) {g g' : env.rng.State}
    {v v' : Views} {c : CrossClass} {entity : EntityRef} {params : Params} {m : Mutation}
    (hv : Reachable env twin v)
    (h : Runs (c.apply entity params : Inject env _) (g, v) m (g', v')) (hm : m.kind ≠ "noop") :
    c.Disagrees twin entity params m v v' ↔ c.Conflicts env twin entity params g v := by
  cases c with
  | attributeConflict => exact AttributeConflict.disagrees_iff hv.shaped h hm
  | structuralConflict => exact StructuralConflict.disagrees_iff hv.shaped h hm
  | existenceConflict => exact ExistenceConflict.disagrees_iff hv.shaped h hm
  | phantomEntity => exact fabricate_unheard h hm
  | shadowEntity => exact fabricate_unheard h hm

end Call

/-- The router of the sample in the telemetry. -/
def sampleRouter : Ref :=
  ⟨(.telemetry, .physicalRouter), 0,
    PhysicalRouter.dump ⟨"router:pe1", "pe1", some "VyOS", none, none, none, none, some "PE",
      some "Running", none⟩⟩

theorem cross_source_disagrees_sample :
    CrossClass.Disagrees .existenceConflict .sample ⟨"PhysicalRouter", "router:pe1"⟩
      [("drop_from", .str "telemetry")] (.remove "delete_from_telemetry" sampleRouter)
      (buildProjections .sample) ((buildProjections .sample).erase sampleRouter) := by
  have hrun : Runs (CrossClass.apply .existenceConflict ⟨"PhysicalRouter", "router:pe1"⟩
      [("drop_from", .str "telemetry")] : Inject .plain _) ((), buildProjections .sample)
      (.remove "delete_from_telemetry" sampleRouter)
      ((), (buildProjections .sample).erase sampleRouter) := rfl
  refine (cross_source_disagrees_iff .plain .sample .start hrun (by decide)).mpr
    (iff_of_true (by decide +kernel) ?_)
  intro ref href other hloc hin _
  obtain rfl : sampleRouter = ref := Option.some.inj href
  obtain ⟨hlt, -⟩ := List.getElem?_eq_some_iff.mp hin
  rw [hloc] at hlt
  exact Nat.lt_one_iff.mp hlt

/-- The router is dropped from a side. -/
def dropRouter (id side : String) : DefectSpec :=
  .sample id ExistenceConflict.name .both "PhysicalRouter" [("drop_from", .str side)]

/-- An end of the link is moved in the telemetry. -/
def moveEnd (id : String) : DefectSpec :=
  .sample id StructuralConflict.name .both "PhysicalLink" []

/-- Dropping a router from both sides, and moving the end of a link there and back, reports
conflicts about which the projections agree. -/
theorem conflicts_leave_agreement :
    GoldenTwin.sample.Valid .plain ∧ GoldenTwin.linked.Valid .plain ∧
      (∃ app ∈ (runOn .plain (.sample [dropRouter "a" "telemetry", dropRouter "b" "catalog"])
          .sample).2.applied,
        app.cls = .cross .existenceConflict ∧ app.mutation.kind = "delete_from_catalog" ∧
          ¬CrossClass.Disagrees .existenceConflict .sample app.entity app.spec.parameters
            app.mutation app.before app.after) ∧
      ∃ app ∈ (runOn .plain (.sample [moveEnd "a", moveEnd "b"]) .linked).2.applied,
        app.cls = .cross .structuralConflict ∧ app.mutation.kind = "endpoint_shift_telemetry" ∧
          ¬CrossClass.Disagrees .structuralConflict .linked app.entity app.spec.parameters
            app.mutation app.before app.after := by
  have hdrop : ∃ app ∈ (runOn .plain (.sample [dropRouter "a" "telemetry", dropRouter "b" "catalog"])
      .sample).2.applied, app.cls = .cross .existenceConflict ∧
        app.mutation.kind = "delete_from_catalog" ∧
        (findIn app.after .catalog app.entity).isSome =
          (findIn app.after .telemetry app.entity).isSome := by
    decide +kernel
  have hmove : ∃ app ∈ (runOn .plain (.sample [moveEnd "a", moveEnd "b"]) .linked).2.applied,
      app.cls = .cross .structuralConflict ∧ app.mutation.kind = "endpoint_shift_telemetry" ∧
        SameEnds (linkEnds app.after .catalog app.entity.id)
          (linkEnds app.after .telemetry app.entity.id) := by
    decide +kernel
  obtain ⟨app, happ, hcls, hkind, hsame⟩ := hdrop
  obtain ⟨app', happ', hcls', hkind', hsame'⟩ := hmove
  exact ⟨by decide +kernel, by decide +kernel, ⟨app, happ, hcls, hkind, fun h => h hsame⟩,
    app', happ', hcls', hkind', fun h => h hsame'⟩

end GnnSandbox.Bench
