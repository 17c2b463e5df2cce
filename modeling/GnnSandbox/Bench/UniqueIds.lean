import GnnSandbox.Bench.Trace

/-!
# Unique identifiers

The ids of a table stay pairwise distinct as long as every id that is written is `None` or
the id of no other row. Cascades and merges only drop rows; the ids that are invented come
from display names, tags and replaced colons, which other rows may have.
-/

namespace GnnSandbox.Bench

open Raise

variable {env : Env}

/-! ## Distinct ids -/

/-- Rows with equal ids have none. -/
def DistinctIds (rows : List Row) : Prop :=
  rows.Pairwise fun a b => (a.get "id").eq (b.get "id") = true → a.get "id" = .none

/-- The ids of every table are distinct, in both projections. -/
def UniqueIds (v : Views) : Prop := ∀ loc, DistinctIds (v loc)

/-- No row of the table has the id. -/
def Fresh (v : Views) (loc : Loc) (id : Value) : Prop :=
  ∀ row ∈ v loc, (row.get "id").eq id = false

/-- The id is none, or no row of the table but that of the reference has it. -/
def FreshBut (v : Views) (ref : Ref) (id : Value) : Prop :=
  id = .none ∨ ∀ other : Ref, other.loc = ref.loc → other.In v → other.index ≠ ref.index →
    (other.row.get "id").eq id = false

section Distinct

variable {rows : List Row}

/-- Rows with equal ids are the same, wherever they stand. -/
theorem DistinctIds.eq_none (h : DistinctIds rows) {i j : ℕ} {a b : Row} (hij : i ≠ j)
    (ha : rows[i]? = some a) (hb : rows[j]? = some b)
    (hab : (a.get "id").eq (b.get "id") = true) : a.get "id" = .none := by
  have hpairs := List.pairwise_iff_getElem.mp h
  obtain ⟨hi, rfl⟩ := List.getElem?_eq_some_iff.mp ha
  obtain ⟨hj, rfl⟩ := List.getElem?_eq_some_iff.mp hb
  rcases Nat.lt_or_gt_of_ne hij with hlt | hlt
  · exact hpairs i j hi hj hlt hab
  · have hnone := hpairs j i hj hi hlt (Value.eq_symm hab)
    rw [hnone] at hab
    exact Value.eq_none.mp hab

/-- The first row with an id is the only one. -/
theorem DistinctIds.findRow_eq {loc : Loc} (h : DistinctIds rows) {i : ℕ} {row : Row} {id : String}
    (hrow : rows[i]? = some row) (hid : row.get "id" = .str id) :
    findRow loc rows (.str id) = some ⟨loc, i, row⟩ := by
  cases hfind : findRow loc rows (.str id) with
  | none =>
    have hne := findRow_eq_none.mp hfind row (List.mem_of_getElem? hrow)
    rw [hid, Value.eq_self rfl] at hne
    cases hne
  | some ref =>
    obtain ⟨hloc, hin, hidr⟩ := findRow_eq_some (v := fun _ => rows) hfind
    obtain ⟨l, j, r⟩ := ref
    obtain rfl : l = loc := hloc
    by_cases hij : i = j
    · subst hij
      exact congrArg (fun r => some (Ref.mk l i r)) (Option.some.inj (hin.symm.trans hrow))
    · have hnone := h.eq_none hij hrow hin (by rw [hid, Value.eq_str.mp hidr]; exact Value.eq_self rfl)
      rw [hid] at hnone
      cases hnone

end Distinct

/-! ## What keeps ids distinct -/

namespace UniqueIds

variable {v v' : Views}

/-- Tables that are as before or have distinct ids. -/
theorem update (h : UniqueIds v) {loc : Loc} {rows : List Row} (hrows : DistinctIds rows) :
    UniqueIds (Function.update v loc rows) := by
  intro loc'
  by_cases heq : loc' = loc
  · rw [heq, Function.update_self]
    exact hrows
  · rw [Function.update_of_ne heq]
    exact h loc'

/-- Rows are dropped. -/
theorem erase (h : UniqueIds v) (ref : Ref) : UniqueIds (v.erase ref) :=
  h.update ((h ref.loc).sublist (List.eraseIdx_sublist ..))

theorem keep (h : UniqueIds v) (loc : Loc) (p : Row → Bool) : UniqueIds (v.keep loc p) :=
  h.update ((h loc).sublist List.filter_sublist)

/-- Clearing a gateway leaves the id. -/
theorem cascaded (h : UniqueIds v) (hcascade : Cascaded v v') : UniqueIds v' := by
  intro loc
  rcases hcascade loc with hsub | ⟨-, f, hf, hmap⟩
  · exact (h loc).sublist hsub
  · have hid : ∀ row, (f row).get "id" = row.get "id" := by
      intro row
      rcases hf row with heq | heq
      · rw [heq]
      · rw [heq, Row.get_set_of_ne (by decide)]
    rw [hmap]
    refine List.pairwise_map.mpr ((h loc).imp fun {a b} hab => ?_)
    rw [hid, hid]
    exact hab

/-- A row with a fresh id is added. -/
theorem append (h : UniqueIds v) {loc : Loc} {row : Row} (hfresh : Fresh v loc (row.get "id")) :
    UniqueIds (v.append loc row) := by
  refine h.update (List.pairwise_append.mpr ⟨h loc, List.pairwise_singleton .., ?_⟩)
  intro a ha b hb heq
  rw [List.mem_singleton.mp hb, hfresh a ha] at heq
  cases heq

/-- A row is replaced by one whose id no other row has. -/
theorem assign (h : UniqueIds v) {ref : Ref} {row : Row} (hfresh : FreshBut v ref (row.get "id")) :
    UniqueIds (v.assign ref row) := by
  refine h.update (List.pairwise_iff_getElem.mpr ?_)
  intro i j hi hj hij heq
  rw [List.length_set] at hi hj
  rw [List.getElem_set] at heq ⊢
  rw [List.getElem_set] at heq
  have hother : ∀ k (hk : k < (v ref.loc).length), ref.index ≠ k →
      ((v ref.loc)[k].get "id").eq (row.get "id") = true → row.get "id" = .none := by
    intro k hk hne hidk
    rcases hfresh with hnone | hfresh
    · exact hnone
    · have hfalse := hfresh ⟨ref.loc, k, (v ref.loc)[k]⟩ rfl (List.getElem?_eq_getElem hk) hne.symm
      rw [hidk] at hfalse
      cases hfalse
  by_cases hir : ref.index = i
  · have hjr : ref.index ≠ j := fun h => absurd (hir.symm.trans h) hij.ne
    rw [if_pos hir] at heq ⊢
    rw [if_neg hjr] at heq
    exact hother j hj hjr (Value.eq_symm heq)
  · rw [if_neg hir] at heq ⊢
    by_cases hjr : ref.index = j
    · rw [if_pos hjr] at heq
      have hnone := hother i hi hir heq
      rw [hnone] at heq
      exact Value.eq_none.mp heq
    · rw [if_neg hjr] at heq
      exact (h ref.loc).eq_none hij.ne (List.getElem?_eq_getElem hi) (List.getElem?_eq_getElem hj) heq

/-- The own id is that of no other row. -/
theorem freshBut_self (h : UniqueIds v) {ref : Ref} (hin : ref.In v) :
    FreshBut v ref (ref.row.get "id") := by
  by_cases hnone : ref.row.get "id" = .none
  · exact .inl hnone
  · refine .inr fun other hloc hother hne => Bool.eq_false_iff.mpr fun heq => hnone ?_
    unfold Ref.In at hother
    rw [hloc] at hother
    exact (h ref.loc).eq_none (Ne.symm hne) hin hother (Value.eq_symm heq)

/-- A cell other than the id is written, or an id that no other row has. -/
theorem write (h : UniqueIds v) {ref : Ref} (hin : ref.In v) {column : String} {value : Value}
    (hcolumn : column ∈ ref.row.columns) (hfresh : column = "id" → FreshBut v ref value) :
    UniqueIds (v.assign ref (ref.row.set column value)) := by
  refine h.assign ?_
  by_cases hid : column = "id"
  · subst hid
    rw [Row.get_set_self hcolumn]
    exact hfresh rfl
  · rw [Row.get_set_of_ne (Ne.symm hid)]
    exact h.freshBut_self hin

end UniqueIds

/-! ## The condition -/

/-- The call gives no row an id that another row of its table has: the display name under which
`SplitIdentity` clones a row, the tag that is drawn for a phantom or a shadow, the id whose
colons `MalformedId` replaces, and what the other classes write when their attribute is the id. -/
def WritesFreshIds (env : Env) (c : DefectClass) (target : TargetProjection) (entity : EntityRef)
    (params : Params) (g : env.rng.State) (v : Views) : Prop :=
  match c with
  | .single .splitIdentity => target.side = .catalog → ∀ ref original kind,
      findIn v .catalog entity = some ref → SplitIdentity.originalName ref.row = .ok original →
        SplitIdentity.Prefix entity kind →
          Fresh v ref.loc (.str (kind ++ SplitIdentity.cloneName env original))
  | .cross .phantomEntity => ∀ t row, Fabricated env "C" entity.table g t row →
      Fresh v (.catalog, t) (row.get "id")
  | .cross .shadowEntity => ∀ t row, Fabricated env "T" entity.table g t row →
      Fresh v (.telemetry, t) (row.get "id")
  | .single .malformedId => ∀ ref, findIn v target.side entity = some ref →
      FreshBut v ref (.str (MalformedId.badId entity.id))
  | .single .outOfRange => OutOfRange.attr entity params = .str "id" → ∀ ref,
      findIn v target.side entity = some ref → FreshBut v ref (OutOfRange.value "id" params)
  | .single .invalidEnum => InvalidEnum.attr entity params = .str "id" → ∀ ref,
      findIn v target.side entity = some ref → FreshBut v ref (InvalidEnum.value "id" params)
  | .single .attributeDrift => params.get "attribute" .none = .str "id" → ∀ ref value,
      findIn v target.side entity = some ref → AttributeDrift.Drawn env params ref "id" g value →
        FreshBut v ref value
  | .cross .attributeConflict => params.get "attribute" .none = .str "id" →
      ∀ cat tel catNew telNew, findIn v .catalog entity = some cat →
        findIn v .telemetry entity = some tel →
          AttributeConflict.Drawn env params cat "id" g catNew telNew →
            FreshBut v cat catNew ∧ FreshBut v tel telNew
  | _ => True

section Call

variable {s s' : env.rng.State × Views} {m : Mutation} {entity : EntityRef} {params : Params}
  {v v' : Views}

/-- A call that writes a cell of the row of its entity. -/
theorem Writes.uniqueIds {side : Side} {kind : String} {P : Ref → String → Value → Prop}
    (h : Writes v side entity kind P m v') (hv : UniqueIds v)
    (hP : ∀ ref value, findIn v side entity = some ref → P ref "id" value → FreshBut v ref value) :
    UniqueIds v' := by
  obtain ⟨-, rfl⟩ | ⟨ref, column, value, href, hcolumn, hwritten, -, rfl⟩ := h
  · exact hv
  · refine hv.write (findIn_eq_some href).2.2.2.1 hcolumn ?_
    rintro rfl
    exact hP ref value href hwritten

/-- A write on the other side leaves the ids of a table. -/
theorem FreshBut.assign {ref ref' : Ref} {row : Row} {id : Value} (h : FreshBut v ref id)
    (hne : ref.loc ≠ ref'.loc) : FreshBut (v.assign ref' row) ref id := by
  refine h.imp_right fun hfresh other hloc hother => hfresh other hloc ?_
  unfold Ref.In at hother ⊢
  rwa [Views.assign_of_ne (hloc.trans_ne hne)] at hother

/-- A fabricated row. -/
theorem uniqueIds_fabricate {side : Side} {sideName letter : String} (hv : UniqueIds s.2)
    (hfresh : ∀ t row, Fabricated env letter entity.table s.1 t row →
      Fresh s.2 (side, t) (row.get "id"))
    (h : Runs (fabricate side sideName letter entity.table : Inject env _) s m s') :
    UniqueIds s'.2 := by
  obtain ⟨-, hs⟩ | ⟨t, row, hrow, -, hs⟩ := fabricate_effect h
  · rw [hs]
    exact hv
  · rw [hs]
    exact hv.append (hfresh t row hrow)

/-- **Under the condition, a call keeps the ids distinct.** -/
theorem DefectClass.uniqueIds {c : DefectClass} {target : TargetProjection} (hshaped : Shaped s.2)
    (hv : UniqueIds s.2) (h : Runs (c.apply target entity params : Inject env _) s m s')
    (hfresh : WritesFreshIds env c target entity params s.1 s.2) : UniqueIds s'.2 := by
  cases c with
  | single c =>
    cases c with
    | missingNode =>
      obtain ⟨-, hs⟩ | ⟨ref, -, -, -, -, -, hrun⟩ := MissingNode.effect params h
      · rw [hs]
        exact hv
      · exact (hv.erase ref).cascaded (MissingNode.cascaded_cascade hrun)
    | missingEdge =>
      obtain ⟨-, hs⟩ | ⟨ref, -, -, -, -, -, rfl⟩ := MissingEdge.effect params h
      · rw [hs]
        exact hv
      · exact hv.erase ref
    | missingAttribute =>
      refine (MissingAttribute.effect h).uniqueIds hv ?_
      rintro ref value - ⟨-, -, rfl⟩
      exact .inl rfl
    | attributeDrift =>
      refine (AttributeDrift.effect h).uniqueIds hv ?_
      rintro ref value href ⟨hattr, -, hdrawn⟩
      exact hfresh hattr ref value href hdrawn
    | endpointShift =>
      obtain ⟨-, hs⟩ | ⟨ref, value, href, -, -, -, hs⟩ := EndpointShift.effect params h
      · rw [hs]
        exact hv
      · obtain ⟨hloc, hin⟩ := mem_refs.mp (List.mem_of_find?_eq_some href)
        rw [hs]
        refine hv.write hin ?_ (nomatch ·)
        rw [hshaped.columns hin, hloc]
        exact Table.interface_id_mem_columns
    | asymmetricLink =>
      obtain ⟨-, hs⟩ | ⟨ref, -, -, hs⟩ := AsymmetricLink.effect params h
      · rw [hs]
        exact hv
      · rw [hs]
        exact hv.erase ref
    | orphanEntity =>
      refine (OrphanEntity.effect params hshaped h).uniqueIds hv ?_
      rintro ref value - (⟨-, hcolumn, -⟩ | ⟨-, hcolumn, -⟩)
      · exact absurd hcolumn (by decide)
      · exact absurd hcolumn (by decide)
    | splitIdentity =>
      obtain ⟨-, hs⟩ | ⟨ref, original, kind, hside, href, horiginal, hprefix, -, rfl⟩ :=
        SplitIdentity.effect params h
      · rw [hs]
        exact hv
      · have hin := (findIn_eq_some href).2.2.2.1
        have hedge := (findIn_eq_some href).2.2.1
        have hid : (SplitIdentity.clone kind (SplitIdentity.cloneName env original) ref.row).get "id" =
            .str (kind ++ SplitIdentity.cloneName env original) := by
          unfold SplitIdentity.clone
          rw [Row.get_set_of_ne (by decide), Row.get_set_self]
          rw [hshaped.columns hin]
          exact Table.id_mem_columns hedge
        refine hv.append ?_
        rw [hid]
        exact hfresh hside ref original kind (hside ▸ href) horiginal hprefix
    | mergedIdentity =>
      obtain ⟨-, hs⟩ | ⟨target', victim, -, href, -, hname, -, hs⟩ := MergedIdentity.effect params h
      · rw [hs]
        exact hv
      · rw [hs]
        exact (hv.write (findIn_eq_some href).2.2.2.1 hname (nomatch ·)).keep _ _
    | malformedId =>
      refine (MalformedId.effect params hshaped h).uniqueIds hv ?_
      rintro ref value href ⟨-, rfl⟩
      exact hfresh ref href
    | outOfRange =>
      refine (OutOfRange.effect h).uniqueIds hv ?_
      rintro ref value href ⟨hattr, rfl⟩
      exact hfresh hattr ref href
    | invalidEnum =>
      refine (InvalidEnum.effect h).uniqueIds hv ?_
      rintro ref value href ⟨hattr, rfl⟩
      exact hfresh hattr ref href
  | cross c =>
    cases c with
    | attributeConflict =>
      obtain ⟨-, hs⟩ | ⟨cat, tel, column, catNew, telNew, hcat, htel, hcolumn, hattr, -, hdrawn, -,
        hs⟩ := AttributeConflict.effect h
      · rw [hs]
        exact hv
      · obtain ⟨hin, hin', hne, hcolumns⟩ := hshaped.findIn_both hcat htel
        have hcolumn' : column ∈ tel.row.columns := hcolumns ▸ hcolumn
        have hids : column = "id" → FreshBut s.2 cat catNew ∧ FreshBut s.2 tel telNew := by
          rintro rfl
          exact hfresh hattr cat tel catNew telNew hcat htel hdrawn
        rw [hs]
        exact (hv.write hin hcolumn fun hid => (hids hid).1).write (hin'.assign hne) hcolumn'
          fun hid => (hids hid).2.assign hne
    | structuralConflict =>
      obtain ⟨-, hs⟩ | ⟨ref, value, hloc, hin, -, -, -, -, hs⟩ := StructuralConflict.effect params h
      · rw [hs]
        exact hv
      · rw [hs]
        refine hv.write hin ?_ (nomatch ·)
        rw [hshaped.columns hin, hloc]
        exact Table.interface_id_mem_columns
    | existenceConflict =>
      obtain ⟨-, hs⟩ | ⟨ref, -, -, -, -, -, rfl⟩ := ExistenceConflict.effect h
      · rw [hs]
        exact hv
      · exact hv.erase ref
    | phantomEntity => exact uniqueIds_fabricate hv hfresh h
    | shadowEntity => exact uniqueIds_fabricate hv hfresh h

end Call

/-! ## Runs -/

/-- The ids of each entity table of the twin are distinct. -/
def GoldenTwin.UniqueIds (twin : GoldenTwin) : Prop :=
  ∀ t : Table, t.isEdge = false → ((twin.entities.rows t).map (Row.get · "id")).Nodup

/-- The ids of an entity table are texts. -/
theorem GoldenTwinEntities.id_rows {e : GoldenTwinEntities} {t : Table} (ht : t.isEdge = false)
    {row : Row} (h : row ∈ e.rows t) : ∃ id, row.get "id" = .str id := by
  cases t <;> first
    | (obtain ⟨a, -, rfl⟩ := List.mem_map.mp h; exact ⟨a.id, rfl⟩)
    | cases ht

/-- The rows of an edge table have no id. -/
theorem GoldenTwinEntities.id_rows_edge {e : GoldenTwinEntities} {t : Table} (ht : t.isEdge = true)
    {row : Row} (h : row ∈ e.rows t) : row.get "id" = .none := by
  cases t <;> first
    | (obtain ⟨a, -, rfl⟩ := List.mem_map.mp h; rfl)
    | cases ht

theorem GoldenTwin.UniqueIds.start {twin : GoldenTwin} (h : twin.UniqueIds) :
    Bench.UniqueIds (buildProjections twin) := by
  rintro ⟨side, t⟩
  show DistinctIds (twin.entities.rows t)
  cases ht : t.isEdge with
  | true =>
    refine List.Pairwise.imp_of_mem (R := fun _ _ => True) ?_ (List.pairwise_of_forall fun _ _ => trivial)
    intro a b ha _ _ _
    exact twin.entities.id_rows_edge ht ha
  | false =>
    have hne := List.pairwise_map.mp (h t ht)
    refine List.Pairwise.imp_of_mem ?_ hne
    intro a b _ hb hab heq
    obtain ⟨id, hid⟩ := twin.entities.id_rows ht hb
    rw [hid] at heq hab
    exact absurd (Value.eq_str.mp heq) hab

/-- A row that the entity names is the one that `find` returns. -/
def Application.Addresses (app : Application env) : Prop :=
  ∀ ref : Ref, ref.In app.before → ref.loc.2.isEdge = false → ref.loc.2.name = app.entity.table →
    ref.row.get "id" = .str app.entity.id → findIn app.before ref.loc.1 app.entity = some ref

theorem UniqueIds.addresses {app : Application env} (h : UniqueIds app.before) : app.Addresses := by
  intro ref hin hedge htable hid
  unfold findIn
  rw [← htable, Table.ofName_name]
  dsimp only
  rw [if_neg (Bool.eq_false_iff.mp hedge)]
  exact (h ref.loc).findRow_eq hin hid

/-- **Identifiers stay unique**: in a run from a twin with unique ids whose calls only write ids
that no other row of the table has, the ids of every table are pairwise distinct in every state,
apart from `None`, and a lookup by the id of an entity finds the row that has it. -/
theorem ids_stay_unique (env : Env) (sc : Scenario) (twin : GoldenTwin) (hids : twin.UniqueIds)
    (h : ∀ app ∈ (runOn env sc twin).2.applied,
      WritesFreshIds env app.cls app.spec.targetProjection app.entity app.spec.parameters app.rng
        app.before) :
    UniqueIds (runOn env sc twin).2.views ∧
      ∀ app ∈ (runOn env sc twin).2.applied,
        UniqueIds app.before ∧ UniqueIds app.after ∧ app.Addresses := by
  refine runOn_induction (I := fun st => (∀ app ∈ st.applied, WritesFreshIds env app.cls
    app.spec.targetProjection app.entity app.spec.parameters app.rng app.before) →
      UniqueIds st.views ∧ ∀ app ∈ st.applied, UniqueIds app.before ∧ UniqueIds app.after ∧
        app.Addresses) (fun _ => ⟨hids.start, fun _ happ => nomatch happ⟩) ?_ h
  intro st app hI hoccurs hfresh
  obtain ⟨hviews, happlied⟩ := hI fun a ha => hfresh a (List.mem_append_left _ ha)
  obtain ⟨g, hrun⟩ := hoccurs.runs
  have hbefore : UniqueIds app.before := hoccurs.before ▸ hviews
  have hafter : UniqueIds app.after := DefectClass.uniqueIds hoccurs.reachable.shaped hbefore hrun
    (hfresh app (List.mem_append_right _ (List.mem_singleton_self _)))
  refine ⟨hafter, fun a ha => ?_⟩
  rcases List.mem_append.mp ha with ha | ha
  · exact happlied a ha
  · rw [List.mem_singleton.mp ha]
    exact ⟨hbefore, hafter, hbefore.addresses⟩

/-- The ids of the sample are unique. -/
theorem GoldenTwin.sample_uniqueIds : GoldenTwin.sample.UniqueIds := by
  intro t _
  cases t <;> decide

/-- Splitting the identity of the router once. -/
def splitRouter : DefectSpec := .sample "s" SplitIdentity.name .catalog "PhysicalRouter" []

theorem ids_stay_unique_sample :
    (∃ app ∈ (runOn .plain (.sample [splitRouter]) .sample).2.applied,
        app.mutation.kind = "duplicate_row") ∧
      UniqueIds (runOn .plain (.sample [splitRouter]) .sample).2.views := by
  refine ⟨by decide +kernel,
    (ids_stay_unique .plain (.sample [splitRouter]) .sample GoldenTwin.sample_uniqueIds ?_).1⟩
  have hcells : ∀ app ∈ (runOn .plain (.sample [splitRouter]) .sample).2.applied,
      app.cls = .single .splitIdentity ∧ app.entity.table = "PhysicalRouter" ∧
        (findIn app.before .catalog app.entity).map (fun ref =>
          (ref.loc, SplitIdentity.originalName ref.row)) =
            some ((.catalog, .physicalRouter), .ok "pe1") ∧
        ∀ row ∈ app.before (.catalog, .physicalRouter),
          (row.get "id").eq (.str ("router:" ++ SplitIdentity.cloneName .plain "pe1")) = false := by
    decide +kernel
  intro app happ
  obtain ⟨hcls, htable, hfind, hids⟩ := hcells app happ
  rw [hcls]
  rintro - ref original kind href horiginal (⟨-, rfl⟩ | ⟨hdevice, -⟩)
  · rw [href, Option.map_some, horiginal, Option.some.injEq, Prod.mk.injEq] at hfind
    obtain ⟨hloc, hname⟩ := hfind
    rw [hloc, Except.ok.inj hname]
    exact hids
  · rw [htable] at hdevice
    exact absurd hdevice (by decide)

/-- The second split gives the clone the id that the first one took. -/
theorem splitTwice_collides :
    GoldenTwin.sample.Valid .plain ∧ GoldenTwin.sample.UniqueIds ∧
      (runOn .plain (.sample [splitRouter, splitRouter]) .sample).1 = .ok () ∧
      ¬UniqueIds (runOn .plain (.sample [splitRouter, splitRouter]) .sample).2.views := by
  refine ⟨GoldenTwin.sample_valid, GoldenTwin.sample_uniqueIds, by decide +kernel, fun h => ?_⟩
  have hnone := (h (.catalog, .physicalRouter)).eq_none (i := 1) (j := 2) (by decide) rfl rfl
    (by decide +kernel)
  exact absurd hnone (by decide +kernel)

end GnnSandbox.Bench
