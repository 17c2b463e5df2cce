import GnnSandbox.Bench.UniqueIds

/-!
# What a selection makes of the candidates

`select_entities` filters the candidates of a class and takes some of them by their ids, by number
or at random. The filter looks at the row that `find` returns in the projection to be mutated.
Classes that work on both projections pass none, so that their candidates are not filtered.
-/

namespace GnnSandbox.Bench

open Raise

variable {env : Env}

/-! ## The meaning of a selection -/

/-- The row of the candidate passes the filter. -/
def passesIn (v : Views) (side : Side) (flt : List (String × List Value)) (e : EntityRef) : Bool :=
  (findIn v side e).any fun ref => rowPassesFilter ref.row flt

/-- The candidates that the filter leaves: all of them when there is none to apply. -/
def filteredCandidates (spec : DefectSpec) (c : DefectClass) (v : Views)
    (candidates : List EntityRef) : List EntityRef :=
  match c.filterSide spec.targetProjection, spec.selection.filter with
  | some side, some (attr :: flt) => candidates.filter (passesIn v side (attr :: flt))
  | _, _ => candidates

/-- A filter is to be applied to an edge table, in which no row is found. -/
def FiltersEdges (spec : DefectSpec) (c : DefectClass) : Prop :=
  (c.filterSide spec.targetProjection).isSome ∧ spec.selection.filter.getD [] ≠ [] ∧
    ∃ t, Table.ofName (c.table spec.targetEntityType) = some t ∧ t.isEdge = true

/-- The chosen entities are what the selection of the spec asks for. -/
structure Honours (spec : DefectSpec) (c : DefectClass) (v : Views)
    (candidates chosen : List EntityRef) : Prop where
  /-- Each candidate is taken at most once. -/
  once : chosen.Subperm candidates
  passes : ∀ side flt, c.filterSide spec.targetProjection = some side →
    spec.selection.filter = some flt → flt ≠ [] → ¬FiltersEdges spec c →
      ∀ e ∈ chosen, passesIn v side flt e = true
  /-- A filter that can be satisfied leaves candidates. -/
  satisfiable : ∀ e ∈ candidates, (∀ side flt, c.filterSide spec.targetProjection = some side →
    spec.selection.filter = some flt → passesIn v side flt e = true) →
      e ∈ filteredCandidates spec c v candidates
  explicitIds : spec.selection.mode = .explicitIds → ¬FiltersEdges spec c →
    chosen = (filteredCandidates spec c v candidates).filter
      fun e => e.id ∈ spec.selection.ids.getD []
  fixedCount : spec.selection.mode = .fixedCount → ¬FiltersEdges spec c →
    chosen.Subperm (filteredCandidates spec c v candidates) ∧ (chosen.length : ℤ) =
      min (spec.selection.count.getD 0) (filteredCandidates spec c v candidates).length
  randomRate : spec.selection.mode = .randomRate → ¬FiltersEdges spec c →
    chosen.Sublist (filteredCandidates spec c v candidates)

/-! ## The steps of a selection -/

section Steps

variable {s s' : env.rng.State × Views} {entities chosen : List EntityRef}

/-- The filter drops the candidates whose row does not pass it. -/
theorem Runs.filterEntities_eq {side : Side} {flt : List (String × List Value)}
    (h : Runs (Bench.filterEntities side flt entities : Inject env _) s chosen s') :
    s' = s ∧ chosen = entities.filter fun e =>
      rowPassesFilter (((findIn s.2 side e).map Ref.row).getD []) flt := by
  induction entities generalizing chosen s' with
  | nil => exact ⟨(runs_pure.mp h).2, (runs_pure.mp h).1⟩
  | cons e entities ih =>
    unfold Bench.filterEntities at h
    obtain ⟨rest, t, hrest, h⟩ := runs_bind.mp (Runs.find_bind h)
    obtain ⟨rfl, rfl⟩ := ih hrest
    obtain ⟨rfl, rfl⟩ := runs_pure.mp h
    refine ⟨rfl, ?_⟩
    rw [List.filter_cons]

/-- Draws keep the order of the candidates. -/
theorem Runs.drawEntities_sublist {rate : Graph.Float64}
    (h : Runs (Bench.drawEntities rate entities : Inject env _) s chosen s') :
    chosen.Sublist entities := by
  induction entities generalizing s chosen s' with
  | nil => exact (runs_pure.mp h).1 ▸ List.Sublist.refl _
  | cons e entities ih =>
    unfold Bench.drawEntities at h
    obtain ⟨drawn, t, -, h⟩ := runs_bind.mp h
    obtain ⟨rest, u, hrest, h⟩ := runs_bind.mp h
    rw [(runs_pure.mp h).1]
    split
    · exact (ih hrest).cons_cons e
    · exact (ih hrest).cons e

/-- Distinct positions pick each item at most once. -/
theorem filterMap_getElem?_subperm {α : Type} {items : List α} {indices : List ℕ}
    (hnodup : indices.Nodup) (hlt : ∀ i ∈ indices, i < items.length) :
    (indices.filterMap fun i => items[i]?).Subperm items ∧
      (indices.filterMap fun i => items[i]?).length = indices.length := by
  have hall : (List.range items.length).filterMap (fun i => items[i]?) = items := by
    clear hlt
    induction items with
    | nil => rfl
    | cons a items ih =>
      rw [List.length_cons, List.range_succ_eq_map,
        List.filterMap_cons_some List.getElem?_cons_zero, List.filterMap_map]
      exact congrArg (a :: ·) ih
  have hsub : indices.Subperm (List.range items.length) :=
    List.subperm_of_subset hnodup fun i hi => List.mem_range.mpr (hlt i hi)
  obtain ⟨l, hperm, hsublist⟩ := hsub
  refine ⟨⟨l.filterMap fun i => items[i]?, hperm.filterMap _, ?_⟩, ?_⟩
  · conv_rhs => rw [← hall]
    exact hsublist.filterMap _
  · rw [List.length_filterMap_eq_countP, List.countP_eq_length]
    intro i hi
    rw [List.getElem?_eq_getElem (hlt i hi)]
    rfl

/-- A sample takes so many of the items, each at most once. -/
theorem Runs.sample_subperm {α : Type} {items l : List α} {k : ℤ}
    (h : Runs (Bench.sample items k : Inject env _) s l s') :
    l.Subperm items ∧ (l.length : ℤ) = k := by
  have hl := (Runs.sample h).1
  unfold Bench.sample at h
  split at h
  · next hk =>
    have hle : k.toNat ≤ items.length := by omega
    rw [hl]
    obtain ⟨hsub, hlength⟩ := filterMap_getElem?_subperm
      (env.rng.sample_nodup items.length k.toNat s.1 hle)
      (env.rng.sample_lt items.length k.toNat s.1 hle)
    refine ⟨hsub, ?_⟩
    rw [hlength, env.rng.sample_length items.length k.toNat s.1 hle]
    exact Int.toNat_of_nonneg hk.1
  · exact (runs_throw.mp h).elim

end Steps

/-! ## The selection of a class -/

section Selected

variable {spec : DefectSpec} {c : DefectClass} {s s' : env.rng.State × Views}
  {candidates chosen : List EntityRef}

/-- A candidate from an entity table is a row of it. -/
theorem Runs.findIn_candidate {side : Side} {params : Params}
    (hside : c.filterSide spec.targetProjection = some side)
    (hedge : ∀ t, Table.ofName (c.table spec.targetEntityType) = some t → t.isEdge = false)
    (h : Runs (c.applicableEntities spec.targetProjection params spec.targetEntityType :
      Inject env _) s candidates s') {e : EntityRef} (he : e ∈ candidates) :
    (findIn s.2 side e).isSome := by
  have hfound : ∀ {t : Table} {row : Row}, Table.ofName e.table = some t → t.isEdge = false →
      row ∈ s.2 (side, t) → row.get "id" = .str e.id → (findIn s.2 side e).isSome := by
    intro t row ht htedge hrow hid
    unfold findIn
    rw [ht]
    dsimp only
    rw [if_neg (Bool.eq_false_iff.mp htedge), Option.isSome_iff_ne_none]
    intro hnone
    have hne := findRow_eq_none.mp hnone row hrow
    rw [hid, Value.eq_str_str] at hne
    exact absurd rfl (of_decide_eq_false hne)
  have htable := Runs.candidates_table h e he
  rw [← htable] at hedge
  have hdefault : ∀ {className : String}, Runs (Bench.defaultEntities className side
      spec.targetEntityType (singleRef env)) s candidates s' → (findIn s.2 side e).isSome := by
    intro className hrun
    obtain ⟨t, -, row, hrow, href⟩ := Runs.defaultEntities hrun e he
    obtain ⟨hname, hkey⟩ := singleRef_eq_ok href
    have ht : Table.ofName e.table = some t := by rw [hname, Table.ofName_name]
    rcases hkey with hid | ⟨-, hkey⟩
    · exact hfound ht (hedge t ht) hrow hid
    · have hentity := hedge t ht
      cases t <;> first | exact absurd hentity (by decide) | cases hkey
  cases c with
  | cross c => cases hside
  | single c =>
    obtain rfl := Option.some.inj hside
    cases c with
    | asymmetricLink =>
      obtain ⟨hname, row, hrow, hid⟩ := Runs.linkEntities h e he
      have ht : Table.ofName e.table = some .physicalLink := by
        rw [hname]
        rfl
      exact hfound ht rfl hrow hid
    | _ => exact hdefault h

/-- What the filter keeps are the filtered candidates. -/
theorem Runs.keptEntities_eq {params : Params} {kept : List EntityRef}
    {t : env.rng.State × Views} (hedges : ¬FiltersEdges spec c)
    (h : Runs (c.applicableEntities spec.targetProjection params spec.targetEntityType :
      Inject env _) s candidates t)
    (hkept : Runs (keptEntities candidates spec.selection.filter
      (c.filterSide spec.targetProjection) : Inject env _) t kept s') (hviews : t.2 = s.2) :
    kept = filteredCandidates spec c s.2 candidates := by
  unfold filteredCandidates
  cases hside : c.filterSide spec.targetProjection with
  | none =>
    rw [hside] at hkept
    exact (runs_pure.mp hkept).1
  | some side =>
    cases hfilter : spec.selection.filter with
    | none =>
      rw [hside, hfilter] at hkept
      exact (runs_pure.mp hkept).1
    | some flt =>
      rw [hside, hfilter] at hkept
      cases flt with
      | nil => exact (runs_pure.mp hkept).1
      | cons attr flt =>
        have hedge : ∀ t, Table.ofName (c.table spec.targetEntityType) = some t →
            t.isEdge = false := fun t ht => Bool.eq_false_iff.mpr fun htedge => hedges
          ⟨Option.isSome_of_eq_some hside, by simp [hfilter], t, ht, htedge⟩
        rw [(Runs.filterEntities_eq hkept).2, hviews]
        refine List.filter_congr fun e he => ?_
        obtain ⟨ref, href⟩ := Option.isSome_iff_exists.mp (Runs.findIn_candidate hside hedge h he)
        unfold passesIn
        rw [href]
        rfl

/-- The filter only drops candidates. -/
theorem Runs.keptEntities_sublist {filter : Option (List (String × List Value))}
    {side : Option Side} {kept : List EntityRef}
    (h : Runs (keptEntities candidates filter side : Inject env _) s kept s') :
    kept.Sublist candidates := by
  unfold keptEntities at h
  split at h
  · rw [(Runs.filterEntities_eq h).2]
    exact List.filter_sublist
  · rw [(runs_pure.mp h).1]

/-- The mode takes some of the candidates that are kept. -/
theorem Runs.selectEntities_mode {selection : SelectionSpec} {side : Option Side}
    (h : Runs (Bench.selectEntities candidates selection side : Inject env _) s chosen s') :
    ∃ kept t, Runs (keptEntities candidates selection.filter side : Inject env _) s kept t ∧
      chosen.Subperm kept ∧
      (selection.mode = .explicitIds → chosen = kept.filter fun e => e.id ∈ selection.ids.getD []) ∧
      (selection.mode = .fixedCount →
        (chosen.length : ℤ) = min (selection.count.getD 0) kept.length) ∧
      (selection.mode = .randomRate → chosen.Sublist kept) := by
  unfold Bench.selectEntities at h
  obtain ⟨kept, t, hkept, h⟩ := runs_bind.mp h
  refine ⟨kept, t, hkept, ?_⟩
  cases hmode : selection.mode with
  | explicitIds =>
    rw [hmode] at h
    obtain ⟨rfl, -⟩ := runs_pure.mp h
    exact ⟨List.filter_sublist.subperm, fun _ => rfl, nofun, nofun⟩
  | randomRate =>
    rw [hmode] at h
    have hsub := Runs.drawEntities_sublist h
    exact ⟨hsub.subperm, nofun, nofun, fun _ => hsub⟩
  | fixedCount =>
    rw [hmode] at h
    dsimp only at h
    split at h
    · next hcount =>
      obtain ⟨rfl, -⟩ := runs_pure.mp h
      exact ⟨List.Subperm.refl _, nofun, fun _ => (min_eq_right hcount).symm, nofun⟩
    · next hcount =>
      obtain ⟨hsub, hlength⟩ := Runs.sample_subperm h
      exact ⟨hsub, nofun, fun _ => hlength.trans (min_eq_left (not_le.mp hcount).le).symm, nofun⟩

/-- **A selection is what its spec asks for.** -/
theorem Runs.selected_honours (h : Runs (selected env spec c) s chosen s') :
    ∃ candidates t, Runs (c.applicableEntities spec.targetProjection spec.parameters
        spec.targetEntityType : Inject env _) s candidates t ∧
      Honours spec c s.2 candidates chosen := by
  obtain ⟨candidates, t, hcandidates, hselect⟩ := runs_bind.mp h
  refine ⟨candidates, t, hcandidates, ?_⟩
  have hviews : t.2 = s.2 := (c.footprint_applicableEntities spec.targetProjection spec.parameters
    spec.targetEntityType subset_rfl).eq_of_reads hcandidates
  obtain ⟨kept, u, hkept, hsub, hexplicit, hfixed, hrandom⟩ := Runs.selectEntities_mode hselect
  have heq : ¬FiltersEdges spec c → kept = filteredCandidates spec c s.2 candidates :=
    fun hedges => Runs.keptEntities_eq hedges hcandidates hkept hviews
  refine ⟨hsub.trans (Runs.keptEntities_sublist hkept).subperm, ?_, ?_, ?_, ?_, ?_⟩
  · intro side flt hside hfilter hne hedges e he
    have hmem := hsub.subset he
    rw [heq hedges] at hmem
    unfold filteredCandidates at hmem
    rw [hside, hfilter] at hmem
    cases flt with
    | nil => exact absurd rfl hne
    | cons attr flt => exact (List.mem_filter.mp hmem).2
  · intro e he hpasses
    unfold filteredCandidates
    split
    · next side attr flt hside hfilter =>
      exact List.mem_filter.mpr ⟨he, hpasses side _ hside hfilter⟩
    · exact he
  · intro hmode hedges
    rw [← heq hedges]
    exact hexplicit hmode
  · intro hmode hedges
    rw [← heq hedges]
    exact ⟨hsub, hfixed hmode⟩
  · intro hmode hedges
    rw [← heq hedges]
    exact hrandom hmode

end Selected

/-! ## The calls of a spec -/

/-- The loop calls `apply` on the entities in their order, up to an exception. -/
theorem applyEntities_calls (sc : Scenario) (capturedAt : String) (spec : DefectSpec)
    (c : DefectClass) (entities : List EntityRef) (g : env.rng.State) (st : RunState env) :
    ∃ calls, (applyEntities env sc capturedAt spec c entities g st).2.applied =
        st.applied ++ calls ∧
      (calls.map Application.entity).IsPrefix entities := by
  induction entities generalizing g st with
  | nil => exact ⟨[], (List.append_nil _).symm, List.nil_prefix⟩
  | cons e entities ih =>
    unfold applyEntities
    split
    · exact ⟨[], (List.append_nil _).symm, List.nil_prefix⟩
    · next m g' views hrun =>
      split
      · obtain ⟨calls, happlied, hprefix⟩ := ih g'
          { st with views, applied := st.applied ++ [⟨spec, c, e, g, st.views, m, views, none⟩] }
        refine ⟨⟨spec, c, e, g, st.views, m, views, none⟩ :: calls, ?_, ?_⟩
        · rw [happlied, List.append_assoc, List.singleton_append]
        · exact (List.prefix_cons_inj e).mpr hprefix
      · split
        · exact ⟨[], (List.append_nil _).symm, List.nil_prefix⟩
        · next r hr =>
          obtain ⟨calls, happlied, hprefix⟩ := ih g'
            { views, counter := st.counter + 1,
              applied := st.applied ++ [⟨spec, c, e, g, st.views, m, views, some r⟩] }
          refine ⟨⟨spec, c, e, g, st.views, m, views, some r⟩ :: calls, ?_, ?_⟩
          · rw [happlied, List.append_assoc, List.singleton_append]
          · exact (List.prefix_cons_inj e).mpr hprefix

/-- **Selection honours its specification**: the entities to which a spec is applied are chosen
from the candidates of its class as the selection asks, and `apply` is called on them in their
order. -/
theorem selection_honoured (env : Env) (sc : Scenario) (capturedAt : String) (st : RunState env)
    {spec : DefectSpec} {c : DefectClass} {chosen : List EntityRef}
    {s' : env.rng.State × Views} (hc : resolve spec.className = .ok c)
    (h : Runs (selected env spec c) (env.rng.seeded sc.seed spec.id, st.views) chosen s') :
    ∃ candidates t, Runs (c.applicableEntities spec.targetProjection spec.parameters
        spec.targetEntityType) (env.rng.seeded sc.seed spec.id, st.views) candidates t ∧
      Honours spec c st.views candidates chosen ∧
      ∃ calls, (applyDefect env sc capturedAt spec st).2.applied = st.applied ++ calls ∧
        (calls.map Application.entity).IsPrefix chosen := by
  obtain ⟨candidates, t, hcandidates, hhonours⟩ := Runs.selected_honours h
  refine ⟨candidates, t, hcandidates, hhonours, ?_⟩
  unfold applyDefect
  rw [hc]
  have hrun : (selected env spec c).run (env.rng.seeded sc.seed spec.id, st.views) =
      .ok (chosen, s') := h
  dsimp only
  rw [hrun]
  exact applyEntities_calls sc capturedAt spec c chosen s'.1 { st with views := s'.2 }

/-! ### A filter that no router satisfies, and a router that is chosen twice -/

/-- A filter of routers by their role. -/
def byRole (role : String) : List (String × List Value) := [("role", [.str role])]

/-- The spec with a filter. -/
def DefectSpec.filtered (spec : DefectSpec) (flt : List (String × List Value)) : DefectSpec :=
  { spec with selection := { spec.selection with filter := some flt } }

/-- A conflict about the vendor of the routers. -/
def vendorConflict : DefectSpec :=
  .sample "c" AttributeConflict.name .both "PhysicalRouter" [("attribute", .str "vendor")]

/-- Removal of the vendor of the routers. -/
def missingVendor : DefectSpec :=
  .sample "m" MissingAttribute.name .catalog "PhysicalRouter" [("attribute", .str "vendor")]

/-- The routers of a role are split. -/
def splitByRole (role : String) : DefectSpec := splitRouter.filtered (byRole role)

/-- The router of the sample has the role. -/
theorem selection_honoured_sample :
    ∃ chosen s', Runs (selected .plain (splitByRole "PE") (.single .splitIdentity))
        ((), (RunState.start .plain .sample).views) chosen s' ∧ chosen ≠ [] ∧
      ∃ candidates, Honours (splitByRole "PE") (.single .splitIdentity)
        (RunState.start .plain .sample).views candidates chosen := by
  have hrun : Runs (selected .plain (splitByRole "PE") (.single .splitIdentity))
      ((), (RunState.start .plain .sample).views) [⟨"PhysicalRouter", "router:pe1"⟩]
      ((), (RunState.start .plain .sample).views) := rfl
  obtain ⟨candidates, -, -, h, -⟩ :=
    selection_honoured .plain (.sample []) "" (.start .plain .sample) rfl hrun
  exact ⟨_, _, hrun, by decide, candidates, h⟩

/-- A conflict is applied to a router that does not pass the filter of its spec, and after two
splits a class is applied to one entity twice. -/
theorem selection_not_honoured :
    GoldenTwin.sample.Valid .plain ∧
    (∃ app ∈ (runOn .plain (.sample [vendorConflict.filtered (byRole "none")]) .sample).2.applied,
      ∀ side ∈ [Side.catalog, .telemetry], (findIn app.before side app.entity).map
        (fun ref => rowPassesFilter ref.row (byRole "none")) = some false) ∧
    ¬(((runOn .plain (.sample [splitRouter, splitRouter, missingVendor]) .sample).2.applied.filter
      fun app => app.spec.id = "m").map Application.entity).Nodup := by
  refine ⟨GoldenTwin.sample_valid, ?_, ?_⟩
  · decide +kernel
  · decide +kernel

end GnnSandbox.Bench
