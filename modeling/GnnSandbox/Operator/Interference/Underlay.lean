import GnnSandbox.Operator.Interference.Basic

/-!
# Two faults of the underlay

Faults of different routers, and faults of one router that change different fields of it, are
swapped. Two area mismatches of one router interfere where their renames meet, two cost inflations
where one of the interfaces has a cost, and two traffic policies always.
-/

namespace GnnSandbox.Operator

open Cluster

/-! ## Faults of the underlay -/

/-- Neither fault of a router sees the other. -/
structure UnderlayFault.Independent (f g : UnderlayFault) (r : UnderlayRouter) : Prop where
  saveA : ∀ name, f.save name (g.change r) = f.save name r
  saveB : ∀ name, g.save name (f.change r) = g.save name r
  comm : g.change (f.change r) = f.change (g.change r)
  restorableA : f.restorable (g.change r) ↔ f.restorable r
  restorableB : g.restorable (f.change r) ↔ g.restorable r

section

variable {A B : NetworkFailure} {f g : UnderlayFault} {c cA cAB cB : Cluster}
  {savedA savedB saved : OriginalState} {router : String} {l : List UnderlayRouter}

/-- A fault of a router is not seen at the others. -/
theorem underlayRouter?_set_of_ne (hl : underlayRouters.get? c = some l) (hne : f.router ≠ router) :
    (underlayRouters.set (modifyFirst (fun r => r.name = f.router) f.change l) c).underlayRouter?
      router = c.underlayRouter? router := by
  rw [underlayRouter?_eq hl, underlayRouter?_eq (underlayRouters.get?_set _ hl)]
  refine find?_modifyFirst_of_disjoint (fun r hr => ?_) fun r => by rw [f.change_name]
  simp only [decide_eq_true_eq] at hr
  simp [hr, hne]

theorem underlayRouter?_set_self (hl : underlayRouters.get? c = some l) :
    (underlayRouters.set (modifyFirst (fun r => r.name = f.router) f.change l) c).underlayRouter?
      f.router = (c.underlayRouter? f.router).map f.change := by
  rw [underlayRouter?_eq hl, underlayRouter?_eq (underlayRouters.get?_set _ hl)]
  exact find?_modifyFirst fun r => by rw [f.change_name]

/-- Faults of routers are swapped unless they meet. -/
theorem swaps_of_underlay (hf : IsUnderlay A f) (hg : IsUnderlay B g)
    (hA : injectFailureOperator A c = .ok (savedA, cA))
    (hB : injectFailureOperator B cA = .ok (savedB, cAB))
    (hind : f.router = g.router → ∀ r, c.underlayRouter? f.router = some r → f.Independent g r) :
    ∃ cB, Swaps A B c cA cAB cB savedA savedB := by
  rw [hf.inject] at hA
  rw [hg.inject] at hB
  obtain ⟨name, l, r, hname, hl, hr, hsave, hcA⟩ := injectUnderlay_ok_iff.mp hA
  obtain ⟨name', l', r', hname', hl', hr', hsave', hcAB⟩ := injectUnderlay_ok_iff.mp hB
  rw [hcA, underlayName_set, hname] at hname'
  obtain rfl := Option.some.inj hname'
  rw [hcA, underlayRouters.get?_set _ hl] at hl'
  obtain rfl := Option.some.inj hl'
  have hlA : underlayRouters.get? cA = some _ := hcA ▸ underlayRouters.get?_set _ hl
  have hlB := underlayRouters.get?_set (modifyFirst (fun r => r.name = g.router) g.change l) hl
  have hrc : c.underlayRouter? f.router = some r := (underlayRouter?_eq hl).trans hr
  have hrA : cA.underlayRouter? g.router = some r' := (underlayRouter?_eq hlA).trans hr'
  have hcomm : modifyFirst (fun r => r.name = g.router) g.change
      (modifyFirst (fun r => r.name = f.router) f.change l) =
        modifyFirst (fun r => r.name = f.router) f.change
          (modifyFirst (fun r => r.name = g.router) g.change l) := by
    refine modifyFirst_comm (fun r _ => by rw [g.change_name]) (fun r _ => by rw [f.change_name]) ?_
    intro s hs hs'
    have hrouter : f.router = g.router := by
      have hname := List.find?_some hs
      have hname' := List.find?_some hs'
      simp only [decide_eq_true_eq] at hname hname'
      exact hname.symm.trans hname'
    exact (hind hrouter s ((underlayRouter?_eq hl).trans hs)).comm
  -- it remains to say what each injection finds and saves when the order is the other one
  have hswap : ∀ {r₁ r₂}, c.underlayRouter? g.router = some r₁ → g.save name r₁ = .ok savedB →
      (underlayRouters.set (modifyFirst (fun r => r.name = g.router) g.change l)
        c).underlayRouter? f.router = some r₂ → f.save name r₂ = .ok savedA →
      (f.restorable r₂ ↔ f.restorable r) → (g.restorable r' ↔ g.restorable r₁) →
      ∃ cB, Swaps A B c cA cAB cB savedA savedB := by
    intro r₁ r₂ hr₁ hsave₁ hr₂ hsave₂ hrestA hrestB
    refine ⟨underlayRouters.set (modifyFirst (fun r => r.name = g.router) g.change l) c, ?_, ?_,
      ?_, ?_⟩
    · rw [hg.inject]
      exact injectUnderlay_ok_iff.mpr
        ⟨name, l, r₁, hname, hl, (underlayRouter?_eq hl).symm.trans hr₁, hsave₁, rfl⟩
    · rw [hf.inject]
      refine injectUnderlay_ok_iff.mpr ⟨name, _, r₂, (underlayName_set _).trans hname, hlB,
        (underlayRouter?_eq hlB).symm.trans hr₂, hsave₂, ?_⟩
      rw [hcAB, hcA, underlayRouters.set_set, underlayRouters.set_set, hcomm]
    · rw [hf.restorable_iff hr₂, hf.restorable_iff hrc, hrestA]
    · rw [hg.restorable_iff hrA, hg.restorable_iff hr₁, hrestB]
  by_cases hrouter : f.router = g.router
  · have hindep := hind hrouter r hrc
    have hrcg : c.underlayRouter? g.router = some r := hrouter ▸ hrc
    have hr₂ : (underlayRouters.set (modifyFirst (fun r => r.name = g.router) g.change l)
        c).underlayRouter? f.router = some (g.change r) := by
      rw [hrouter, underlayRouter?_set_self hl, hrcg]
      rfl
    rw [hcA, ← hrouter, underlayRouter?_set_self hl, hrc] at hrA
    obtain rfl := Option.some.inj hrA
    rw [hindep.saveB] at hsave'
    exact hswap hrcg hsave' hr₂ ((hindep.saveA name).trans hsave) hindep.restorableA
      hindep.restorableB
  · have hr₁ : c.underlayRouter? g.router = some r' := by
      rw [hcA, underlayRouter?_set_of_ne hl hrouter] at hrA
      exact hrA
    exact hswap hr₁ hsave' ((underlayRouter?_set_of_ne hl (Ne.symm hrouter)).trans hrc) hsave
      Iff.rfl Iff.rfl

/-- A restoration ends in a cluster exactly when it leaves the router of that cluster. -/
theorem restoreUnderlay_set_iff {name : ResourceName} {r : UnderlayRouter}
    {undo change change' : UnderlayRouter → UnderlayRouter} {c' : Cluster}
    (hname : c.underlayName = some name) (hsaved : saved.underlayName = some name)
    (hl : underlayRouters.get? c = some l) (hr : l.find? (fun r => r.name = router) = some r)
    (hchange : ∀ r, (change r).name = r.name)
    (hc' : c' = underlayRouters.set (modifyFirst (fun r => r.name = router) change' l) c) :
    restoreUnderlay router saved undo
        (underlayRouters.set (modifyFirst (fun r => r.name = router) change l) c) = .ok c' ↔
      undo (change r) = change' r := by
  rw [hc', restoreUnderlay_of_name ((underlayName_set _).trans hname) hsaved
      (underlayRouters.get?_set _ hl), Except.ok.injEq, underlayRouters.set_set, StatePart.set_inj hl,
    modifyFirst_modifyFirst fun r => by rw [hchange], modifyFirst_eq_iff hr]

/-- A fault that is injected has its router. -/
theorem IsUnderlay.exists_router (hf : IsUnderlay A f)
    (hA : injectFailureOperator A c = .ok (savedA, cA)) :
    ∃ r, c.underlayRouter? f.router = some r ∧ ∃ name, f.save name r = .ok savedA := by
  rw [hf.inject] at hA
  obtain ⟨name, l, r, -, hl, hr, hsave, -⟩ := injectUnderlay_ok_iff.mp hA
  exact ⟨r, (underlayRouter?_eq hl).trans hr, name, hsave⟩

/-- What two faults of one router save. -/
theorem saves_at_router (hf : IsUnderlay A f) (hg : IsUnderlay B g)
    (hA : injectFailureOperator A c = .ok (savedA, cA))
    (hB : injectFailureOperator B cA = .ok (savedB, cAB)) (hrouter : f.router = g.router)
    {r : UnderlayRouter} (hr : c.underlayRouter? f.router = some r) :
    ∃ name, f.save name r = .ok savedA ∧ g.save name (f.change r) = .ok savedB := by
  rw [hf.inject] at hA
  rw [hg.inject] at hB
  obtain ⟨name, l, r₁, hname, hl, hr₁, hsave, hcA⟩ := injectUnderlay_ok_iff.mp hA
  obtain ⟨name', l', r₂, hname', hl', hr₂, hsave', -⟩ := injectUnderlay_ok_iff.mp hB
  rw [hcA, underlayName_set, hname] at hname'
  obtain rfl := Option.some.inj hname'
  rw [underlayRouter?_eq hl, hr₁] at hr
  obtain rfl := Option.some.inj hr
  have hself := underlayRouter?_set_self (f := f) hl
  rw [← hcA, underlayRouter?_eq hl', underlayRouter?_eq hl, hr₁, hrouter, hr₂] at hself
  obtain rfl := Option.some.inj hself
  exact ⟨name, hsave, hsave'⟩

/-- Two faults of one router do not interfere exactly when their changes of it do not. -/
theorem noInterference_iff_at_router (hf : IsUnderlay A f) (hg : IsUnderlay B g)
    (hA : injectFailureOperator A c = .ok (savedA, cA))
    (hB : injectFailureOperator B cA = .ok (savedB, cAB)) (hrouter : f.router = g.router)
    {r : UnderlayRouter} (hr : c.underlayRouter? f.router = some r)
    (hsaves : ∀ name, ∃ saved, g.save name r = .ok saved) :
    NoInterference A B c cA cAB savedA savedB ↔
      f.undo savedA (g.change (f.change r)) = g.change r ∧ g.undo savedB (g.change r) = r ∧
      g.undo savedB (g.change (f.change r)) = f.change r ∧ f.undo savedA (f.change r) = r := by
  rw [hf.inject] at hA
  rw [hg.inject] at hB
  obtain ⟨name, l, r₁, hname, hl, hr₁, hsave, rfl⟩ := injectUnderlay_ok_iff.mp hA
  obtain ⟨name', l', r₂, hname', hl', hr₂, hsave', rfl⟩ := injectUnderlay_ok_iff.mp hB
  rw [underlayName_set, hname] at hname'
  obtain rfl := Option.some.inj hname'
  rw [underlayRouters.get?_set _ hl] at hl'
  obtain rfl := Option.some.inj hl'
  rw [underlayRouter?_eq hl] at hr
  obtain rfl := Option.some.inj (hr₁.symm.trans hr)
  obtain ⟨saved, hsaved⟩ := hsaves name
  have hnames : ∀ r, (g.change (f.change r)).name = r.name := fun r => by
    rw [g.change_name, f.change_name]
  have hc : c = underlayRouters.set (modifyFirst (fun r => r.name = f.router) id l) c := by
    rw [modifyFirst_id, underlayRouters.set_get? hl]
  rw [← hrouter, underlayRouters.set_set,
    modifyFirst_modifyFirst fun r => by rw [f.change_name]]
  have hB' : injectFailureOperator B c = .ok (saved,
      underlayRouters.set (modifyFirst (fun r => r.name = f.router) g.change l) c) := by
    rw [hg.inject]
    exact injectUnderlay_ok_iff.mpr
      ⟨name, l, r₁, hname, hl, hrouter ▸ hr₁, hsaved, by rw [hrouter]⟩
  rw [noInterference_iff_restores hB', hf.restore, hg.restore, ← hrouter,
    restoreUnderlay_set_iff hname (f.saved_name hsave) hl hr₁ hnames rfl,
    restoreUnderlay_set_iff hname (g.saved_name hsave') hl hr₁ g.change_name hc,
    restoreUnderlay_set_iff hname (g.saved_name hsave') hl hr₁ hnames rfl,
    restoreUnderlay_set_iff hname (f.saved_name hsave) hl hr₁ f.change_name hc]
  rfl

/-- Faults that overwrite each other at a router do not interfere only if they change nothing. -/
theorem noInterference_iff_of_same_router (hf : IsUnderlay A f) (hg : IsUnderlay B g)
    (hA : injectFailureOperator A c = .ok (savedA, cA))
    (hB : injectFailureOperator B cA = .ok (savedB, cAB)) (hrouter : f.router = g.router)
    {r : UnderlayRouter} (hr : c.underlayRouter? f.router = some r)
    (hsaves : ∀ name, ∃ saved, g.save name r = .ok saved)
    (hoverA : ∀ saved, f.undo saved (g.change (f.change r)) = f.undo saved (f.change r))
    (hoverB : ∀ saved, g.undo saved (g.change (f.change r)) = g.undo saved (g.change r)) :
    NoInterference A B c cA cAB savedA savedB ↔
      (f.change r = r ∧ g.change r = r) ∧ Restorable A c ∧ Restorable B c := by
  obtain ⟨name, hsaveA, hsaveB⟩ := saves_at_router hf hg hA hB hrouter hr
  rw [noInterference_iff_at_router hf hg hA hB hrouter hr hsaves, hoverA, hoverB,
    hf.restorable_iff hr, hg.restorable_iff (hrouter ▸ hr)]
  constructor
  · rintro ⟨hAB, hB, hBA, hA⟩
    have hchangeB : g.change r = r := hAB.symm.trans hA
    have hchangeA : f.change r = r := hBA.symm.trans hB
    rw [hchangeA] at hsaveB
    exact ⟨⟨hchangeA, hchangeB⟩, (f.undo_change_iff hsaveA).mp hA, (g.undo_change_iff hsaveB).mp hB⟩
  · rintro ⟨⟨hchangeA, hchangeB⟩, hrestA, hrestB⟩
    rw [hchangeA] at hsaveB
    have hA := (f.undo_change_iff hsaveA).mpr hrestA
    have hB := (g.undo_change_iff hsaveB).mpr hrestB
    exact ⟨hA.trans hchangeB.symm, hB, hB.trans hchangeA.symm, hA⟩

end

/-! ### Faults that are apart -/

section

variable {A B : NetworkFailure} {r : UnderlayRouter} {o : Ospf}

theorem UnderlayFault.Independent.symm {f g : UnderlayFault} (h : f.Independent g r) :
    g.Independent f r :=
  ⟨h.saveB, h.saveA, h.comm.symm, h.restorableB, h.restorableA⟩

/-- The policy and the areas of a router are apart. -/
theorem independent_packet_area : (packetFault A).Independent (areaFault B) r where
  saveA _ := rfl
  saveB _ := rfl
  comm := rfl
  restorableA := Iff.rfl
  restorableB := Iff.rfl

/-- The policy and the costs of a router are apart. -/
theorem independent_packet_cost : (packetFault A).Independent (costFault B) r where
  saveA _ := rfl
  saveB _ := rfl
  comm := rfl
  restorableA := Iff.rfl
  restorableB := Iff.rfl

/-- The areas and the costs of a router are apart, if it has OSPF settings. -/
theorem independent_area_cost (h : r.ospf? = some o) :
    (areaFault A).Independent (costFault B) r := by
  obtain ⟨_, _, _, _⟩ := r
  obtain ⟨⟨_, _⟩, rfl, hospf⟩ := Option.bind_eq_some_iff.mp h
  obtain rfl : _ = some o := hospf
  refine ⟨fun _ => rfl, fun _ => rfl, rfl, ?_, Iff.rfl⟩
  show AreasRestorable _ _ _ ↔ AreasRestorable _ _ _
  unfold AreasRestorable
  simp [UnderlayRouter.ospf?, costFault, UnderlayRouter.withOspf]

/-- A router whose cost is restorable has OSPF settings. -/
theorem CostRestorable.ospf? {interface : String} (h : CostRestorable interface r) :
    ∃ o, r.ospf? = some o := by
  obtain ⟨l, hl, -⟩ := h
  obtain ⟨o, ho, -⟩ := Option.bind_eq_some_iff.mp hl
  exact ⟨o, ho⟩

/-- So has one whose area was changed. -/
theorem ospf?_of_save {name : ResourceName} {saved : OriginalState}
    (h : (areaFault nf).save name r = .ok saved) : ∃ o, r.ospf? = some o := by
  obtain ⟨o, ho, -⟩ := map_ospfItem_ok_iff.mp h
  exact ⟨o, ho⟩

end

/-! ### Two area mismatches of one router -/

/-- An area with the correct name replaced, as the injection does. -/
def moved (correctArea wrongArea : String) (a : Area) : Area :=
  if a.area = correctArea then { a with area := wrongArea } else a

/-- An area with the wrong name replaced, as the restoration does. -/
def movedBack (correctArea wrongArea : String) (a : Area) : Area :=
  if a.area = wrongArea then { a with area := correctArea, type := some "backbone" } else a

/-- Where each of two renames is undone without harm to the other. -/
theorem movedBack_moved_iff {cA wA cB wB : String} {a : Area}
    (hA : (a.area = cA → a.type = some "backbone") ∧ (a.area = wA → wA = cA))
    (hB : (a.area = cB → a.type = some "backbone") ∧ (a.area = wB → wB = cB)) :
    (movedBack cA wA (moved cB wB (moved cA wA a)) = moved cB wB a ∧
      movedBack cB wB (moved cB wB (moved cA wA a)) = moved cA wA a) ↔
    wA = cA ∨ wB = cB ∨ (a.area = cA → cA ≠ cB ∧ wA ≠ cB ∧ wA ≠ wB) ∧
      (a.area = cB → cA ≠ cB ∧ wA ≠ wB) := by
  obtain ⟨area, type, other⟩ := a
  unfold movedBack moved
  grind

/-- The renames of two faults do not meet in the areas. -/
def AreasSeparate (cA wA cB wB : String) (areas : List Area) : Prop :=
  wA = cA ∨ wB = cB ∨ ∀ a ∈ areas, (a.area = cA → cA ≠ cB ∧ wA ≠ cB ∧ wA ≠ wB) ∧
    (a.area = cB → cA ≠ cB ∧ wA ≠ wB)

/-- What two renames leave when one of them is undone. -/
theorem restoredAreas_of_two {cA wA cB wB : String} {areas : List Area} (hne : areas ≠ [])
    (hA : ∀ a ∈ areas, (a.area = cA → a.type = some "backbone") ∧ (a.area = wA → wA = cA))
    (hB : ∀ a ∈ areas, (a.area = cB → a.type = some "backbone") ∧ (a.area = wB → wB = cB)) :
    (restoredAreas cA wA (mismatchedAreas cB wB (mismatchedAreas cA wA areas)) =
        mismatchedAreas cB wB areas ∧
      restoredAreas cB wB (mismatchedAreas cB wB (mismatchedAreas cA wA areas)) =
        mismatchedAreas cA wA areas) ↔ AreasSeparate cA wA cB wB areas := by
  have hmap : ∀ c w, mismatchedAreas c w areas = areas.map (moved c w) := fun c w => if_neg hne
  have hboth : mismatchedAreas cB wB (mismatchedAreas cA wA areas) =
      (areas.map (moved cA wA)).map (moved cB wB) := by
    rw [hmap]
    exact if_neg fun hnil => hne (List.map_eq_nil_iff.mp hnil)
  have hback : ∀ c w l, restoredAreas c w l = l.map (movedBack c w) := fun _ _ _ => rfl
  rw [hboth, hmap, hmap, hback, hback]
  simp only [List.map_map, List.map_inj_left]
  rw [← forall₂_and]
  unfold AreasSeparate
  by_cases htriv : wA = cA ∨ wB = cB
  · refine iff_of_true (fun a ha => (movedBack_moved_iff (hA a ha) (hB a ha)).mpr ?_) ?_
    · exact htriv.imp_right .inl
    · exact htriv.imp_right .inl
  · obtain ⟨hneA, hneB⟩ := not_or.mp htriv
    rw [or_iff_right hneA, or_iff_right hneB]
    refine forall₂_congr fun a ha => ?_
    refine (movedBack_moved_iff (hA a ha) (hB a ha)).trans ?_
    rw [or_iff_right hneA, or_iff_right hneB]

section

variable {A B : NetworkFailure} {c cA cAB : Cluster} {savedA savedB : OriginalState}
  {r : UnderlayRouter} {o : Ospf}

/-- What two mismatches leave of a router when one of them is undone. -/
theorem areas_undo_iff {cA wA cB wB : String} (ho : r.ospf? = some o)
    (hA : AreasRestorable cA wA r) (hB : AreasRestorable cB wB r) :
    let change := fun c w => UnderlayRouter.mapOspf fun o =>
      { o with areas := some (mismatchedAreas c w (o.areas.getD [])) }
    let undo := fun c w => UnderlayRouter.mapOspf fun o =>
      { o with areas := o.areas.map (restoredAreas c w) }
    undo cA wA (change cB wB (change cA wA r)) = change cB wB r ∧
      undo cB wB (change cB wB (change cA wA r)) = change cA wA r ↔
      AreasSeparate cA wA cB wB (o.areas.getD []) := by
  simp only [mapOspf_mapOspf, mapOspf_eq_iff ho]
  obtain ⟨hne, hareasA⟩ := hA o ho
  obtain ⟨-, hareasB⟩ := hB o ho
  rw [← restoredAreas_of_two hne hareasA hareasB]
  simp

theorem noInterference_iff_of_areas (htypeA : A.failureType = .ospfAreaMismatch)
    (htypeB : B.failureType = .ospfAreaMismatch)
    (hA : injectFailureOperator A c = .ok (savedA, cA))
    (hB : injectFailureOperator B cA = .ok (savedB, cAB))
    (hrouter : A.target.router = B.target.router)
    (hr : c.underlayRouter? A.target.router = some r) (ho : r.ospf? = some o) :
    NoInterference A B c cA cAB savedA savedB ↔
      (Restorable A c ∧ Restorable B c) ∧
        AreasSeparate (A.parameters.correctArea.getD "0.0.0.0")
          (A.parameters.wrongArea.getD "0.0.0.99") (B.parameters.correctArea.getD "0.0.0.0")
          (B.parameters.wrongArea.getD "0.0.0.99") (o.areas.getD []) := by
  have hf := isUnderlay_areaFault htypeA
  have hg := isUnderlay_areaFault htypeB
  have hsaves : ∀ name, ∃ saved, (areaFault B).save name r = .ok saved :=
    fun name => ⟨_, map_ospfItem_ok_iff.mpr ⟨o, ho, rfl⟩⟩
  obtain ⟨name, hsaveA, hsaveB⟩ := saves_at_router hf hg hA hB hrouter hr
  rw [noInterference_iff_at_router hf hg hA hB hrouter hr hsaves, hf.restorable_iff hr,
    hg.restorable_iff (hrouter ▸ hr)]
  obtain ⟨_, -, rfl⟩ := map_ospfItem_ok_iff.mp hsaveA
  obtain ⟨_, -, rfl⟩ := map_ospfItem_ok_iff.mp hsaveB
  have hundoA := (areaFault A).undo_change_iff hsaveA
  have hundoB := (areaFault B).undo_change_iff (map_ospfItem_ok_iff.mpr ⟨o, ho, rfl⟩ :
    (areaFault B).save name r = _)
  constructor
  · rintro ⟨hAB, hB, hBA, hA⟩
    have hrestA := hundoA.mp hA
    have hrestB := hundoB.mp hB
    exact ⟨⟨hrestA, hrestB⟩, (areas_undo_iff ho hrestA hrestB).mp ⟨hAB, hBA⟩⟩
  · rintro ⟨⟨hrestA, hrestB⟩, hseparate⟩
    obtain ⟨hAB, hBA⟩ := (areas_undo_iff ho hrestA hrestB).mpr hseparate
    exact ⟨hAB, hundoB.mpr hrestB, hBA, hundoA.mpr hrestA⟩

end

/-! ### Two cost inflations of one router -/

theorem otherCosts_interfaceCost_of_ne {i j : String} (h : i ≠ j) (cost : ℤ) :
    otherCosts i [interfaceCost j cost] = [interfaceCost j cost] := by
  simp [otherCosts, interfaceCost, Ne.symm h]

theorem append_interfaceCost_ne {i j : String} (h : i ≠ j) {a b : ℤ} {l l' : List InterfaceCost} :
    l ++ [interfaceCost i a] ≠ l' ++ [interfaceCost j b] := by
  intro heq
  have hlast := List.append_inj_right' heq rfl
  simp [interfaceCost, h] at hlast

/-- Where the costs of two interfaces are each undone without harm to the other. -/
theorem costs_undo_iff {i j : String} (hne : i ≠ j) {a b : ℤ} {l : List InterfaceCost} :
    (restoredCosts i (costOf i l) (inflatedCosts j b (inflatedCosts i a l)) = inflatedCosts j b l ∧
      restoredCosts j (costOf j (inflatedCosts i a l)) (inflatedCosts j b l) = l ∧
      restoredCosts j (costOf j (inflatedCosts i a l)) (inflatedCosts j b (inflatedCosts i a l)) =
        inflatedCosts i a l ∧
      restoredCosts i (costOf i l) (inflatedCosts i a l) = l) ↔
    otherCosts i l = l ∧ otherCosts j l = l := by
  constructor
  · rintro ⟨hAB, hB, hBA, hA⟩
    unfold restoredCosts inflatedCosts at *
    constructor
    · by_cases hcost : costOf i l = 1
      · simpa [hcost] using hA
      · rw [if_pos hcost, otherCosts_append, otherCosts_interfaceCost_of_ne hne] at hAB
        exact absurd hAB (append_interfaceCost_ne hne)
    · by_cases hcost : costOf j (otherCosts i l ++ [interfaceCost i a]) = 1
      · simpa [hcost] using hB
      · rw [if_pos hcost] at hBA
        exact absurd hBA (append_interfaceCost_ne (Ne.symm hne))
  · rintro ⟨hi, hj⟩
    have hcost : costOf j (inflatedCosts i a l) = 1 := by
      refine costOf_of_absent ?_
      unfold inflatedCosts
      rw [hi, otherCosts_append, hj, otherCosts_interfaceCost_of_ne (Ne.symm hne)]
    rw [hcost, costOf_of_absent hi]
    unfold restoredCosts inflatedCosts
    simp only [hi, hj, otherCosts_append, otherCosts_interfaceCost,
      otherCosts_interfaceCost_of_ne hne, otherCosts_interfaceCost_of_ne (Ne.symm hne),
      List.append_nil, ne_eq, not_true_eq_false, if_false, and_self]

theorem otherCosts_eq_self_iff {i : String} {l : List InterfaceCost} :
    otherCosts i l = l ↔ ∀ ic ∈ l, ic.interface ≠ some i := by
  unfold otherCosts
  rw [List.filter_eq_self]
  simp

section

variable {A B : NetworkFailure} {c cA cAB : Cluster} {savedA savedB : OriginalState}
  {r : UnderlayRouter} {o : Ospf}

theorem noInterference_iff_of_costs (htypeA : A.failureType = .ospfCostInflation)
    (htypeB : B.failureType = .ospfCostInflation)
    (hA : injectFailureOperator A c = .ok (savedA, cA))
    (hB : injectFailureOperator B cA = .ok (savedB, cAB))
    (hrouter : A.target.router = B.target.router)
    (hne : A.target.interface.getD "" ≠ B.target.interface.getD "")
    (hr : c.underlayRouter? A.target.router = some r) :
    NoInterference A B c cA cAB savedA savedB ↔
      (Restorable A c ∧ Restorable B c) ∧ ∀ ic ∈ r.costs,
        ic.interface ≠ some (A.target.interface.getD "") ∧
        ic.interface ≠ some (B.target.interface.getD "") := by
  have hf := isUnderlay_costFault htypeA
  have hg := isUnderlay_costFault htypeB
  obtain ⟨name, hsaveA, hsaveB⟩ := saves_at_router hf hg hA hB hrouter hr
  rw [noInterference_iff_at_router hf hg hA hB hrouter hr fun _ => ⟨_, rfl⟩,
    hf.restorable_iff hr, hg.restorable_iff (hrouter ▸ hr)]
  have hundoA := (costFault A).undo_change_iff hsaveA
  by_cases hcosts : ∃ l, r.ospf?.bind Ospf.interfaceCosts = some l
  · obtain ⟨l, hl⟩ := hcosts
    have hcosts : r.costs = l := by
      unfold UnderlayRouter.costs
      rw [hl]
      rfl
    obtain ⟨_, _, _, _⟩ := r
    obtain ⟨⟨_, _, _⟩, ho, rfl⟩ := Option.bind_eq_some_iff.mp hl
    obtain ⟨⟨_, _⟩, rfl, rfl⟩ := Option.bind_eq_some_iff.mp ho
    cases hsaveA
    cases hsaveB
    rw [hcosts, forall₂_and, ← otherCosts_eq_self_iff, ← otherCosts_eq_self_iff]
    refine Iff.trans ?_ (and_iff_right_of_imp fun habsent =>
      ⟨⟨l, rfl, .inl habsent.1⟩, l, rfl, .inl habsent.2⟩).symm
    rw [← costs_undo_iff hne (a := A.parameters.ospfCost.getD 65535)
      (b := B.parameters.ospfCost.getD 65535)]
    simp [costFault, UnderlayRouter.withOspf, UnderlayRouter.mapOspf, UnderlayRouter.costs,
      UnderlayRouter.ospf?]
  · refine iff_of_false (fun h => ?_) fun h => ?_
    · obtain ⟨l, hl, -⟩ := hundoA.mp h.2.2.2
      exact hcosts ⟨l, hl⟩
    · obtain ⟨l, hl, -⟩ := h.1.1
      exact hcosts ⟨l, hl⟩

end

end GnnSandbox.Operator
