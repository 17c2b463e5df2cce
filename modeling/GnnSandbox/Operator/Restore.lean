import GnnSandbox.Lib.First
import GnnSandbox.Operator.Parts

/-!
# Restoring what was injected

`restore_failure_operator` is meant to patch the resource back to what it was. What it writes back
was saved only in part: a default stands for an absent field, an empty list for a missing one, and
a rename is undone by its target. For each fault, `Restorable` says when that is enough.
-/

namespace GnnSandbox.Operator

open Cluster

/-! ## When a fault can be restored -/

/-- The router entry of the underlay that the faults of a router are about. -/
def Cluster.underlayRouter? (router : String) (c : Cluster) : Option UnderlayRouter :=
  (underlayRouters.get? c).bind (List.find? fun r => r.name = router)

/-- The MTU is not given as the usual one, and is the same in all networks of that name. -/
def MtuRestorable (router interface : String) (c : Cluster) : Prop :=
  ∀ l net, networks.get? c = some l → targetNetwork router interface l = some net →
    net.mtu ≠ some 1500 ∧ ∀ other ∈ l, other.name = net.name → other.mtu = net.mtu

/-- The router has no traffic policy or one that is not null. -/
def PolicyRestorable (r : UnderlayRouter) : Prop := r.trafficPolicy ≠ some .null

/-- There are areas, the correct one is a backbone and the wrong one is not there. -/
def AreasRestorable (correctArea wrongArea : String) (r : UnderlayRouter) : Prop :=
  ∀ o, r.ospf? = some o → o.areas.getD [] ≠ [] ∧ ∀ a ∈ o.areas.getD [],
    (a.area = correctArea → a.type = some "backbone") ∧
    (a.area = wrongArea → wrongArea = correctArea)

/-- There are costs, and that of the interface is absent, or it is the last one and not 1. -/
def CostRestorable (interface : String) (r : UnderlayRouter) : Prop :=
  ∃ l, r.ospf?.bind Ospf.interfaceCosts = some l ∧ (otherCosts interface l = l ∨
    ∃ cost ≠ 1, otherCosts interface l ++ [interfaceCost interface cost] = l)

/-- The VRF that a fault is about: that of the first entry of the router that has it. -/
def Cluster.foundVrf? {α : Type} (find : VpnRouter → Option α) (router : String) (c : Cluster) :
    Option α :=
  (vpnRouters.get? c).bind fun l => (l.find? fun r => r.name = router ∧ (find r).isSome).bind find

/-- The VRF that is restored: that of the first entry of the router, if that has it. -/
def Cluster.firstVrf? {α : Type} (find : VpnRouter → Option α) (router : String) (c : Cluster) :
    Option α :=
  (vpnRouters.get? c).bind fun l => (l.find? fun r => r.name = router).bind find

/-- The VRF has no neighbours, or it has a list of them and is the one that is restored. -/
def NeighborsRestorable (router vrf : String) (c : Cluster) : Prop :=
  ∀ v, c.foundVrf? (VpnRouter.bgpVrf? vrf) router = some v →
    v.neighbors = some [] ∨
      v.neighbors.isSome ∧ (c.firstVrf? (VpnRouter.bgpVrf? vrf) router).isSome

/-- The VRF imports something, and it is the one that is restored or imports nothing that is
changed. -/
def RtRestorable (router vrf correctRt wrongRt : String) (c : Cluster) : Prop :=
  ∀ v, c.foundVrf? (VpnRouter.vrf? vrf) router = some v →
    ∃ rts, v.rtImport = some rts ∧ rts ≠ [] ∧
      ((c.firstVrf? (VpnRouter.vrf? vrf) router).isSome ∨
        misconfiguredRts correctRt wrongRt rts = rts)

/-- What a fault changes is written back as it was. -/
def Restorable (nf : NetworkFailure) (c : Cluster) : Prop :=
  let router := nf.target.router
  let interface := nf.target.interface.getD ""
  let vrf := nf.target.vrf.getD "global"
  match nf.failureType with
  | .mtuMismatch => MtuRestorable router interface c
  | .bgpSessionDown => NeighborsRestorable router vrf c
  | .packetCorruption => ∀ r, c.underlayRouter? router = some r → PolicyRestorable r
  | .ospfAreaMismatch => ∀ r, c.underlayRouter? router = some r →
      AreasRestorable (nf.parameters.correctArea.getD "0.0.0.0")
        (nf.parameters.wrongArea.getD "0.0.0.99") r
  | .ospfCostInflation => ∀ r, c.underlayRouter? router = some r → CostRestorable interface r
  | .vrfRtMisconfiguration => RtRestorable router vrf (nf.parameters.correctRt.getD "65035:1030")
      (nf.parameters.wrongRt.getD "65035:9999") c
  | _ => False

/-! ## MTU mismatch -/

section

variable {c c' : Cluster} {saved : OriginalState} {router interface vrf : String}

@[simp] theorem withMtu_withMtu (name : String) (mtu mtu' : Option ℤ) (l : List Network) :
    withMtu name mtu (withMtu name mtu' l) = withMtu name mtu l := by
  unfold withMtu
  rw [List.map_map]
  refine List.map_congr_left fun net _ => ?_
  by_cases h : net.name = name
  · simp [h]
  · simp [h]

theorem withMtu_eq_self_iff {name : String} {mtu : Option ℤ} {l : List Network} :
    withMtu name mtu l = l ↔ ∀ net ∈ l, net.name = name → net.mtu = mtu := by
  unfold withMtu
  rw [map_eq_self_iff]
  refine forall₂_congr fun net _ => ?_
  by_cases h : net.name = name
  · rw [if_pos h]
    constructor
    · intro heq _
      rw [← heq]
    · intro hmtu
      rw [← hmtu h]
  · rw [if_neg h]
    exact iff_of_true rfl fun heq => absurd heq h

/-- An MTU is written back as it was unless it was given as the usual one. -/
theorem restoredMtu_getD (mtu : Option ℤ) : restoredMtu (mtu.getD 1500) = mtu ↔ mtu ≠ some 1500 := by
  unfold restoredMtu
  cases mtu with
  | none => simp
  | some m =>
    by_cases h : m = 1500
    · simp [h]
    · simp [h]

theorem targetNetwork_name {l : List Network} {net : Network}
    (h : targetNetwork router interface l = some net) : net.name ≠ "" := by
  have hnet := List.find?_some h
  simp only [ne_eq, decide_eq_true_eq] at hnet
  exact hnet.1

theorem restoreMtu_iff {parameters : Parameters}
    (h : injectMtuMismatch router interface parameters c = .ok (saved, c')) :
    restoreMtuMismatch saved c' = .ok c ↔ MtuRestorable router interface c := by
  obtain ⟨name, l, net, hname, hl, hnet, rfl, rfl⟩ := injectMtuMismatch_ok_iff.mp h
  rw [restoreMtuMismatch_of_name ((infraName_set _).trans hname) (networks.get?_set _ hl)
    (targetNetwork_name hnet), Except.ok.injEq, networks.set_set, StatePart.set_eq_self_iff hl,
    withMtu_withMtu, withMtu_eq_self_iff]
  unfold MtuRestorable
  constructor
  · intro hall l' net' hl' hnet'
    obtain rfl := Option.some.inj (hl.symm.trans hl')
    obtain rfl := Option.some.inj (hnet.symm.trans hnet')
    have hself := (hall net (List.mem_of_find?_eq_some hnet) rfl).symm
    refine ⟨(restoredMtu_getD _).mp hself, fun other hother heq => ?_⟩
    exact (hall other hother heq).trans hself
  · intro hall other hother heq
    obtain ⟨hmtu, hothers⟩ := hall l net hl hnet
    rw [hothers other hother heq, (restoredMtu_getD _).mpr hmtu]

/-! ## Faults of a router of the underlay -/

theorem underlayRouter?_eq {l : List UnderlayRouter} (hl : underlayRouters.get? c = some l) :
    c.underlayRouter? router = l.find? fun r => r.name = router := by
  unfold Cluster.underlayRouter?
  rw [hl, Option.bind_some]

end

/-- A fault of a router of the underlay: what it saves, changes and undoes there. -/
structure UnderlayFault where
  router : String
  save : ResourceName → UnderlayRouter → Outcome OriginalState
  change : UnderlayRouter → UnderlayRouter
  undo : OriginalState → UnderlayRouter → UnderlayRouter
  restorable : UnderlayRouter → Prop
  saved_name : ∀ {name r saved}, save name r = .ok saved → saved.underlayName = some name
  change_name : ∀ r, (change r).name = r.name
  undo_change_iff : ∀ {name r saved}, save name r = .ok saved →
    (undo saved (change r) = r ↔ restorable r)

/-- A failure is injected and restored as the fault says. -/
structure IsUnderlay (nf : NetworkFailure) (f : UnderlayFault) : Prop where
  inject : injectFailureOperator nf = injectUnderlay f.router f.save f.change
  restore : ∀ saved, restoreFailureOperator nf saved =
    restoreUnderlay f.router saved (f.undo saved)
  restorable : ∀ c, Restorable nf c ↔
    ∀ r, c.underlayRouter? f.router = some r → f.restorable r

section

variable {nf : NetworkFailure} {f : UnderlayFault} {c c' : Cluster} {saved : OriginalState}
  {r : UnderlayRouter}

theorem IsUnderlay.restorable_iff (hf : IsUnderlay nf f)
    (hr : c.underlayRouter? f.router = some r) : Restorable nf c ↔ f.restorable r := by
  rw [hf.restorable, hr]
  simp

/-- Restoring is undoing the change of the router. -/
theorem IsUnderlay.restore_iff (hf : IsUnderlay nf f)
    (h : injectFailureOperator nf c = .ok (saved, c')) :
    restoreFailureOperator nf saved c' = .ok c ↔ Restorable nf c := by
  rw [hf.inject] at h
  obtain ⟨name, l, r, hname, hl, hr, hsaved, rfl⟩ := injectUnderlay_ok_iff.mp h
  rw [hf.restore, restoreUnderlay_of_name ((underlayName_set _).trans hname)
      (f.saved_name hsaved) (underlayRouters.get?_set _ hl), Except.ok.injEq,
    underlayRouters.set_set, StatePart.set_eq_self_iff hl,
    modifyFirst_modifyFirst fun r => by rw [f.change_name], modifyFirst_eq_self_iff hr,
    f.undo_change_iff hsaved, hf.restorable_iff ((underlayRouter?_eq hl).trans hr)]

end

/-! ### Packet corruption -/

/-- `PACKET_CORRUPTION` -/
def packetFault (nf : NetworkFailure) : UnderlayFault where
  router := nf.target.router
  save underlayName r := .ok
    { originalTrafficPolicy := r.policy, underlayName := some underlayName,
      hadExistingQdisc := some r.policy.isSome }
  change :=
    let interface := nf.target.interface.getD ""
    fun r => { r with trafficPolicy := some (corruptingPolicy nf.name interface nf.parameters) }
  undo saved r := { r with trafficPolicy := saved.originalTrafficPolicy }
  restorable := PolicyRestorable
  saved_name h := by cases h; rfl
  change_name _ := rfl
  undo_change_iff {_ r _} h := by
    cases h
    unfold PolicyRestorable UnderlayRouter.policy
    obtain ⟨_, _, policy, _⟩ := r
    cases policy with
    | none => simp
    | some policy => simp

theorem isUnderlay_packetFault {nf : NetworkFailure} (h : nf.failureType = .packetCorruption) :
    IsUnderlay nf (packetFault nf) where
  inject := by
    funext c
    unfold injectFailureOperator
    rw [h]
    rfl
  restore saved := by
    funext c
    unfold restoreFailureOperator
    rw [h]
    rfl
  restorable c := by
    unfold Restorable
    rw [h]
    rfl

/-! ### OSPF area mismatch -/

/-- Changing the OSPF settings twice. -/
theorem mapOspf_mapOspf (f g : Ospf → Ospf) (r : UnderlayRouter) :
    (r.mapOspf f).mapOspf g = r.mapOspf fun o => g (f o) := by
  unfold UnderlayRouter.mapOspf
  cases r.protocols with
  | none => rfl
  | some p => cases hp : p.ospf <;> simp [hp]

/-- Changes do the same to a router exactly when they do the same to its OSPF settings. -/
theorem mapOspf_eq_iff {f g : Ospf → Ospf} {r : UnderlayRouter} {o : Ospf}
    (h : r.ospf? = some o) : r.mapOspf f = r.mapOspf g ↔ f o = g o := by
  obtain ⟨name, protocols, policy, other⟩ := r
  obtain ⟨⟨ospf, rest⟩, rfl, hospf⟩ := Option.bind_eq_some_iff.mp h
  obtain rfl : ospf = some o := hospf
  simp [UnderlayRouter.mapOspf]

/-- A router stays the same exactly when its OSPF settings do. -/
theorem mapOspf_eq_self_iff {f : Ospf → Ospf} {r : UnderlayRouter} {o : Ospf}
    (h : r.ospf? = some o) : r.mapOspf f = r ↔ f o = o := by
  obtain ⟨name, protocols, policy, other⟩ := r
  obtain ⟨⟨ospf, rest⟩, rfl, hospf⟩ := Option.bind_eq_some_iff.mp h
  obtain rfl : ospf = some o := hospf
  simp [UnderlayRouter.mapOspf]

theorem map_ospfItem_ok_iff {α : Type} {f : Ospf → α} {r : UnderlayRouter} {a : α} :
    r.ospfItem.map f = .ok a ↔ ∃ o, r.ospf? = some o ∧ f o = a := by
  unfold UnderlayRouter.ospfItem UnderlayRouter.ospf?
  cases r.protocols with
  | none => simp [Except.map]
  | some p => cases hp : p.ospf <;> simp [hp, Except.map]

/-- Where the wrong area is renamed back. -/
theorem restoredAreas_mismatchedAreas_iff {correctArea wrongArea : String} {areas : List Area} :
    restoredAreas correctArea wrongArea (mismatchedAreas correctArea wrongArea areas) = areas ↔
      areas ≠ [] ∧ ∀ a ∈ areas, (a.area = correctArea → a.type = some "backbone") ∧
        (a.area = wrongArea → wrongArea = correctArea) := by
  unfold restoredAreas mismatchedAreas
  by_cases hnil : areas = []
  · simp [hnil]
  · rw [if_neg hnil, List.map_map, map_eq_self_iff, and_iff_right hnil]
    refine forall₂_congr fun a _ => ?_
    obtain ⟨area, type, other⟩ := a
    by_cases hcorrect : area = correctArea
    · subst hcorrect
      simp [eq_comm]
    · by_cases hwrong : area = wrongArea
      · subst hwrong
        simp [hcorrect, Ne.symm hcorrect]
      · simp [hcorrect, hwrong]

/-- `OSPF_AREA_MISMATCH` -/
def areaFault (nf : NetworkFailure) : UnderlayFault where
  router := nf.target.router
  save underlayName r := r.ospfItem.map fun _ =>
    { correctArea := some (nf.parameters.correctArea.getD "0.0.0.0"),
      wrongArea := some (nf.parameters.wrongArea.getD "0.0.0.99"),
      interface := some (nf.target.interface.getD ""), underlayName := some underlayName }
  change :=
    let correctArea := nf.parameters.correctArea.getD "0.0.0.0"
    let wrongArea := nf.parameters.wrongArea.getD "0.0.0.99"
    UnderlayRouter.mapOspf fun o =>
      { o with areas := some (mismatchedAreas correctArea wrongArea (o.areas.getD [])) }
  undo saved :=
    let correctArea := saved.correctArea.getD "0.0.0.0"
    let wrongArea := saved.wrongArea.getD "0.0.0.99"
    UnderlayRouter.mapOspf fun o =>
      { o with areas := o.areas.map (restoredAreas correctArea wrongArea) }
  restorable := AreasRestorable (nf.parameters.correctArea.getD "0.0.0.0")
    (nf.parameters.wrongArea.getD "0.0.0.99")
  saved_name h := by
    obtain ⟨_, -, rfl⟩ := map_ospfItem_ok_iff.mp h
    rfl
  change_name _ := rfl
  undo_change_iff h := by
    obtain ⟨o, ho, rfl⟩ := map_ospfItem_ok_iff.mp h
    rw [mapOspf_mapOspf, mapOspf_eq_self_iff ho]
    simp only [Option.some.injEq, forall_eq', AreasRestorable, ho]
    rw [← restoredAreas_mismatchedAreas_iff]
    obtain ⟨areas, costs, other⟩ := o
    cases areas with
    | none => simp [mismatchedAreas, restoredAreas]
    | some areas => simp

theorem isUnderlay_areaFault {nf : NetworkFailure} (h : nf.failureType = .ospfAreaMismatch) :
    IsUnderlay nf (areaFault nf) where
  inject := by
    funext c
    unfold injectFailureOperator
    rw [h]
    rfl
  restore saved := by
    funext c
    unfold restoreFailureOperator
    rw [h]
    rfl
  restorable c := by
    unfold Restorable
    rw [h]
    rfl

/-! ### OSPF cost inflation -/

@[simp] theorem otherCosts_append (i : String) (l l' : List InterfaceCost) :
    otherCosts i (l ++ l') = otherCosts i l ++ otherCosts i l' := List.filter_append ..

@[simp] theorem otherCosts_otherCosts (i : String) (l : List InterfaceCost) :
    otherCosts i (otherCosts i l) = otherCosts i l := by
  unfold otherCosts
  rw [List.filter_filter]
  simp

@[simp] theorem otherCosts_interfaceCost (i : String) (cost : ℤ) :
    otherCosts i [interfaceCost i cost] = [] := by
  simp [otherCosts, interfaceCost]

theorem find?_otherCosts (i : String) (l : List InterfaceCost) :
    (otherCosts i l).find? (fun ic => ic.interface = some i) = none := by
  rw [List.find?_eq_none]
  intro ic hic
  simpa using (List.mem_filter.mp hic).2

/-- An interface without an entry has the default cost. -/
theorem costOf_of_absent {i : String} {l : List InterfaceCost} (h : otherCosts i l = l) :
    costOf i l = 1 := by
  unfold costOf
  rw [← h, find?_otherCosts]

/-- An interface whose entry is the last one has its cost. -/
theorem costOf_of_last {i : String} {cost : ℤ} {l : List InterfaceCost}
    (h : otherCosts i l ++ [interfaceCost i cost] = l) : costOf i l = cost := by
  unfold costOf
  rw [← h, List.find?_append, find?_otherCosts]
  simp [interfaceCost]

/-- Where the cost of the interface is written back. -/
theorem restoredCosts_inflatedCosts_iff {i : String} {cost : ℤ} {l : List InterfaceCost} :
    restoredCosts i (costOf i l) (inflatedCosts i cost l) = l ↔
      otherCosts i l = l ∨ ∃ cost ≠ 1, otherCosts i l ++ [interfaceCost i cost] = l := by
  unfold restoredCosts inflatedCosts
  rw [otherCosts_append, otherCosts_otherCosts, otherCosts_interfaceCost, List.append_nil]
  constructor
  · intro h
    by_cases hcost : costOf i l = 1
    · rw [if_neg (not_not_intro hcost), List.append_nil] at h
      exact .inl h
    · rw [if_pos hcost] at h
      exact .inr ⟨costOf i l, hcost, h⟩
  · rintro (habsent | ⟨cost, hcost, hlast⟩)
    · rw [costOf_of_absent habsent, if_neg (not_not_intro rfl), List.append_nil]
      exact habsent
    · rw [costOf_of_last hlast, if_pos hcost]
      exact hlast

/-- `OSPF_COST_INFLATION` -/
def costFault (nf : NetworkFailure) : UnderlayFault where
  router := nf.target.router
  save underlayName r := .ok
    { originalOspfCost := some (costOf (nf.target.interface.getD "") r.costs),
      interface := some (nf.target.interface.getD ""), underlayName := some underlayName }
  change :=
    let interface := nf.target.interface.getD ""
    let cost := nf.parameters.ospfCost.getD 65535
    UnderlayRouter.withOspf fun o =>
      { o with interfaceCosts := some (inflatedCosts interface cost (o.interfaceCosts.getD [])) }
  undo saved :=
    let interface := nf.target.interface.getD ""
    let cost := saved.originalOspfCost.getD 1
    UnderlayRouter.mapOspf fun o =>
      { o with interfaceCosts := some (restoredCosts interface cost (o.interfaceCosts.getD [])) }
  restorable := CostRestorable (nf.target.interface.getD "")
  saved_name h := by cases h; rfl
  change_name _ := rfl
  undo_change_iff {_ r _} h := by
    cases h
    unfold CostRestorable
    obtain ⟨_, protocols, _, _⟩ := r
    cases protocols with
    | none => simp [UnderlayRouter.withOspf, UnderlayRouter.mapOspf, UnderlayRouter.ospf?]
    | some p =>
      obtain ⟨ospf, _⟩ := p
      cases ospf with
      | none => simp [UnderlayRouter.withOspf, UnderlayRouter.mapOspf, UnderlayRouter.ospf?]
      | some o =>
        obtain ⟨_, costs, _⟩ := o
        cases costs with
        | none => simp [UnderlayRouter.withOspf, UnderlayRouter.mapOspf, UnderlayRouter.ospf?]
        | some l =>
          simp [UnderlayRouter.withOspf, UnderlayRouter.mapOspf, UnderlayRouter.ospf?,
            UnderlayRouter.costs, restoredCosts_inflatedCosts_iff]

theorem isUnderlay_costFault {nf : NetworkFailure} (h : nf.failureType = .ospfCostInflation) :
    IsUnderlay nf (costFault nf) where
  inject := by
    funext c
    unfold injectFailureOperator
    rw [h]
    rfl
  restore saved := by
    funext c
    unfold restoreFailureOperator
    rw [h]
    rfl
  restorable c := by
    unfold Restorable
    rw [h]
    rfl

section

variable {c c' : Cluster} {saved : OriginalState} {router vrf : String}

/-! ## Faults of a VRF -/

/-- What the restoration looks at, in the list. -/
theorem firstVrf?_eq {α : Type} {find : VpnRouter → Option α} {l : List VpnRouter}
    (hl : vpnRouters.get? c = some l) :
    c.firstVrf? find router = (l.find? fun r => r.name = router).bind find := by
  unfold Cluster.firstVrf?
  rw [hl, Option.bind_some]

/-- If the first entry of the router has the VRF, that is where it is found. -/
theorem find?_name_of_first {α : Type} {find : VpnRouter → Option α} {l : List VpnRouter}
    {r : VpnRouter} (hl : vpnRouters.get? c = some l)
    (hr : l.find? (fun r => r.name = router ∧ (find r).isSome) = some r)
    (hfirst : (c.firstVrf? find router).isSome) :
    l.find? (fun r => r.name = router) = some r := by
  rw [firstVrf?_eq hl, Option.isSome_iff_exists] at hfirst
  obtain ⟨v, hv⟩ := hfirst
  obtain ⟨r₀, hr₀, hfind⟩ := Option.bind_eq_some_iff.mp hv
  have hname₀ : r₀.name = router := by simpa using List.find?_some hr₀
  rw [hr₀, ← hr]
  exact (find?_of_imp hr₀ (by simp [hname₀, hfind]) (by simp +contextual)).symm

/-- Else the first entry of the router is another one, without the VRF. -/
theorem find?_name_of_not_first {α : Type} {find : VpnRouter → Option α} {l : List VpnRouter}
    {r : VpnRouter} (hl : vpnRouters.get? c = some l)
    (hr : l.find? (fun r => r.name = router ∧ (find r).isSome) = some r)
    (hfirst : ¬(c.firstVrf? find router).isSome) :
    ∃ r₀, l.find? (fun r => r.name = router) = some r₀ ∧ find r₀ = none := by
  have hmem := List.find?_some hr
  simp only [Bool.decide_and, Bool.decide_eq_true, Bool.and_eq_true, decide_eq_true_eq] at hmem
  cases hr₀ : l.find? (fun r => r.name = router) with
  | none =>
    have hnone := List.find?_eq_none.mp hr₀ r (List.mem_of_find?_eq_some hr)
    exact absurd hmem.1 (by simpa using hnone)
  | some r₀ =>
    rw [firstVrf?_eq hl, hr₀, Option.bind_some, Option.not_isSome_iff_eq_none] at hfirst
    exact ⟨r₀, rfl, hfirst⟩

/-- Restoring is undoing the change, if the VRF is the one that is restored, and else it leaves the
change. -/
theorem restoreVpn_iff {α : Type} {find : VpnRouter → Option α} {l : List VpnRouter} {r : VpnRouter}
    {change undo : VpnRouter → VpnRouter} {name : ResourceName} (hname : c.l3vpnName = some name)
    (hl : vpnRouters.get? c = some l)
    (hr : l.find? (fun r => r.name = router ∧ (find r).isSome) = some r)
    (hchange : ∀ r, (change r).name = r.name) (hundo : ∀ r, find r = none → undo r = r) :
    restoreVpn router name undo (vpnRouters.set
        (modifyFirst (fun r => r.name = router ∧ (find r).isSome) change l) c) = .ok c ↔
      if (c.firstVrf? find router).isSome then undo (change r) = r else change r = r := by
  rw [restoreVpn_of_name ((l3vpnName_set _).trans hname) (vpnRouters.get?_set _ hl),
    Except.ok.injEq, vpnRouters.set_set, StatePart.set_eq_self_iff hl]
  split
  · rename_i hfirst
    have hr₀ := find?_name_of_first hl hr hfirst
    rw [modifyFirst_congr_find? hr hr₀, modifyFirst_modifyFirst fun r => by rw [hchange],
      modifyFirst_eq_self_iff hr₀]
  · rename_i hfirst
    obtain ⟨r₀, hr₀, hfind⟩ := find?_name_of_not_first hl hr hfirst
    -- the first entry of the router stays where it is
    have hstays := find?_modifyFirst_of_neg (f := change) hr₀
      (p := fun r => r.name = router ∧ (find r).isSome) (by simp [hfind]) fun r => by rw [hchange]
    rw [(modifyFirst_eq_self_iff hstays).mpr (hundo r₀ hfind), modifyFirst_eq_self_iff hr]

/-- The VRF that an injection finds. -/
theorem foundVrf?_eq {α : Type} {find : VpnRouter → Option α} {l : List VpnRouter} {r : VpnRouter}
    (hl : vpnRouters.get? c = some l)
    (hr : l.find? (fun r => r.name = router ∧ (find r).isSome) = some r) :
    c.foundVrf? find router = find r := by
  unfold Cluster.foundVrf?
  rw [hl, Option.bind_some, hr, Option.bind_some]

/-! ### BGP session down -/

@[simp] theorem mapBgpVrf_name (f : BgpVrf → BgpVrf) (r : VpnRouter) :
    (r.mapBgpVrf vrf f).name = r.name := rfl

theorem mapBgpVrf_mapBgpVrf {f g : BgpVrf → BgpVrf} (hf : ∀ v, (f v).name = v.name)
    (r : VpnRouter) :
    (r.mapBgpVrf vrf f).mapBgpVrf vrf g = r.mapBgpVrf vrf fun v => g (f v) := by
  obtain ⟨_, _, bgp, _⟩ := r
  unfold VpnRouter.mapBgpVrf
  cases bgp with
  | none => rfl
  | some b =>
    obtain ⟨vrfs, _⟩ := b
    cases vrfs with
    | none => rfl
    | some vrfs =>
      have h := modifyFirst_modifyFirst (l := vrfs) (f := f) (g := g)
        (p := fun v => v.name = vrf) fun v => by rw [hf]
      simp [h]

/-- A router stays the same exactly when its VRF does. -/
theorem mapBgpVrf_eq_self_iff {f : BgpVrf → BgpVrf} {r : VpnRouter} {v : BgpVrf}
    (h : r.bgpVrf? vrf = some v) : r.mapBgpVrf vrf f = r ↔ f v = v := by
  obtain ⟨_, _, bgp, _⟩ := r
  unfold VpnRouter.bgpVrf? at h
  unfold VpnRouter.mapBgpVrf
  cases bgp with
  | none => cases h
  | some b =>
    obtain ⟨vrfs, _⟩ := b
    cases vrfs with
    | none => cases h
    | some vrfs => simp [modifyFirst_eq_self_iff (show vrfs.find? _ = some v from h)]

/-- A router without the VRF stays the same. -/
theorem mapBgpVrf_of_none {f : BgpVrf → BgpVrf} {r : VpnRouter} (h : r.bgpVrf? vrf = none) :
    r.mapBgpVrf vrf f = r := by
  obtain ⟨_, _, bgp, _⟩ := r
  unfold VpnRouter.bgpVrf? at h
  unfold VpnRouter.mapBgpVrf
  cases bgp with
  | none => rfl
  | some b =>
    obtain ⟨vrfs, _⟩ := b
    cases vrfs with
    | none => rfl
    | some vrfs => simp [modifyFirst_of_find?_eq_none (show vrfs.find? _ = none from h)]

theorem restoreBgpSessionDown_iff {peerIp : String}
    (h : injectBgpSessionDown router peerIp vrf c = .ok (saved, c')) :
    restoreBgpSessionDown router vrf saved c' = .ok c ↔ NeighborsRestorable router vrf c := by
  obtain ⟨name, l, r, v, hname, hl, hr, hv, rfl, rfl⟩ := injectVpn_ok_iff.mp h
  refine (restoreVpn_iff hname hl hr (mapBgpVrf_name _) fun r => mapBgpVrf_of_none).trans ?_
  rw [mapBgpVrf_mapBgpVrf (f := fun v => { v with neighbors := some [] }) (fun _ => rfl),
    mapBgpVrf_eq_self_iff hv, mapBgpVrf_eq_self_iff hv]
  unfold NeighborsRestorable
  simp only [foundVrf?_eq hl hr, hv, Option.some.injEq, forall_eq']
  obtain ⟨_, neighbors, _⟩ := v
  cases neighbors with
  | none => simp
  | some neighbors =>
    by_cases hfirst : (c.firstVrf? (VpnRouter.bgpVrf? vrf) router).isSome
    · simp [hfirst]
    · simp [hfirst, eq_comm (b := neighbors)]

/-! ### VRF route target misconfiguration -/

@[simp] theorem mapVrf_name (f : VpnVrf → VpnVrf) (r : VpnRouter) : (r.mapVrf vrf f).name = r.name :=
  rfl

theorem mapVrf_mapVrf {f g : VpnVrf → VpnVrf} (hf : ∀ v, (f v).name = v.name) (r : VpnRouter) :
    (r.mapVrf vrf f).mapVrf vrf g = r.mapVrf vrf fun v => g (f v) := by
  obtain ⟨_, vrfs, _, _⟩ := r
  unfold VpnRouter.mapVrf
  cases vrfs with
  | none => rfl
  | some vrfs =>
    have h := modifyFirst_modifyFirst (l := vrfs) (f := f) (g := g)
      (p := fun v => v.name = vrf) fun v => by rw [hf]
    simp [h]

theorem mapVrf_eq_self_iff {f : VpnVrf → VpnVrf} {r : VpnRouter} {v : VpnVrf}
    (h : r.vrf? vrf = some v) : r.mapVrf vrf f = r ↔ f v = v := by
  obtain ⟨_, vrfs, _, _⟩ := r
  unfold VpnRouter.vrf? at h
  unfold VpnRouter.mapVrf
  cases vrfs with
  | none => cases h
  | some vrfs => simp [modifyFirst_eq_self_iff (show vrfs.find? _ = some v from h)]

theorem mapVrf_of_none {f : VpnVrf → VpnVrf} {r : VpnRouter} (h : r.vrf? vrf = none) :
    r.mapVrf vrf f = r := by
  obtain ⟨_, vrfs, _, _⟩ := r
  unfold VpnRouter.vrf? at h
  unfold VpnRouter.mapVrf
  cases vrfs with
  | none => rfl
  | some vrfs => simp [modifyFirst_of_find?_eq_none (show vrfs.find? _ = none from h)]

/-- Misconfigured route targets are never empty. -/
theorem misconfiguredRts_ne_nil (correctRt wrongRt : String) (rts : List String) :
    misconfiguredRts correctRt wrongRt rts ≠ [] := by
  unfold misconfiguredRts
  split
  · rename_i hmem
    intro hnil
    rw [List.map_eq_nil_iff.mp hnil] at hmem
    cases hmem
  · simp

/-- What is written back is never empty. -/
theorem restoredRts_ne_nil {parameters : Parameters} {rts : List String}
    (h : restoredRts saved parameters = some rts) : rts ≠ [] := by
  unfold restoredRts at h
  split at h
  · obtain ⟨rt, -, rfl⟩ := Option.map_eq_some_iff.mp h
    exact List.cons_ne_nil rt []
  · rename_i hne
    obtain rfl := Option.some.inj h
    exact hne

/-- Where the route targets of the VRF are written back. -/
theorem restoreRts_iff {name : ResourceName} {l : List VpnRouter} {r : VpnRouter} {v : VpnVrf}
    (correctRt wrongRt : String) (rts : List String) (hname : c.l3vpnName = some name)
    (hl : vpnRouters.get? c = some l)
    (hr : l.find? (fun r => r.name = router ∧ (r.vrf? vrf).isSome) = some r)
    (hv : r.vrf? vrf = some v) :
    restoreVpn router name (VpnRouter.mapVrf vrf fun v => { v with rtImport := some rts })
        (vpnRouters.set (modifyFirst (fun r => r.name = router ∧ (r.vrf? vrf).isSome)
          (VpnRouter.mapVrf vrf fun v =>
            { v with rtImport := some (misconfiguredRts correctRt wrongRt (v.rtImport.getD [])) }) l)
          c) = .ok c ↔
      v.rtImport = some (if (c.firstVrf? (VpnRouter.vrf? vrf) router).isSome then rts else
        misconfiguredRts correctRt wrongRt (v.rtImport.getD [])) := by
  refine (restoreVpn_iff hname hl hr (mapVrf_name _) fun r => mapVrf_of_none).trans ?_
  rw [mapVrf_mapVrf (f := fun v =>
    { v with rtImport := some (misconfiguredRts correctRt wrongRt (v.rtImport.getD [])) })
    (fun _ => rfl), mapVrf_eq_self_iff hv, mapVrf_eq_self_iff hv]
  obtain ⟨_, rtImport, _⟩ := v
  split
  · simp [eq_comm]
  · simp [eq_comm]

theorem restoreVrfRtMisconfiguration_iff {resourceNamespace : String} {parameters : Parameters}
    (h : injectVrfRtMisconfiguration router vrf parameters c = .ok (saved, c')) :
    restoreVrfRtMisconfiguration resourceNamespace router vrf saved parameters c' = .ok c ↔
      RtRestorable router vrf (parameters.correctRt.getD "65035:1030")
        (parameters.wrongRt.getD "65035:9999") c := by
  obtain ⟨name, l, r, v, hname, hl, hr, hv, rfl, rfl⟩ := injectVpn_ok_iff.mp h
  unfold RtRestorable
  simp only [foundVrf?_eq hl hr, hv, Option.some.injEq, forall_eq']
  have hiff := fun rts => restoreRts_iff (parameters.correctRt.getD "65035:1030")
    (parameters.wrongRt.getD "65035:9999") rts hname hl hr hv
  have hne := misconfiguredRts_ne_nil (parameters.correctRt.getD "65035:1030")
    (parameters.wrongRt.getD "65035:9999")
  unfold restoreVrfRtMisconfiguration
  simp only [Option.some_or]
  cases hrt : v.rtImport with
  | none =>
    refine iff_of_false (fun hok => ?_) (by simp)
    split at hok
    · cases hok
    · have hsome := (hiff _).mp hok
      rw [hrt] at hsome
      cases hsome
  | some rts =>
    rw [hrt] at hiff
    cases rts with
    | nil =>
      refine iff_of_false (fun hok => ?_) (by simp)
      split at hok
      · cases hok
      · rename_i rts hrts
        have hnil := Option.some.inj ((hiff _).mp hok)
        split at hnil
        · exact restoredRts_ne_nil hrts hnil.symm
        · exact hne _ hnil.symm
    | cons rt rts =>
      show restoreVpn _ _ _ _ = _ ↔ _
      rw [hiff, Option.getD_some]
      by_cases hfirst : (c.firstVrf? (VpnRouter.vrf? vrf) router).isSome
      · simp [hfirst]
      · rw [if_neg hfirst]
        constructor
        · intro heq
          exact ⟨_, rfl, List.cons_ne_nil rt rts, .inr (Option.some.inj heq).symm⟩
        · rintro ⟨_, heq, -, hfirst' | hsame⟩
          · exact absurd hfirst' hfirst
          · obtain rfl := Option.some.inj heq
            exact congrArg some hsame.symm

end

/-! ## Main result -/

/-- **Restoring undoes injecting.** After an injection that succeeds, the restoration with the
saved state succeeds and leaves the resources as they were exactly when the fault is restorable. -/
theorem restore_undoes_inject_iff {nf : NetworkFailure} {c c' : Cluster} {saved : OriginalState}
    (h : injectFailureOperator nf c = .ok (saved, c')) :
    restoreFailureOperator nf saved c' = .ok c ↔ Restorable nf c := by
  cases htype : nf.failureType with
  | packetCorruption => exact (isUnderlay_packetFault htype).restore_iff h
  | ospfAreaMismatch => exact (isUnderlay_areaFault htype).restore_iff h
  | ospfCostInflation => exact (isUnderlay_costFault htype).restore_iff h
  | mtuMismatch =>
    unfold injectFailureOperator at h
    unfold restoreFailureOperator Restorable
    rw [htype] at h ⊢
    exact restoreMtu_iff h
  | bgpSessionDown =>
    unfold injectFailureOperator at h
    unfold restoreFailureOperator Restorable
    rw [htype] at h ⊢
    exact restoreBgpSessionDown_iff h
  | vrfRtMisconfiguration =>
    unfold injectFailureOperator at h
    unfold restoreFailureOperator Restorable
    rw [htype] at h ⊢
    exact restoreVrfRtMisconfiguration_iff h
  | processCrash =>
    unfold injectFailureOperator at h
    rw [htype] at h
    cases h
  | linkDown =>
    unfold injectFailureOperator at h
    rw [htype] at h
    cases h
  | duplicateIp =>
    unfold injectFailureOperator at h
    rw [htype] at h
    cases h
  | txqueueStarvation =>
    unfold injectFailureOperator at h
    rw [htype] at h
    cases h

/-! ### A router in two areas -/

/-- A namespace with one underlay of one router, which has these OSPF settings. -/
def oneRouter (ospf : Ospf) : Cluster where
  infrastructures := ⟨[], List.nodup_nil⟩
  underlays := ⟨[(⟨"underlay", by decide⟩,
    { routers := some [{ name := "pe1", protocols := some ⟨some ospf, .obj []⟩,
                         trafficPolicy := none, other := .obj [] }], other := .obj [] })],
    List.nodup_singleton _⟩
  l3vpns := ⟨[], List.nodup_nil⟩

/-- `area` is wrong on the router `pe1`. -/
def wrongAreaOn (area : String) : NetworkFailure where
  name := "area-pe1"
  resourceNamespace := "default"
  failureType := .ospfAreaMismatch
  target := ⟨"pe1", some "eth1", none, none⟩
  parameters :=
    { mtu := none, errorRate := none, delay := none, wrongArea := some area,
      correctArea := some "0.0.0.0", ospfCost := none, wrongRt := none, correctRt := none }

/-- The settings of a router at the border of the backbone. -/
def borderRouter : Ospf :=
  ⟨some [⟨"0.0.0.0", some "backbone", .obj []⟩, ⟨"0.0.0.99", some "standard", .obj []⟩], none,
    .obj []⟩

/-- What is left of its areas. -/
def mergedAreas : Ospf :=
  ⟨some [⟨"0.0.0.0", some "backbone", .obj []⟩, ⟨"0.0.0.0", some "backbone", .obj []⟩], none,
    .obj []⟩

/-- The wrong area is one that the router has, so both areas are renamed back. -/
theorem border_area_lost :
    ∃ saved c', injectFailureOperator (wrongAreaOn "0.0.0.99") (oneRouter borderRouter) =
        .ok (saved, c') ∧
      restoreFailureOperator (wrongAreaOn "0.0.0.99") saved c' = .ok (oneRouter mergedAreas) ∧
      oneRouter mergedAreas ≠ oneRouter borderRouter :=
  ⟨_, _, rfl, by decide +kernel, by decide +kernel⟩

/-- Another wrong area is renamed back as it was. -/
theorem restore_undoes_inject_border :
    ∃ saved c', injectFailureOperator (wrongAreaOn "0.0.0.7") (oneRouter borderRouter) =
        .ok (saved, c') ∧
      restoreFailureOperator (wrongAreaOn "0.0.0.7") saved c' = .ok (oneRouter borderRouter) := by
  refine ⟨_, _, rfl, (restore_undoes_inject_iff rfl).mpr ?_⟩
  intro r hr o ho
  cases hr
  cases ho
  decide

end GnnSandbox.Operator
