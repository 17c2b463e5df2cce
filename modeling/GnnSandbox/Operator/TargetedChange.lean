import GnnSandbox.Operator.Restore

/-!
# Whether a fault is the change of its target

A reported injection should differ from the resource before it, and only in the element that the
target addresses. The injectors report success once the patch is accepted: they rebuild a list
without asking whether anything was found in it, or how much of it is theirs. `Targeted` states
the targeted change for each fault, `ChangesTarget` when the injection is one.
-/

namespace GnnSandbox.Operator

open Graph (Json)

open Cluster

/-! ## The targeted changes -/

/-- One element of a list of the cluster is changed. -/
def ChangedIn {α : Type} (p : StatePart Cluster (List α)) (R : α → α → Prop) (c c' : Cluster) :
    Prop :=
  ∃ l l', p.get? c = some l ∧ OneChange R l l' ∧ c' = p.set l' c

/-- The MTU of a network that joins the router and the interface. -/
def MtuChange (router interface : String) (net net' : Network) : Prop :=
  net.connects router interface = true ∧ net'.mtu ≠ net.mtu ∧ net' = { net with mtu := net'.mtu }

/-- The neighbour is the peer. -/
def isPeer (peerIp : String) (neighbor : Json) : Bool := neighbor.get? "peer" = some (.str peerIp)

/-- The neighbours of the VRF that are the peer. -/
def NeighborsChange (vrf peerIp : String) (v v' : BgpVrf) : Prop :=
  let kept (v : BgpVrf) := (v.neighbors.getD []).filter fun n => !isPeer peerIp n
  let changed (v : BgpVrf) := (v.neighbors.getD []).filter (isPeer peerIp)
  v.name = vrf ∧ v' = { v with neighbors := v'.neighbors } ∧ kept v' = kept v ∧
    changed v' ≠ changed v

/-- A VRF of `bgp.vrfs` is changed. -/
def BgpVrfChange (R : BgpVrf → BgpVrf → Prop) (router : String) (r r' : VpnRouter) : Prop :=
  ∃ b l l', r.name = router ∧ r.bgp = some b ∧ b.vrfs = some l ∧ OneChange R l l' ∧
    r' = { r with bgp := some { b with vrfs := some l' } }

/-- What a field of a policy lists. -/
def listed : Json → List Json
  | .arr items => items
  | .null => []
  | item => [item]

/-- The entry of `apply` is for the interface. -/
def appliesTo (interface : String) (entry : Json) : Bool :=
  entry.get? "interface" = some (.str interface)

/-- The definition is applied to the interface by its name. -/
def isApplied (interface : String) (policy definition : Json) : Bool :=
  ((((policy.get? "apply").map listed).getD []).filter (appliesTo interface)).any fun entry =>
    (definition.get? "name").isSome ∧
      (definition.get? "name" = entry.get? "out" ∨ definition.get? "name" = entry.get? "in")

/-- What a policy lists for other interfaces, or without applying it to this one. -/
def elsewhere (interface : String) : Option Json → List (String × Json)
  | none | some .null => []
  | some (.obj fields) => fields.flatMap fun field => ((listed field.2).filter fun item =>
      if field.1 = "apply" then !appliesTo interface item
      else !isApplied interface (.obj fields) item).map (field.1, ·)
  | some policy => [("", policy)]

/-- The traffic policy applied to the interface. -/
def PolicyChange (router interface : String) (r r' : UnderlayRouter) : Prop :=
  r.name = router ∧ r' = { r with trafficPolicy := r'.trafficPolicy } ∧
    elsewhere interface r'.trafficPolicy = elsewhere interface r.trafficPolicy ∧
    r'.trafficPolicy ≠ r.trafficPolicy

/-- The area that has the interface; how an area tells its interfaces is left open. -/
def AreaChange (has : Area → String → Bool) (interface : String) (a a' : Area) : Prop :=
  has a interface = true ∧ a' = { a with area := a'.area } ∧ a'.area ≠ a.area

/-- An OSPF area of the router is changed. -/
def OspfAreaChange (R : Area → Area → Prop) (router : String) (r r' : UnderlayRouter) : Prop :=
  ∃ o l l', r.name = router ∧ r.ospf? = some o ∧ o.areas = some l ∧ OneChange R l l' ∧
    r' = r.mapOspf fun o => { o with areas := some l' }

/-- The costs of the interface. -/
def ownCosts (interface : String) (costs : List InterfaceCost) : List InterfaceCost :=
  costs.filter fun ic => ic.interface = some interface

/-- The cost of the interface. -/
def CostChange (router interface : String) (r r' : UnderlayRouter) : Prop :=
  ∃ l', r.name = router ∧ r' = r.withOspf (fun o => { o with interfaceCosts := some l' }) ∧
    otherCosts interface l' = otherCosts interface r.costs ∧
    ownCosts interface l' ≠ ownCosts interface r.costs

/-- The import targets of the VRF. -/
def ImportChange (vrf : String) (v v' : VpnVrf) : Prop :=
  v.name = vrf ∧ v' = { v with rtImport := v'.rtImport } ∧ v'.rtImport ≠ v.rtImport

/-- A VRF of the router is changed. -/
def VrfChange (R : VpnVrf → VpnVrf → Prop) (router : String) (r r' : VpnRouter) : Prop :=
  ∃ l l', r.name = router ∧ r.vrfs = some l ∧ OneChange R l l' ∧ r' = { r with vrfs := some l' }

/-- The resources differ, and only in the element that the target addresses. -/
def Targeted (has : Area → String → Bool) (nf : NetworkFailure) (c c' : Cluster) : Prop :=
  let router := nf.target.router
  let interface := nf.target.interface.getD ""
  let peerIp := nf.target.peerIp.getD ""
  let vrf := nf.target.vrf.getD "global"
  match nf.failureType with
  | .mtuMismatch => ChangedIn networks (MtuChange router interface) c c'
  | .bgpSessionDown =>
    ChangedIn vpnRouters (BgpVrfChange (NeighborsChange vrf peerIp) router) c c'
  | .packetCorruption => ChangedIn underlayRouters (PolicyChange router interface) c c'
  | .ospfAreaMismatch =>
    ChangedIn underlayRouters (OspfAreaChange (AreaChange has interface) router) c c'
  | .ospfCostInflation => ChangedIn underlayRouters (CostChange router interface) c c'
  | .vrfRtMisconfiguration => ChangedIn vpnRouters (VrfChange (ImportChange vrf) router) c c'
  | _ => False

/-! ## When an injection is one -/

/-- Exactly one network of the target's name has another MTU, and it joins the target. -/
def MtuChanges (router interface : String) (mtu : ℤ) (c : Cluster) : Prop :=
  ∀ l target, networks.get? c = some l → targetNetwork router interface l = some target →
    ∃ net, l.filter (fun net => net.name = target.name ∧ net.mtu ≠ some mtu) = [net] ∧
      net.connects router interface = true

/-- There are neighbours, and all of them are the peer. -/
def NeighborsChanges (peerIp : String) (v : BgpVrf) : Prop :=
  v.neighbors.getD [] ≠ [] ∧ ∀ n ∈ v.neighbors.getD [], isPeer peerIp n = true

/-- The policy is for this interface only, and not the one that is put there. -/
def PolicyChanges (name interface : String) (parameters : Parameters) (r : UnderlayRouter) : Prop :=
  elsewhere interface r.trafficPolicy = [] ∧
    r.trafficPolicy ≠ some (corruptingPolicy name interface parameters)

/-- Exactly one area is the correct one, it has the interface, and the wrong one is another. -/
def AreaChanges (has : Area → String → Bool) (interface correctArea wrongArea : String)
    (r : UnderlayRouter) : Prop :=
  ∀ o, r.ospf? = some o → wrongArea ≠ correctArea ∧
    ∃ a, (o.areas.getD []).filter (fun a => a.area = correctArea) = [a] ∧ has a interface = true

/-- The costs of the interface are not just the inflated one. -/
def CostChanges (interface : String) (cost : ℤ) (r : UnderlayRouter) : Prop :=
  ownCosts interface r.costs ≠ [interfaceCost interface cost]

/-- The correct target is imported and not the wrong one, or the wrong one is not all there is. -/
def ImportChanges (correctRt wrongRt : String) (v : VpnVrf) : Prop :=
  if correctRt ∈ v.rtImport.getD [] then wrongRt ≠ correctRt else v.rtImport ≠ some [wrongRt]

/-- What the injection does is the targeted change. -/
def ChangesTarget (has : Area → String → Bool) (nf : NetworkFailure) (c : Cluster) : Prop :=
  let router := nf.target.router
  let interface := nf.target.interface.getD ""
  let peerIp := nf.target.peerIp.getD ""
  let vrf := nf.target.vrf.getD "global"
  match nf.failureType with
  | .mtuMismatch => MtuChanges router interface (nf.parameters.mtu.getD 1400) c
  | .bgpSessionDown => ∀ v, c.foundVrf? (VpnRouter.bgpVrf? vrf) router = some v →
      NeighborsChanges peerIp v
  | .packetCorruption => ∀ r, c.underlayRouter? router = some r →
      PolicyChanges nf.name interface nf.parameters r
  | .ospfAreaMismatch => ∀ r, c.underlayRouter? router = some r →
      AreaChanges has interface (nf.parameters.correctArea.getD "0.0.0.0")
        (nf.parameters.wrongArea.getD "0.0.0.99") r
  | .ospfCostInflation => ∀ r, c.underlayRouter? router = some r →
      CostChanges interface (nf.parameters.ospfCost.getD 65535) r
  | .vrfRtMisconfiguration => ∀ v, c.foundVrf? (VpnRouter.vrf? vrf) router = some v →
      ImportChanges (nf.parameters.correctRt.getD "65035:1030")
        (nf.parameters.wrongRt.getD "65035:9999") v
  | _ => False

section

variable {α : Type} {p : StatePart Cluster (List α)} {R : α → α → Prop} {c c' : Cluster}
  {l l' : List α} {saved : OriginalState} {nf : NetworkFailure} {has : Area → String → Bool}
  {router interface vrf peerIp : String}

theorem changedIn_set_iff (hl : p.get? c = some l) :
    ChangedIn p R c (p.set l' c) ↔ OneChange R l l' := by
  constructor
  · rintro ⟨l₀, l₁, hl₀, h, hset⟩
    obtain rfl := Option.some.inj (hl.symm.trans hl₀)
    rwa [(StatePart.set_inj hl).mp hset]
  · exact fun h => ⟨l, l', hl, h, rfl⟩

theorem changedIn_irrefl (hR : ∀ a, ¬R a a) : ¬ChangedIn p R c c := by
  rintro ⟨l, l', hl, h, hset⟩
  obtain rfl := (StatePart.set_eq_self_iff hl).mp hset.symm
  exact OneChange.not_self hR h

/-! ## The networks -/

/-- **The MTU** of one network is changed when one network of its name is. -/
theorem injectMtuMismatch_targeted_iff {parameters : Parameters}
    (h : injectMtuMismatch router interface parameters c = .ok (saved, c')) :
    ChangedIn networks (MtuChange router interface) c c' ↔
      MtuChanges router interface (parameters.mtu.getD 1400) c := by
  obtain ⟨name, l, target, -, hl, htarget, -, rfl⟩ := injectMtuMismatch_ok_iff.mp h
  have hirrefl : ∀ net, ¬MtuChange router interface net net := fun net h => h.2.1 rfl
  have hp : ∀ net : Network, decide (net.name = target.name ∧
      net.mtu ≠ some (parameters.mtu.getD 1400)) = true ↔
      (if net.name = target.name then { net with mtu := some (parameters.mtu.getD 1400) }
        else net) ≠ net := fun net => by
    obtain ⟨netName, mtu, connected, other⟩ := net
    by_cases hname : netName = target.name
    · rw [if_pos hname]
      simp only [hname, true_and, ne_eq, decide_eq_true_eq, Network.mk.injEq, and_true, and_self]
      exact not_congr eq_comm
    · simp [hname]
  unfold withMtu
  rw [changedIn_set_iff hl, OneChange.map_iff hirrefl hp]
  unfold MtuChanges
  constructor
  · rintro ⟨net, hfilter, hnet, -, -⟩ l' target' hl' htarget'
    obtain rfl := Option.some.inj (hl.symm.trans hl')
    obtain rfl := Option.some.inj (htarget.symm.trans htarget')
    exact ⟨net, hfilter, hnet⟩
  · intro h
    obtain ⟨net, hfilter, hnet⟩ := h l target hl htarget
    have hmem : net ∈ l.filter fun net => net.name = target.name ∧
        net.mtu ≠ some (parameters.mtu.getD 1400) := by
      rw [hfilter]
      exact List.mem_cons_self ..
    obtain ⟨hname, hmtu⟩ := of_decide_eq_true (List.mem_filter.mp hmem).2
    refine ⟨net, hfilter, ?_⟩
    rw [if_pos hname]
    exact ⟨hnet, hmtu.symm, rfl⟩

/-! ## The routers of the underlay -/

/-- The first entry of the router is the one that is changed. -/
theorem injectUnderlay_targeted_iff {save : ResourceName → UnderlayRouter → Outcome OriginalState}
    {change : UnderlayRouter → UnderlayRouter} {R : UnderlayRouter → UnderlayRouter → Prop}
    {P : UnderlayRouter → Prop} (hR : ∀ r, ¬R r r)
    (hP : ∀ name r saved, save name r = .ok saved → r.name = router → (R r (change r) ↔ P r))
    (h : injectUnderlay router save change c = .ok (saved, c')) :
    ChangedIn underlayRouters R c c' ↔ ∀ r, c.underlayRouter? router = some r → P r := by
  obtain ⟨name, l, r, -, hl, hr, hsave, rfl⟩ := injectUnderlay_ok_iff.mp h
  have hname := List.find?_some hr
  rw [decide_eq_true_eq] at hname
  rw [changedIn_set_iff hl, OneChange.modifyFirst_iff hR hr, hP name r saved hsave hname,
    underlayRouter?_eq hl, hr]
  exact ⟨fun h r' hr' => Option.some.inj hr' ▸ h, fun h => h r rfl⟩

/-- The corrupting policy is for its interface only. -/
theorem elsewhere_corruptingPolicy (name interface : String) (parameters : Parameters) :
    elsewhere interface (some (corruptingPolicy name interface parameters)) = [] := by
  unfold corruptingPolicy
  generalize faultName name = fault
  generalize parameters.errorRate.getD "5%" = errorRate
  generalize parameters.delay.getD "10ms" = delay
  set entry : Json := .obj [("interface", .str interface), ("out", .str fault)] with hentry
  set definition : Json := .obj [("corruption", .str errorRate), ("delay", .str delay),
    ("loss", .str errorRate), ("name", .str fault)] with hdefinition
  set policy : Json := .obj [("apply", .arr [entry]), ("network_emulator", .arr [definition])]
    with hpolicy
  have happly : policy.get? "apply" = some (.arr [entry]) := rfl
  have hout : entry.get? "out" = some (.str fault) := rfl
  have hname : definition.get? "name" = some (.str fault) := rfl
  have happlies : appliesTo interface entry = true := by
    have hinterface : entry.get? "interface" = some (.str interface) := rfl
    unfold appliesTo
    rw [hinterface]
    exact decide_eq_true rfl
  have happlied : isApplied interface policy definition = true := by
    unfold isApplied
    rw [happly, Option.map_some, Option.getD_some, listed, List.filter_cons_of_pos happlies,
      List.any_cons, hname, hout]
    simp
  rw [hpolicy] at happlied ⊢
  simp [elsewhere, listed, happlies, happlied]

/-- **The policy** of one interface is changed when the router had none elsewhere. -/
theorem injectPacketCorruption_targeted_iff {name : String} {parameters : Parameters}
    (h : injectPacketCorruption name router interface parameters c = .ok (saved, c')) :
    ChangedIn underlayRouters (PolicyChange router interface) c c' ↔
      ∀ r, c.underlayRouter? router = some r → PolicyChanges name interface parameters r := by
  refine injectUnderlay_targeted_iff (fun r h => h.2.2.2 rfl) (fun _ r _ _ hname => ?_) h
  unfold PolicyChange PolicyChanges
  rw [elsewhere_corruptingPolicy, and_iff_right hname, and_iff_right rfl]
  exact and_congr eq_comm ne_comm

theorem ospfAreaChange_iff {R : Area → Area → Prop} {f : List Area → List Area}
    {r : UnderlayRouter} {o : Ospf} (hname : r.name = router) (ho : r.ospf? = some o) :
    OspfAreaChange R router r (r.mapOspf fun o => { o with areas := some (f (o.areas.getD [])) }) ↔
      ∃ l, o.areas = some l ∧ OneChange R l (f l) := by
  constructor
  · rintro ⟨o', l, l', -, ho', hl, h, heq⟩
    obtain rfl := Option.some.inj (ho.symm.trans ho')
    rw [mapOspf_eq_iff ho, hl, Option.getD_some, Ospf.mk.injEq, Option.some.injEq] at heq
    exact ⟨l, hl, heq.1 ▸ h⟩
  · rintro ⟨l, hl, h⟩
    refine ⟨o, l, f l, hname, ho, hl, h, ?_⟩
    rw [mapOspf_eq_iff ho, hl, Option.getD_some]

/-- One area is renamed when just one is the correct one. -/
theorem mismatchedAreas_changes_iff {correctArea wrongArea : String} {l : List Area} :
    OneChange (AreaChange has interface) l (mismatchedAreas correctArea wrongArea l) ↔
      wrongArea ≠ correctArea ∧
        ∃ a, l.filter (fun a => a.area = correctArea) = [a] ∧ has a interface = true := by
  have hirrefl : ∀ a, ¬AreaChange has interface a a := fun a h => h.2.2 rfl
  unfold mismatchedAreas
  by_cases hnil : l = []
  · rw [if_pos hnil, hnil]
    constructor
    · intro h
      cases h
    · rintro ⟨-, a, h, -⟩
      cases h
  · rw [if_neg hnil]
    by_cases hwrong : wrongArea = correctArea
    · have hmap :
          l.map (fun a => if a.area = correctArea then { a with area := wrongArea } else a) = l :=
        map_eq_self_iff.mpr fun a _ => by
          split_ifs with ha
          · rw [hwrong, ← ha]
          · rfl
      rw [hmap]
      exact iff_of_false (OneChange.not_self hirrefl) fun h => h.1 hwrong
    · have hp : ∀ a : Area, decide (a.area = correctArea) = true ↔
          (if a.area = correctArea then { a with area := wrongArea } else a) ≠ a := fun a => by
        obtain ⟨area, type, other⟩ := a
        by_cases ha : area = correctArea
        · simp [ha, hwrong]
        · simp [ha]
      rw [OneChange.map_iff hirrefl hp, and_iff_right hwrong]
      refine exists_congr fun a => and_congr_right fun hfilter => ?_
      have hmem : a ∈ l.filter fun a => a.area = correctArea := by
        rw [hfilter]
        exact List.mem_cons_self ..
      have ha : a.area = correctArea := of_decide_eq_true (List.mem_filter.mp hmem).2
      rw [if_pos ha]
      exact and_iff_left ⟨rfl, fun h => hwrong (h.trans ha)⟩

theorem ospfAreaChange_irrefl {R : Area → Area → Prop} (hR : ∀ a, ¬R a a) (r : UnderlayRouter) :
    ¬OspfAreaChange R router r r := by
  rintro ⟨o, l, l', -, ho, hl, h, heq⟩
  have hareas := (mapOspf_eq_self_iff ho).mp heq.symm
  rw [Ospf.mk.injEq, hl, Option.some.injEq] at hareas
  exact OneChange.not_self hR (hareas.1 ▸ h)

/-- **The area** of the interface is changed when it alone is the correct one. -/
theorem injectOspfAreaMismatch_targeted_iff {parameters : Parameters}
    (h : injectOspfAreaMismatch router interface parameters c = .ok (saved, c')) :
    ChangedIn underlayRouters (OspfAreaChange (AreaChange has interface) router) c c' ↔
      ∀ r, c.underlayRouter? router = some r →
        AreaChanges has interface (parameters.correctArea.getD "0.0.0.0")
          (parameters.wrongArea.getD "0.0.0.99") r := by
  refine injectUnderlay_targeted_iff (ospfAreaChange_irrefl fun a h => h.2.2 rfl)
    (fun _ r _ hsave hname => ?_) h
  obtain ⟨o, ho, -⟩ := map_ospfItem_ok_iff.mp hsave
  rw [ospfAreaChange_iff hname ho]
  simp only [mismatchedAreas_changes_iff]
  unfold AreaChanges
  constructor
  · rintro ⟨l, hl, h⟩ o' ho'
    obtain rfl := Option.some.inj (ho.symm.trans ho')
    rwa [hl]
  · intro h
    obtain ⟨hwrong, a, hfilter, ha⟩ := h o ho
    cases hl : o.areas with
    | none =>
      rw [hl] at hfilter
      cases hfilter
    | some l =>
      rw [hl] at hfilter
      exact ⟨l, rfl, hwrong, a, hfilter, ha⟩

/-- The costs of a router whose OSPF settings are made. -/
theorem withOspf_costs (r : UnderlayRouter) (f : List InterfaceCost → List InterfaceCost) :
    (r.withOspf fun o => { o with interfaceCosts := some (f (o.interfaceCosts.getD [])) }) =
      r.withOspf fun o => { o with interfaceCosts := some (f r.costs) } := by
  obtain ⟨name, protocols, policy, other⟩ := r
  cases protocols with
  | none => rfl
  | some p =>
    obtain ⟨ospf, rest⟩ := p
    cases ospf with
    | none => rfl
    | some o => rfl

theorem costs_withOspf (r : UnderlayRouter) (l : List InterfaceCost) :
    (r.withOspf fun o => { o with interfaceCosts := some l }).costs = l := rfl

theorem ownCosts_inflatedCosts (cost : ℤ) (l : List InterfaceCost) :
    ownCosts interface (inflatedCosts interface cost l) = [interfaceCost interface cost] := by
  have hothers : ownCosts interface (otherCosts interface l) = [] := by
    unfold ownCosts otherCosts
    rw [List.filter_filter]
    simp
  unfold inflatedCosts
  unfold ownCosts at hothers ⊢
  rw [List.filter_append, hothers]
  simp [interfaceCost]

theorem otherCosts_inflatedCosts (cost : ℤ) (l : List InterfaceCost) :
    otherCosts interface (inflatedCosts interface cost l) = otherCosts interface l := by
  unfold inflatedCosts
  rw [otherCosts_append, otherCosts_otherCosts, otherCosts_interfaceCost, List.append_nil]

/-- **The cost** of the interface is changed unless it is the inflated one. -/
theorem injectOspfCostInflation_targeted_iff {parameters : Parameters}
    (h : injectOspfCostInflation router interface parameters c = .ok (saved, c')) :
    ChangedIn underlayRouters (CostChange router interface) c c' ↔
      ∀ r, c.underlayRouter? router = some r →
        CostChanges interface (parameters.ospfCost.getD 65535) r := by
  refine injectUnderlay_targeted_iff ?_ (fun _ r _ _ hname => ?_) h
  · rintro r ⟨l, -, heq, -, hown⟩
    have hcosts := congrArg UnderlayRouter.costs heq
    rw [costs_withOspf] at hcosts
    exact hown (by rw [hcosts])
  · rw [withOspf_costs]
    unfold CostChange CostChanges
    constructor
    · rintro ⟨l, -, heq, -, hown⟩
      have hcosts := congrArg UnderlayRouter.costs heq
      rw [costs_withOspf, costs_withOspf] at hcosts
      rw [← hcosts, ownCosts_inflatedCosts] at hown
      exact hown.symm
    · intro hown
      refine ⟨_, hname, rfl, otherCosts_inflatedCosts .., ?_⟩
      rw [ownCosts_inflatedCosts]
      exact hown.symm

/-! ## The routers of the L3VPN -/

/-- The first entry of the router with the VRF is the one that is changed. -/
theorem injectVpn_targeted_iff {β : Type} {find : VpnRouter → Option β}
    {save : ResourceName → β → OriginalState} {change : VpnRouter → VpnRouter}
    {R : VpnRouter → VpnRouter → Prop} {P : β → Prop} (hR : ∀ r, ¬R r r)
    (hP : ∀ r v, r.name = router → find r = some v → (R r (change r) ↔ P v))
    (h : injectVpn router vrf find save change c = .ok (saved, c')) :
    ChangedIn vpnRouters R c c' ↔ ∀ v, c.foundVrf? find router = some v → P v := by
  obtain ⟨name, l, r, v, -, hl, hr, hv, -, rfl⟩ := injectVpn_ok_iff.mp h
  have hname := List.find?_some hr
  rw [decide_eq_true_eq] at hname
  rw [changedIn_set_iff hl, OneChange.modifyFirst_iff hR hr, hP r v hname.1 hv,
    foundVrf?_eq hl hr, hv]
  exact ⟨fun h v' hv' => Option.some.inj hv' ▸ h, fun h => h v rfl⟩

theorem bgpVrfChange_irrefl {R : BgpVrf → BgpVrf → Prop} (hR : ∀ v, ¬R v v) (r : VpnRouter) :
    ¬BgpVrfChange R router r r := by
  rintro ⟨b, l, l', -, hb, hl, h, heq⟩
  have hbgp := congrArg VpnRouter.bgp heq
  rw [hb, Option.some.injEq] at hbgp
  have hvrfs := congrArg VpnBgp.vrfs hbgp
  rw [hl, Option.some.injEq] at hvrfs
  exact OneChange.not_self hR (hvrfs ▸ h)

theorem bgpVrfChange_iff {R : BgpVrf → BgpVrf → Prop} {f : BgpVrf → BgpVrf} {r : VpnRouter}
    {v : BgpVrf} (hR : ∀ v, ¬R v v) (hname : r.name = router) (hv : r.bgpVrf? vrf = some v) :
    BgpVrfChange R router r (r.mapBgpVrf vrf f) ↔ R v (f v) := by
  obtain ⟨name, vrfs, bgp, other⟩ := r
  unfold VpnRouter.bgpVrf? at hv
  cases bgp with
  | none => cases hv
  | some b =>
    obtain ⟨l, rest⟩ := b
    cases l with
    | none => cases hv
    | some l =>
      rw [← OneChange.modifyFirst_iff hR (show l.find? _ = some v from hv)]
      constructor
      · rintro ⟨b, l₀, l', -, hb, hl, h, heq⟩
        obtain rfl := Option.some.inj hb
        obtain rfl := Option.some.inj hl
        simp only [VpnRouter.mapBgpVrf, Option.map_some, VpnRouter.mk.injEq, Option.some.injEq,
          VpnBgp.mk.injEq, and_true, true_and] at heq
        exact heq ▸ h
      · exact fun h => ⟨_, _, _, hname, rfl, rfl, h, rfl⟩

/-- **The neighbours** that are the peer are changed when there are no others. -/
theorem injectBgpSessionDown_targeted_iff
    (h : injectBgpSessionDown router peerIp vrf c = .ok (saved, c')) :
    ChangedIn vpnRouters (BgpVrfChange (NeighborsChange vrf peerIp) router) c c' ↔
      ∀ v, c.foundVrf? (VpnRouter.bgpVrf? vrf) router = some v → NeighborsChanges peerIp v := by
  have hirrefl : ∀ v, ¬NeighborsChange vrf peerIp v v := fun v h => h.2.2.2 rfl
  refine injectVpn_targeted_iff (bgpVrfChange_irrefl hirrefl) (fun r v hname hv => ?_) h
  have hvrf := List.find?_some hv
  rw [decide_eq_true_eq] at hvrf
  rw [bgpVrfChange_iff hirrefl hname hv]
  unfold NeighborsChange NeighborsChanges
  simp only [Option.getD_some, List.filter_nil]
  rw [and_iff_right hvrf, and_iff_right trivial, eq_comm, List.filter_eq_nil_iff]
  have hkept : (∀ n ∈ v.neighbors.getD [], ¬(!isPeer peerIp n) = true) ↔
      ∀ n ∈ v.neighbors.getD [], isPeer peerIp n = true :=
    forall₂_congr fun n _ => by cases isPeer peerIp n <;> decide
  rw [hkept]
  constructor
  · rintro ⟨hall, hchanged⟩
    rw [List.filter_eq_self.mpr hall] at hchanged
    exact ⟨hchanged.symm, hall⟩
  · rintro ⟨hne, hall⟩
    rw [List.filter_eq_self.mpr hall]
    exact ⟨hall, hne.symm⟩

theorem vrfChange_irrefl {R : VpnVrf → VpnVrf → Prop} (hR : ∀ v, ¬R v v) (r : VpnRouter) :
    ¬VrfChange R router r r := by
  rintro ⟨l, l', -, hl, h, heq⟩
  have hvrfs := congrArg VpnRouter.vrfs heq
  rw [hl, Option.some.injEq] at hvrfs
  exact OneChange.not_self hR (hvrfs ▸ h)

theorem vrfChange_iff {R : VpnVrf → VpnVrf → Prop} {f : VpnVrf → VpnVrf} {r : VpnRouter}
    {v : VpnVrf} (hR : ∀ v, ¬R v v) (hname : r.name = router) (hv : r.vrf? vrf = some v) :
    VrfChange R router r (r.mapVrf vrf f) ↔ R v (f v) := by
  obtain ⟨name, vrfs, bgp, other⟩ := r
  unfold VpnRouter.vrf? at hv
  cases vrfs with
  | none => cases hv
  | some l =>
    rw [← OneChange.modifyFirst_iff hR (show l.find? _ = some v from hv)]
    constructor
    · rintro ⟨l₀, l', -, hl, h, heq⟩
      obtain rfl := Option.some.inj hl
      simp only [VpnRouter.mapVrf, Option.map_some, VpnRouter.mk.injEq, Option.some.injEq,
        and_true, true_and] at heq
      exact heq ▸ h
    · exact fun h => ⟨_, _, hname, rfl, h, rfl⟩

/-- When the import targets are others. -/
theorem misconfiguredRts_ne_iff {correctRt wrongRt : String} {v : VpnVrf} :
    some (misconfiguredRts correctRt wrongRt (v.rtImport.getD [])) ≠ v.rtImport ↔
      ImportChanges correctRt wrongRt v := by
  unfold ImportChanges misconfiguredRts
  by_cases hmem : correctRt ∈ v.rtImport.getD []
  · rw [if_pos hmem, if_pos hmem]
    cases hrts : v.rtImport with
    | none =>
      rw [hrts] at hmem
      cases hmem
    | some rts =>
      rw [hrts] at hmem
      rw [Option.getD_some, ne_eq, Option.some.injEq, map_eq_self_iff, ne_eq, not_iff_not]
      constructor
      · intro h
        have hcorrect := h correctRt hmem
        rwa [if_neg (not_not_intro rfl)] at hcorrect
      · rintro rfl rt -
        split_ifs with hrt
        · rfl
        · exact (not_not.mp hrt).symm
  · rw [if_neg hmem, if_neg hmem]
    exact ne_comm

/-- **The import targets** are changed unless the wrong one is all there is. -/
theorem injectVrfRtMisconfiguration_targeted_iff {parameters : Parameters}
    (h : injectVrfRtMisconfiguration router vrf parameters c = .ok (saved, c')) :
    ChangedIn vpnRouters (VrfChange (ImportChange vrf) router) c c' ↔
      ∀ v, c.foundVrf? (VpnRouter.vrf? vrf) router = some v →
        ImportChanges (parameters.correctRt.getD "65035:1030")
          (parameters.wrongRt.getD "65035:9999") v := by
  have hirrefl : ∀ v, ¬ImportChange vrf v v := fun v h => h.2.2 rfl
  refine injectVpn_targeted_iff (vrfChange_irrefl hirrefl) (fun r v hname hv => ?_) h
  have hvrf := List.find?_some hv
  rw [decide_eq_true_eq] at hvrf
  rw [vrfChange_iff hirrefl hname hv, ← misconfiguredRts_ne_iff]
  unfold ImportChange
  rw [and_iff_right hvrf, and_iff_right rfl]

/-! ## Main result -/

/-- **A reported injection is the targeted change** exactly when the resource is one that it
changes so. -/
theorem inject_targeted_iff (has : Area → String → Bool)
    (h : injectFailureOperator nf c = .ok (saved, c')) :
    Targeted has nf c c' ↔ ChangesTarget has nf c := by
  unfold injectFailureOperator at h
  unfold Targeted ChangesTarget
  cases htype : nf.failureType with
  | mtuMismatch =>
    rw [htype] at h
    exact injectMtuMismatch_targeted_iff h
  | bgpSessionDown =>
    rw [htype] at h
    exact injectBgpSessionDown_targeted_iff h
  | packetCorruption =>
    rw [htype] at h
    exact injectPacketCorruption_targeted_iff h
  | ospfAreaMismatch =>
    rw [htype] at h
    exact injectOspfAreaMismatch_targeted_iff h
  | ospfCostInflation =>
    rw [htype] at h
    exact injectOspfCostInflation_targeted_iff h
  | vrfRtMisconfiguration =>
    rw [htype] at h
    exact injectVrfRtMisconfiguration_targeted_iff h
  | processCrash | linkDown | duplicateIp | txqueueStarvation => exact Iff.rfl

end

/-! ### A router outside of the backbone -/

/-- The settings of a router whose only area is this one, with `eth1` in it. -/
def onlyArea (area : String) : Ospf :=
  ⟨some [⟨area, some "standard", .obj [("interfaces", .arr [.str "eth1"])]⟩], none, .obj []⟩

/-- The interfaces of an area as it lists them. -/
def Area.lists (a : Area) (interface : String) : Bool :=
  ((a.other.get? "interfaces").map listed).getD [] |>.contains (.str interface)

/-- In the backbone the area of the interface is changed. -/
theorem inject_targeted_backbone :
    ∃ saved c', injectFailureOperator (wrongAreaOn "0.0.0.99") (oneRouter (onlyArea "0.0.0.0")) =
        .ok (saved, c') ∧
      Targeted Area.lists (wrongAreaOn "0.0.0.99") (oneRouter (onlyArea "0.0.0.0")) c' := by
  refine ⟨_, _, rfl, (inject_targeted_iff Area.lists rfl).mpr ?_⟩
  intro r hr o ho
  cases hr
  cases ho
  exact ⟨by decide, _, rfl, by decide⟩

/-- A router that is not in the correct area is reported as changed, and is not. -/
theorem outside_backbone_unchanged :
    ∃ saved, injectFailureOperator (wrongAreaOn "0.0.0.99") (oneRouter (onlyArea "0.0.0.1")) =
        .ok (saved, oneRouter (onlyArea "0.0.0.1")) ∧
      ∀ has, ¬Targeted has (wrongAreaOn "0.0.0.99") (oneRouter (onlyArea "0.0.0.1"))
        (oneRouter (onlyArea "0.0.0.1")) :=
  ⟨_, rfl, fun _ => changedIn_irrefl (ospfAreaChange_irrefl fun _ h => h.2.2 rfl)⟩

end GnnSandbox.Operator
