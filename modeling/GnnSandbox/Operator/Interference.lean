import GnnSandbox.Operator.Interference.Network
import GnnSandbox.Operator.Interference.Underlay
import GnnSandbox.Operator.Interference.Vpn

/-!
# Which faults interfere

Faults of different types are apart, and faults of one type are where they change different things:
different networks, different routers, or different VRFs.
-/

namespace GnnSandbox.Operator

open Cluster

/-! ## Faults of different resources -/

/-- A fault looks at one part of the cluster and the name of the resource, and changes that part. -/
structure ActsOn {ρ : Type} (nf : NetworkFailure) (p : StatePart Cluster ρ)
    (nameOf : Cluster → Option ResourceName) : Prop where
  inject_of_same : ∀ {c c' d saved}, injectFailureOperator nf c = .ok (saved, c') →
    nameOf d = nameOf c → p.get? d = p.get? c →
    ∃ l, c' = p.set l c ∧ injectFailureOperator nf d = .ok (saved, p.set l d)
  restorable_of_same : ∀ {c d}, p.get? d = p.get? c → (Restorable nf d ↔ Restorable nf c)

/-- Faults of different resources are swapped. -/
theorem swaps_of_apart {ρ υ : Type} {A B : NetworkFailure} {p : StatePart Cluster ρ}
    {q : StatePart Cluster υ} {nameA nameB : Cluster → Option ResourceName} {c cA cAB : Cluster}
    {savedA savedB : OriginalState} (hpq : p.Apart q) (hf : ActsOn A p nameA)
    (hg : ActsOn B q nameB) (hnameA : ∀ m c, nameA (q.set m c) = nameA c)
    (hnameB : ∀ l c, nameB (p.set l c) = nameB c)
    (hA : injectFailureOperator A c = .ok (savedA, cA))
    (hB : injectFailureOperator B cA = .ok (savedB, cAB)) :
    ∃ cB, Swaps A B c cA cAB cB savedA savedB := by
  obtain ⟨l, rfl, -⟩ := hf.inject_of_same hA rfl rfl
  obtain ⟨m, rfl, hB'⟩ := hg.inject_of_same hB (hnameB l c).symm (hpq.get?_right l c).symm
  obtain ⟨l', hl', hA'⟩ := hf.inject_of_same hA (hnameA m c) (hpq.get?_left m c)
  refine ⟨q.set m c, hB', ?_, hf.restorable_of_same (hpq.get?_left m c),
    hg.restorable_of_same (hpq.get?_right l c)⟩
  rw [hA', ← hpq.set_comm, hl']

section

variable {nf : NetworkFailure} {f : UnderlayFault} {g : VpnFault}

theorem actsOn_networks (h : nf.failureType = .mtuMismatch) :
    ActsOn nf networks Cluster.infraName where
  inject_of_same {c c' d saved} hinject hname hget := by
    obtain ⟨name, l, net, hcname, hl, hnet, hsaved, rfl⟩ := (injectMtu_ok_iff h).mp hinject
    exact ⟨_, rfl, (injectMtu_ok_iff h).mpr
      ⟨name, l, net, hname.trans hcname, hget.trans hl, hnet, hsaved, rfl⟩⟩
  restorable_of_same {c d} hget := by
    unfold Restorable
    rw [h]
    show MtuRestorable _ _ _ ↔ MtuRestorable _ _ _
    unfold MtuRestorable
    rw [hget]

theorem actsOn_underlayRouters (hf : IsUnderlay nf f) :
    ActsOn nf underlayRouters Cluster.underlayName where
  inject_of_same {c c' d saved} hinject hname hget := by
    rw [hf.inject] at hinject ⊢
    obtain ⟨name, l, r, hcname, hl, hr, hsaved, rfl⟩ := injectUnderlay_ok_iff.mp hinject
    exact ⟨_, rfl, injectUnderlay_ok_iff.mpr
      ⟨name, l, r, hname.trans hcname, hget.trans hl, hr, hsaved, rfl⟩⟩
  restorable_of_same {c d} hget := by
    rw [hf.restorable, hf.restorable]
    unfold Cluster.underlayRouter?
    rw [hget]

theorem actsOn_vpnRouters (hg : IsVpn nf g) : ActsOn nf vpnRouters Cluster.l3vpnName where
  inject_of_same {c c' d saved} hinject hname hget := by
    rw [hg.inject] at hinject ⊢
    obtain ⟨name, l, r, v, hcname, hl, hr, hv, hsaved, rfl⟩ := injectVpn_ok_iff.mp hinject
    exact ⟨_, rfl, injectVpn_ok_iff.mpr
      ⟨name, l, r, v, hname.trans hcname, hget.trans hl, hr, hv, hsaved, rfl⟩⟩
  restorable_of_same {c d} hget := by
    rw [hg.restorable, hg.restorable]
    unfold Cluster.foundVrf? Cluster.firstVrf?
    rw [hget]

end

/-! ## Main result -/

/-- Faults of one type change different things, or change nothing. -/
def Separate (A B : NetworkFailure) (c : Cluster) : Prop :=
  let interfaceA := A.target.interface.getD ""
  let interfaceB := B.target.interface.getD ""
  A.failureType = B.failureType → match A.failureType with
  | .mtuMismatch => ∀ l netA netB, networks.get? c = some l →
      targetNetwork A.target.router interfaceA l = some netA →
      targetNetwork B.target.router interfaceB l = some netB → netA.name = netB.name →
      (∀ net ∈ l, net.name = netA.name → net.mtu = some (A.parameters.mtu.getD 1400)) ∧
        ∀ net ∈ l, net.name = netA.name → net.mtu = some (B.parameters.mtu.getD 1400)
  | .bgpSessionDown => A.target.router = B.target.router →
      A.target.vrf.getD "global" = B.target.vrf.getD "global" →
      ∀ v, c.foundVrf? (VpnRouter.bgpVrf? (A.target.vrf.getD "global")) A.target.router = some v →
        v.neighbors = some []
  | .packetCorruption => A.target.router = B.target.router →
      ∀ r, c.underlayRouter? A.target.router = some r →
        r.trafficPolicy = some (corruptingPolicy A.name interfaceA A.parameters) ∧
        r.trafficPolicy = some (corruptingPolicy B.name interfaceB B.parameters)
  | .ospfAreaMismatch => A.target.router = B.target.router →
      ∀ r o, c.underlayRouter? A.target.router = some r → r.ospf? = some o →
        AreasSeparate (A.parameters.correctArea.getD "0.0.0.0")
          (A.parameters.wrongArea.getD "0.0.0.99") (B.parameters.correctArea.getD "0.0.0.0")
          (B.parameters.wrongArea.getD "0.0.0.99") (o.areas.getD [])
  | .ospfCostInflation => A.target.router = B.target.router →
      ∀ r, c.underlayRouter? A.target.router = some r →
        if interfaceA = interfaceB then
          r.ospf?.bind Ospf.interfaceCosts =
              some (inflatedCosts interfaceA (A.parameters.ospfCost.getD 65535) r.costs) ∧
            r.ospf?.bind Ospf.interfaceCosts =
              some (inflatedCosts interfaceB (B.parameters.ospfCost.getD 65535) r.costs)
        else ∀ ic ∈ r.costs, ic.interface ≠ some interfaceA ∧ ic.interface ≠ some interfaceB
  | .vrfRtMisconfiguration => A.target.router = B.target.router →
      A.target.vrf.getD "global" = B.target.vrf.getD "global" →
      ∀ v, c.foundVrf? (VpnRouter.vrf? (A.target.vrf.getD "global")) A.target.router = some v →
        v.rtImport = some (misconfiguredRts (A.parameters.correctRt.getD "65035:1030")
          (A.parameters.wrongRt.getD "65035:9999") (v.rtImport.getD [])) ∧
        v.rtImport = some (misconfiguredRts (B.parameters.correctRt.getD "65035:1030")
          (B.parameters.wrongRt.getD "65035:9999") (v.rtImport.getD []))
  | _ => True

section

variable {A B : NetworkFailure} {c cA cAB : Cluster} {savedA savedB : OriginalState}

/-- Which resource a fault is about. -/
theorem fault_cases {nf : NetworkFailure} {saved : OriginalState} {c' : Cluster}
    (h : injectFailureOperator nf c = .ok (saved, c')) :
    nf.failureType = .mtuMismatch ∨
    (nf.failureType = .packetCorruption ∨ nf.failureType = .ospfAreaMismatch ∨
      nf.failureType = .ospfCostInflation) ∨
    nf.failureType = .bgpSessionDown ∨ nf.failureType = .vrfRtMisconfiguration := by
  unfold injectFailureOperator at h
  cases htype : nf.failureType with
  | processCrash | linkDown | duplicateIp | txqueueStarvation =>
    rw [htype] at h
    cases h
  | _ => simp

theorem isUnderlay_of_type {nf : NetworkFailure} (h : nf.failureType = .packetCorruption ∨
    nf.failureType = .ospfAreaMismatch ∨ nf.failureType = .ospfCostInflation) :
    ∃ f, IsUnderlay nf f := by
  rcases h with hpacket | harea | hcost
  · exact ⟨_, isUnderlay_packetFault hpacket⟩
  · exact ⟨_, isUnderlay_areaFault harea⟩
  · exact ⟨_, isUnderlay_costFault hcost⟩

theorem isVpn_of_type {nf : NetworkFailure}
    (h : nf.failureType = .bgpSessionDown ∨ nf.failureType = .vrfRtMisconfiguration) :
    ∃ f, IsVpn nf f := by
  rcases h with hbgp | hrt
  · exact ⟨_, isVpn_bgpFault hbgp⟩
  · exact ⟨_, isVpn_rtFault hrt⟩

/-- Faults of different types at the underlay are swapped. -/
theorem swaps_of_underlay_types (hne : A.failureType ≠ B.failureType)
    (htypeA : A.failureType = .packetCorruption ∨ A.failureType = .ospfAreaMismatch ∨
      A.failureType = .ospfCostInflation)
    (htypeB : B.failureType = .packetCorruption ∨ B.failureType = .ospfAreaMismatch ∨
      B.failureType = .ospfCostInflation)
    (hA : injectFailureOperator A c = .ok (savedA, cA))
    (hB : injectFailureOperator B cA = .ok (savedB, cAB)) (hrest : Restorable A c) :
    ∃ cB, Swaps A B c cA cAB cB savedA savedB := by
  rcases htypeA with hpA | haA | hcA <;> rcases htypeB with hpB | haB | hcB
  · exact absurd (hpA.trans hpB.symm) hne
  · exact swaps_of_underlay (isUnderlay_packetFault hpA) (isUnderlay_areaFault haB) hA hB
      fun _ _ _ => independent_packet_area
  · exact swaps_of_underlay (isUnderlay_packetFault hpA) (isUnderlay_costFault hcB) hA hB
      fun _ _ _ => independent_packet_cost
  · exact swaps_of_underlay (isUnderlay_areaFault haA) (isUnderlay_packetFault hpB) hA hB
      fun _ _ _ => independent_packet_area.symm
  · exact absurd (haA.trans haB.symm) hne
  · have hf := isUnderlay_areaFault haA
    have hg := isUnderlay_costFault hcB
    refine swaps_of_underlay hf hg hA hB fun hrouter r hr => ?_
    obtain ⟨_, hsave, -⟩ := saves_at_router hf hg hA hB hrouter hr
    obtain ⟨o, ho⟩ := ospf?_of_save hsave
    exact independent_area_cost ho
  · exact swaps_of_underlay (isUnderlay_costFault hcA) (isUnderlay_packetFault hpB) hA hB
      fun _ _ _ => independent_packet_cost.symm
  · have hf := isUnderlay_costFault hcA
    refine swaps_of_underlay hf (isUnderlay_areaFault haB) hA hB fun _ r hr => ?_
    obtain ⟨o, ho⟩ := CostRestorable.ospf? ((hf.restorable_iff hr).mp hrest)
    exact (independent_area_cost ho).symm
  · exact absurd (hcA.trans hcB.symm) hne

/-- Faults of different types are swapped. -/
theorem swaps_of_type_ne (hne : A.failureType ≠ B.failureType)
    (hA : injectFailureOperator A c = .ok (savedA, cA))
    (hB : injectFailureOperator B cA = .ok (savedB, cAB)) (hrest : Restorable A c) :
    ∃ cB, Swaps A B c cA cAB cB savedA savedB := by
  rcases fault_cases hA with hmA | huA | hvA <;> rcases fault_cases hB with hmB | huB | hvB
  · exact absurd (hmA.trans hmB.symm) hne
  · obtain ⟨g, hg⟩ := isUnderlay_of_type huB
    exact swaps_of_apart networks_apart_underlayRouters (actsOn_networks hmA)
      (actsOn_underlayRouters hg) (fun _ _ => rfl) (fun _ _ => rfl) hA hB
  · obtain ⟨g, hg⟩ := isVpn_of_type hvB
    exact swaps_of_apart networks_apart_vpnRouters (actsOn_networks hmA) (actsOn_vpnRouters hg)
      (fun _ _ => rfl) (fun _ _ => rfl) hA hB
  · obtain ⟨f, hf⟩ := isUnderlay_of_type huA
    exact swaps_of_apart networks_apart_underlayRouters.symm (actsOn_underlayRouters hf)
      (actsOn_networks hmB) (fun _ _ => rfl) (fun _ _ => rfl) hA hB
  · exact swaps_of_underlay_types hne huA huB hA hB hrest
  · obtain ⟨f, hf⟩ := isUnderlay_of_type huA
    obtain ⟨g, hg⟩ := isVpn_of_type hvB
    exact swaps_of_apart underlayRouters_apart_vpnRouters (actsOn_underlayRouters hf)
      (actsOn_vpnRouters hg) (fun _ _ => rfl) (fun _ _ => rfl) hA hB
  · obtain ⟨f, hf⟩ := isVpn_of_type hvA
    exact swaps_of_apart networks_apart_vpnRouters.symm (actsOn_vpnRouters hf)
      (actsOn_networks hmB) (fun _ _ => rfl) (fun _ _ => rfl) hA hB
  · obtain ⟨f, hf⟩ := isVpn_of_type hvA
    obtain ⟨g, hg⟩ := isUnderlay_of_type huB
    exact swaps_of_apart underlayRouters_apart_vpnRouters.symm (actsOn_vpnRouters hf)
      (actsOn_underlayRouters hg) (fun _ _ => rfl) (fun _ _ => rfl) hA hB
  · rcases hvA with hbA | hrA <;> rcases hvB with hbB | hrB
    · exact absurd (hbA.trans hbB.symm) hne
    · exact swaps_of_vpn (isVpn_bgpFault hbA) (isVpn_rtFault hrB) hA hB fun _ => independent_bgp_rt
    · exact swaps_of_vpn (isVpn_rtFault hrA) (isVpn_bgpFault hbB) hA hB
        fun _ => independent_bgp_rt.symm
    · exact absurd (hrA.trans hrB.symm) hne

/-- Faults that are swapped or whose restorations overwrite each other. -/
theorem noInterference_iff_of_meet {m P : Prop} (hA : injectFailureOperator A c = .ok (savedA, cA))
    (hB : injectFailureOperator B cA = .ok (savedB, cAB))
    (hsep : Separate A B c ↔ (m → P))
    (hmeet : m → (NoInterference A B c cA cAB savedA savedB ↔
      P ∧ Restorable A c ∧ Restorable B c))
    (hswaps : ¬m → ∃ cB, Swaps A B c cA cAB cB savedA savedB) :
    NoInterference A B c cA cAB savedA savedB ↔
      (Restorable A c ∧ Restorable B c) ∧ Separate A B c := by
  rw [hsep]
  by_cases h : m
  · rw [hmeet h, and_comm]
    exact and_congr_right fun _ => ⟨fun hP _ => hP, fun hP => hP h⟩
  · rw [noInterference_iff_of_swaps hA hB fun _ => hswaps h]
    exact (and_iff_left fun hm => absurd hm h).symm

theorem noInterference_iff_mtu (htypeA : A.failureType = .mtuMismatch)
    (htypeB : B.failureType = .mtuMismatch) (hA : injectFailureOperator A c = .ok (savedA, cA))
    (hB : injectFailureOperator B cA = .ok (savedB, cAB)) :
    NoInterference A B c cA cAB savedA savedB ↔
      (Restorable A c ∧ Restorable B c) ∧ Separate A B c := by
  obtain ⟨_, l, netA, -, hl, hnetA, -, hcA⟩ := (injectMtu_ok_iff htypeA).mp hA
  obtain ⟨_, l₂, net, -, hl₂, hnet, -, -⟩ := (injectMtu_ok_iff htypeB).mp hB
  rw [hcA, networks.get?_set _ hl] at hl₂
  obtain rfl := Option.some.inj hl₂
  obtain ⟨netB, hnetB, -, -⟩ := targetNetwork_withMtu_name hnet
  refine noInterference_iff_of_meet (m := netA.name = netB.name) hA hB ?_
    (fun heq => noInterference_iff_of_mtu htypeA htypeB hA hB hl hnetA hnetB heq)
    fun hne => swaps_of_mtu htypeA htypeB hA hB hl hnetA hnetB hne
  unfold Separate
  rw [htypeA, htypeB]
  refine ⟨fun h heq => h rfl l netA netB hl hnetA hnetB heq,
    fun h _ l' netA' netB' hl' hnetA' hnetB' heq => ?_⟩
  obtain rfl := Option.some.inj (hl.symm.trans hl')
  obtain rfl := Option.some.inj (hnetA.symm.trans hnetA')
  obtain rfl := Option.some.inj (hnetB.symm.trans hnetB')
  exact h heq

theorem noInterference_iff_bgp (htypeA : A.failureType = .bgpSessionDown)
    (htypeB : B.failureType = .bgpSessionDown)
    (hA : injectFailureOperator A c = .ok (savedA, cA))
    (hB : injectFailureOperator B cA = .ok (savedB, cAB)) :
    NoInterference A B c cA cAB savedA savedB ↔
      (Restorable A c ∧ Restorable B c) ∧ Separate A B c := by
  refine noInterference_iff_of_meet (m := A.target.router = B.target.router ∧
    A.target.vrf.getD "global" = B.target.vrf.getD "global") hA hB ?_
    (fun heq => noInterference_iff_of_bgp htypeA htypeB hA hB heq.1 heq.2) fun hne => ?_
  · unfold Separate
    rw [htypeA, htypeB]
    exact ⟨fun h heq => h rfl heq.1 heq.2, fun h _ hrouter hvrf => h ⟨hrouter, hvrf⟩⟩
  · exact swaps_of_vpn (isVpn_bgpFault htypeA) (isVpn_bgpFault htypeB) hA hB fun hrouter =>
      independent_bgp_bgp fun hvrf => hne ⟨hrouter, hvrf⟩

theorem noInterference_iff_rt (htypeA : A.failureType = .vrfRtMisconfiguration)
    (htypeB : B.failureType = .vrfRtMisconfiguration)
    (hA : injectFailureOperator A c = .ok (savedA, cA))
    (hB : injectFailureOperator B cA = .ok (savedB, cAB)) :
    NoInterference A B c cA cAB savedA savedB ↔
      (Restorable A c ∧ Restorable B c) ∧ Separate A B c := by
  refine noInterference_iff_of_meet (m := A.target.router = B.target.router ∧
    A.target.vrf.getD "global" = B.target.vrf.getD "global") hA hB ?_
    (fun heq => noInterference_iff_of_rt htypeA htypeB hA hB heq.1 heq.2) fun hne => ?_
  · unfold Separate
    rw [htypeA, htypeB]
    exact ⟨fun h heq => h rfl heq.1 heq.2, fun h _ hrouter hvrf => h ⟨hrouter, hvrf⟩⟩
  · exact swaps_of_vpn (isVpn_rtFault htypeA) (isVpn_rtFault htypeB) hA hB fun hrouter =>
      independent_rt_rt fun hvrf => hne ⟨hrouter, hvrf⟩

theorem packetFault_change_eq_self_iff {r : UnderlayRouter} : (packetFault A).change r = r ↔
    r.trafficPolicy =
      some (corruptingPolicy A.name (A.target.interface.getD "") A.parameters) := by
  obtain ⟨_, _, policy, _⟩ := r
  simp [packetFault, eq_comm]

theorem noInterference_iff_packet (htypeA : A.failureType = .packetCorruption)
    (htypeB : B.failureType = .packetCorruption)
    (hA : injectFailureOperator A c = .ok (savedA, cA))
    (hB : injectFailureOperator B cA = .ok (savedB, cAB)) :
    NoInterference A B c cA cAB savedA savedB ↔
      (Restorable A c ∧ Restorable B c) ∧ Separate A B c := by
  have hf := isUnderlay_packetFault htypeA
  have hg := isUnderlay_packetFault htypeB
  obtain ⟨r, hr, name, hsave⟩ := hf.exists_router hA
  refine noInterference_iff_of_meet (m := A.target.router = B.target.router) hA hB ?_
    (fun heq => noInterference_iff_of_same_router hf hg hA hB heq hr (fun _ => ⟨_, rfl⟩)
      (fun _ => rfl) fun _ => rfl) fun hne => swaps_of_underlay hf hg hA hB fun heq => absurd heq hne
  rw [packetFault_change_eq_self_iff, packetFault_change_eq_self_iff]
  unfold Separate
  rw [htypeA, htypeB]
  refine ⟨fun h heq => h rfl heq r hr, fun h _ heq r' hr' => ?_⟩
  obtain rfl := Option.some.inj (hr.symm.trans hr')
  exact h heq

theorem noInterference_iff_area (htypeA : A.failureType = .ospfAreaMismatch)
    (htypeB : B.failureType = .ospfAreaMismatch)
    (hA : injectFailureOperator A c = .ok (savedA, cA))
    (hB : injectFailureOperator B cA = .ok (savedB, cAB)) :
    NoInterference A B c cA cAB savedA savedB ↔
      (Restorable A c ∧ Restorable B c) ∧ Separate A B c := by
  have hf := isUnderlay_areaFault htypeA
  have hg := isUnderlay_areaFault htypeB
  obtain ⟨r, hr, name, hsave⟩ := hf.exists_router hA
  obtain ⟨o, ho⟩ := ospf?_of_save hsave
  refine noInterference_iff_of_meet (m := A.target.router = B.target.router) hA hB ?_
    (fun heq => (noInterference_iff_of_areas htypeA htypeB hA hB heq hr ho).trans and_comm)
    fun hne => swaps_of_underlay hf hg hA hB fun heq => absurd heq hne
  unfold Separate
  rw [htypeA, htypeB]
  refine ⟨fun h heq => h rfl heq r o hr ho, fun h _ heq r' o' hr' ho' => ?_⟩
  obtain rfl := Option.some.inj (hr.symm.trans hr')
  obtain rfl := Option.some.inj (ho.symm.trans ho')
  exact h heq

theorem costFault_change_eq_self_iff {r : UnderlayRouter} : (costFault A).change r = r ↔
    r.ospf?.bind Ospf.interfaceCosts = some (inflatedCosts (A.target.interface.getD "")
      (A.parameters.ospfCost.getD 65535) r.costs) := by
  obtain ⟨_, protocols, _, _⟩ := r
  unfold costFault UnderlayRouter.withOspf UnderlayRouter.costs UnderlayRouter.ospf?
  cases protocols with
  | none => simp
  | some p =>
    obtain ⟨ospf, _⟩ := p
    cases ospf with
    | none => simp
    | some o =>
      obtain ⟨_, costs, _⟩ := o
      simp [eq_comm]

/-- An inflated cost is overwritten. -/
theorem restoredCosts_inflatedCosts (i : String) (a b : ℤ) (l : List InterfaceCost) :
    restoredCosts i a (inflatedCosts i b l) = restoredCosts i a l := by
  unfold restoredCosts inflatedCosts
  rw [otherCosts_append, otherCosts_otherCosts, otherCosts_interfaceCost, List.append_nil]

/-- The interface costs of a router after a restoration. -/
def restoringCosts (i : String) (cost : ℤ) : UnderlayRouter → UnderlayRouter :=
  UnderlayRouter.withOspf fun o =>
    { o with interfaceCosts := some (restoredCosts i cost (o.interfaceCosts.getD [])) }

theorem costs_change {i : String} (h : A.target.interface.getD "" = i) {cost : ℤ}
    {r : UnderlayRouter} :
    restoringCosts i cost ((costFault A).change r) = restoringCosts i cost r := by
  simp [restoringCosts, costFault, UnderlayRouter.withOspf, h, restoredCosts_inflatedCosts]

theorem costFault_undo_change
    (h : A.target.interface.getD "" = B.target.interface.getD "") {saved : OriginalState}
    {r : UnderlayRouter} :
    (costFault A).undo saved ((costFault B).change r) =
      restoringCosts (A.target.interface.getD "") (saved.originalOspfCost.getD 1) r := by
  simp [restoringCosts, costFault, UnderlayRouter.withOspf, UnderlayRouter.mapOspf, h,
    restoredCosts_inflatedCosts]

theorem noInterference_iff_cost (htypeA : A.failureType = .ospfCostInflation)
    (htypeB : B.failureType = .ospfCostInflation)
    (hA : injectFailureOperator A c = .ok (savedA, cA))
    (hB : injectFailureOperator B cA = .ok (savedB, cAB)) :
    NoInterference A B c cA cAB savedA savedB ↔
      (Restorable A c ∧ Restorable B c) ∧ Separate A B c := by
  have hf := isUnderlay_costFault htypeA
  have hg := isUnderlay_costFault htypeB
  obtain ⟨r, hr, name, hsave⟩ := hf.exists_router hA
  refine noInterference_iff_of_meet (m := A.target.router = B.target.router) hA hB
    (P := if A.target.interface.getD "" = B.target.interface.getD "" then
        (costFault A).change r = r ∧ (costFault B).change r = r
      else ∀ ic ∈ r.costs, ic.interface ≠ some (A.target.interface.getD "") ∧
        ic.interface ≠ some (B.target.interface.getD "")) ?_ (fun heq => ?_)
    fun hne => swaps_of_underlay hf hg hA hB fun heq => absurd heq hne
  · rw [costFault_change_eq_self_iff, costFault_change_eq_self_iff]
    unfold Separate
    rw [htypeA, htypeB]
    refine ⟨fun h heq => h rfl heq r hr, fun h _ heq r' hr' => ?_⟩
    obtain rfl := Option.some.inj (hr.symm.trans hr')
    exact h heq
  · by_cases hinterface : A.target.interface.getD "" = B.target.interface.getD ""
    · rw [if_pos hinterface]
      refine noInterference_iff_of_same_router hf hg hA hB heq hr (fun _ => ⟨_, rfl⟩)
        (fun saved => ?_) fun saved => ?_
      · rw [costFault_undo_change hinterface, costFault_undo_change rfl, costs_change rfl]
      · rw [costFault_undo_change rfl, costFault_undo_change rfl, costs_change hinterface]
    · rw [if_neg hinterface]
      exact (noInterference_iff_of_costs htypeA htypeB hA hB heq hinterface hr).trans and_comm

/-- **Faults that do not interfere.** After two injections that succeed, restoring the faults in
either order ends where it began, and restoring one of them leaves what the other would have done
alone, exactly when each is restorable by itself and they do not change the same. -/
theorem noInterference_iff (hA : injectFailureOperator A c = .ok (savedA, cA))
    (hB : injectFailureOperator B cA = .ok (savedB, cAB)) :
    NoInterference A B c cA cAB savedA savedB ↔
      (Restorable A c ∧ Restorable B c) ∧ Separate A B c := by
  by_cases htype : A.failureType = B.failureType
  · rcases fault_cases hA with hm | (hp | ha | hc) | hb | hr
    · exact noInterference_iff_mtu hm (htype.symm.trans hm) hA hB
    · exact noInterference_iff_packet hp (htype.symm.trans hp) hA hB
    · exact noInterference_iff_area ha (htype.symm.trans ha) hA hB
    · exact noInterference_iff_cost hc (htype.symm.trans hc) hA hB
    · exact noInterference_iff_bgp hb (htype.symm.trans hb) hA hB
    · exact noInterference_iff_rt hr (htype.symm.trans hr) hA hB
  · rw [noInterference_iff_of_swaps hA hB (swaps_of_type_ne htype hA hB)]
    exact (and_iff_left fun heq => absurd heq htype).symm

end

/-- A fault of this type, with defaults for what it does not use. -/
def faultOn (failureType : FailureType) (router interface : String) (parameters : Parameters) :
    NetworkFailure where
  name := "fault-" ++ router
  resourceNamespace := "default"
  failureType
  target := ⟨router, some interface, none, none⟩
  parameters

/-- An MTU and nothing else. -/
def mtuOnly (mtu : ℤ) : Parameters :=
  { mtu := some mtu, errorRate := none, delay := none, wrongArea := none, correctArea := none,
    ospfCost := none, wrongRt := none, correctRt := none }

/-- A namespace with one network between two routers. -/
def oneNetwork (mtu : Option ℤ) : Cluster where
  infrastructures :=
    let ends := [⟨"p1", "eth1", .obj []⟩, ⟨"p2", "eth1", .obj []⟩]
    ⟨[(⟨"infra", by decide⟩, ⟨some [⟨"p1-p2", mtu, some ends, .obj []⟩], .obj []⟩)],
      List.nodup_singleton _⟩
  underlays := ⟨[], List.nodup_nil⟩
  l3vpns := ⟨[], List.nodup_nil⟩

/-- Two MTU mismatches at the two ends of a network: restoring the first one ends the second one
too, whose restoration then brings the first one back. -/
theorem shared_network_interferes :
    ∃ savedA cA savedB cAB,
      injectFailureOperator (faultOn .mtuMismatch "p1" "eth1" (mtuOnly 1400)) (oneNetwork none) =
        .ok (savedA, cA) ∧
      injectFailureOperator (faultOn .mtuMismatch "p2" "eth1" (mtuOnly 1300)) cA =
        .ok (savedB, cAB) ∧
      restoreFailureOperator (faultOn .mtuMismatch "p1" "eth1" (mtuOnly 1400)) savedA cAB =
        .ok (oneNetwork none) ∧
      restoreFailureOperator (faultOn .mtuMismatch "p2" "eth1" (mtuOnly 1300)) savedB
        (oneNetwork none) = .ok (oneNetwork (some 1400)) ∧
      oneNetwork (some 1400) ≠ oneNetwork none :=
  ⟨_, _, _, _, rfl, rfl, by decide +kernel, by decide +kernel, by decide +kernel⟩

/-- An area mismatch and a packet corruption of one router. -/
theorem noInterference_border :
    ∃ savedA cA savedB cAB,
      injectFailureOperator (wrongAreaOn "0.0.0.7") (oneRouter borderRouter) = .ok (savedA, cA) ∧
      injectFailureOperator (faultOn .packetCorruption "pe1" "eth1" (mtuOnly 1400)) cA =
        .ok (savedB, cAB) ∧
      NoInterference (wrongAreaOn "0.0.0.7")
        (faultOn .packetCorruption "pe1" "eth1" (mtuOnly 1400)) (oneRouter borderRouter) cA cAB
        savedA savedB := by
  refine ⟨_, _, _, _, rfl, rfl, (noInterference_iff rfl rfl).mpr ⟨⟨?_, ?_⟩, ?_⟩⟩
  · intro r hr o ho
    cases hr
    cases ho
    decide
  · intro r hr
    cases hr
    exact nofun
  · exact fun htype => absurd htype (by decide)

end GnnSandbox.Operator
