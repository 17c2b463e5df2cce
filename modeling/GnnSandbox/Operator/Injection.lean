import GnnSandbox.Graph.Text
import GnnSandbox.Lib.First
import GnnSandbox.Operator.Crd

/-!
# Faults in the custom resources

`inject_failure_operator` patches the resource that expresses a fault and returns what it needs
for restoring it; `restore_failure_operator` patches the resource back. Every call of the API
succeeds here. A patch is a merge-patch of one list of the spec, which replaces that list as a
whole and leaves the other fields.
-/

namespace GnnSandbox.Operator

open Graph (Json)

/-- `original_state`, whose keys depend on the fault. -/
structure OriginalState where
  mtu : Option ℤ := none
  networkName : Option String := none
  infraName : Option ResourceName := none
  originalNeighbors : Option (List Json) := none
  l3vpnName : Option ResourceName := none
  vrf : Option String := none
  originalTrafficPolicy : Option Json := none
  underlayName : Option ResourceName := none
  hadExistingQdisc : Option Bool := none
  correctArea : Option String := none
  wrongArea : Option String := none
  interface : Option String := none
  originalOspfCost : Option ℤ := none
  originalRtImport : Option (List String) := none
  correctRt : Option String := none
  wrongRt : Option String := none
deriving DecidableEq

/-- A returned dictionary without success, by its error. -/
abbrev Outcome (α : Type) := Except String α

namespace Cluster

/-- Patch `spec.networks` of an infrastructure. -/
def patchNetworks (c : Cluster) (name : ResourceName) (networks : List Network) : Cluster :=
  match c.infrastructures.get? name with
  | none => c
  | some spec =>
    { c with infrastructures := c.infrastructures.update name { spec with networks := some networks } }

/-- Patch `spec.routers` of an underlay. -/
def patchUnderlay (c : Cluster) (name : ResourceName) (routers : List UnderlayRouter) : Cluster :=
  match c.underlays.get? name with
  | none => c
  | some spec => { c with underlays := c.underlays.update name { spec with routers := some routers } }

/-- Patch `spec.routers` of an L3VPN. -/
def patchL3vpn (c : Cluster) (name : ResourceName) (routers : List VpnRouter) : Cluster :=
  match c.l3vpns.get? name with
  | none => c
  | some spec => { c with l3vpns := c.l3vpns.update name { spec with routers := some routers } }

end Cluster

/-! ## MTU mismatch -/

/-- The interface of the router is on the network. -/
def Network.connects (router interface : String) (net : Network) : Bool :=
  (net.connectedRouters.getD []).any fun conn =>
    conn.routerName = router ∧ conn.interface = interface

/-- The network whose MTU is changed; one without a name does not end the search. -/
def targetNetwork (router interface : String) (networks : List Network) : Option Network :=
  networks.find? fun net => net.name ≠ "" ∧ net.connects router interface

/-- All networks of a name get an MTU. -/
def withMtu (name : String) (mtu : Option ℤ) (networks : List Network) : List Network :=
  networks.map fun net => if net.name = name then { net with mtu } else net

/-- `_inject_mtu_mismatch` -/
def injectMtuMismatch (router interface : String) (parameters : Parameters) (c : Cluster) :
    Outcome (OriginalState × Cluster) :=
  match c.infrastructures.first with
  | none => .error "VyOSInfrastructure CRD not found in namespace"
  | some (infraName, infra) =>
    let networks := infra.networks.getD []
    match targetNetwork router interface networks with
    | none => .error ("No network found connecting router '" ++ router ++ "' interface '" ++
        interface ++ "' in VyOSInfrastructure")
    | some net =>
      .ok ({ mtu := some (net.mtu.getD 1500), networkName := some net.name,
             infraName := some infraName },
        c.patchNetworks infraName (withMtu net.name (some (parameters.mtu.getD 1400)) networks))

/-- The MTU that is written back; the usual one is left out. -/
def restoredMtu (originalMtu : ℤ) : Option ℤ := if originalMtu = 1500 then none else some originalMtu

/-- `_restore_mtu_mismatch` -/
def restoreMtuMismatch (saved : OriginalState) (c : Cluster) : Outcome Cluster :=
  match saved.networkName.filter (· ≠ ""), saved.infraName with
  | some networkName, some infraName =>
    match c.infrastructures.get? infraName with
    | none => .error ("VyOSInfrastructure " ++ infraName ++ " not found")
    | some infra =>
      .ok (c.patchNetworks infraName (withMtu networkName (restoredMtu (saved.mtu.getD 1500))
        (infra.networks.getD [])))
  | _, _ => .error "original_state missing network_name or infra_name"

/-! ## Faults of a router of the underlay -/

/-- Change the first router entry of that name, after saving what `save` reads from it. -/
def injectUnderlay (router : String) (save : ResourceName → UnderlayRouter → Outcome OriginalState)
    (change : UnderlayRouter → UnderlayRouter) (c : Cluster) : Outcome (OriginalState × Cluster) :=
  match c.underlays.first with
  | none => .error "VyOSUnderlay CRD not found in namespace"
  | some (underlayName, underlay) =>
    let routers := underlay.routers.getD []
    match routers.find? fun r => r.name = router with
    | none => .error ("Router '" ++ router ++ "' not found in VyOSUnderlay")
    | some r => do
      let saved ← save underlayName r
      return (saved, c.patchUnderlay underlayName (modifyFirst (fun r => r.name = router) change routers))

/-- Change the first router entry of that name back. -/
def restoreUnderlay (router : String) (saved : OriginalState) (undo : UnderlayRouter → UnderlayRouter)
    (c : Cluster) : Outcome Cluster :=
  match saved.underlayName with
  | none => .error "original_state missing underlay_name"
  | some underlayName =>
    match c.underlays.get? underlayName with
    | none => .error ("VyOSUnderlay " ++ underlayName ++ " not found")
    | some underlay => .ok (c.patchUnderlay underlayName
        (modifyFirst (fun r => r.name = router) undo (underlay.routers.getD [])))

/-! ### Packet corruption -/

/-- `FAULT_<NAME>` -/
def faultName (name : String) : String :=
  "FAULT_" ++ String.ofList ((Graph.upperAscii name).toList.map fun c => if c = '-' then '_' else c)

/-- The traffic policy that corrupts packets of an interface. -/
def corruptingPolicy (name interface : String) (parameters : Parameters) : Json :=
  let errorRate := parameters.errorRate.getD "5%"
  .obj [("apply", .arr [.obj [("interface", .str interface), ("out", .str (faultName name))]]),
    ("network_emulator", .arr [.obj [("corruption", .str errorRate),
      ("delay", .str (parameters.delay.getD "10ms")), ("loss", .str errorRate),
      ("name", .str (faultName name))]])]

/-- `r.get('traffic_policy', None)` -/
def UnderlayRouter.policy (r : UnderlayRouter) : Option Json := r.trafficPolicy.filter (· ≠ .null)

/-- `_inject_packet_corruption` -/
def injectPacketCorruption (name router interface : String) (parameters : Parameters) :
    Cluster → Outcome (OriginalState × Cluster) :=
  injectUnderlay router
    (fun underlayName r => .ok
      { originalTrafficPolicy := r.policy, underlayName := some underlayName,
        hadExistingQdisc := some r.policy.isSome })
    fun r => { r with trafficPolicy := some (corruptingPolicy name interface parameters) }

/-- `_restore_packet_corruption` -/
def restorePacketCorruption (router : String) (saved : OriginalState) : Cluster → Outcome Cluster :=
  restoreUnderlay router saved fun r => { r with trafficPolicy := saved.originalTrafficPolicy }

/-! ### OSPF area mismatch -/

/-- The OSPF settings of a router, when it has them. -/
def UnderlayRouter.ospf? (r : UnderlayRouter) : Option Ospf := r.protocols.bind Protocols.ospf

/-- Change the OSPF settings of a router that has them. -/
def UnderlayRouter.mapOspf (f : Ospf → Ospf) (r : UnderlayRouter) : UnderlayRouter :=
  { r with protocols := r.protocols.map fun p => { p with ospf := p.ospf.map f } }

/-- The areas with the correct one replaced. -/
def mismatchedAreas (correctArea wrongArea : String) (areas : List Area) : List Area :=
  if areas = [] then [⟨wrongArea, some "non-backbone", .obj []⟩]
  else areas.map fun a => if a.area = correctArea then { a with area := wrongArea } else a

/-- The areas with the wrong one replaced, which makes it a backbone. -/
def restoredAreas (correctArea wrongArea : String) (areas : List Area) : List Area :=
  areas.map fun a =>
    if a.area = wrongArea then { a with area := correctArea, type := some "backbone" } else a

/-- `routers[target_router_idx]['protocols']['ospf']`, which may be missing. -/
def UnderlayRouter.ospfItem (r : UnderlayRouter) : Outcome Ospf :=
  match r.protocols with
  | none => .error "'protocols'"
  | some p =>
    match p.ospf with
    | none => .error "'ospf'"
    | some o => .ok o

/-- `_inject_ospf_area_mismatch` -/
def injectOspfAreaMismatch (router interface : String) (parameters : Parameters) :
    Cluster → Outcome (OriginalState × Cluster) :=
  let wrongArea := parameters.wrongArea.getD "0.0.0.99"
  let correctArea := parameters.correctArea.getD "0.0.0.0"
  injectUnderlay router
    (fun underlayName r => r.ospfItem.map fun _ =>
      { correctArea := some correctArea, wrongArea := some wrongArea,
        interface := some interface, underlayName := some underlayName })
    (UnderlayRouter.mapOspf fun o =>
      { o with areas := some (mismatchedAreas correctArea wrongArea (o.areas.getD [])) })

/-- `_restore_ospf_area_mismatch` -/
def restoreOspfAreaMismatch (router : String) (saved : OriginalState) : Cluster → Outcome Cluster :=
  let correctArea := saved.correctArea.getD "0.0.0.0"
  let wrongArea := saved.wrongArea.getD "0.0.0.99"
  restoreUnderlay router saved (UnderlayRouter.mapOspf fun o =>
    { o with areas := o.areas.map (restoredAreas correctArea wrongArea) })

/-! ### OSPF cost inflation -/

/-- The cost of an interface, 1 when there is none. -/
def costOf (interface : String) (costs : List InterfaceCost) : ℤ :=
  match costs.find? fun ic => ic.interface = some interface with
  | none => 1
  | some ic => ic.cost.getD 1

/-- The costs of the other interfaces. -/
def otherCosts (interface : String) (costs : List InterfaceCost) : List InterfaceCost :=
  costs.filter fun ic => ic.interface ≠ some interface

/-- `{'interface': interface, 'cost': cost}` -/
def interfaceCost (interface : String) (cost : ℤ) : InterfaceCost :=
  ⟨some interface, some cost, .obj []⟩

/-- The costs with that of the interface inflated. -/
def inflatedCosts (interface : String) (cost : ℤ) (costs : List InterfaceCost) :
    List InterfaceCost := otherCosts interface costs ++ [interfaceCost interface cost]

/-- The costs with that of the interface as it was, unless that is the default. -/
def restoredCosts (interface : String) (cost : ℤ) (costs : List InterfaceCost) :
    List InterfaceCost :=
  otherCosts interface costs ++ if cost ≠ 1 then [interfaceCost interface cost] else []

/-- `setdefault('protocols', {}).setdefault('ospf', {})` -/
def UnderlayRouter.withOspf (f : Ospf → Ospf) (r : UnderlayRouter) : UnderlayRouter :=
  let protocols := r.protocols.getD ⟨none, .obj []⟩
  let ospf := protocols.ospf.getD ⟨none, none, .obj []⟩
  { r with protocols := some { protocols with ospf := some (f ospf) } }

/-- The interface costs of a router. -/
def UnderlayRouter.costs (r : UnderlayRouter) : List InterfaceCost :=
  (r.ospf?.bind Ospf.interfaceCosts).getD []

/-- `_inject_ospf_cost_inflation` -/
def injectOspfCostInflation (router interface : String) (parameters : Parameters) :
    Cluster → Outcome (OriginalState × Cluster) :=
  injectUnderlay router
    (fun underlayName r => .ok
      { originalOspfCost := some (costOf interface r.costs), interface := some interface,
        underlayName := some underlayName })
    (UnderlayRouter.withOspf fun o =>
      { o with interfaceCosts := some (inflatedCosts interface (parameters.ospfCost.getD 65535)
          (o.interfaceCosts.getD [])) })

/-- `_restore_ospf_cost_inflation` -/
def restoreOspfCostInflation (router interface : String) (saved : OriginalState) :
    Cluster → Outcome Cluster :=
  restoreUnderlay router saved (UnderlayRouter.mapOspf fun o =>
    { o with interfaceCosts := some (restoredCosts interface (saved.originalOspfCost.getD 1)
        (o.interfaceCosts.getD [])) })

/-! ## Faults of a VRF -/

/-- Change the first router entry of that name in which `find` finds the VRF. -/
def injectVpn {α : Type} (router vrf : String) (find : VpnRouter → Option α)
    (save : ResourceName → α → OriginalState) (change : VpnRouter → VpnRouter) (c : Cluster) :
    Outcome (OriginalState × Cluster) :=
  match c.l3vpns.first with
  | none => .error "VyOSL3VPN CRD not found in namespace"
  | some (l3vpnName, l3vpn) =>
    let routers := l3vpn.routers.getD []
    match (routers.find? fun r => r.name = router ∧ (find r).isSome).bind find with
    | none => .error ("Router '" ++ router ++ "' VRF '" ++ vrf ++ "' not found in VyOSL3VPN")
    | some v => .ok (save l3vpnName v, c.patchL3vpn l3vpnName
        (modifyFirst (fun r => r.name = router ∧ (find r).isSome) change routers))

/-- Change the first router entry of that name back. -/
def restoreVpn (router : String) (l3vpnName : ResourceName) (undo : VpnRouter → VpnRouter)
    (c : Cluster) : Outcome Cluster :=
  match c.l3vpns.get? l3vpnName with
  | none => .error ("VyOSL3VPN " ++ l3vpnName ++ " not found")
  | some l3vpn => .ok (c.patchL3vpn l3vpnName
      (modifyFirst (fun r => r.name = router) undo (l3vpn.routers.getD [])))

/-! ### BGP session down -/

/-- The first VRF of that name in `bgp.vrfs`. -/
def VpnRouter.bgpVrf? (vrf : String) (r : VpnRouter) : Option BgpVrf :=
  ((r.bgp.bind VpnBgp.vrfs).getD []).find? fun v => v.name = vrf

/-- Change the first VRF of that name in `bgp.vrfs`. -/
def VpnRouter.mapBgpVrf (vrf : String) (f : BgpVrf → BgpVrf) (r : VpnRouter) : VpnRouter :=
  { r with bgp := r.bgp.map fun b => { b with vrfs := b.vrfs.map (modifyFirst (fun v => v.name = vrf) f) } }

/-- `_inject_bgp_session_down`, which takes all neighbours and not only `peer_ip`. -/
def injectBgpSessionDown (router _peerIp vrf : String) : Cluster → Outcome (OriginalState × Cluster) :=
  injectVpn router vrf (VpnRouter.bgpVrf? vrf)
    (fun l3vpnName v =>
      { originalNeighbors := some (v.neighbors.getD []), l3vpnName := some l3vpnName,
        vrf := some vrf })
    (VpnRouter.mapBgpVrf vrf fun v => { v with neighbors := some [] })

/-- `_restore_bgp_session_down` -/
def restoreBgpSessionDown (router vrf : String) (saved : OriginalState) (c : Cluster) :
    Outcome Cluster :=
  match saved.l3vpnName with
  | none => .error "original_state missing l3vpn_name"
  | some l3vpnName => restoreVpn router l3vpnName (VpnRouter.mapBgpVrf vrf fun v =>
      { v with neighbors := some (saved.originalNeighbors.getD []) }) c

/-! ### VRF route target misconfiguration -/

/-- The first VRF of that name in `vrfs`. -/
def VpnRouter.vrf? (vrf : String) (r : VpnRouter) : Option VpnVrf :=
  (r.vrfs.getD []).find? fun v => v.name = vrf

/-- Change the first VRF of that name in `vrfs`. -/
def VpnRouter.mapVrf (vrf : String) (f : VpnVrf → VpnVrf) (r : VpnRouter) : VpnRouter :=
  { r with vrfs := r.vrfs.map (modifyFirst (fun v => v.name = vrf) f) }

/-- The import route targets with the correct one replaced. -/
def misconfiguredRts (correctRt wrongRt : String) (rts : List String) : List String :=
  if correctRt ∈ rts then rts.map fun rt => if rt ≠ correctRt then rt else wrongRt else [wrongRt]

/-- `_inject_vrf_rt_misconfiguration` -/
def injectVrfRtMisconfiguration (router vrf : String) (parameters : Parameters) :
    Cluster → Outcome (OriginalState × Cluster) :=
  let wrongRt := parameters.wrongRt.getD "65035:9999"
  let correctRt := parameters.correctRt.getD "65035:1030"
  injectVpn router vrf (VpnRouter.vrf? vrf)
    (fun l3vpnName v =>
      { originalRtImport := some (v.rtImport.getD []), correctRt := some correctRt,
        wrongRt := some wrongRt, l3vpnName := some l3vpnName, vrf := some vrf })
    (VpnRouter.mapVrf vrf fun v =>
      { v with rtImport := some (misconfiguredRts correctRt wrongRt (v.rtImport.getD [])) })

/-- The first L3VPN with a router entry of that name that has the VRF. -/
def discoverL3vpn (router vrf : String) (c : Cluster) : Option ResourceName :=
  (c.l3vpns.items.find? fun l3vpn => (l3vpn.2.routers.getD []).any fun r =>
    r.name = router ∧ (r.vrf? vrf).isSome).map Prod.fst

/-- The route targets that are written back: the saved ones, or else the correct one. -/
def restoredRts (saved : OriginalState) (parameters : Parameters) : Option (List String) :=
  match saved.originalRtImport.getD [] with
  | [] => ((saved.correctRt.filter (· ≠ "")).or (parameters.correctRt.filter (· ≠ ""))).map
      fun rt => [rt]
  | rts => some rts

/-- `_restore_vrf_rt_misconfiguration` -/
def restoreVrfRtMisconfiguration (resourceNamespace router vrf : String) (saved : OriginalState)
    (parameters : Parameters) (c : Cluster) : Outcome Cluster :=
  match saved.l3vpnName.or (discoverL3vpn router vrf c) with
  | none => .error ("original_state missing l3vpn_name and no VyOSL3VPN CRD found containing router '" ++
      router ++ "' VRF '" ++ vrf ++ "' in namespace '" ++ resourceNamespace ++ "'")
  | some l3vpnName =>
    match restoredRts saved parameters with
    | none => .error ("original_state missing original_rt_import and correct_rt — " ++
        "cannot determine what RT to restore. Manual remediation required.")
    | some rts => restoreVpn router l3vpnName
        (VpnRouter.mapVrf vrf fun v => { v with rtImport := some rts }) c

/-! ## Dispatch -/

/-- `inject_failure_operator` -/
def injectFailureOperator (nf : NetworkFailure) (c : Cluster) : Outcome (OriginalState × Cluster) :=
  let router := nf.target.router
  let interface := nf.target.interface.getD ""
  let peerIp := nf.target.peerIp.getD ""
  let vrf := nf.target.vrf.getD "global"
  match nf.failureType with
  | .mtuMismatch => injectMtuMismatch router interface nf.parameters c
  | .bgpSessionDown => injectBgpSessionDown router peerIp vrf c
  | .packetCorruption => injectPacketCorruption nf.name router interface nf.parameters c
  | .ospfAreaMismatch => injectOspfAreaMismatch router interface nf.parameters c
  | .ospfCostInflation => injectOspfCostInflation router interface nf.parameters c
  | .vrfRtMisconfiguration => injectVrfRtMisconfiguration router vrf nf.parameters c
  | failureType => .error ("failureType '" ++ failureType.name ++
      "' is not supported in operator injection mode. Use injectionMode: direct instead.")

/-- `restore_failure_operator` -/
def restoreFailureOperator (nf : NetworkFailure) (saved : OriginalState) (c : Cluster) :
    Outcome Cluster :=
  let router := nf.target.router
  let interface := nf.target.interface.getD ""
  let vrf := nf.target.vrf.getD "global"
  match nf.failureType with
  | .mtuMismatch => restoreMtuMismatch saved c
  | .bgpSessionDown => restoreBgpSessionDown router vrf saved c
  | .packetCorruption => restorePacketCorruption router saved c
  | .ospfAreaMismatch => restoreOspfAreaMismatch router saved c
  | .ospfCostInflation => restoreOspfCostInflation router interface saved c
  | .vrfRtMisconfiguration =>
    restoreVrfRtMisconfiguration nf.resourceNamespace router vrf saved nf.parameters c
  | failureType => .error ("failureType '" ++ failureType.name ++
      "' is not supported in operator restoration mode.")

end GnnSandbox.Operator
