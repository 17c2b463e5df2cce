import GnnSandbox.Operator.Restore
import GnnSandbox.Vyos.Effects

/-!
# From an injected fault to the script of its router

The injection changes a custom resource, whose update handler then changes the router of the
target. The injection keeps most fields as they are; a `Reading` says what the handlers find in
them, so that all results hold whatever that is. Costs of OSPF interfaces are in no schema of the
cluster and are dropped.
-/

namespace GnnSandbox.Vyos

open Graph (Json)
open Operator (NetworkFailure FailureType OriginalState Cluster InfrastructureSpec UnderlaySpec
  L3vpnSpec ConnectedRouter VpnRouter)

/-- What the handlers find in the fields that the injection keeps as they are. Fields that the
injection knows do not count. -/
structure Reading where
  connection : Json → Ipv4
  network : Json → NetworkDef
  infrastructure : Json → Topology
  area : Json → Area
  ospf : Json → Ospf
  protocols : Json → Protocols
  neighbor : Json → Neighbor
  vpnVrf : Json → VpnVrf
  l3vpn : Json → L3vpn

namespace Reading

variable (rd : Reading)

/-! ## The resources as the handlers read them -/

def connectionOf (conn : ConnectedRouter) : Connection where
  routerName := conn.routerName
  interface := conn.interface
  ipAddress := rd.connection conn.other

def networkOf (net : Operator.Network) : NetworkDef :=
  { rd.network net.other with
    name := net.name
    mtu := net.mtu
    connectedRouters := net.connectedRouters.map (List.map rd.connectionOf) }

def topology (spec : InfrastructureSpec) : Topology :=
  { rd.infrastructure spec.other with networks := spec.networks.map (List.map rd.networkOf) }

def areaOf (a : Operator.Area) : Area := { rd.area a.other with area := a.area, type := a.type }

def ospfOf (o : Operator.Ospf) : Ospf :=
  { rd.ospf o.other with areas := o.areas.map (List.map rd.areaOf) }

def protocolsOf (p : Operator.Protocols) : Protocols :=
  { rd.protocols p.other with ospf := p.ospf.map rd.ospfOf }

def underlayRouterOf (r : Operator.UnderlayRouter) : UnderlayRouter where
  name := r.name
  protocols := r.protocols.map rd.protocolsOf
  trafficPolicy := r.trafficPolicy

def underlay (spec : UnderlaySpec) : Underlay where
  routers := spec.routers.map (List.map rd.underlayRouterOf)

def bgpVrfOf (v : Operator.BgpVrf) : BgpVrf where
  name := v.name
  neighbors := v.neighbors.map (List.map rd.neighbor)

def vpnVrfOf (v : Operator.VpnVrf) : VpnVrf :=
  let rest := rd.vpnVrf v.other
  { rest with vrf := { rest.vrf with name := v.name, rtImport := v.rtImport } }

def peRouterOf (r : VpnRouter) : PeRouter where
  name := r.name
  vrfs := r.vrfs.map (List.map rd.vpnVrfOf)
  bgp := r.bgp.map fun b => { vrfs := b.vrfs.map (List.map rd.bgpVrfOf) }

def vpn (spec : L3vpnSpec) : L3vpn :=
  { rd.l3vpn spec.other with routers := spec.routers.map (List.map rd.peRouterOf) }

/-! ## Propagation -/

/-- The update handler of the resource that a fault of this type patches. -/
def propagate (failureType : FailureType) (saved : OriginalState) (c : Cluster) (routers : Routers) :
    Routers :=
  match failureType with
  | .mtuMismatch =>
    match saved.infraName.bind c.infrastructures.get? with
    | some spec => applyInfrastructure (rd.topology spec) routers
    | none => routers
  | .bgpSessionDown | .vrfRtMisconfiguration =>
    match saved.l3vpnName.bind c.l3vpns.get? with
    | some spec => applyVpn (rd.vpn spec) routers
    | none => routers
  | .packetCorruption | .ospfAreaMismatch | .ospfCostInflation =>
    match saved.underlayName.bind c.underlays.get? with
    | some spec => applyUnderlay (rd.underlay spec) routers
    | none => routers
  | _ => routers

end Reading

/-- The script that `update_vyosrouter` renders for a router. -/
def scriptOf (routers : Routers) (name : String) : Option (List Command) :=
  (routers name).bind (Spec.script .update)

/-! ## Commands about a target -/

def commandPath : Command → Path
  | .set p => p
  | .delete p => p

/-- A path about an interface: below its node, or about its port in a protocol. -/
def aboutInterface (interface : String) (p : Path) : Bool :=
  (p.head? = some "interfaces" ∧ p[2]? = some interface) ∨
    (p.head? = some "protocols" ∧
      ∃ port ∈ p, port = interface ∨ (interface ++ ".").toList <+: port.toList)

/-- A path about a VRF. -/
def aboutVrf (vrf : String) (p : Path) : Bool := ["vrf", "name", vrf] <+: p

/-- A command about the target of a fault. -/
def aboutTarget (nf : NetworkFailure) (cmd : Command) : Bool :=
  match nf.failureType with
  | .bgpSessionDown | .vrfRtMisconfiguration =>
    aboutVrf (nf.target.vrf.getD "global") (commandPath cmd)
  | _ => aboutInterface (nf.target.interface.getD "") (commandPath cmd)

/-- The scripts of the target before and after differ in the commands about the target. -/
def ScriptsDiffer (nf : NetworkFailure) (routers routers' : Routers) : Prop :=
  ∃ before ∈ scriptOf routers nf.target.router, ∃ after ∈ scriptOf routers' nf.target.router,
    after.filter (aboutTarget nf) ≠ before.filter (aboutTarget nf)

/-- **The fault reaches the router.** After the update handler has propagated the injected change,
the script of the target differs in the commands about the target, and after the handler has
propagated a restored resource the script is the one from before. -/
def FaultReaches (rd : Reading) (nf : NetworkFailure) (saved : OriginalState) (injected : Cluster)
    (routers : Routers) : Prop :=
  let faulty := rd.propagate nf.failureType saved injected routers
  ScriptsDiffer nf routers faulty ∧
  ∀ restored, Operator.restoreFailureOperator nf saved injected = .ok restored →
    scriptOf (rd.propagate nf.failureType saved restored faulty) nf.target.router =
      scriptOf routers nf.target.router

/-- Scripts that differ are not the same. -/
theorem ScriptsDiffer.isSome {nf : NetworkFailure} {routers routers' : Routers}
    (h : ScriptsDiffer nf routers routers') : (scriptOf routers nf.target.router).isSome := by
  obtain ⟨before, hbefore, -⟩ := h
  exact Option.isSome_of_mem hbefore

theorem ScriptsDiffer.scriptOf_ne {nf : NetworkFailure} {routers routers' : Routers}
    (h : ScriptsDiffer nf routers routers') :
    scriptOf routers' nf.target.router ≠ scriptOf routers nf.target.router := by
  obtain ⟨before, hbefore, after, hafter, hne⟩ := h
  intro heq
  rw [heq] at hafter
  obtain rfl := Option.some.inj (hbefore.symm.trans hafter)
  exact hne rfl

end GnnSandbox.Vyos
