import GnnSandbox.Vyos.Spec
import Mathlib.Algebra.Group.Nat.Defs
import Mathlib.Algebra.GroupWithZero.Nat

/-!
# Generated routers

The spec of a VyOSInfrastructure, what `validate_network_topology` checks of it, and the routers
that `generate_vyos_routers` makes of it. Addresses and subnets are those that the module
`ipaddress` reads without an error. A dictionary that is filled in a loop keeps the last value.
-/

namespace GnnSandbox.Vyos

open Graph (Json)

/-! ## Addresses -/

abbrev Ipv4 := Fin (2 ^ 32)

/-- The dotted form. -/
def ipText (a : Ipv4) : String :=
  ".".intercalate ([24, 16, 8, 0].map fun k => toString (a.val / 2 ^ k % 256))

/-- `ipaddress.ip_network`, which refuses host bits. -/
structure Subnet where
  base : Ipv4
  prefixlen : ℕ
  prefixlen_le : prefixlen ≤ 32
  aligned : 2 ^ (32 - prefixlen) ∣ base.val
deriving DecidableEq

def Subnet.contains (s : Subnet) (a : Ipv4) : Prop :=
  a.val / 2 ^ (32 - s.prefixlen) = s.base.val / 2 ^ (32 - s.prefixlen)

instance (s : Subnet) (a : Ipv4) : Decidable (s.contains a) := by
  unfold Subnet.contains; infer_instance

instance neZero_addresses : NeZero (2 ^ 32) := ⟨by decide⟩

/-- `192.168.122.0/24` -/
def Subnet.management : Subnet := ⟨3232266752, 24, by decide, by decide⟩

/-- `172.16.130.0/24` -/
def Subnet.customer : Subnet := ⟨2886763008, 24, by decide, by decide⟩

/-- `172.16.131.0/24` -/
def Subnet.secondCustomer : Subnet := ⟨2886763264, 24, by decide, by decide⟩

/-- `subnet1.overlaps(subnet2)` -/
def Subnet.overlaps (s t : Subnet) : Prop := s.contains t.base ∨ t.contains s.base

instance (s t : Subnet) : Decidable (s.overlaps t) := by unfold Subnet.overlaps; infer_instance

/-! ## The spec of the infrastructure -/

/-- An entry of `connected_routers`. -/
structure Connection where
  routerName : String
  interface : String
  ipAddress : Ipv4
deriving DecidableEq

structure NetworkDef where
  name : String
  subnet : Subnet
  networkType : Option String := none
  mtu : Option ℤ := none
  vlan : Option ℕ := none
  gateway : Option String := none
  connectedRouters : Option (List Connection) := none
deriving DecidableEq

structure InterfaceDef where
  name : String
  network : String
  description : Option String := none
  enabled : Option Bool := none
  vrf : Option String := none
deriving DecidableEq

structure OspfDef where
  enabled : Option Bool := none
  areas : Option (List String) := none
  passiveInterfaces : Option (List String) := none
deriving DecidableEq

structure BgpDef where
  enabled : Option Bool := none
  asNumber : ℕ
  routeReflector : Option Bool := none
  neighbors : Option (List Neighbor) := none
  vrfs : Option (List BgpVrf) := none
  addressFamilies : Option (List AddressFamily) := none
deriving DecidableEq

structure MplsDef where
  enabled : Option Bool := none
  ldpInterfaces : Option (List String) := none
deriving DecidableEq

structure ProtocolsDef where
  ospf : Option OspfDef := none
  bgp : Option BgpDef := none
  mpls : Option MplsDef := none
  static : Option Static := none
deriving DecidableEq

/-- An entry of `routers`; of the policies that are applied only the names matter. -/
structure RouterDef where
  name : String
  hostname : String
  routerId : String
  interfaces : Option (List InterfaceDef) := none
  vrfs : Option (List Vrf) := none
  protocols : Option ProtocolsDef := none
  services : Option Services := none
  trafficPolicy : Option Json := none
  qosPolicies : Option (List String) := none
  firewallPolicies : Option (List String) := none
deriving DecidableEq

/-- `spec` of a VyOSInfrastructure; of the policies only the names matter. -/
structure Topology where
  networks : Option (List NetworkDef) := none
  routers : Option (List RouterDef) := none
  qosPolicies : Option (List String) := none
  firewallPolicies : Option (List String) := none
deriving DecidableEq

/-- The network that a dictionary by name holds. -/
def lastNetwork (networks : List NetworkDef) (name : String) : Option NetworkDef :=
  networks.reverse.find? fun net => net.name = name

def NetworkDef.connections (net : NetworkDef) : List Connection := net.connectedRouters.getD []

/-- The connection that a dictionary by router holds. -/
def NetworkDef.connection (net : NetworkDef) (router : String) : Option Connection :=
  net.connections.reverse.find? fun conn => conn.routerName = router

/-! ## Validation -/

namespace Topology

variable (spec : Topology)

def networkList : List NetworkDef := spec.networks.getD []

def routerList : List RouterDef := spec.routers.getD []

/-- `management_networks` -/
def managementNetworks : List NetworkDef :=
  spec.networkList.filter fun net => net.networkType = some "management"

/-- `validate_management_network` -/
def ManagementNetwork : Prop :=
  ∃ net ∈ spec.managementNetworks, spec.managementNetworks = [net] ∧ net.vlan.getD 0 = 0

/-- `get_management_network_name` -/
def managementNetworkName : String := (spec.managementNetworks.head?.map (·.name)).getD ""

/-- `validate_management_interface_assignments` -/
def ManagementInterfaces : Prop :=
  spec.managementNetworkName ≠ "" ∧
  (∀ r ∈ spec.routerList, ∃ i ∈ (r.interfaces.getD []).head?,
    i.network = spec.managementNetworkName) ∧
  ∀ net ∈ spec.networkList.find? fun net => net.name = spec.managementNetworkName,
    ∀ conn ∈ net.connections,
      ∀ r ∈ spec.routerList.find? fun r => r.name = conn.routerName,
        ∀ i ∈ (r.interfaces.getD []).head?, conn.interface = i.name

/-- The networks whose name does not come again. -/
def lastNetworks : List NetworkDef → List NetworkDef
  | [] => []
  | net :: networks =>
    if net.name ∈ networks.map (·.name) then lastNetworks networks else net :: lastNetworks networks

/-- `validate_ip_assignments` -/
def IpAssignments : Prop :=
  (lastNetworks spec.networkList).Pairwise (fun a b => ¬a.subnet.overlaps b.subnet) ∧
  ∀ net ∈ spec.networkList,
    (∀ last ∈ lastNetwork spec.networkList net.name,
      ∀ conn ∈ net.connections, last.subnet.contains conn.ipAddress) ∧
    (net.connections.map (·.ipAddress)).Nodup

/-- `validate_interface_mappings` -/
def InterfaceMappings : Prop :=
  ∀ r ∈ spec.routerList, ∀ i ∈ r.interfaces.getD [], i.name ≠ "lo" →
    ∃ net ∈ lastNetwork spec.networkList i.network,
      ∃ conn ∈ net.connection r.name, i.name = conn.interface

/-- `validate_policy_references` -/
def PolicyReferences : Prop :=
  ∀ r ∈ spec.routerList,
    (∀ p ∈ r.qosPolicies.getD [], p ∈ spec.qosPolicies.getD []) ∧
      ∀ p ∈ r.firewallPolicies.getD [], p ∈ spec.firewallPolicies.getD []

/-- `validate_network_topology` finds the topology valid. -/
structure Valid : Prop where
  managementNetwork : spec.ManagementNetwork
  managementInterfaces : spec.ManagementInterfaces
  ipAssignments : spec.IpAssignments
  interfaceMappings : spec.InterfaceMappings
  policyReferences : spec.PolicyReferences

instance : Decidable spec.ManagementNetwork := by unfold ManagementNetwork; infer_instance

instance : Decidable spec.ManagementInterfaces := by unfold ManagementInterfaces; infer_instance

instance : Decidable spec.IpAssignments := by unfold IpAssignments; infer_instance

instance : Decidable spec.InterfaceMappings := by unfold InterfaceMappings; infer_instance

instance : Decidable spec.PolicyReferences := by unfold PolicyReferences; infer_instance

instance : Decidable spec.Valid :=
  decidable_of_iff (spec.ManagementNetwork ∧ spec.ManagementInterfaces ∧ spec.IpAssignments ∧
      spec.InterfaceMappings ∧ spec.PolicyReferences)
    ⟨fun h => ⟨h.1, h.2.1, h.2.2.1, h.2.2.2.1, h.2.2.2.2⟩,
      fun h => ⟨h.managementNetwork, h.managementInterfaces, h.ipAssignments, h.interfaceMappings,
        h.policyReferences⟩⟩

/-- The names of the routers, each with the names of its interfaces. -/
def interfaceNames : List (String × List String) :=
  spec.routerList.map fun r => (r.name, (r.interfaces.getD []).map (·.name))

end Topology

/-! ## Generation -/

/-- `network_info['linux_network']`, when it is not empty. -/
def NetworkDef.linuxNetwork (net : NetworkDef) : Option String :=
  if net.name = "loopbacks" ∨ net.name = "" then none else some net.name

/-- The loopback of a router. -/
def loopbackInterface (router : RouterDef) (i : InterfaceDef) : Interface where
  name := "lo"
  description := some (i.description.getD "Loopback interface")
  address := router.routerId ++ "/32"
  mtu := some 1500
  enabled := some true

/-- An interface of a router on a network. -/
def networkInterface (i : InterfaceDef) (net : NetworkDef) (conn : Connection) : Interface where
  name := i.name
  description := some (i.description.getD "")
  address := ipText conn.ipAddress ++ "/" ++ toString net.subnet.prefixlen
  gateway := net.gateway
  mtu := some (net.mtu.getD 1500)
  vrf := i.vrf
  linuxNetwork := net.linuxNetwork
  vlan := net.vlan
  enabled := some (i.enabled.getD true)

/-- One interface; without its network or without an address there is none. -/
def generateRouterInterface (router : RouterDef) (networks : List NetworkDef) (i : InterfaceDef) :
    Option Interface :=
  if i.name = "lo" then some (loopbackInterface router i)
  else
    (lastNetwork networks i.network).bind fun net =>
      (net.connection router.name).map (networkInterface i net)

/-- `generate_router_interfaces` -/
def generateRouterInterfaces (router : RouterDef) (networks : List NetworkDef) : List Interface :=
  (router.interfaces.getD []).filterMap (generateRouterInterface router networks)

/-- An OSPF area, with the loopback if it is the backbone. -/
def ospfArea (routerId area : String) : Area where
  area := area
  networks := some (if area = "0.0.0.0" then [routerId ++ "/32"] else [])
  type := some (if area = "0.0.0.0" then "backbone" else "standard")

def ospfConfig (routerId : String) (ospf : OspfDef) : Ospf where
  routerId := some routerId
  areas := some ((ospf.areas.getD []).map (ospfArea routerId))
  passiveInterfaces := ospf.passiveInterfaces

/-- The address families, by default vpnv4 for routers with VRFs and route reflectors. -/
def bgpFamilies (vrfs : List Vrf) (bgp : BgpDef) : Option (List AddressFamily) :=
  bgp.addressFamilies.or
    (if vrfs ≠ [] ∨ bgp.routeReflector.getD false then some [⟨"vpnv4", none⟩] else none)

def bgpConfig (routerId : String) (vrfs : List Vrf) (bgp : BgpDef) : Bgp where
  asNumber := some bgp.asNumber
  routerId := some routerId
  routeReflector := some (bgp.routeReflector.getD false)
  neighbors := some (bgp.neighbors.getD [])
  vrfs := some (bgp.vrfs.getD [])
  addressFamilies := bgpFamilies vrfs bgp

def mplsConfig (routerId : String) (mpls : MplsDef) : Mpls where
  enabled := some true
  ldp := some { routerId := some routerId, interfaces := some (mpls.ldpInterfaces.getD []) }

/-- `generate_router_protocols` -/
def generateRouterProtocols (router : RouterDef) : Protocols :=
  let protocols := router.protocols.getD {}
  { ospf := (protocols.ospf.filter fun o => o.enabled.getD false).map (ospfConfig router.routerId)
    bgp := (protocols.bgp.filter fun b => b.enabled.getD false).map
      (bgpConfig router.routerId (router.vrfs.getD []))
    mpls := (protocols.mpls.filter fun m => m.enabled.getD false).map (mplsConfig router.routerId)
    static := protocols.static.filter fun s => s.routes.getD [] ≠ [] }

/-- The spec of a router. -/
def generateVyosRouter (networks : List NetworkDef) (router : RouterDef) : Spec where
  hostname := router.hostname
  routerId := router.routerId
  interfaces := some (generateRouterInterfaces router networks)
  vrfs := some (router.vrfs.getD [])
  protocols := some (generateRouterProtocols router)
  services := some (router.services.getD {})
  trafficPolicy := some (router.trafficPolicy.getD (.obj []))

/-- `generate_vyos_routers`, each with its name. -/
def generateVyosRouters (spec : Topology) : List (String × Spec) :=
  spec.routerList.map fun router => (router.name, generateVyosRouter spec.networkList router)

end GnnSandbox.Vyos
