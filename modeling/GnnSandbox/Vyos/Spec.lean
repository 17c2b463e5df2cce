import GnnSandbox.Graph.Json
import Mathlib.Data.Int.Notation

/-!
# The spec of a router

The custom resource VyOSRouter, by its schema: a field that may be absent is an `Option`. The
template for the configuration script does not read the spec but the variables that
`configure_vyos_router` and `update_vyos_router` copy from it.
-/

namespace GnnSandbox.Vyos

open Graph (Json)

/-! ## Interfaces and VRFs -/

structure Interface where
  name : String
  description : Option String := none
  address : String
  gateway : Option String := none
  mtu : Option ℤ := none
  vrf : Option String := none
  linuxNetwork : Option String := none
  vlan : Option ℕ := none
  enabled : Option Bool := none
deriving DecidableEq

structure Vrf where
  name : String
  table : ℕ
  rd : Option String := none
  rtExport : Option (List String) := none
  rtImport : Option (List String) := none
  description : Option String := none
deriving DecidableEq

/-! ## Protocols -/

structure Route where
  destination : String
  nextHop : Option String := none
  interface : Option String := none
  distance : Option ℕ := none
  vrf : Option String := none
deriving DecidableEq

structure Static where
  routes : Option (List Route) := none
deriving DecidableEq

structure Area where
  area : String
  networks : Option (List String) := none
  interfaces : Option (List String) := none
  type : Option String := none
deriving DecidableEq

structure Ospf where
  routerId : Option String := none
  areas : Option (List Area) := none
  passiveInterfaces : Option (List String) := none
deriving DecidableEq

structure Neighbor where
  peer : String
  remoteAs : ℕ
  description : Option String := none
  routeReflectorClient : Option Bool := none
deriving DecidableEq

structure BgpVrf where
  name : String
  neighbors : Option (List Neighbor) := none
deriving DecidableEq

structure AddressFamily where
  family : String
  networks : Option (List String) := none
deriving DecidableEq

structure Bgp where
  asNumber : Option ℕ := none
  routerId : Option String := none
  routeReflector : Option Bool := none
  neighbors : Option (List Neighbor) := none
  vrfs : Option (List BgpVrf) := none
  addressFamilies : Option (List AddressFamily) := none
deriving DecidableEq

structure Ldp where
  routerId : Option String := none
  interfaces : Option (List String) := none
deriving DecidableEq

structure Mpls where
  enabled : Option Bool := none
  ldp : Option Ldp := none
deriving DecidableEq

structure Protocols where
  ospf : Option Ospf := none
  bgp : Option Bgp := none
  mpls : Option Mpls := none
  static : Option Static := none
deriving DecidableEq

/-! ## Services -/

structure DhcpRange where
  start : String
  stop : String
deriving DecidableEq

structure StaticMapping where
  name : String
  ip : String
  mac : String
deriving DecidableEq

structure DhcpPool where
  network : String
  gateway : String
  dnsServers : Option (List String) := none
  range : Option DhcpRange := none
  leaseTime : Option ℕ := none
  staticMappings : Option (List StaticMapping) := none
deriving DecidableEq

structure NatRule where
  rule : ℕ
  source : Option String := none
  outboundInterface : String
  translation : Option String := none
  address : Option String := none
deriving DecidableEq

structure NatService where
  source : Option (List NatRule) := none
deriving DecidableEq

structure Ssh where
  port : Option ℕ := none
deriving DecidableEq

structure Services where
  dhcp : Option (List DhcpPool) := none
  nat : Option NatService := none
  ssh : Option Ssh := none
deriving DecidableEq

/-! ## Traffic policies -/

structure ShaperClass where
  id : ℕ
  bandwidth : String
  matchName : String
  matchIp : Option String := none
  matchValue : String
deriving DecidableEq

structure Shaper where
  name : String
  bandwidth : String
  defaultBandwidth : String
  classes : Option (List ShaperClass) := none
deriving DecidableEq

structure NetworkEmulator where
  name : String
  delay : String
  loss : String
  corruption : Option String := none
deriving DecidableEq

structure PolicyApply where
  interface : String
  out : Option String := none
  into : Option String := none
deriving DecidableEq

/-- A traffic policy as the template reads it; the schema leaves its structure open. -/
structure TrafficPolicy where
  shaper : Option (List Shaper) := none
  networkEmulator : Option (List NetworkEmulator) := none
  apply : Option (List PolicyApply) := none
deriving DecidableEq

/-! ## The resource and the variables of the playbook -/

/-- `spec` of a VyOSRouter. -/
structure Spec where
  hostname : String
  routerId : String
  interfaces : Option (List Interface) := none
  vrfs : Option (List Vrf) := none
  protocols : Option Protocols := none
  services : Option Services := none
  trafficPolicy : Option Json := none
deriving DecidableEq

/-- The variables the template reads. -/
structure Vars where
  routerHostname : String
  interfaces : List Interface
  vrfs : List Vrf
  protocols : Protocols
  services : Services
  trafficPolicy : Option TrafficPolicy := none
deriving DecidableEq

/-- The `extravars` of `configure_vyos_router` and `update_vyos_router`, which leave out the
traffic policy. -/
def Spec.extravars (spec : Spec) : Vars where
  routerHostname := spec.hostname
  interfaces := spec.interfaces.getD []
  vrfs := spec.vrfs.getD []
  protocols := spec.protocols.getD {}
  services := spec.services.getD {}

end GnnSandbox.Vyos
