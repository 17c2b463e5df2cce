import GnnSandbox.Graph.Json
import Mathlib.Data.Rat.Defs

/-!
# Custom resources

What the controllers read from the custom resources and from the state that the
operator gathers. A field that a resource may leave out is an `Option`. Of the
bodies that are stored whole, the parts that no controller looks into are kept
as one JSON value `other`.
-/

namespace GnnSandbox.Graph

/-- A Kubernetes object name. It holds no colon. -/
abbrev ResourceName := {s : String // ':' ∉ s.toList}

/-- A Python `float`. -/
inductive Float64 where
  | finite (q : ℚ)
  | inf (negative : Bool)
  | nan
deriving DecidableEq, Repr

/-- A `float` is true unless it is zero. -/
def Float64.truthy (x : Float64) : Bool := decide (x ≠ .finite 0)

/-- A string that is present and not empty, which is what `if s` asks. -/
def truthy (a : Option String) : Option String := a.filter fun s => s ≠ ""

theorem truthy_eq_some {a : Option String} {s : String} :
    truthy a = some s ↔ a = some s ∧ s ≠ "" := by
  simp [truthy, Option.filter_eq_some_iff]

/-- `a or b`. -/
def orElse (a b : Option String) : Option String := (truthy a).or b

/-! ## Metadata and bodies -/

structure Metadata where
  name : ResourceName
  labels : Option (List (String × String))
  annotations : Option (List (String × String))
  managedFields : Option Json
  other : Json
deriving DecidableEq

/-- `body.get('metadata', {}).get('labels', {})`. -/
def Metadata.label (m : Metadata) (key : String) : Option String := (m.labels.getD []).lookup key

/-- The metadata part of `sanitize_k8s_body`. -/
def Metadata.sanitize (m : Metadata) : Metadata :=
  { m with
    managedFields := none
    annotations := m.annotations.map fun l => l.filter fun a =>
      !("kopf".toList.isPrefixOf a.1.toList || "kubectl.kubernetes.io".toList.isPrefixOf a.1.toList) }

/-- A custom resource with the spec type `Spec` and the status type `Status`. -/
structure Body (Spec Status : Type) where
  metadata : Metadata
  spec : Spec
  status : Option Status
  other : Json
deriving DecidableEq

/-- `sanitize_k8s_body`. -/
def sanitizeK8sBody {Spec Status : Type} (body : Body Spec Status) : Body Spec Status :=
  { body with metadata := body.metadata.sanitize }

@[simp] theorem sanitizeK8sBody_spec {Spec Status : Type} (body : Body Spec Status) :
    (sanitizeK8sBody body).spec = body.spec := rfl

@[simp] theorem sanitizeK8sBody_status {Spec Status : Type} (body : Body Spec Status) :
    (sanitizeK8sBody body).status = body.status := rfl

@[simp] theorem sanitizeK8sBody_name {Spec Status : Type} (body : Body Spec Status) :
    (sanitizeK8sBody body).metadata.name = body.metadata.name := rfl

@[simp] theorem sanitizeK8sBody_labels {Spec Status : Type} (body : Body Spec Status) :
    (sanitizeK8sBody body).metadata.labels = body.metadata.labels := rfl

/-! ## VyOSInfrastructure -/

/-- An entry of `connected_routers`. -/
structure ConnectedRouter where
  routerName : Option String
  interface : Option String
  ipAddress : Option String
deriving DecidableEq

def ConnectedRouter.dict (c : ConnectedRouter) : Json :=
  .ofFields [("interface", c.interface.map .str), ("ip_address", c.ipAddress.map .str),
    ("router_name", c.routerName.map .str)]

/-- An entry of `spec.networks`. -/
structure Network where
  name : String
  subnet : Option String
  gateway : Option String
  ipv6Subnet : Option String
  description : Option String
  vlan : Option ℤ
  mtu : Option ℤ
  networkType : Option String
  bandwidth : Option String
  connectedRouters : Option (List ConnectedRouter)
deriving DecidableEq

/-- `dict(net)`. -/
def Network.dict (n : Network) : Json :=
  .ofFields [("bandwidth", n.bandwidth.map .str),
    ("connected_routers", n.connectedRouters.map fun l => .arr (l.map ConnectedRouter.dict)),
    ("description", n.description.map .str), ("gateway", n.gateway.map .str),
    ("ipv6_subnet", n.ipv6Subnet.map .str), ("mtu", n.mtu.map .num), ("name", some (.str n.name)),
    ("network_type", n.networkType.map .str), ("subnet", n.subnet.map .str),
    ("vlan", n.vlan.map .num)]

structure VyOSInfrastructure where
  networks : Option (List Network)
deriving DecidableEq

/-! ## VyOSRouter -/

structure Location where
  city : Option String
  latitude : Option Float64
  lat : Option Float64
  longitude : Option Float64
  lon : Option Float64
deriving DecidableEq

/-- The fields of an interface that is given as an object. -/
structure InterfaceData where
  name : Option String
  address : Option String
  enabled : Option Bool
  mediaType : Option String
  speed : Option String
  mac : Option String
  other : Json
deriving DecidableEq

/-- An entry of `spec.interfaces`: a bare name or an object. -/
inductive InterfaceSpec where
  | name (s : String)
  | object (data : InterfaceData)
deriving DecidableEq

structure RouterSpec where
  role : Option String
  vendor : Option String
  model : Option String
  location : Option Location
  interfaces : Option (List InterfaceSpec)
  other : Json
deriving DecidableEq

/-- An entry of `status.interfaces`; `none` stands for an entry that is not an object. -/
abbrev InterfaceStatus := Option (Option String × Option String)

/-- `conditions` lists the reason of each condition. -/
structure RouterStatus where
  phase : Option String
  conditions : Option (List (Option String))
  interfaces : Option (List InterfaceStatus)
  other : Json
deriving DecidableEq

abbrev VyOSRouter := Body RouterSpec RouterStatus

/-! ## VyOSL3VPN -/

/-- An entry of `spec.services`. -/
structure Service where
  name : String
  type : Option String
  topology : Option String
  rd : Option String
  rtExport : Option String
  rtImport : Option String
  description : Option String
deriving DecidableEq

/-- `dict(svc)`. -/
def Service.dict (s : Service) : Json :=
  .ofFields [("description", s.description.map .str), ("name", some (.str s.name)),
    ("rd", s.rd.map .str), ("rt_export", s.rtExport.map .str), ("rt_import", s.rtImport.map .str),
    ("topology", s.topology.map .str), ("type", s.type.map .str)]

/-- An entry of a VRF's `neighbors`. -/
structure Neighbor where
  peer : Option String
  peerIp : Option String
  remoteAs : Option ℤ
  description : Option String
deriving DecidableEq

/-- `dict(n)`. -/
def Neighbor.dict (n : Neighbor) : Json :=
  .ofFields [("description", n.description.map .str), ("peer", n.peer.map .str),
    ("peer_ip", n.peerIp.map .str), ("remote_as", n.remoteAs.map .num)]

/-- An entry of `bgp.vrfs`. -/
structure BgpVrf where
  name : Option String
  neighbors : Option (List Neighbor)
deriving DecidableEq

/-- An entry of a router's `vrfs`. -/
structure Vrf where
  name : Option String
  table : Option ℤ
  rd : Option String
  rtExport : Option (List String)
  rtImport : Option (List String)
  description : Option String
  interfaces : Option (List String)
deriving DecidableEq

/-- `dict(vrf)`. -/
def Vrf.dict (v : Vrf) : Json :=
  .ofFields [("description", v.description.map .str),
    ("interfaces", v.interfaces.map fun l => .arr (l.map .str)), ("name", v.name.map .str),
    ("rd", v.rd.map .str), ("rt_export", v.rtExport.map fun l => .arr (l.map .str)),
    ("rt_import", v.rtImport.map fun l => .arr (l.map .str)), ("table", v.table.map .num)]

/-- An entry of `spec.routers`. -/
structure PeRouter where
  name : Option String
  vrfs : Option (List Vrf)
  bgpVrfs : Option (List BgpVrf)
deriving DecidableEq

structure L3vpnSpec where
  services : Option (List Service)
  routers : Option (List PeRouter)
deriving DecidableEq

structure L3vpnStatus where
  phase : Option String
  conditions : Option (List (Option String))
deriving DecidableEq

abbrev VyOSL3VPN := Body L3vpnSpec L3vpnStatus

/-! ## Device, TrafficTest, NetworkFailure -/

structure DeviceSpec where
  networkName : Option String
  ipAddress : Option String
  mgmtIp : Option String
  gateway : Option String
  vlan : Option ℤ
  other : Json
deriving DecidableEq

structure DeviceStatus where
  phase : Option String
  mgmtIp : Option String
  other : Json
deriving DecidableEq

abbrev DeviceBody := Body DeviceSpec DeviceStatus

structure TrafficSpec where
  sourceDevices : Option (List String)
  destinationDevice : Option String
  other : Json
deriving DecidableEq

structure TrafficStatus where
  phase : Option String
  other : Json
deriving DecidableEq

abbrev TrafficTest := Body TrafficSpec TrafficStatus

structure FailureTarget where
  router : Option String
  interface : Option String
  vrf : Option String
  other : Json
deriving DecidableEq

structure NetworkFailure where
  failureType : Option String
  injectionMode : Option String
  target : Option FailureTarget
  parameters : Option Json
deriving DecidableEq

/-! ## Bridges -/

structure BridgeSpec where
  name : Option String
  subnet : Option String
  networkType : Option String
  bandwidth : Option String
  gateway : Option String
  vlan : Option ℤ
deriving DecidableEq

/-- One line of the veth listing. -/
structure VethData where
  veth : Option String
  state : Option String
  bw : Option String
deriving DecidableEq

/-- The gathered state of a bridge. `some none` is a null value. A veth entry that is
not an object is `none`. -/
structure BridgeStatus where
  operationalState : Option String
  mtu : Option (Option ℤ)
  macAddress : Option (Option String)
  ipAddress : Option (Option String)
  vethPairs : Option (List (Option VethData))
deriving DecidableEq

end GnnSandbox.Graph
