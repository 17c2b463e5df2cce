import GnnSandbox.Lib.Scd
import GnnSandbox.Graph.Resource

/-!
# The topology store

The tables of the Spanner schema that keep versions. A column that the schema lets
be `NULL` is an `Option`. The validity columns are those of `Scd.Version`.
-/

namespace GnnSandbox.Graph

/-! ## Rows -/

structure PhysicalRouter where
  id : String
  name : String
  vendor : Option String
  model : Option String
  locationCity : Option String
  locationLat : Option Float64
  locationLon : Option Float64
  role : Option String
  status : Option String
  config : Option VyOSRouter
deriving DecidableEq

structure PhysicalInterface where
  id : String
  routerId : String
  name : String
  speed : Option String
  mediaType : Option String
  ipAddress : Option String
  macAddress : Option String
  status : Option String
deriving DecidableEq

structure PhysicalLink where
  id : String
  name : Option String
  bandwidth : Option String
  status : Option String
  properties : Option Json
deriving DecidableEq

structure Device where
  id : String
  name : String
  interfaceId : Option String
  networkName : Option String
  ipAddress : Option String
  mgmtIp : Option String
  gateway : Option String
  vlan : Option ℤ
  status : Option String
  config : Option DeviceBody
deriving DecidableEq

structure L3VPNService where
  id : String
  customerId : String
  name : String
  serviceType : Option String
  topology : Option String
  status : Option String
  config : Option Json
deriving DecidableEq

structure VRF where
  id : String
  routerId : String
  vpnId : Option String
  name : String
  rd : Option String
  status : Option String
  config : Option Json
deriving DecidableEq

structure BGPSession where
  id : String
  vrfId : String
  localAs : Option ℤ
  remoteAs : Option ℤ
  peerIp : Option String
  status : Option String
  config : Option Json
deriving DecidableEq

structure LogicalSubnet where
  id : String
  cidr : String
  networkType : Option String
  description : Option String
  operationalState : Option String
  mtu : Option ℤ
  macAddress : Option String
  bridgeIp : Option String
  hostDeviceName : Option String
  properties : Option Json
deriving DecidableEq

structure InterfaceLink where
  interfaceId : String
  linkId : String
deriving DecidableEq

structure SubnetAssociation where
  entityId : String
  subnetId : String
  entityType : Option String
deriving DecidableEq

structure TrafficFlow where
  id : String
  name : Option String
  srcDeviceId : Option String
  dstDeviceId : Option String
  phase : Option String
  config : Option TrafficTest
deriving DecidableEq

/-- The `config` of a fault event: failure type, injection mode, target and parameters. -/
structure FaultConfig where
  failureType : String
  injectionMode : String
  target : FailureTarget
  parameters : Json
deriving DecidableEq

structure FaultEvent where
  id : String
  name : String
  failureType : String
  injectionMode : String
  targetRouter : Option String
  targetInterface : Option String
  targetVrf : Option String
  phase : String
  injectedAt : Option String
  config : Option FaultConfig
deriving DecidableEq

/-! ## Tables -/

/-- The versioned tables. -/
inductive TableName where
  | physicalRouter
  | physicalInterface
  | physicalLink
  | device
  | l3vpnService
  | vrf
  | bgpSession
  | logicalSubnet
  | interfaceLink
  | subnetAssociation
  | trafficFlow
  | faultEvent
deriving DecidableEq, Repr

/-- The rows of a table. -/
@[reducible] def Row : TableName → Type
  | .physicalRouter => PhysicalRouter
  | .physicalInterface => PhysicalInterface
  | .physicalLink => PhysicalLink
  | .device => Device
  | .l3vpnService => L3VPNService
  | .vrf => VRF
  | .bgpSession => BGPSession
  | .logicalSubnet => LogicalSubnet
  | .interfaceLink => InterfaceLink
  | .subnetAssociation => SubnetAssociation
  | .trafficFlow => TrafficFlow
  | .faultEvent => FaultEvent

/-- What identifies an entity across its versions: its id, or the two ends of an edge. -/
inductive Key where
  | id (id : String)
  | edge (source target : String)
deriving DecidableEq, Repr

/-- The primary key without `valid_start_ts`. -/
def Row.key : {n : TableName} → Row n → Key
  | .physicalRouter, r => .id (PhysicalRouter.id r)
  | .physicalInterface, r => .id (PhysicalInterface.id r)
  | .physicalLink, r => .id (PhysicalLink.id r)
  | .device, r => .id (Device.id r)
  | .l3vpnService, r => .id (L3VPNService.id r)
  | .vrf, r => .id (VRF.id r)
  | .bgpSession, r => .id (BGPSession.id r)
  | .logicalSubnet, r => .id (LogicalSubnet.id r)
  | .interfaceLink, r => .edge (InterfaceLink.interfaceId r) (InterfaceLink.linkId r)
  | .subnetAssociation, r => .edge (SubnetAssociation.entityId r) (SubnetAssociation.subnetId r)
  | .trafficFlow, r => .id (TrafficFlow.id r)
  | .faultEvent, r => .id (FaultEvent.id r)

/-- Commit timestamps. -/
abbrev Timestamp := ℕ

/-- The contents of the store. -/
def Database := (n : TableName) → Scd.Table Timestamp (Row n)

namespace Database

def empty : Database := fun _ => []

/-- The database with one table replaced. -/
def set (db : Database) (n : TableName) (t : Scd.Table Timestamp (Row n)) : Database :=
  Function.update db n t

@[simp] theorem set_self (db : Database) (n : TableName) (t : Scd.Table Timestamp (Row n)) :
    db.set n t n = t := Function.update_self ..

@[simp] theorem set_of_ne (db : Database) {n m : TableName} (t : Scd.Table Timestamp (Row n))
    (h : m ≠ n) : db.set n t m = db m := Function.update_of_ne h ..

@[simp] theorem set_eq_self (db : Database) (n : TableName) : db.set n (db n) = db :=
  Function.update_eq_self ..

/-- The open versions of a key. -/
def active (db : Database) (n : TableName) (k : Key) : Scd.Table Timestamp (Row n) :=
  Scd.active Row.key k (db n)

end Database

end GnnSandbox.Graph
