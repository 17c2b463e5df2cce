import GnnSandbox.Bench.Value

/-!
# Golden twins

The typed entities of a golden twin, the rows to which they are dumped, and the check
that a twin passes when it is loaded.
-/

namespace GnnSandbox.Bench

open Graph (Float64)

/-! ## Entities -/

structure PhysicalRouter where
  id : String
  name : String
  vendor : Option String
  model : Option String
  locationCity : Option String
  locationLat : Option Float64
  locationLon : Option Float64
  role : Option String
  status : Option String
  config : Option (List (String × Value))
deriving DecidableEq

structure PhysicalInterface where
  id : String
  routerId : String
  name : String
  speed : Option String
  mediaType : Option String
  ipAddress : Option String
  macAddress : Option String
  status : Option String
deriving DecidableEq

structure PhysicalLink where
  id : String
  name : String
  bandwidth : Option String
  status : Option String
  properties : Option (List (String × Value))
deriving DecidableEq

structure InterfaceLink where
  interfaceId : String
  linkId : String
deriving DecidableEq

structure Device where
  id : String
  name : String
  interfaceId : Option String
  networkName : Option String
  ipAddress : Option String
  mgmtIp : Option String
  gateway : Option String
  vlan : Option ℤ
  status : Option String
  config : Option (List (String × Value))
deriving DecidableEq

structure LogicalSubnet where
  id : String
  cidr : String
  networkType : Option String
  description : Option String
  mtu : Option ℤ
  properties : Option (List (String × Value))
deriving DecidableEq

structure SubnetAssociation where
  entityId : String
  subnetId : String
  entityType : String
deriving DecidableEq

structure L3VPNService where
  id : String
  name : String
  customerId : String
  serviceType : Option String
  topology : Option String
  status : Option String
  config : Option (List (String × Value))
deriving DecidableEq

structure VRF where
  id : String
  routerId : String
  vpnId : String
  name : String
  rd : Option String
  status : Option String
  config : Option (List (String × Value))
deriving DecidableEq

structure BGPSession where
  id : String
  vrfId : String
  localAs : Option ℤ
  remoteAs : Option ℤ
  peerIp : Option String
  status : Option String
  config : Option (List (String × Value))
deriving DecidableEq

structure GoldenTwinEntities where
  routers : List PhysicalRouter
  interfaces : List PhysicalInterface
  links : List PhysicalLink
  interfaceLink : List InterfaceLink
  devices : List Device
  subnets : List LogicalSubnet
  subnetAssociation : List SubnetAssociation
  l3vpnServices : List L3VPNService
  vrfs : List VRF
  bgpSessions : List BGPSession
deriving DecidableEq

structure GoldenTwin where
  capturedAt : String
  contentHash : Option String
  entities : GoldenTwinEntities
deriving DecidableEq

/-! ## Tables -/

/-- The tables of a projection, in their order in `TABLE_TO_ATTR`. -/
inductive Table where
  | physicalRouter
  | physicalInterface
  | physicalLink
  | interfaceLink
  | device
  | logicalSubnet
  | subnetAssociation
  | l3vpnService
  | vrf
  | bgpSession
deriving DecidableEq, Repr

namespace Table

def name : Table → String
  | physicalRouter => "PhysicalRouter"
  | physicalInterface => "PhysicalInterface"
  | physicalLink => "PhysicalLink"
  | interfaceLink => "Interface_Link"
  | device => "Device"
  | logicalSubnet => "LogicalSubnet"
  | subnetAssociation => "Subnet_Association"
  | l3vpnService => "L3VPNService"
  | vrf => "VRF"
  | bgpSession => "BGPSession"

def all : List Table :=
  [physicalRouter, physicalInterface, physicalLink, interfaceLink, device, logicalSubnet,
    subnetAssociation, l3vpnService, vrf, bgpSession]

theorem mem_all (t : Table) : t ∈ all := by
  cases t <;> decide

/-- The table of a name. -/
def ofName (name : String) : Option Table := all.find? fun t => t.name = name

theorem ofName_name (t : Table) : ofName t.name = some t := by
  cases t <;> rfl

theorem name_of_ofName {s : String} {t : Table} (h : ofName s = some t) : t.name = s := by
  simpa using List.find?_some h

theorem name_injective : Function.Injective name := by
  intro t u h
  have hsome := ofName_name t
  rw [h, ofName_name u] at hsome
  exact (Option.some.inj hsome).symm

/-- The edge tables have no id column. -/
def isEdge : Table → Bool
  | interfaceLink | subnetAssociation => true
  | _ => false

/-- The columns of a table. -/
def columns : Table → List String
  | physicalRouter => ["id", "name", "vendor", "model", "location_city", "location_lat",
      "location_lon", "role", "status", "config"]
  | physicalInterface => ["id", "router_id", "name", "speed", "media_type", "ip_address",
      "mac_address", "status"]
  | physicalLink => ["id", "name", "bandwidth", "status", "properties"]
  | interfaceLink => ["interface_id", "link_id"]
  | device => ["id", "name", "interface_id", "network_name", "ip_address", "mgmt_ip", "gateway",
      "vlan", "status", "config"]
  | logicalSubnet => ["id", "cidr", "network_type", "description", "mtu", "properties"]
  | subnetAssociation => ["entity_id", "subnet_id", "entity_type"]
  | l3vpnService => ["id", "name", "customer_id", "service_type", "topology", "status", "config"]
  | vrf => ["id", "router_id", "vpn_id", "name", "rd", "status", "config"]
  | bgpSession => ["id", "vrf_id", "local_as", "remote_as", "peer_ip", "status", "config"]

/-- Entity tables have an id column. -/
theorem id_mem_columns {t : Table} (h : t.isEdge = false) : "id" ∈ t.columns := by
  cases t <;> first | decide | cases h

/-- Edge tables have none. -/
theorem id_notMem_columns {t : Table} (h : t.isEdge = true) : "id" ∉ t.columns := by
  cases t <;> first | decide | cases h

theorem isEdge_of_name {t : Table} (h : "name" ∈ t.columns) : t.isEdge = false := by
  cases t <;> first | rfl | exact absurd h (by decide)

theorem interface_id_mem_columns : "interface_id" ∈ columns interfaceLink := by
  decide

theorem columns_nodup (t : Table) : t.columns.Nodup := by
  cases t <;> decide

end Table

/-! ## Dumped rows -/

namespace Value

def ofStr? (s : Option String) : Value := (s.map str).getD none

def ofInt? (n : Option ℤ) : Value := (n.map int).getD none

def ofFloat? (x : Option Float64) : Value := (x.map float).getD none

def ofDict? (fields : Option (List (String × Value))) : Value := (fields.map dict).getD none

end Value

open Value

/-! `model_dump(mode="json")` -/

def PhysicalRouter.dump (r : PhysicalRouter) : Row :=
  [("id", str r.id), ("name", str r.name), ("vendor", ofStr? r.vendor), ("model", ofStr? r.model),
    ("location_city", ofStr? r.locationCity), ("location_lat", ofFloat? r.locationLat),
    ("location_lon", ofFloat? r.locationLon), ("role", ofStr? r.role),
    ("status", ofStr? r.status), ("config", ofDict? r.config)]

def PhysicalInterface.dump (i : PhysicalInterface) : Row :=
  [("id", str i.id), ("router_id", str i.routerId), ("name", str i.name),
    ("speed", ofStr? i.speed), ("media_type", ofStr? i.mediaType),
    ("ip_address", ofStr? i.ipAddress), ("mac_address", ofStr? i.macAddress),
    ("status", ofStr? i.status)]

def PhysicalLink.dump (l : PhysicalLink) : Row :=
  [("id", str l.id), ("name", str l.name), ("bandwidth", ofStr? l.bandwidth),
    ("status", ofStr? l.status), ("properties", ofDict? l.properties)]

def InterfaceLink.dump (il : InterfaceLink) : Row :=
  [("interface_id", str il.interfaceId), ("link_id", str il.linkId)]

def Device.dump (d : Device) : Row :=
  [("id", str d.id), ("name", str d.name), ("interface_id", ofStr? d.interfaceId),
    ("network_name", ofStr? d.networkName), ("ip_address", ofStr? d.ipAddress),
    ("mgmt_ip", ofStr? d.mgmtIp), ("gateway", ofStr? d.gateway), ("vlan", ofInt? d.vlan),
    ("status", ofStr? d.status), ("config", ofDict? d.config)]

def LogicalSubnet.dump (s : LogicalSubnet) : Row :=
  [("id", str s.id), ("cidr", str s.cidr), ("network_type", ofStr? s.networkType),
    ("description", ofStr? s.description), ("mtu", ofInt? s.mtu),
    ("properties", ofDict? s.properties)]

def SubnetAssociation.dump (sa : SubnetAssociation) : Row :=
  [("entity_id", str sa.entityId), ("subnet_id", str sa.subnetId),
    ("entity_type", str sa.entityType)]

def L3VPNService.dump (s : L3VPNService) : Row :=
  [("id", str s.id), ("name", str s.name), ("customer_id", str s.customerId),
    ("service_type", ofStr? s.serviceType), ("topology", ofStr? s.topology),
    ("status", ofStr? s.status), ("config", ofDict? s.config)]

def VRF.dump (v : VRF) : Row :=
  [("id", str v.id), ("router_id", str v.routerId), ("vpn_id", str v.vpnId), ("name", str v.name),
    ("rd", ofStr? v.rd), ("status", ofStr? v.status), ("config", ofDict? v.config)]

def BGPSession.dump (b : BGPSession) : Row :=
  [("id", str b.id), ("vrf_id", str b.vrfId), ("local_as", ofInt? b.localAs),
    ("remote_as", ofInt? b.remoteAs), ("peer_ip", ofStr? b.peerIp), ("status", ofStr? b.status),
    ("config", ofDict? b.config)]

/-- The dumped rows of a table. -/
def GoldenTwinEntities.rows (e : GoldenTwinEntities) : Table → List Row
  | .physicalRouter => e.routers.map PhysicalRouter.dump
  | .physicalInterface => e.interfaces.map PhysicalInterface.dump
  | .physicalLink => e.links.map PhysicalLink.dump
  | .interfaceLink => e.interfaceLink.map InterfaceLink.dump
  | .device => e.devices.map Device.dump
  | .logicalSubnet => e.subnets.map LogicalSubnet.dump
  | .subnetAssociation => e.subnetAssociation.map SubnetAssociation.dump
  | .l3vpnService => e.l3vpnServices.map L3VPNService.dump
  | .vrf => e.vrfs.map VRF.dump
  | .bgpSession => e.bgpSessions.map BGPSession.dump

/-- Dumped rows have the columns of their table. -/
theorem GoldenTwinEntities.columns_of_mem_rows {e : GoldenTwinEntities} {t : Table} {row : Row}
    (h : row ∈ e.rows t) : row.columns = t.columns := by
  cases t <;>
  · obtain ⟨a, -, rfl⟩ := List.mem_map.mp h
    rfl

/-! ## Validation -/

namespace Twin

/-- The parts of an id between its colons. -/
def segments (id : String) : List (List Char) := id.toList.splitOn ':'

/-- `.+$`: at least one character and no line break, apart from one at the very end. -/
def dotPlus (s : List Char) : Bool :=
  let body := if s.getLast? = some '\n' then s.dropLast else s
  body ≠ [] ∧ '\n' ∉ body

/-- `^<kind>:[^:]+$` -/
def isNamed (kind id : String) : Bool :=
  match segments id with
  | [k, a] => k = kind.toList ∧ a ≠ []
  | _ => false

/-- `ID_PATTERNS`; the edge tables have none. -/
def matchesPattern : Table → String → Bool
  | .physicalRouter, id => isNamed "router" id
  | .physicalInterface, id =>
    match segments id with
    | [k, a, k', b] => k = "router".toList ∧ a ≠ [] ∧ k' = "interface".toList ∧ b ≠ []
    | _ => false
  | .physicalLink, id => isNamed "link" id
  | .device, id => isNamed "device" id
  | .l3vpnService, id => isNamed "vpn" id
  | .vrf, id =>
    match segments id with
    | [k, a, b] => k = "vrf".toList ∧ a ≠ [] ∧ b ≠ []
    | _ => false
  | .bgpSession, id =>
    match segments id with
    | k :: a :: b :: rest =>
      k = "bgp".toList ∧ a ≠ [] ∧ b ≠ [] ∧ rest ≠ [] ∧ dotPlus ([':'].intercalate rest)
    | _ => false
  | .logicalSubnet, id =>
    match segments id with
    | k :: rest => k = "subnet".toList ∧ rest ≠ [] ∧ dotPlus ([':'].intercalate rest)
    | _ => false
  | .interfaceLink, _ | .subnetAssociation, _ => true

end Twin

end GnnSandbox.Bench
