import GnnSandbox.Bench.Sorting
import GnnSandbox.Bench.Env

/-!
# Rendering the projections

The catalog's files and the telemetry payload as they are rendered from the rows that the
defects have left. The columns of the inventory are synthesised from ids and names.
-/

namespace GnnSandbox.Bench

open Raise

/-- `a or ""` -/
def Value.orEmpty (a : Value) : Value := if a.truthy then a else .str ""

@[simp] theorem Value.orEmpty_str (s : String) : (Value.str s).orEmpty = .str s := by
  by_cases h : s = ""
  · subst h
    rfl
  · exact if_pos (decide_eq_true h)

/-- `row.get(column) if row else None` -/
def field (row : Option Row) (column : String) : Value := (row.map (Row.get · column)).getD .none

/-! ## Columns -/

/-- The megabits per second that a text stands for. -/
def speedToMbps (speed : Value) : Except Error Value :=
  if speed.truthy then
    match speed with
    | .list _ | .dict _ => .error .typeError
    | .str s => .ok (.ofInt? (SPEED_TO_MBPS.lookup s))
    | _ => .ok .none
  else .ok .none

/-- `_parse_speed_mbps` -/
def parseSpeedMbps (speed : Value) : Except Error Value := speedToMbps speed

/-- `_bandwidth_to_mbps` -/
def bandwidthToMbps (bandwidth : Value) : Except Error Value := speedToMbps bandwidth

variable (env : Env)

/-- `to_display_name(name or "")` -/
def displayName (name : Value) : Except Error String :=
  match name.orEmpty with
  | .str s => .ok (toDisplayName env s)
  | _ => .error .attributeError

/-- The audit date of a jitter in days. -/
def auditDate (capturedAt : String) (jitter : ℤ) : Except Error String :=
  match env.auditDate capturedAt jitter with
  | some date => .ok date
  | none => .error (.valueError "Invalid isoformat string")

/-- `_last_audit_date_from_iso` -/
def lastAuditDateFromIso (capturedAt : String) (seed : ℤ) (routerId : String) :
    Except Error String :=
  let digest := env.sha256 (toString seed ++ ":audit:" ++ routerId)
  auditDate env capturedAt ((fromBytes (digest.take 4) % 11 : ℕ) - 5)

/-- `_interface_description_from_dicts` -/
def interfaceDescriptionFromDicts (iface : Row) : Option Row → String
  | none => "Interface " ++ (iface.get "name").format env
  | some router =>
    let role := if (router.get "role").truthy then router.get "role" else .str "?"
    role.format env ++ " " ++ (router.get "name").format env ++ " :: " ++
      (iface.get "name").format env

/-! ## The catalog -/

section Catalog

variable (seed : ℤ) (capturedAt : String) (tables : Table → List Row)

def renderRouter (seq : ℕ) (r : Row) : Except Error Row := do
  let display ← displayName env (r.get "name")
  let id := (r.get "id").orEmpty.format env
  let audit ← lastAuditDateFromIso env capturedAt seed id
  return [("inventory_id", .str ("INV-" ++ pad4 (seq + 1))), ("hostname", r.get "name"),
    ("display_name", .str display), ("vendor", r.get "vendor"), ("model", r.get "model"),
    ("serial_number", .str (synthSerial env seed id)),
    ("asset_tag", .str (synthAssetTag env seed id)), ("site", r.get "location_city"),
    ("latitude", r.get "location_lat"), ("longitude", r.get "location_lon"),
    ("role", r.get "role"), ("mgmt_ip", .str (synthMgmtIp seq)), ("last_audit_date", .str audit)]

def renderRouters : Except Error (List Row) := do
  let routers ← sortedBy (Row.get · "id") (tables .physicalRouter)
  collect (fun p => renderRouter env seed capturedAt p.2 p.1) routers.zipIdx

/-- A dictionary of rows by id. -/
abbrev Index := Value → Option Row

def renderInterface (routerById : Index) (seq : ℕ) (i : Row) : Except Error Row := do
  let router ← getById routerById (i.get "router_id")
  let speed ← parseSpeedMbps (i.get "speed")
  return [("inventory_id", .str ("IF-" ++ pad4 (seq + 1))), ("device_hostname", field router "name"),
    ("interface_name", i.get "name"), ("speed_mbps", speed), ("media_type", i.get "media_type"),
    ("planned_ip", i.get "ip_address"), ("mac_address", i.get "mac_address"),
    ("description", .str (interfaceDescriptionFromDicts env i router))]

def renderInterfaces : Except Error (List Row) := do
  let routerById ← byId (tables .physicalRouter)
  let interfaces ← sortedBy (Row.get · "id") (tables .physicalInterface)
  collect (fun p => renderInterface env routerById p.2 p.1) interfaces.zipIdx

/-- The interfaces of the links, by link. -/
def linkEndpoints (edges : List Row) : Except Error (Value → List Value) :=
  if edges.all fun il => (il.get "link_id").hashable then
    .ok fun link => (edges.filter fun il => (il.get "link_id").eq link).map (Row.get · "interface_id")
  else .error .typeError

/-- The router of an interface, when there is an interface. -/
def routerOf (routerById : Index) : Option Row → Except Error (Option Row)
  | none => .ok none
  | some iface => getById routerById (iface.get "router_id")

/-- The device and the interface of an endpoint. -/
def renderEndpoint (routerById ifaceById : Index) (id : Value) : Except Error (Value × Value) := do
  let iface ← getById ifaceById id
  let router ← routerOf routerById iface
  return (field router "name", field iface "name")

/-- The interfaces of a link. -/
def endpointsOf (endpoints : Value → List Value) (link : Value) : Except Error (List Value) :=
  if link.hashable then .ok (endpoints link) else .error .typeError

def renderLink (routerById ifaceById : Index) (endpoints : Value → List Value) (seq : ℕ)
    (link : Row) : Except Error Row := do
  let unsorted ← endpointsOf endpoints (link.get "id")
  let ids ← sortedBy id unsorted
  let ep ← collect (renderEndpoint routerById ifaceById) (ids.take 2)
  let a := ep[0]?.getD (.none, .none)
  let b := ep[1]?.getD (.none, .none)
  let bandwidth ← bandwidthToMbps (link.get "bandwidth")
  let name := (link.get "name").orEmpty.format env
  return [("inventory_id", .str ("LINK-" ++ pad4 (seq + 1))),
    ("circuit_id", .str ("CKT-" ++ (link.get "name").format env)), ("endpoint_a_device", a.1),
    ("endpoint_a_interface", a.2), ("endpoint_b_device", b.1), ("endpoint_b_interface", b.2),
    ("bandwidth_mbps", bandwidth), ("fiber_type", .str (synthFiberType env name)),
    ("length_km", .int (synthLengthKm env name))]

def renderLinks : Except Error (List Row) := do
  let routerById ← byId (tables .physicalRouter)
  let ifaceById ← byId (tables .physicalInterface)
  let endpoints ← linkEndpoints (tables .interfaceLink)
  let links ← sortedBy (Row.get · "id") (tables .physicalLink)
  collect (fun p => renderLink env routerById ifaceById endpoints p.2 p.1) links.zipIdx

/-- The interface that a device names. -/
def deviceInterface (ifaceById : Index) (d : Row) : Except Error (Option Row) :=
  if (d.get "interface_id").truthy then getById ifaceById (d.get "interface_id") else .ok none

def renderDevice (routerById ifaceById : Index) (d : Row) : Except Error Row := do
  let iface ← deviceInterface ifaceById d
  let router ← routerOf routerById iface
  return [("inventory_id", d.get "id"), ("device_name", d.get "name"),
    ("network_name", d.get "network_name"), ("ip_address", d.get "ip_address"),
    ("mgmt_ip", d.get "mgmt_ip"), ("gateway", d.get "gateway"),
    ("gateway_router", field router "name"), ("gateway_interface", field iface "name"),
    ("vlan", d.get "vlan")]

def renderDevices : Except Error (List Row) := do
  let routerById ← byId (tables .physicalRouter)
  let ifaceById ← byId (tables .physicalInterface)
  let devices ← sortedBy (Row.get · "id") (tables .device)
  collect (renderDevice routerById ifaceById) devices

def renderVpn (servicesById : Index) (vrf : Row) : Except Error Row := do
  let svc ← getById servicesById (vrf.get "vpn_id")
  return [("vpn_id", vrf.get "vpn_id"), ("vpn_name", field svc "name"),
    ("service_type", field svc "service_type"), ("topology", field svc "topology"),
    ("vrf_id", vrf.get "id"), ("vrf_name", vrf.get "name"), ("router_id", vrf.get "router_id"),
    ("rd", vrf.get "rd"), ("status", vrf.get "status")]

def renderVpns : Except Error (List Row) := do
  let servicesById ← byId (tables .l3vpnService)
  let vrfs ← sortedBy (Row.get · "id") (tables .vrf)
  collect (renderVpn servicesById) vrfs

/-- `_render_catalog_from_projection`: the files in the order in which they are written, each
with its rows or with what is raised instead. -/
def renderCatalog : List (String × Except Error (List Row)) :=
  [("routers.csv", renderRouters env seed capturedAt tables),
    ("interfaces.csv", renderInterfaces env tables), ("links.csv", renderLinks env tables),
    ("devices.csv", renderDevices tables), ("vpns.csv", renderVpns tables)]

end Catalog

/-! ## The telemetry -/

/-- The attributes that the telemetry shows. -/
def ATTR_ALLOW : Table → List String
  | .physicalRouter => ["id", "name", "vendor", "model", "role", "status"]
  | .physicalInterface => ["id", "router_id", "name", "speed", "media_type", "ip_address",
      "mac_address", "status"]
  | .physicalLink => ["id", "name", "bandwidth", "status"]
  | .interfaceLink => ["interface_id", "link_id"]
  | .device => ["id", "name", "interface_id", "network_name", "ip_address", "status"]
  | .logicalSubnet => ["id", "cidr", "network_type"]
  | .subnetAssociation => ["entity_id", "subnet_id", "entity_type"]
  | .l3vpnService => ["id", "name", "service_type", "topology", "status"]
  | .vrf => ["id", "router_id", "vpn_id", "name", "rd", "status"]
  | .bgpSession => ["id", "vrf_id", "local_as", "remote_as", "peer_ip", "status"]

/-- `{k: row.get(k) for k in allow}` -/
def projectRow (row : Row) (allow : List String) : Row := allow.map fun k => (k, row.get k)

/-- The key by which the rows of a table are sorted; tuples compare as lists do. -/
def telemetryKey : Table → Row → Value
  | .interfaceLink, r => .list [r.get "interface_id", r.get "link_id"]
  | .subnetAssociation, r => .list [r.get "entity_id", r.get "subnet_id"]
  | _, r => (r.get "id").orEmpty

/-- `_render_telemetry_from_projection`: the payload. -/
def renderTelemetry (tables : Table → List Row) : Except Error (List (String × List Row)) :=
  collect (fun t => do
    let rows ← sortedBy (telemetryKey t) ((tables t).map fun r => projectRow r (ATTR_ALLOW t))
    return (t.name, rows)) Table.all

end GnnSandbox.Bench
