import GnnSandbox.Bench.Render

/-!
# The projector

The catalog's files and the telemetry payload of a golden twin, rendered from its typed
entities without going through projections.
-/

namespace GnnSandbox.Bench

open Raise
open Value (str int ofStr? ofInt? ofFloat?)

variable (env : Env)

/-! ## The catalog -/

/-- `_last_audit_date` -/
def lastAuditDate (twin : GoldenTwin) (seed : ℤ) (routerId : String) : Except Error String :=
  auditDate env twin.capturedAt ((deterministicInt env seed ("audit:" ++ routerId) 11 : ℕ) - 5)

def routerRow (twin : GoldenTwin) (seed : ℤ) (seq : ℕ) (r : PhysicalRouter) :
    Except Error Row := do
  let audit ← lastAuditDate env twin seed r.id
  return [("inventory_id", str ("INV-" ++ pad4 (seq + 1))), ("hostname", str r.name),
    ("display_name", str (toDisplayName env r.name)), ("vendor", ofStr? r.vendor),
    ("model", ofStr? r.model), ("serial_number", str (synthSerial env seed r.id)),
    ("asset_tag", str (synthAssetTag env seed r.id)), ("site", ofStr? r.locationCity),
    ("latitude", ofFloat? r.locationLat), ("longitude", ofFloat? r.locationLon),
    ("role", ofStr? r.role), ("mgmt_ip", str (synthMgmtIp seq)), ("last_audit_date", str audit)]

/-- `_routers_df` -/
def routersDf (twin : GoldenTwin) (seed : ℤ) : Except Error (List Row) :=
  collect (fun p => routerRow env twin seed p.2 p.1)
    (sortedStr PhysicalRouter.id twin.entities.routers).zipIdx

/-- `_interface_description` -/
def interfaceDescription (iface : PhysicalInterface) : Option PhysicalRouter → String
  | none => "Interface " ++ iface.name
  | some router =>
    (Graph.truthy router.role).getD "?" ++ " " ++ router.name ++ " :: " ++ iface.name

def GoldenTwinEntities.routerById (e : GoldenTwinEntities) (id : String) : Option PhysicalRouter :=
  lastWith PhysicalRouter.id e.routers id

def GoldenTwinEntities.ifaceById (e : GoldenTwinEntities) (id : String) :
    Option PhysicalInterface :=
  lastWith PhysicalInterface.id e.interfaces id

/-- `router.name if router else None` -/
def nameOf {α : Type} (name : α → String) (a : Option α) : Value := ofStr? (a.map name)

def interfaceRow (twin : GoldenTwin) (seq : ℕ) (i : PhysicalInterface) : Except Error Row := do
  let router := twin.entities.routerById i.routerId
  let speed ← parseSpeedMbps (ofStr? i.speed)
  return [("inventory_id", str ("IF-" ++ pad4 (seq + 1))),
    ("device_hostname", nameOf PhysicalRouter.name router), ("interface_name", str i.name),
    ("speed_mbps", speed), ("media_type", ofStr? i.mediaType), ("planned_ip", ofStr? i.ipAddress),
    ("mac_address", ofStr? i.macAddress), ("description", str (interfaceDescription i router))]

/-- `_interfaces_df` -/
def interfacesDf (twin : GoldenTwin) : Except Error (List Row) :=
  collect (fun p => interfaceRow twin p.2 p.1)
    (sortedStr PhysicalInterface.id twin.entities.interfaces).zipIdx

/-- The interfaces of a link. -/
def GoldenTwinEntities.endpoints (e : GoldenTwinEntities) (link : String) : List String :=
  (e.interfaceLink.filter fun il => il.linkId = link).map InterfaceLink.interfaceId

/-- The device and the interface of an endpoint. -/
def GoldenTwinEntities.endpoint (e : GoldenTwinEntities) (id : String) : Value × Value :=
  let iface := e.ifaceById id
  let router := iface.bind fun i => e.routerById i.routerId
  (nameOf PhysicalRouter.name router, nameOf PhysicalInterface.name iface)

def linkRow (twin : GoldenTwin) (seq : ℕ) (link : PhysicalLink) : Except Error Row := do
  let epIds := sortedStr id (twin.entities.endpoints link.id)
  let ep := (epIds.take 2).map twin.entities.endpoint
  let a := ep[0]?.getD (.none, .none)
  let b := ep[1]?.getD (.none, .none)
  let bandwidth ← bandwidthToMbps (ofStr? link.bandwidth)
  return [("inventory_id", str ("LINK-" ++ pad4 (seq + 1))), ("circuit_id", str ("CKT-" ++ link.name)),
    ("endpoint_a_device", a.1), ("endpoint_a_interface", a.2), ("endpoint_b_device", b.1),
    ("endpoint_b_interface", b.2), ("bandwidth_mbps", bandwidth),
    ("fiber_type", str (synthFiberType env link.name)),
    ("length_km", int (synthLengthKm env link.name))]

/-- `_links_df` -/
def linksDf (twin : GoldenTwin) : Except Error (List Row) :=
  collect (fun p => linkRow env twin p.2 p.1) (sortedStr PhysicalLink.id twin.entities.links).zipIdx

def deviceRow (twin : GoldenTwin) (d : Device) : Row :=
  let iface := (Graph.truthy d.interfaceId).bind twin.entities.ifaceById
  let router := iface.bind fun i => twin.entities.routerById i.routerId
  [("inventory_id", str d.id), ("device_name", str d.name), ("network_name", ofStr? d.networkName),
    ("ip_address", ofStr? d.ipAddress), ("mgmt_ip", ofStr? d.mgmtIp), ("gateway", ofStr? d.gateway),
    ("gateway_router", nameOf PhysicalRouter.name router),
    ("gateway_interface", nameOf PhysicalInterface.name iface), ("vlan", ofInt? d.vlan)]

/-- `_devices_df` -/
def devicesDf (twin : GoldenTwin) : Except Error (List Row) :=
  .ok ((sortedStr Device.id twin.entities.devices).map (deviceRow twin))

def vpnRow (twin : GoldenTwin) (vrf : VRF) : Row :=
  let svc := lastWith L3VPNService.id twin.entities.l3vpnServices vrf.vpnId
  [("vpn_id", str vrf.vpnId), ("vpn_name", nameOf L3VPNService.name svc),
    ("service_type", ofStr? (svc.bind L3VPNService.serviceType)),
    ("topology", ofStr? (svc.bind L3VPNService.topology)), ("vrf_id", str vrf.id),
    ("vrf_name", str vrf.name), ("router_id", str vrf.routerId), ("rd", ofStr? vrf.rd),
    ("status", ofStr? vrf.status)]

/-- `_vpns_df` -/
def vpnsDf (twin : GoldenTwin) : Except Error (List Row) :=
  .ok ((sortedStr VRF.id twin.entities.vrfs).map (vpnRow twin))

/-- `to_catalog`: the files in the order in which they are written. -/
def toCatalog (twin : GoldenTwin) (seed : ℤ) : List (String × Except Error (List Row)) :=
  [("routers.csv", routersDf env twin seed), ("interfaces.csv", interfacesDf twin),
    ("links.csv", linksDf env twin), ("devices.csv", devicesDf twin), ("vpns.csv", vpnsDf twin)]

/-! ## The telemetry -/

/-- The sort key of `build_telemetry_payload`. -/
def payloadKey : Table → Row → Value
  | .interfaceLink, r => .list [r.get "interface_id", r.get "link_id"]
  | .subnetAssociation, r => .list [r.get "entity_id", r.get "subnet_id"]
  | _, r => r.get "id"

/-- `build_telemetry_payload` -/
def buildTelemetryPayload (twin : GoldenTwin) : Except Error (List (String × List Row)) :=
  collect (fun t => do
    let rows ←
      sortedBy (payloadKey t) ((twin.entities.rows t).map fun r => projectRow r (ATTR_ALLOW t))
    return (t.name, rows)) Table.all

end GnnSandbox.Bench
