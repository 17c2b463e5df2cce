import GnnSandbox.Bench.Loader
import GnnSandbox.Bench.Projection
import GnnSandbox.Bench.Env

/-!
# Snapshots of YAML documents

`snapshot_from_yaml` builds a twin from the infrastructure and VPN documents of a directory.
A field that a document lacks and one that is null are both `none`, a list that it lacks is
empty.
-/

namespace GnnSandbox.Bench

open Graph (Float64)

/-! ## Documents -/

structure Location where
  city : Option String
  latitude : Option Float64
  longitude : Option Float64
  country : Option String
  site : Option String
deriving DecidableEq

structure InterfaceDoc where
  name : String
  network : Option String
deriving DecidableEq

structure RouterDoc where
  name : String
  hostname : Option String
  routerId : Option String
  role : Option String
  location : Option Location
  interfaces : List InterfaceDoc
deriving DecidableEq

structure ConnectedRouter where
  routerName : String
  interface : String
  ipAddress : Option String
deriving DecidableEq

structure NetworkDoc where
  name : String
  subnet : Option String
  bandwidth : Option String
  networkType : Option String
  connectedRouters : List ConnectedRouter
deriving DecidableEq

structure DeviceDoc where
  name : String
  networkName : Option String
  ipAddress : Option String
  mgmtIp : Option String
  gateway : Option String
deriving DecidableEq

/-- The spec of a `VyOSInfrastructure`. -/
structure InfrastructureDoc where
  routers : List RouterDoc
  networks : List NetworkDoc
  devices : List DeviceDoc
deriving DecidableEq

structure ServiceDoc where
  name : String
  type : Option String
  topology : Option String
deriving DecidableEq

structure VrfDoc where
  name : String
  rd : Option String
  table : Option ℤ
  rtExport : Option (List String)
  rtImport : Option (List String)
  interfaces : Option (List String)
deriving DecidableEq

structure NeighborDoc where
  peer : Option String
  remoteAs : Option ℤ
deriving DecidableEq

/-- The neighbors of a VRF in the BGP block of a router. -/
structure VrfBgpDoc where
  name : String
  neighbors : List NeighborDoc
deriving DecidableEq

structure VpnRouterDoc where
  name : String
  vrfs : List VrfDoc
  bgpVrfs : List VrfBgpDoc
deriving DecidableEq

/-- The spec of a `VyOSL3VPN`. -/
structure L3vpnDoc where
  services : List ServiceDoc
  routers : List VpnRouterDoc
deriving DecidableEq

/-- A document of a YAML file, by its `kind`. -/
inductive Document where
  | infrastructure (spec : InfrastructureDoc)
  | l3vpn (spec : L3vpnDoc)
  | other
deriving DecidableEq

namespace Snapshot

/-! ## Text -/

/-- The characters that `str.strip` takes away. -/
def isSpace (c : Char) : Bool :=
  c ∈ ['\t', '\n', '\x0b', '\x0c', '\r', '\x1c', '\x1d', '\x1e', '\x1f', ' ', '\x85', '\xa0',
    '\u1680', '\u2000', '\u2001', '\u2002', '\u2003', '\u2004', '\u2005', '\u2006', '\u2007',
    '\u2008', '\u2009', '\u200a', '\u2028', '\u2029', '\u202f', '\u205f', '\u3000']

/-- `s.strip()` -/
def strip (s : String) : String :=
  String.ofList (((s.toList.dropWhile isSpace).reverse.dropWhile isSpace).reverse)

def SPEED_MAP : List (String × String) :=
  [("1gbit", "1G"), ("10gbit", "10G"), ("100mbit", "100M"), ("10mbit", "10M"), ("unlimited", "1G")]

/-- The lower-case hexadecimal digits of a byte. -/
def hexLower (b : ℕ) : String := Graph.lowerAscii (String.ofList (hexUpper [b]))

/-- `_synth_mac` -/
def synthMac (env : Env) (interfaceId : String) : String :=
  "02:" ++ ":".intercalate (((env.sha256 interfaceId).take 5).map hexLower)

/-! ## Topology -/

def routerId (name : String) : String := "router:" ++ name

def interfaceId (router iface : String) : String := routerId router ++ ":interface:" ++ iface

/-- `_build_ip_index`: the address of an interface, as the last network gives it. -/
def buildIpIndex (networks : List NetworkDoc) (router iface : String) : Option (Option String) :=
  ((networks.flatMap NetworkDoc.connectedRouters).reverse.find? fun cr =>
    cr.routerName = router ∧ cr.interface = iface).map ConnectedRouter.ipAddress

def buildRouter (r : RouterDoc) : PhysicalRouter where
  id := routerId r.name
  name := r.name
  vendor := some "VyOS"
  model := some "Virtual"
  locationCity := r.location.bind Location.city
  locationLat := r.location.bind Location.latitude
  locationLon := r.location.bind Location.longitude
  role := r.role
  status := some "Running"
  config := some [("hostname", .ofStr? r.hostname), ("router_id", .ofStr? r.routerId),
    ("country", .ofStr? (r.location.bind Location.country)),
    ("site", .ofStr? (r.location.bind Location.site))]

/-- `_build_routers` -/
def buildRouters (routers : List RouterDoc) : List PhysicalRouter := routers.map buildRouter

/-- `(r.get("router_id") or "").strip()`, when it is not empty. -/
def loopback (r : RouterDoc) : Option String :=
  Graph.truthy (some (strip (r.routerId.getD "")))

/-- `networks_by_name.get(name) if name else None` -/
def networkOf (networks : List NetworkDoc) (name : Option String) : Option NetworkDoc :=
  (Graph.truthy name).bind fun name => networks.reverse.find? fun n => n.name = name

/-- The speed of an interface on a network. -/
def speedOf (net : NetworkDoc) : Option String :=
  SPEED_MAP.lookup (Graph.lowerAscii (net.bandwidth.getD ""))

/-- The address of an interface on a network. -/
def addressOf (networks : List NetworkDoc) (r : RouterDoc) (iface : InterfaceDoc)
    (net : NetworkDoc) : Option String :=
  if net.networkType = some "loopback" then loopback r
  else (buildIpIndex networks r.name iface.name).join

def buildInterface (env : Env) (networks : List NetworkDoc) (r : RouterDoc)
    (iface : InterfaceDoc) : PhysicalInterface where
  id := interfaceId r.name iface.name
  routerId := routerId r.name
  name := iface.name
  speed := (networkOf networks iface.network).bind speedOf
  mediaType := some "ethernet"
  ipAddress := (networkOf networks iface.network).bind (addressOf networks r iface)
  macAddress := some (synthMac env (interfaceId r.name iface.name))
  status := some "UP"

/-- `_build_interfaces` -/
def buildInterfaces (env : Env) (routers : List RouterDoc) (networks : List NetworkDoc) :
    List PhysicalInterface :=
  routers.flatMap fun r => r.interfaces.map (buildInterface env networks r)

def linkId (net : NetworkDoc) : String := "link:" ++ net.name

/-- A well-formed p2p network, the only kind that produces a link. -/
def isLink (net : NetworkDoc) : Bool :=
  net.networkType = some "p2p" ∧ net.connectedRouters.length = 2

def buildLink (net : NetworkDoc) : PhysicalLink :=
  ⟨linkId net, net.name, net.bandwidth, some "UP", none⟩

def buildEdges (net : NetworkDoc) : List InterfaceLink :=
  net.connectedRouters.map fun cr => ⟨interfaceId cr.routerName cr.interface, linkId net⟩

/-- `_build_links_and_edges` -/
def buildLinksAndEdges (networks : List NetworkDoc) : List PhysicalLink × List InterfaceLink :=
  ((networks.filter isLink).map buildLink, (networks.filter isLink).flatMap buildEdges)

/-- The subnet of a router's loopback address and its association, if the router has an `lo` on
the network. -/
def buildLoopback (net : NetworkDoc) (r : RouterDoc) :
    Option (LogicalSubnet × SubnetAssociation) :=
  match loopback r with
  | none => none
  | some lo =>
    if r.interfaces.any fun iface => iface.name = "lo" ∧ iface.network = some net.name then
      some (⟨"subnet:" ++ (lo ++ "/32"), lo ++ "/32", some "loopback", none, none, none⟩,
        ⟨interfaceId r.name "lo", "subnet:" ++ (lo ++ "/32"), "Interface"⟩)
    else none

/-- The subnet of a network and the associations of its interfaces. -/
def buildSubnet (net : NetworkDoc) : LogicalSubnet × List SubnetAssociation :=
  (⟨"subnet:" ++ net.name, net.subnet.getD "", net.networkType, none, none, none⟩,
    net.connectedRouters.map fun cr =>
      ⟨interfaceId cr.routerName cr.interface, "subnet:" ++ net.name, "Interface"⟩)

/-- What a network adds to the subnets and the associations. -/
def buildNetwork (routers : List RouterDoc) (net : NetworkDoc) :
    List LogicalSubnet × List SubnetAssociation :=
  if net.networkType = some "loopback" then
    let pairs := routers.filterMap (buildLoopback net)
    (pairs.map Prod.fst, pairs.map Prod.snd)
  else
    let pair := buildSubnet net
    ([pair.1], pair.2)

/-- `_build_subnets_and_associations` -/
def buildSubnetsAndAssociations (networks : List NetworkDoc) (routers : List RouterDoc) :
    List LogicalSubnet × List SubnetAssociation :=
  (networks.flatMap fun net => (buildNetwork routers net).1,
    networks.flatMap fun net => (buildNetwork routers net).2)

/-- The interface with an address; the last wins. -/
def ifaceByIp (interfaces : List PhysicalInterface) (ip : String) : Option String :=
  (interfaces.reverse.find? fun i => Graph.truthy i.ipAddress = some ip).map PhysicalInterface.id

def buildDevice (interfaces : List PhysicalInterface) (d : DeviceDoc) : Device where
  id := "device:" ++ d.name
  name := d.name
  interfaceId := (Graph.truthy d.gateway).bind (ifaceByIp interfaces)
  networkName := d.networkName
  ipAddress := d.ipAddress
  mgmtIp := d.mgmtIp
  gateway := d.gateway
  vlan := none
  status := some "Ready"
  config := none

/-- `_build_devices` -/
def buildDevices (devices : List DeviceDoc) (interfaces : List PhysicalInterface) : List Device :=
  devices.map (buildDevice interfaces)

/-! ## VPNs -/

def vpnId (name : String) : String := "vpn:" ++ name

def vrfId (router name : String) : String := "vrf:" ++ (router ++ (":" ++ name))

def buildService (svc : ServiceDoc) : L3VPNService :=
  ⟨vpnId svc.name, svc.name, "cust:default", svc.type, svc.topology, some "Ready", none⟩

/-- `services[name] = service` -/
def putService (services : List L3VPNService) (svc : L3VPNService) : List L3VPNService :=
  if services.any fun s => s.name = svc.name then
    services.map fun s => if s.name = svc.name then svc else s
  else services ++ [svc]

def ofStrs? (texts : Option (List String)) : Value :=
  (texts.map fun texts => .list (texts.map Value.str)).getD .none

def buildVrf (router : VpnRouterDoc) (vrf : VrfDoc) : VRF where
  id := vrfId router.name vrf.name
  routerId := routerId router.name
  vpnId := vpnId vrf.name
  name := "VRF-" ++ vrf.name
  rd := vrf.rd
  status := some "Active"
  config := some [("table", .ofInt? vrf.table), ("rt_export", ofStrs? vrf.rtExport),
    ("rt_import", ofStrs? vrf.rtImport), ("interfaces", ofStrs? vrf.interfaces)]

def buildSession (router : VpnRouterDoc) (vrf : VrfBgpDoc) (neighbor : NeighborDoc) :
    BGPSession where
  id := "bgp:" ++ (router.name ++ (":" ++ (vrf.name ++ (":" ++ neighbor.peer.getD "None"))))
  vrfId := vrfId router.name vrf.name
  localAs := some 65001
  remoteAs := neighbor.remoteAs
  peerIp := neighbor.peer
  status := some "Established"
  config := none

/-- `_build_l3vpn` -/
def buildL3vpn (docs : List L3vpnDoc) : List L3VPNService × List VRF × List BGPSession :=
  let routers := docs.flatMap L3vpnDoc.routers
  (((docs.flatMap L3vpnDoc.services).map buildService).foldl putService [],
    routers.flatMap fun router => router.vrfs.map (buildVrf router),
    routers.flatMap fun router => router.bgpVrfs.flatMap fun vrf =>
      vrf.neighbors.map (buildSession router vrf))

/-! ## The twin -/

/-- The entities of the documents of both kinds. -/
def buildEntities (env : Env) (infra : List InfrastructureDoc) (vpns : List L3vpnDoc) :
    GoldenTwinEntities :=
  let routers := infra.flatMap InfrastructureDoc.routers
  let networks := infra.flatMap InfrastructureDoc.networks
  let interfaces := buildInterfaces env routers networks
  let links := buildLinksAndEdges networks
  let subnets := buildSubnetsAndAssociations networks routers
  let l3vpn := buildL3vpn vpns
  { routers := buildRouters routers
    interfaces
    links := links.1
    interfaceLink := links.2
    devices := buildDevices (infra.flatMap InfrastructureDoc.devices) interfaces
    subnets := subnets.1
    subnetAssociation := subnets.2
    l3vpnServices := l3vpn.1
    vrfs := l3vpn.2.1
    bgpSessions := l3vpn.2.2 }

/-- The documents of `_load_yaml_files` under `VyOSInfrastructure`. -/
def infraDocs (docs : List Document) : List InfrastructureDoc :=
  docs.filterMap fun
    | .infrastructure spec => some spec
    | _ => none

/-- The documents of `_load_yaml_files` under `VyOSL3VPN`. -/
def vpnDocs (docs : List Document) : List L3vpnDoc :=
  docs.filterMap fun
    | .l3vpn spec => some spec
    | _ => none

end Snapshot

open Snapshot

/-- `snapshot_from_yaml` of a directory with these documents, at the time `now`; `none` when there
is no such directory. -/
def snapshotFromYaml (env : Env) (dir : String) (docs : Option (List Document)) (now : String) :
    Except Error GoldenTwin :=
  match docs with
  | none => .error (.fileNotFound ("Not a directory: " ++ dir))
  | some docs =>
    if infraDocs docs = [] then
      .error (.valueError ("No VyOSInfrastructure YAML found under " ++ dir))
    else
      let entities := buildEntities env (infraDocs docs) (vpnDocs docs)
      .ok ⟨now, some (env.contentHash entities), entities⟩

end GnnSandbox.Bench
