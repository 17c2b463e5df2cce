import Mathlib.Data.String.Basic
import GnnSandbox.Graph.EdgeViews
import GnnSandbox.Lib.First

/-!
# The physical topology

`fetch_physical_topology` asks the property graph for the paths from a router over a link to another
router, and makes nodes and connections of the rows; devices come from a second query. `build_graph`
turns both into elements for the dashboard.

1. `topologyRows`, `deviceRows`: what the queries select.
2. `fetchPhysicalTopology`, `buildGraph`: what becomes of it.
3. `mem_connections`: the connections between routers, by the paths of the graph.
-/

namespace GnnSandbox.Supervisor

open Graph

namespace Topology

/-! ## The query for links -/

section Queries

variable (db : Database) (target : Option Timestamp)

/-- The filter on `valid_start_ts` and `valid_end_ts`; without a target the open versions. -/
def isValid {α : Type} (v : Scd.Version Timestamp α) : Bool :=
  match target with
  | none => v.validEndTs.isNone
  | some ts => decide (v.validStartTs ≤ ts) && v.validEndTs.all fun endTs => ts < endTs

/-- `interface_filter` -/
def interfaceFilter (i : Scd.Version Timestamp PhysicalInterface) : Bool :=
  isValid target i && i.data.name != "eth0"

/-- The view `HasInterface_Edge`. -/
def hasInterfaceEdge : List Edge :=
  ((db .physicalRouter).flatMap fun r =>
    ((db .physicalInterface).filter fun i => r.data.id = i.data.routerId ∧ r.meets endOfTime i).map
      fun i => .of PhysicalRouter.id PhysicalInterface.id r i).dedup

def routerInterfaceEdge (r : Scd.Version Timestamp PhysicalRouter)
    (i : Scd.Version Timestamp PhysicalInterface) : Edge :=
  .of PhysicalRouter.id PhysicalInterface.id r i

/-- `OPTIONAL MATCH`: no match binds nothing. -/
def optionalMatch {α : Type} (found : List α) : List (Option α) :=
  if found.isEmpty then [none] else found.map some

/-- The interfaces of a router. -/
def interfacesOf (r : Scd.Version Timestamp PhysicalRouter) :
    List (Scd.Version Timestamp PhysicalInterface) :=
  (db .physicalInterface).filter fun i =>
    routerInterfaceEdge r i ∈ hasInterfaceEdge db ∧ interfaceFilter target i

/-- The links of an interface. -/
def linksOf (i : Scd.Version Timestamp PhysicalInterface) :
    List (Scd.Version Timestamp PhysicalLink) :=
  (db .physicalLink).filter fun l => interfaceLinkEdge i l ∈ connectsToEdge db ∧ isValid target l

/-- The interfaces at a link. The filter of the query is the one on `interface`, which is bound to
the interface that the path starts from. -/
def remoteInterfacesOf (i : Scd.Version Timestamp PhysicalInterface)
    (l : Scd.Version Timestamp PhysicalLink) : List (Scd.Version Timestamp PhysicalInterface) :=
  (db .physicalInterface).filter fun remote =>
    linkInterfaceEdge remote l ∈ linkedToEdge db ∧ interfaceFilter target i

/-- The routers of an interface at the other end, filtered by the router the path starts from. -/
def remoteRoutersOf (r : Scd.Version Timestamp PhysicalRouter)
    (remote : Scd.Version Timestamp PhysicalInterface) :
    List (Scd.Version Timestamp PhysicalRouter) :=
  (db .physicalRouter).filter fun remoteRouter =>
    routerInterfaceEdge remoteRouter remote ∈ hasInterfaceEdge db ∧ isValid target r

/-- A row of the result. -/
structure TopologyRow where
  routerId : String
  routerName : String
  routerRole : Option String
  routerStatus : Option String
  routerCity : Option String
  routerLat : Option Float64
  routerLon : Option Float64
  interfaceId : Option String
  interfaceName : Option String
  linkId : Option String
  linkName : Option String
  remoteRouterId : Option String
  remoteRouterName : Option String
  remoteInterfaceName : Option String
deriving DecidableEq

/-- The columns that a match returns. -/
def returned (r : Scd.Version Timestamp PhysicalRouter)
    (i : Option (Scd.Version Timestamp PhysicalInterface))
    (l : Option (Scd.Version Timestamp PhysicalLink))
    (remote : Option (Scd.Version Timestamp PhysicalInterface))
    (remoteRouter : Option (Scd.Version Timestamp PhysicalRouter)) : TopologyRow :=
  { routerId := r.data.id
    routerName := r.data.name
    routerRole := r.data.role
    routerStatus := r.data.status
    routerCity := r.data.locationCity
    routerLat := r.data.locationLat
    routerLon := r.data.locationLon
    interfaceId := i.map fun i => i.data.id
    interfaceName := i.map fun i => i.data.name
    linkId := l.map fun l => l.data.id
    linkName := l.bind fun l => l.data.name
    remoteRouterId := remoteRouter.map fun r => r.data.id
    remoteRouterName := remoteRouter.map fun r => r.data.name
    remoteInterfaceName := remote.map fun i => i.data.name }

/-- The rows of the query, in some order. -/
def topologyRows : List TopologyRow :=
  ((db .physicalRouter).filter (isValid target)).flatMap fun r =>
    (optionalMatch (interfacesOf db target r)).flatMap fun i =>
      (optionalMatch (i.elim [] (linksOf db target))).flatMap fun l =>
        (optionalMatch
          (i.elim [] fun i => l.elim [] (remoteInterfacesOf db target i))).flatMap fun remote =>
          (optionalMatch (remote.elim [] (remoteRoutersOf db target r))).map
            (returned r i l remote)

/-! ## The query for devices -/

structure DeviceRow where
  id : String
  name : String
  interfaceId : Option String
  networkName : Option String
  ipAddress : Option String
  gateway : Option String
  vlan : Option ℤ
  status : Option String
  routerId : Option String
deriving DecidableEq

/-- `LEFT JOIN PhysicalInterface i ON d.interface_id = i.id` -/
def deviceInterfaces (d : Scd.Version Timestamp Device) :
    List (Scd.Version Timestamp PhysicalInterface) :=
  (db .physicalInterface).filter fun i =>
    d.data.interfaceId = some i.data.id ∧ isValid target i

def deviceRows : List DeviceRow :=
  ((db .device).filter (isValid target)).flatMap fun d =>
    (optionalMatch (deviceInterfaces db target d)).map fun i =>
      { id := d.data.id
        name := d.data.name
        interfaceId := d.data.interfaceId
        networkName := d.data.networkName
        ipAddress := d.data.ipAddress
        gateway := d.data.gateway
        vlan := d.data.vlan
        status := d.data.status
        routerId := i.map fun i => i.data.routerId }

end Queries

/-! ## Nodes and connections -/

structure InterfaceNode where
  id : String
  name : Option String
deriving DecidableEq

structure RouterLocation where
  city : Option String
  latitude : Option Float64
  longitude : Option Float64
deriving DecidableEq

structure RouterNode where
  id : String
  name : String
  role : String
  status : String
  location : Option RouterLocation
  interfaces : List InterfaceNode
deriving DecidableEq

structure DeviceNode where
  id : String
  name : String
  interfaceId : Option String
  routerId : Option String
  networkName : Option String
  ipAddress : Option String
  gateway : Option String
  vlan : Option ℤ
  status : String
deriving DecidableEq

inductive Node where
  | router (r : RouterNode)
  | device (d : DeviceNode)
deriving DecidableEq

structure LinkConnection where
  id : String
  name : String
  sourceRouterId : String
  sourceRouterName : String
  sourceInterface : Option String
  targetRouterId : String
  targetRouterName : Option String
  targetInterface : Option String
  linkBandwidthBps : Option ℤ
deriving DecidableEq

structure DeviceConnection where
  id : String
  name : String
  sourceDeviceId : String
  sourceDeviceName : String
  targetInterfaceId : Option String
  targetRouterId : Option String
deriving DecidableEq

inductive Connection where
  | link (c : LinkConnection)
  | device (c : DeviceConnection)
deriving DecidableEq

structure PhysicalTopology where
  nodes : List Node
  connections : List Connection
deriving DecidableEq

/-- `router_location`, or none when it is empty. -/
def routerLocation (row : TopologyRow) : Option RouterLocation :=
  let location : RouterLocation := ⟨truthy row.routerCity, row.routerLat, row.routerLon⟩
  if location = ⟨none, none, none⟩ then none else some location

/-- The entry of a router that is not in `routers` yet. -/
def newRouter (row : TopologyRow) : RouterNode :=
  { id := row.routerId
    name := row.routerName
    role := (truthy row.routerRole).getD "unknown"
    status := (truthy row.routerStatus).getD "unknown"
    location := routerLocation row
    interfaces := [] }

/-- Adds the interface of a row to the entry of its router. -/
def addInterface (row : TopologyRow) (r : RouterNode) : RouterNode :=
  match truthy row.interfaceId with
  | none => r
  | some interfaceId =>
    if r.id = row.routerId ∧ interfaceId ∉ r.interfaces.map InterfaceNode.id then
      { r with interfaces := r.interfaces ++ [⟨interfaceId, row.interfaceName⟩] }
    else r

/-- `routers`, in the order of insertion. -/
def addRouter (routers : List RouterNode) (row : TopologyRow) : List RouterNode :=
  (if row.routerId ∈ routers.map RouterNode.id then routers else routers ++ [newRouter row]).map
    (addInterface row)

/-- The connection of a row that reaches another router. -/
def connectionOf (row : TopologyRow) : Option LinkConnection :=
  match truthy row.linkId, truthy row.remoteRouterId with
  | some linkId, some remoteRouterId =>
    if row.routerId = remoteRouterId then none
    else
      some
        { id := linkId
          name := (truthy row.linkName).getD
            ("link-" ++ String.ofList (linkId.toList.take 8))
          sourceRouterId := row.routerId
          sourceRouterName := row.routerName
          sourceInterface := row.interfaceName
          targetRouterId := remoteRouterId
          targetRouterName := row.remoteRouterName
          targetInterface := row.remoteInterfaceName
          linkBandwidthBps := none }
  | _, _ => none

/-- `connection_key` -/
def LinkConnection.key (c : LinkConnection) : String × String :=
  Lib.sortedPair c.sourceRouterId c.targetRouterId

/-- The dictionary of the routers, `connections_set` and the connections. -/
structure Collected where
  routers : List RouterNode
  connections : List (String × String) × List LinkConnection

def addRow (s : Collected) (row : TopologyRow) : Collected :=
  { routers := addRouter s.routers row
    connections :=
      match connectionOf row with
      | none => s.connections
      | some c => Lib.addNew LinkConnection.key s.connections c }

/-- The query of `_add_link_bandwidths`. -/
def bandwidthRows (db : Database) (target : Option Timestamp) (linkIds : List String) :
    List (String × Option String) :=
  ((db .physicalLink).filter fun l => l.data.id ∈ linkIds ∧ isValid target l).map
    fun l => (l.data.id, l.data.bandwidth)

/-- `_add_link_bandwidths`, with the answer to its query: none when that fails. -/
def addLinkBandwidths (parseBandwidthBps : Option String → Option ℤ)
    (bandwidths : List String → Option (List (String × Option String)))
    (connections : List LinkConnection) : List LinkConnection :=
  let linkIds := (connections.map LinkConnection.id).filter fun id => id ≠ ""
  match if linkIds = [] then none else bandwidths linkIds with
  | none => connections
  | some rows =>
    -- a later row of an id replaces an earlier one
    let bwMap := (rows.map fun row => (row.1, parseBandwidthBps row.2)).reverse
    connections.map fun c =>
      match bwMap.lookup c.id with
      | none => c
      | some bandwidth => { c with linkBandwidthBps := bandwidth }

def deviceNode (row : DeviceRow) : DeviceNode :=
  { id := row.id
    name := row.name
    interfaceId := row.interfaceId
    routerId := row.routerId
    networkName := row.networkName
    ipAddress := row.ipAddress
    gateway := row.gateway
    vlan := row.vlan
    status := (truthy row.status).getD "unknown" }

def deviceConnection (row : DeviceRow) : Option DeviceConnection :=
  if (truthy row.interfaceId).isSome || (truthy row.routerId).isSome then
    some
      { id := "device_conn:" ++ row.id
        name := row.name ++ " -> Interface"
        sourceDeviceId := row.id
        sourceDeviceName := row.name
        targetInterfaceId := row.interfaceId
        targetRouterId := row.routerId }
  else none

/-- `_add_devices_to_topology`, for the rows that arrive before the query ends or fails. -/
def addDevices (t : PhysicalTopology) (rows : List DeviceRow) : PhysicalTopology :=
  { nodes := t.nodes ++ rows.map fun row => .device (deviceNode row)
    connections := t.connections ++ (rows.filterMap deviceConnection).map .device }

/-- What the store answers: the rows of the first query, in any order, the bandwidths of links, and
rows of the device query, which can break off. -/
structure Answers (db : Database) (target : Option Timestamp) where
  rows : List TopologyRow
  bandwidths : List String → Option (List (String × Option String))
  devices : List DeviceRow
  rows_perm : rows.Perm (topologyRows db target)
  bandwidths_perm : ∀ linkIds, ∀ rows ∈ bandwidths linkIds,
    rows.Perm (bandwidthRows db target linkIds)
  devices_subperm : devices.Subperm (deviceRows db target)

variable {db : Database} {target : Option Timestamp}

/-- The loop over the rows. -/
def Answers.collected (a : Answers db target) : Collected := a.rows.foldl addRow ⟨[], [], []⟩

/-- What `fetch_physical_topology` returns when its first query succeeds. -/
def fetchPhysicalTopology (parseBandwidthBps : Option String → Option ℤ) (a : Answers db target) :
    PhysicalTopology :=
  addDevices
    { nodes := a.collected.routers.map .router
      connections :=
        (addLinkBandwidths parseBandwidthBps a.bandwidths a.collected.connections.2).map .link }
    a.devices

/-! ## Elements -/

/-- The `data` of an element for the dashboard. -/
inductive Element where
  | node (id label type status role : String) (location : Option RouterLocation)
  | edge (id source target label : String)
deriving DecidableEq

def nodeElement : Node → Element
  | .router r => .node r.id r.name "router" r.status r.role r.location
  | .device d => .node d.id d.name "router" d.status "unknown" none

/-- The element of a connection, if it has a `source_router_id`. -/
def connectionElement : Connection → Option Element
  | .link c => some (.edge c.id c.sourceRouterId c.targetRouterId c.name)
  | .device _ => none

/-- `build_graph`: the elements, and whether it succeeded. -/
def buildGraph : Except String PhysicalTopology → List Element × Bool
  | .error _ => ([], false)
  | .ok t =>
    match t.connections.mapM connectionElement with
    | none => ([], false)
    | some edges => (t.nodes.map nodeElement ++ edges, true)

/-! ## Paths -/

/-- A match of all the patterns of the query. -/
structure Path (db : Database) (target : Option Timestamp)
    (r : Scd.Version Timestamp PhysicalRouter) (i : Scd.Version Timestamp PhysicalInterface)
    (l : Scd.Version Timestamp PhysicalLink) (i' : Scd.Version Timestamp PhysicalInterface)
    (r' : Scd.Version Timestamp PhysicalRouter) : Prop where
  router : r ∈ db .physicalRouter ∧ isValid target r = true
  interface : i ∈ interfacesOf db target r
  link : l ∈ linksOf db target i
  remoteInterface : i' ∈ remoteInterfacesOf db target i l
  remoteRouter : r' ∈ remoteRoutersOf db target r i'

/-- A path whose row becomes a connection. -/
structure Crossing (db : Database) (target : Option Timestamp)
    (r : Scd.Version Timestamp PhysicalRouter) (i : Scd.Version Timestamp PhysicalInterface)
    (l : Scd.Version Timestamp PhysicalLink) (i' : Scd.Version Timestamp PhysicalInterface)
    (r' : Scd.Version Timestamp PhysicalRouter) : Prop
    extends Path db target r i l i' r' where
  link_id : l.data.id ≠ ""
  router_id : r'.data.id ≠ ""
  ne : r.data.id ≠ r'.data.id

section Paths

variable {r remoteRouter : Scd.Version Timestamp PhysicalRouter}
  {i remote : Scd.Version Timestamp PhysicalInterface} {l : Scd.Version Timestamp PhysicalLink}
  {row : TopologyRow} {c : LinkConnection}

theorem mem_optionalMatch {α : Type} {found : List α} {o : Option α} :
    o ∈ optionalMatch found ↔ (∃ x ∈ found, o = some x) ∨ (found = [] ∧ o = none) := by
  unfold optionalMatch
  cases found with
  | nil => simp
  | cons x found => simp [eq_comm]

theorem some_mem_optionalMatch {α : Type} {found : List α} {x : α} :
    some x ∈ optionalMatch found ↔ x ∈ found := by
  rw [mem_optionalMatch]
  simp

theorem optionalMatch_ne_nil {α : Type} (found : List α) : ∃ o, o ∈ optionalMatch found := by
  cases found with
  | nil => exact ⟨none, mem_optionalMatch.mpr (.inr ⟨rfl, rfl⟩)⟩
  | cons x found => exact ⟨some x, some_mem_optionalMatch.mpr (List.mem_cons_self ..)⟩

theorem connectionOf_eq_some_iff : connectionOf row = some c ↔ ∃ linkId remoteRouterId,
    truthy row.linkId = some linkId ∧ truthy row.remoteRouterId = some remoteRouterId ∧
    row.routerId ≠ remoteRouterId ∧
    c = { id := linkId
          name := (truthy row.linkName).getD ("link-" ++ String.ofList (linkId.toList.take 8))
          sourceRouterId := row.routerId
          sourceRouterName := row.routerName
          sourceInterface := row.interfaceName
          targetRouterId := remoteRouterId
          targetRouterName := row.remoteRouterName
          targetInterface := row.remoteInterfaceName
          linkBandwidthBps := none } := by
  unfold connectionOf
  split
  · next linkId remoteRouterId hlink hremote =>
    rw [Option.ite_none_left_eq_some]
    constructor
    · rintro ⟨hne, heq⟩
      exact ⟨linkId, remoteRouterId, hlink, hremote, hne, (Option.some.inj heq).symm⟩
    · rintro ⟨linkId', remoteRouterId', hlink', hremote', hne, rfl⟩
      obtain rfl := Option.some.inj (hlink.symm.trans hlink')
      obtain rfl := Option.some.inj (hremote.symm.trans hremote')
      exact ⟨hne, rfl⟩
  · next hnone =>
    constructor
    · intro h
      cases h
    · rintro ⟨linkId, remoteRouterId, hlink, hremote, -⟩
      exact absurd hremote (hnone linkId remoteRouterId hlink)

/-- The connection of a path. -/
def crossed (r : Scd.Version Timestamp PhysicalRouter) (i : Scd.Version Timestamp PhysicalInterface)
    (l : Scd.Version Timestamp PhysicalLink) (remote : Scd.Version Timestamp PhysicalInterface)
    (remoteRouter : Scd.Version Timestamp PhysicalRouter) : LinkConnection :=
  { id := l.data.id
    name := (truthy l.data.name).getD ("link-" ++ String.ofList (l.data.id.toList.take 8))
    sourceRouterId := r.data.id
    sourceRouterName := r.data.name
    sourceInterface := some i.data.name
    targetRouterId := remoteRouter.data.id
    targetRouterName := some remoteRouter.data.name
    targetInterface := some remote.data.name
    linkBandwidthBps := none }

/-- **The connections between routers** are those of the paths that reach another router. -/
theorem mem_connections : c ∈ (topologyRows db target).filterMap connectionOf ↔
    ∃ r i l remote remoteRouter, Crossing db target r i l remote remoteRouter ∧
      c = crossed r i l remote remoteRouter := by
  constructor
  · intro hc
    obtain ⟨row, hrow, hconnection⟩ := List.mem_filterMap.mp hc
    obtain ⟨linkId, remoteRouterId, hlinkId, hremoteId, hne, rfl⟩ :=
      connectionOf_eq_some_iff.mp hconnection
    obtain ⟨r, hr, hrow⟩ := List.mem_flatMap.mp hrow
    obtain ⟨oi, hi, hrow⟩ := List.mem_flatMap.mp hrow
    obtain ⟨ol, hl, hrow⟩ := List.mem_flatMap.mp hrow
    obtain ⟨oremote, hremote, hrow⟩ := List.mem_flatMap.mp hrow
    obtain ⟨orouter, hrouter, rfl⟩ := List.mem_map.mp hrow
    obtain ⟨hlink, hlinkNe⟩ := truthy_eq_some.mp hlinkId
    obtain ⟨hrouterId, hrouterNe⟩ := truthy_eq_some.mp hremoteId
    obtain ⟨l, rfl, rfl⟩ := Option.map_eq_some_iff.mp hlink
    obtain ⟨remoteRouter, rfl, rfl⟩ := Option.map_eq_some_iff.mp hrouterId
    have hl := some_mem_optionalMatch.mp hl
    have hrouter := some_mem_optionalMatch.mp hrouter
    cases oi with
    | none => cases hl
    | some i =>
      cases oremote with
      | none => cases hrouter
      | some remote =>
        refine ⟨r, i, l, remote, remoteRouter, ?_, rfl⟩
        exact
          { router := List.mem_filter.mp hr
            interface := some_mem_optionalMatch.mp hi
            link := hl
            remoteInterface := some_mem_optionalMatch.mp hremote
            remoteRouter := hrouter
            link_id := hlinkNe
            router_id := hrouterNe
            ne := hne }
  · rintro ⟨r, i, l, remote, remoteRouter, h, rfl⟩
    refine List.mem_filterMap.mpr
      ⟨returned r (some i) (some l) (some remote) (some remoteRouter), ?_, ?_⟩
    · refine List.mem_flatMap.mpr ⟨r, List.mem_filter.mpr h.router, ?_⟩
      refine List.mem_flatMap.mpr ⟨some i, some_mem_optionalMatch.mpr h.interface, ?_⟩
      refine List.mem_flatMap.mpr ⟨some l, some_mem_optionalMatch.mpr h.link, ?_⟩
      refine List.mem_flatMap.mpr ⟨some remote, some_mem_optionalMatch.mpr h.remoteInterface, ?_⟩
      exact List.mem_map.mpr
        ⟨some remoteRouter, some_mem_optionalMatch.mpr h.remoteRouter, rfl⟩
    · exact connectionOf_eq_some_iff.mpr ⟨l.data.id, remoteRouter.data.id,
        truthy_eq_some.mpr ⟨rfl, h.link_id⟩, truthy_eq_some.mpr ⟨rfl, h.router_id⟩, h.ne, rfl⟩

/-- A row of the first query, whatever it binds, is one of a router that is valid. -/
theorem routerId_mem_topologyRows {id : String} :
    id ∈ (topologyRows db target).map TopologyRow.routerId ↔
      ∃ r ∈ db .physicalRouter, isValid target r = true ∧ r.data.id = id := by
  constructor
  · intro hid
    obtain ⟨row, hrow, rfl⟩ := List.mem_map.mp hid
    obtain ⟨r, hr, hrow⟩ := List.mem_flatMap.mp hrow
    obtain ⟨oi, -, hrow⟩ := List.mem_flatMap.mp hrow
    obtain ⟨ol, -, hrow⟩ := List.mem_flatMap.mp hrow
    obtain ⟨oremote, -, hrow⟩ := List.mem_flatMap.mp hrow
    obtain ⟨orouter, -, rfl⟩ := List.mem_map.mp hrow
    exact ⟨r, (List.mem_filter.mp hr).1, (List.mem_filter.mp hr).2, rfl⟩
  · rintro ⟨r, hr, hvalid, rfl⟩
    obtain ⟨oi, hi⟩ := optionalMatch_ne_nil (interfacesOf db target r)
    obtain ⟨ol, hl⟩ := optionalMatch_ne_nil (oi.elim [] (linksOf db target))
    obtain ⟨oremote, hremote⟩ := optionalMatch_ne_nil
      (oi.elim [] fun i => ol.elim [] (remoteInterfacesOf db target i))
    obtain ⟨orouter, hrouter⟩ := optionalMatch_ne_nil
      (oremote.elim [] (remoteRoutersOf db target r))
    refine List.mem_map.mpr ⟨returned r oi ol oremote orouter, ?_, rfl⟩
    refine List.mem_flatMap.mpr ⟨r, List.mem_filter.mpr ⟨hr, hvalid⟩, ?_⟩
    refine List.mem_flatMap.mpr ⟨oi, hi, List.mem_flatMap.mpr ⟨ol, hl, ?_⟩⟩
    exact List.mem_flatMap.mpr ⟨oremote, hremote, List.mem_map.mpr ⟨orouter, hrouter, rfl⟩⟩

end Paths

/-! ## The loop -/

section Loop

variable {s : Collected} {rows : List TopologyRow}

theorem connections_foldl : (rows.foldl addRow s).connections =
    (rows.filterMap connectionOf).foldl (Lib.addNew LinkConnection.key) s.connections := by
  induction rows generalizing s with
  | nil => rfl
  | cons row rows ih =>
    rw [List.foldl_cons, ih]
    unfold addRow
    cases hconnection : connectionOf row with
    | none => rw [List.filterMap_cons_none hconnection]
    | some c => rw [List.filterMap_cons_some hconnection, List.foldl_cons]

/-- **The loop keeps one connection** for each pair of routers. -/
theorem connections_collected (a : Answers db target) : a.collected.connections.2 =
    Lib.firstOfEach LinkConnection.key (a.rows.filterMap connectionOf) := by
  unfold Answers.collected
  rw [connections_foldl, Lib.foldl_addNew]
  simp

end Loop

end Topology

end GnnSandbox.Supervisor
