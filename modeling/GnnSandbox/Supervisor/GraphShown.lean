import GnnSandbox.Supervisor.LinksShown

/-!
# The graph of the dashboard

`build_graph` reads the two routers of every connection. The connection of a device has no source
router, so that one attached device leaves no graph at all; and the remote router of a link, which
the query does not filter, need not be among the nodes.
-/

namespace GnnSandbox.Supervisor.Topology

open Graph

/-! ## What is asked of the graph -/

def Node.id : Node → String
  | .router r => r.id
  | .device d => d.id

def Connection.id : Connection → String
  | .link c => c.id
  | .device c => c.id

def Element.nodeId : Element → Option String
  | .node id .. => some id
  | .edge .. => none

def Element.edgeId : Element → Option String
  | .node .. => none
  | .edge id .. => some id

/-- Source and target of an edge. -/
def Element.ends : Element → Option (String × String)
  | .node .. => none
  | .edge _ source target _ => some (source, target)

/-- One element for each node and each connection, and nodes at the ends of the edges. -/
structure ShowsWhole (t : PhysicalTopology) (result : List Element × Bool) : Prop where
  success : result.2 = true
  nodes : result.1.filterMap Element.nodeId = t.nodes.map Node.id
  edges : result.1.filterMap Element.edgeId = t.connections.map Connection.id
  ends : ∀ p ∈ result.1.filterMap Element.ends,
    p.1 ∈ result.1.filterMap Element.nodeId ∧ p.2 ∈ result.1.filterMap Element.nodeId

/-- No device that is valid has an interface, or a router by its interface. -/
def Unattached (db : Database) (target : Option Timestamp) : Prop :=
  ∀ d ∈ db .device, isValid target d = true →
    truthy d.data.interfaceId = none ∧ ∀ i ∈ deviceInterfaces db target d, i.data.routerId = ""

/-- Every path ends at the id of a valid router. -/
def EndsAtRouters (db : Database) (target : Option Timestamp) : Prop :=
  ∀ r i l i' r', Crossing db target r i l i' r' →
    ∃ r₂ ∈ db .physicalRouter, isValid target r₂ = true ∧ r₂.data.id = r'.data.id

/-! ## Elements of connections -/

def edgeOf (c : LinkConnection) : Element := .edge c.id c.sourceRouterId c.targetRouterId c.name

variable {db : Database} {target : Option Timestamp} {parse : Option String → Option ℤ}
  {links : List LinkConnection}

theorem mapM_links : (links.map Connection.link).mapM connectionElement = some (links.map edgeOf) :=
  List.mapM_map.trans List.mapM_pure

/-- **A device connection** leaves no graph. -/
theorem buildGraph_device {nodes : List Node} {devices : List DeviceConnection} (h : devices ≠ []) :
    buildGraph (.ok ⟨nodes, links.map .link ++ devices.map .device⟩) = ([], false) := by
  cases devices with
  | nil => exact absurd rfl h
  | cons d devices =>
    have hnone : (links.map Connection.link ++ (d :: devices).map Connection.device).mapM
        connectionElement = none := by
      rw [List.mapM_append, mapM_links, List.map_cons, List.mapM_cons]
      rfl
    unfold buildGraph
    dsimp only
    rw [hnone]

theorem buildGraph_links (nodes : List Node) :
    buildGraph (.ok ⟨nodes, links.map .link⟩) =
      (nodes.map nodeElement ++ links.map edgeOf, true) := by
  unfold buildGraph
  dsimp only
  rw [mapM_links]

section Elements

variable (nodes : List Node) (links)

theorem filterMap_nodeId : (nodes.map nodeElement ++ links.map edgeOf).filterMap Element.nodeId =
    nodes.map Node.id := by
  have hnodes : (nodes.map nodeElement).filterMap Element.nodeId = nodes.map Node.id := by
    rw [List.filterMap_map, ← List.filterMap_eq_map]
    refine List.filterMap_congr fun n _ => ?_
    cases n <;> rfl
  have hlinks : (links.map edgeOf).filterMap Element.nodeId = [] :=
    List.filterMap_map.trans (List.filterMap_eq_nil_iff.mpr fun _ _ => rfl)
  rw [List.filterMap_append, hnodes, hlinks, List.append_nil]

theorem filterMap_edge {β : Type} {f : Element → Option β} (hf : ∀ n, f (nodeElement n) = none)
    {g : LinkConnection → β} (hg : ∀ c, f (edgeOf c) = some (g c)) :
    (nodes.map nodeElement ++ links.map edgeOf).filterMap f = links.map g := by
  have hnodes : (nodes.map nodeElement).filterMap f = [] :=
    List.filterMap_map.trans (List.filterMap_eq_nil_iff.mpr fun n _ => hf n)
  have hlinks : (links.map edgeOf).filterMap f = links.map g := by
    rw [List.filterMap_map, ← List.filterMap_eq_map]
    exact List.filterMap_congr fun c _ => hg c
  rw [List.filterMap_append, hnodes, hlinks, List.nil_append]

theorem filterMap_edgeId : (nodes.map nodeElement ++ links.map edgeOf).filterMap Element.edgeId =
    links.map LinkConnection.id :=
  filterMap_edge links nodes (fun n => by cases n <;> rfl) fun _ => rfl

theorem filterMap_ends : (nodes.map nodeElement ++ links.map edgeOf).filterMap Element.ends =
    links.map fun c => (c.sourceRouterId, c.targetRouterId) :=
  filterMap_edge links nodes (fun n => by cases n <;> rfl) fun _ => rfl

end Elements

/-! ## Nodes of routers -/

section Routers

variable {routers : List RouterNode} {row : TopologyRow} {rows : List TopologyRow} {s : Collected}

theorem addInterface_id (row : TopologyRow) (r : RouterNode) : (addInterface row r).id = r.id := by
  unfold addInterface
  split
  · rfl
  · split <;> rfl

theorem mem_ids_addRouter {id : String} : id ∈ (addRouter routers row).map RouterNode.id ↔
    id ∈ routers.map RouterNode.id ∨ id = row.routerId := by
  have hids : ∀ rs : List RouterNode,
      (rs.map (addInterface row)).map RouterNode.id = rs.map RouterNode.id := fun rs =>
    List.map_map.trans (List.map_congr_left fun r _ => addInterface_id row r)
  unfold addRouter
  rw [hids]
  split
  · next hmem =>
    constructor
    · exact .inl
    · rintro (h | rfl)
      · exact h
      · exact hmem
  · rw [List.map_append, List.mem_append]
    exact or_congr_right List.mem_singleton

/-- A router is in the dictionary when a row names it. -/
theorem mem_ids_foldl {id : String} : id ∈ (rows.foldl addRow s).routers.map RouterNode.id ↔
    id ∈ s.routers.map RouterNode.id ∨ id ∈ rows.map TopologyRow.routerId := by
  induction rows generalizing s with
  | nil => simp
  | cons row rows ih =>
    have hrow : id ∈ (addRow s row).routers.map RouterNode.id ↔
        id ∈ s.routers.map RouterNode.id ∨ id = row.routerId := mem_ids_addRouter
    rw [List.foldl_cons, ih, hrow, List.map_cons, List.mem_cons, or_assoc]

/-- **The nodes of routers** are those of the routers that are valid. -/
theorem mem_ids_collected (a : Answers db target) {id : String} :
    id ∈ a.collected.routers.map RouterNode.id ↔
      ∃ r ∈ db .physicalRouter, isValid target r = true ∧ r.data.id = id := by
  unfold Answers.collected
  rw [mem_ids_foldl, (a.rows_perm.map TopologyRow.routerId).mem_iff, routerId_mem_topologyRows]
  simp

end Routers

/-! ## Connections of devices -/

section Devices

variable {row : DeviceRow}

theorem deviceConnection_eq_none_iff : deviceConnection row = none ↔
    truthy row.interfaceId = none ∧ truthy row.routerId = none := by
  unfold deviceConnection
  cases truthy row.interfaceId <;> cases truthy row.routerId <;> simp

/-- **No device has a connection** when none is attached. -/
theorem unattached_iff : Unattached db target ↔
    ∀ row ∈ deviceRows db target, deviceConnection row = none := by
  constructor
  · intro h row hrow
    obtain ⟨d, hd, hrow⟩ := List.mem_flatMap.mp hrow
    obtain ⟨oi, hi, rfl⟩ := List.mem_map.mp hrow
    obtain ⟨hd, hvalid⟩ := List.mem_filter.mp hd
    obtain ⟨hinterface, hrouter⟩ := h d hd hvalid
    refine deviceConnection_eq_none_iff.mpr ⟨hinterface, ?_⟩
    cases oi with
    | none => rfl
    | some i =>
      have hi : i ∈ deviceInterfaces db target d := some_mem_optionalMatch.mp hi
      exact congrArg (fun id => truthy (some id)) (hrouter i hi)
  · intro h d hd hvalid
    have hrow : ∀ oi ∈ optionalMatch (deviceInterfaces db target d),
        truthy d.data.interfaceId = none ∧
          truthy (oi.map fun i => i.data.routerId) = none := by
      intro oi hoi
      exact deviceConnection_eq_none_iff.mp (h _ (List.mem_flatMap.mpr
        ⟨d, List.mem_filter.mpr ⟨hd, hvalid⟩, List.mem_map.mpr ⟨oi, hoi, rfl⟩⟩))
    constructor
    · obtain ⟨oi, hoi⟩ := optionalMatch_ne_nil (deviceInterfaces db target d)
      exact (hrow oi hoi).1
    · intro i hi
      have hnone := (hrow _ (some_mem_optionalMatch.mpr hi)).2
      by_contra hne
      exact absurd (hnone.symm.trans (truthy_eq_some.mpr ⟨rfl, hne⟩)) (by simp)

end Devices

/-! ## The graph -/

/-- The two routers of each connection between routers are those of a path. -/
theorem ends_fetched (a : Answers db target) {p : String × String} :
    p ∈ (addLinkBandwidths parse a.bandwidths a.collected.connections.2).map
        (fun c => (c.sourceRouterId, c.targetRouterId)) ↔
      p ∈ (Lib.firstOfEach LinkConnection.key (a.rows.filterMap connectionOf)).map
        fun c => (c.sourceRouterId, c.targetRouterId) := by
  obtain ⟨bandwidth, hbandwidth⟩ :=
    @addLinkBandwidths_eq parse a.bandwidths a.collected.connections.2
  rw [hbandwidth, connections_collected, List.map_map]
  rfl

/-- What is fetched when no device is attached. -/
theorem fetch_unattached (h : Unattached db target) (a : Answers db target) :
    fetchPhysicalTopology parse a =
      ⟨a.collected.routers.map .router ++ a.devices.map fun row => .device (deviceNode row),
        (addLinkBandwidths parse a.bandwidths a.collected.connections.2).map .link⟩ := by
  have hdevices : a.devices.filterMap deviceConnection = [] := by
    refine List.filterMap_eq_nil_iff.mpr fun row hrow => ?_
    exact unattached_iff.mp h row (a.devices_subperm.subset hrow)
  unfold fetchPhysicalTopology addDevices
  rw [hdevices]
  exact congrArg (PhysicalTopology.mk _) (List.append_nil _)

/-- The graph is whole when no device is attached and the paths end at nodes. -/
theorem showsWhole (hdevices : Unattached db target) (hends : EndsAtRouters db target)
    (a : Answers db target) : ShowsWhole (fetchPhysicalTopology parse a)
      (buildGraph (.ok (fetchPhysicalTopology parse a))) := by
  have hgraph := @fetch_unattached db target parse hdevices a
  rw [hgraph, buildGraph_links]
  constructor
  · rfl
  · exact filterMap_nodeId _ _
  · rw [filterMap_edgeId, List.map_map]
    rfl
  · intro p hp
    rw [filterMap_ends, ends_fetched] at hp
    obtain ⟨c, hc, rfl⟩ := List.mem_map.mp hp
    have hc := (a.rows_perm.filterMap connectionOf).mem_iff.mp (Lib.mem_of_mem_firstOfEach hc)
    obtain ⟨r, i, l, i', r', hcrossing, rfl⟩ := mem_connections.mp hc
    have hnode : ∀ id, (∃ r ∈ db .physicalRouter, isValid target r = true ∧ r.data.id = id) →
        id ∈ (a.collected.routers.map Node.router ++
          a.devices.map fun row => Node.device (deviceNode row)).map Node.id := by
      intro id hid
      rw [List.map_append, List.map_map]
      exact List.mem_append_left _ ((mem_ids_collected a).mpr hid)
    rw [filterMap_nodeId]
    exact ⟨hnode _ ⟨r, hcrossing.router.1, hcrossing.router.2, rfl⟩,
      hnode _ (hends r i l i' r' hcrossing)⟩

/-- Answers with all devices. -/
def withDevices (db : Database) (target : Option Timestamp) : Answers db target :=
  { answersOf (List.Perm.refl (topologyRows db target)) with
    devices := deviceRows db target
    devices_subperm := List.Subperm.refl _ }

theorem unattached_of_success
    (h : (buildGraph (.ok (fetchPhysicalTopology parse (withDevices db target)))).2 = true) :
    Unattached db target := by
  refine unattached_iff.mpr fun row hrow => ?_
  by_contra hconnection
  have hne : (deviceRows db target).filterMap deviceConnection ≠ [] := fun hnil =>
    hconnection (List.filterMap_eq_nil_iff.mp hnil row hrow)
  have hnone : buildGraph (.ok (fetchPhysicalTopology parse (withDevices db target))) =
      ([], false) := buildGraph_device hne
  rw [hnone] at h
  cases h

/-- The path of any connection can be the first. -/
theorem endsAtRouters_of_ends (hdevices : Unattached db target)
    (h : ∀ a : Answers db target, ShowsWhole (fetchPhysicalTopology parse a)
      (buildGraph (.ok (fetchPhysicalTopology parse a)))) : EndsAtRouters db target := by
  intro r i l i' r' hcrossing
  obtain ⟨row, hrow, hconnection⟩ :=
    List.mem_filterMap.mp (mem_connections.mpr ⟨r, i, l, i', r', hcrossing, rfl⟩)
  let a : Answers db target := answersOf (List.perm_cons_erase hrow).symm
  have hwhole := h a
  rw [@fetch_unattached db target parse hdevices a, buildGraph_links] at hwhole
  have hfirst : (r.data.id, r'.data.id) ∈
      (Lib.firstOfEach LinkConnection.key (a.rows.filterMap connectionOf)).map
        fun c => (c.sourceRouterId, c.targetRouterId) := by
    have hrows : a.rows.filterMap connectionOf = crossed r i l i' r' ::
        ((topologyRows db target).erase row).filterMap connectionOf :=
      List.filterMap_cons_some hconnection
    rw [hrows]
    exact List.mem_map.mpr ⟨_, Lib.mem_firstOfEach_cons, rfl⟩
  have hp := hwhole.ends (r.data.id, r'.data.id)
  rw [filterMap_ends, ends_fetched, filterMap_nodeId] at hp
  obtain ⟨n, hn, hid⟩ := List.mem_map.mp (hp hfirst).2
  rcases List.mem_append.mp hn with hn | hn
  · obtain ⟨router, hrouter, rfl⟩ := List.mem_map.mp hn
    exact (mem_ids_collected a).mp (List.mem_map.mpr ⟨router, hrouter, hid⟩)
  · cases hn

/-- **The graph is whole**, whatever the store answers, exactly when no device is attached and all
paths end at nodes. -/
theorem buildGraph_whole_iff (db : Database) (parse : Option String → Option ℤ) :
    (∀ a : Answers db none, ShowsWhole (fetchPhysicalTopology parse a)
      (buildGraph (.ok (fetchPhysicalTopology parse a)))) ↔
    Unattached db none ∧ EndsAtRouters db none := by
  constructor
  · intro h
    have hdevices : Unattached db none := unattached_of_success (h _).success
    exact ⟨hdevices, endsAtRouters_of_ends hdevices h⟩
  · rintro ⟨hdevices, hends⟩ a
    exact showsWhole hdevices hends a

/-! ## One device -/

section Attached

def attached : Database
  | .physicalRouter => openRows [routerRow "ce1"]
  | .physicalInterface => openRows [interfaceRow "ce1" "eth1"]
  | .device =>
    openRows
      [{ id := "device:h1"
         name := "h1"
         interfaceId := some "router:ce1:interface:eth1"
         networkName := some "lan"
         ipAddress := some "10.0.0.2"
         mgmtIp := none
         gateway := some "10.0.0.1"
         vlan := none
         status := some "Running"
         config := none }]
  | _ => []

theorem wellFormed_attached (n : TableName) : Scd.WellFormed Row.key 2 (attached n) := by
  cases n with
  | physicalRouter => exact Scd.wellFormed_open Nat.one_lt_two (by decide +kernel)
  | physicalInterface => exact Scd.wellFormed_open Nat.one_lt_two (by decide +kernel)
  | device => exact Scd.wellFormed_open Nat.one_lt_two (by decide +kernel)
  | _ => exact Scd.wellFormed_nil 2

/-- One device at an interface leaves no graph. -/
theorem attached_empty : ¬ ∀ (db : Database) (now : Timestamp) (parse : Option String → Option ℤ)
    (a : Answers db none), (∀ n, Scd.WellFormed Row.key now (db n)) →
      ShowsWhole (fetchPhysicalTopology parse a)
        (buildGraph (.ok (fetchPhysicalTopology parse a))) := by
  intro h
  have hwhole := h attached 2 (fun _ => none) (withDevices attached none) wellFormed_attached
  exact absurd hwhole.success (by decide +kernel)

end Attached

end GnnSandbox.Supervisor.Topology
