import Mathlib.Data.String.Basic
import GnnSandbox.Gnn.Temporal
import GnnSandbox.Graph.Schema
import GnnSandbox.Lib.First

/-!
# Snapshots of the network

`fetch_snapshot` reads the rows that are valid at a time, makes nodes and edges of them, and sets
the metrics of the nodes from the rows of a window: each value is appended to the lists of some
keys, and a node takes the averages of one key.

1. `Answers`: what the queries return.
2. `Answers.nodes`, `Answers.edges`: the dictionaries that are made of it.
3. `promAgg`, `applyMetrics`: the metrics.
-/

namespace GnnSandbox.Gnn.Fetch

open Graph

/-! ## Queries -/

/-- A row of `BGP_Peering`. -/
structure BgpPeering where
  sessionIdA : String
  sessionIdB : String
deriving DecidableEq

/-- The tables that are read. -/
structure Store where
  db : Database
  bgpPeering : Scd.Table Timestamp BgpPeering

section Queries

/-- The rows of a table that `valid_filter` keeps. -/
def validIn {α : Type} (ts : Timestamp) (t : Scd.Table Timestamp α) : List α :=
  (Scd.asOf ts t).map Prod.fst

variable (store : Store) (ts : Timestamp)

def validRows (n : TableName) : List (Row n) := validIn ts (store.db n)

/-- `query_links` -/
def linkRows : List (String × String) :=
  (validRows store ts .interfaceLink).flatMap fun il1 =>
    ((validRows store ts .interfaceLink).filter fun il2 =>
      il1.linkId = il2.linkId ∧ il1.interfaceId < il2.interfaceId).map fun il2 =>
        (il1.interfaceId, il2.interfaceId)

/-- `query_ospf` -/
def ospfRows : List (String × String) :=
  ((validRows store ts .physicalLink).flatMap fun pl =>
    ((validRows store ts .interfaceLink).filter fun il1 => il1.linkId = pl.id).flatMap fun il1 =>
      ((validRows store ts .interfaceLink).filter fun il2 =>
        il2.linkId = pl.id ∧ il1.interfaceId < il2.interfaceId).flatMap fun il2 =>
          ((validRows store ts .physicalInterface).filter fun pi1 =>
            pi1.id = il1.interfaceId).flatMap fun pi1 =>
              ((validRows store ts .physicalInterface).filter fun pi2 =>
                pi2.id = il2.interfaceId).flatMap fun pi2 =>
                  ((validRows store ts .physicalRouter).filter fun r1 =>
                    r1.id = pi1.routerId).flatMap fun r1 =>
                      ((validRows store ts .physicalRouter).filter fun r2 =>
                        r2.id = pi2.routerId ∧ r1.id ≠ r2.id).map fun r2 => (r1.id, r2.id)).dedup

/-- A row of `query_bgp`. -/
structure SessionRow where
  id : String
  peerIp : Option String
  routerId : String
deriving DecidableEq

/-- The valid versions of the VRF of a session. -/
def vrfsOf (bs : BGPSession) : List VRF :=
  (validRows store ts .vrf).filter fun v => v.id = bs.vrfId

/-- `query_bgp` -/
def sessionRows : List SessionRow :=
  (validRows store ts .bgpSession).flatMap fun bs =>
    (vrfsOf store ts bs).map fun v => ⟨bs.id, bs.peerIp, v.routerId⟩

/-- `query_bgp_peer` -/
def bgpPeerRows : List (String × String) :=
  ((validIn ts store.bgpPeering).flatMap fun bp =>
    ((validRows store ts .bgpSession).filter fun bs1 => bs1.id = bp.sessionIdA).flatMap fun bs1 =>
      ((validRows store ts .bgpSession).filter fun bs2 =>
        bs2.id = bp.sessionIdB).flatMap fun bs2 =>
          (vrfsOf store ts bs1).flatMap fun v1 =>
            ((vrfsOf store ts bs2).filter fun v2 => v1.routerId ≠ v2.routerId).map fun v2 =>
              (v1.routerId, v2.routerId)).dedup

/-- What the queries for nodes and edges return: their rows, in some order. -/
structure Answers where
  routers : List PhysicalRouter
  interfaces : List PhysicalInterface
  links : List (String × String)
  ospfPeers : List (String × String)
  sessions : List SessionRow
  bgpPeers : List (String × String)
  routers_perm : routers.Perm (validRows store ts .physicalRouter)
  interfaces_perm : interfaces.Perm (validRows store ts .physicalInterface)
  links_perm : links.Perm (linkRows store ts)
  ospfPeers_perm : ospfPeers.Perm (ospfRows store ts)
  sessions_perm : sessions.Perm (sessionRows store ts)
  bgpPeers_perm : bgpPeers.Perm (bgpPeerRows store ts)

/-- The rows as the tables list them. -/
def stored : Answers store ts where
  routers := validRows store ts .physicalRouter
  interfaces := validRows store ts .physicalInterface
  links := linkRows store ts
  ospfPeers := ospfRows store ts
  sessions := sessionRows store ts
  bgpPeers := bgpPeerRows store ts
  routers_perm := List.Perm.refl _
  interfaces_perm := List.Perm.refl _
  links_perm := List.Perm.refl _
  ospfPeers_perm := List.Perm.refl _
  sessions_perm := List.Perm.refl _
  bgpPeers_perm := List.Perm.refl _

end Queries

/-! ## Nodes -/

structure RouterNode where
  id : String
  hostname : String
  cpu : ℚ := 0
  mem : ℚ := 0
  ospfNumRoutes : ℚ := 0
  pfxCountNorm : ℚ := 0
deriving DecidableEq

structure InterfaceNode where
  id : String
  name : String
  deviceId : String
  speedBps : ℚ
  state : ℚ
  rxDrops : ℚ := 0
  txDrops : ℚ := 0
  mtuNorm : ℚ := 0
  rxErrsRate : ℚ := 0
  rxBytesRate : ℚ := 0
  txBytesRate : ℚ := 0
  txUtil : ℚ := 0
  rxUtil : ℚ := 0
deriving DecidableEq

structure SessionNode where
  id : String
  routerId : String
  peerIp : String
  pfxCountRaw : ℚ := 0
deriving DecidableEq

inductive Node where
  | router (n : RouterNode)
  | interface (n : InterfaceNode)
  | bgpSession (n : SessionNode)
deriving DecidableEq

namespace Node

def id : Node → String
  | router n => n.id
  | interface n => n.id
  | bgpSession n => n.id

def type : Node → NodeType
  | router _ => .router
  | interface _ => .interface
  | bgpSession _ => .bgpSession

end Node

inductive Relation where
  | hasInterface
  | interfaceOf
  | connectedTo
  | ospfPeer
  | bgpPeer
  | sessionOn
  | hostsSession
deriving DecidableEq

structure Edge where
  source : String
  target : String
  relation : Relation
deriving DecidableEq

structure Snapshot where
  nodes : List Node
  edges : List Edge
deriving DecidableEq

/-- An edge in both directions. -/
def bothWays (there back : Relation) (a b : String) : List Edge := [⟨a, b, there⟩, ⟨b, a, back⟩]

namespace Answers

variable {store : Store} {ts : Timestamp} (parseSpeedBps : Option String → ℚ)
  (a : Answers store ts)

def routerNode (r : PhysicalRouter) : RouterNode := { id := r.id, hostname := r.name }

def interfaceNode (i : PhysicalInterface) : InterfaceNode :=
  { id := i.id
    name := i.name
    deviceId := i.routerId
    speedBps := parseSpeedBps i.speed
    state := if i.status.any (fun s => s.toLower = "up") then 1 else 0 }

def sessionNode (s : SessionRow) : SessionNode :=
  { id := s.id, routerId := s.routerId, peerIp := s.peerIp.getD "" }

/-- The nodes, before their metrics are set. -/
def nodes : List Node :=
  a.routers.map (fun r => .router (routerNode r)) ++
    (a.interfaces.map (fun i => .interface (interfaceNode parseSpeedBps i)) ++
      a.sessions.map fun s => .bgpSession (sessionNode s))

/-- The edges of a session, if its router has an id. -/
def sessionEdges (s : SessionRow) : List Edge :=
  if s.routerId = "" then [] else bothWays .sessionOn .hostsSession s.id s.routerId

/-- The first pair of each two routers, by the set `bgp_peer_pairs`. -/
def newBgpPeers : List (String × String) :=
  (a.bgpPeers.foldl (Lib.addNew fun p => Lib.sortedPair p.1 p.2) ([], [])).2

def edges : List Edge :=
  (a.interfaces.flatMap fun i => bothWays .hasInterface .interfaceOf i.routerId i.id) ++
    ((a.links.flatMap fun p => bothWays .connectedTo .connectedTo p.1 p.2) ++
      (((a.ospfPeers.filter fun p => p.1 ≠ p.2).flatMap fun p =>
          bothWays .ospfPeer .ospfPeer p.1 p.2) ++
        (a.sessions.flatMap sessionEdges ++
          a.newBgpPeers.flatMap fun p => bothWays .bgpPeer .bgpPeer p.1 p.2)))

end Answers

/-! ## Metrics -/

/-- What is kept of a metric under a key. -/
inductive Field where
  | rxDrops
  | txDrops
  | mtuRaw
  | rxErrsRate
  | rxBytesRate
  | txBytesRate
  | netUp
  | cpu
  | memBytes
  | ospfNumRoutes
  | pfxCountRouter
  | pfxCountSession
deriving DecidableEq

inductive Scope where
  | interface (field : Field)
  | router (field : Field)
  | bgpOrRouter
deriving DecidableEq

/-- `PROMETHEUS_METRIC_MAP` -/
def prometheusMetricMap : List (String × Scope) :=
  [("node_network_receive_drop_total", .interface .rxDrops),
    ("node_network_transmit_drop_total", .interface .txDrops),
    ("node_network_mtu_bytes", .interface .mtuRaw),
    ("node_network_receive_errs_total", .interface .rxErrsRate),
    ("node_network_receive_bytes_total", .interface .rxBytesRate),
    ("node_network_transmit_bytes_total", .interface .txBytesRate),
    ("node_network_up", .interface .netUp),
    ("node_load1", .router .cpu),
    ("node_memory_MemAvailable_bytes", .router .memBytes),
    ("frr_route_total", .router .ospfNumRoutes),
    ("frr_bgp_peer_prefixes_advertised_count_total", .bgpOrRouter)]

/-- A row of the metrics query. -/
structure MetricsRow where
  nodeName : String
  interface : Option String
  metricName : String
  value : Option ℚ
  labels : List (String × String)
deriving DecidableEq

/-- `labels.get("peer") or labels.get("neighbor")`, unless it is empty. -/
def MetricsRow.peer (row : MetricsRow) : Option String :=
  truthy (orElse (row.labels.lookup "peer") (row.labels.lookup "neighbor"))

def interfaceKey (hostname name : String) : String := hostname ++ ":interface:" ++ name

def sessionKey (hostname peer : String) : String := "bgp:" ++ hostname ++ ":" ++ peer

/-- The lists that the value of a row is appended to. -/
def targets (row : MetricsRow) : List (String × Field) :=
  if row.nodeName = "" then []
  else
    match prometheusMetricMap.lookup row.metricName with
    | none => []
    | some (.interface field) =>
      match truthy row.interface with
      | none => []
      | some name => [(interfaceKey row.nodeName name, field)]
    | some (.router field) => [(row.nodeName, field)]
    | some .bgpOrRouter =>
      match row.peer with
      | none => [(row.nodeName, .pfxCountRouter)]
      | some peer =>
        [(row.nodeName, .pfxCountRouter), (sessionKey row.nodeName peer, .pfxCountSession)]

/-- The accumulators: a list of values for a key and a field, empty when there is none. -/
abbrev PromAgg := String × Field → List ℚ

def PromAgg.append (value : ℚ) (agg : PromAgg) (target : String × Field) : PromAgg :=
  fun t => if t = target then agg t ++ [value] else agg t

/-- The body of the loop over the rows. -/
def accumulate (agg : PromAgg) (row : MetricsRow) : PromAgg :=
  match row.value with
  | none => agg
  | some value => (targets row).foldl (PromAgg.append value) agg

def promAgg (rows : List MetricsRow) : PromAgg := rows.foldl accumulate fun _ => []

/-- `sum(vs) / len(vs)`, of values that there are. -/
def mean (values : List ℚ) : Option ℚ :=
  if values = [] then none else some (values.sum / values.length)

def avgMetrics (rows : List MetricsRow) (key : String) (field : Field) : Option ℚ :=
  mean (promAgg rows (key, field))

/-! ## Metrics of the nodes -/

section Apply

variable (nodes : List Node)

/-- `router_id_to_hostname`; a later node replaces an earlier one. -/
def routerIdToHostname (id : String) : Option String :=
  nodes.reverse.findSome? fun
    | .router n => if n.id = id then some n.hostname else none
    | _ => none

/-- `iface_ids`, the routers of the interfaces. -/
def ifaceIds (id : String) : Option String :=
  nodes.reverse.findSome? fun
    | .interface n => if n.id = id then some n.deviceId else none
    | _ => none

/-- `hostname`, for each type of node. -/
def hostnameOf : Node → String
  | .router n => n.hostname
  | .interface n => (routerIdToHostname nodes ((ifaceIds nodes n.id).getD "")).getD ""
  | .bgpSession n => (routerIdToHostname nodes n.routerId).getD ""

/-- `iface_key`, the hostname or `session_key`. -/
def nodeKey (hostname : String) : Node → String
  | .router _ => hostname
  | .interface n => if hostname = "" then n.id else interfaceKey hostname n.name
  | .bgpSession n => if hostname = "" ∨ n.peerIp = "" then "" else sessionKey hostname n.peerIp

/-- The key whose averages a node takes. -/
def metricKey (node : Node) : String := nodeKey (hostnameOf nodes node) node

variable (m : Field → Option ℚ)

def InterfaceNode.setMetrics (n : InterfaceNode) : InterfaceNode :=
  let mtuRaw := (m .mtuRaw).getD 0
  let rxBytesRate := (m .rxBytesRate).getD 0
  let txBytesRate := (m .txBytesRate).getD 0
  { n with
    rxDrops := (m .rxDrops).getD 0
    txDrops := (m .txDrops).getD 0
    mtuNorm := if 0 < mtuRaw then mtuRaw / 9000 else 0
    rxErrsRate := (m .rxErrsRate).getD 0
    rxBytesRate := rxBytesRate
    txBytesRate := txBytesRate
    state :=
      match m .netUp with
      | none => n.state
      | some netUp => if 0 < netUp then 1 else 0
    txUtil := if 0 < n.speedBps then min (txBytesRate * 8 / n.speedBps) 1 else n.txUtil
    rxUtil := if 0 < n.speedBps then min (rxBytesRate * 8 / n.speedBps) 1 else n.rxUtil }

def RouterNode.setMetrics (n : RouterNode) : RouterNode :=
  { n with
    cpu := (m .cpu).getD 0
    mem := min ((m .memBytes).getD 0 / (4 * 1024 * 1024 * 1024)) 1
    ospfNumRoutes := (m .ospfNumRoutes).getD 0
    pfxCountNorm := (m .pfxCountRouter).getD 0 }

def SessionNode.setMetrics (n : SessionNode) : SessionNode :=
  { n with pfxCountRaw := (m .pfxCountSession).getD 0 }

def Node.setMetrics : Node → Node
  | .router n => .router (n.setMetrics m)
  | .interface n => .interface (n.setMetrics m)
  | .bgpSession n => .bgpSession (n.setMetrics m)

/-- The body of the loop over the nodes. -/
def applyMetrics (rows : List MetricsRow) (node : Node) : Node :=
  node.setMetrics (avgMetrics rows (metricKey nodes node))

end Apply

/-- `fetch_snapshot` -/
def fetchSnapshot {store : Store} {ts : Timestamp} (parseSpeedBps : Option String → ℚ)
    (a : Answers store ts) (rows : List MetricsRow) : Snapshot :=
  { nodes := (a.nodes parseSpeedBps).map (applyMetrics (a.nodes parseSpeedBps) rows)
    edges := a.edges }

/-! ## Valid rows -/

section Valid

variable {store : Store} {ts now : Timestamp} {n : TableName}

/-- **No key is valid twice.** -/
theorem nodup_validRows (h : Scd.WellFormed Row.key now (store.db n)) :
    ((validRows store ts n).map Row.key).Nodup := by
  rw [validRows, validIn, List.map_map]
  exact h.nodup_asOf

theorem eq_of_key (h : Scd.WellFormed Row.key now (store.db n)) {x y : Row n}
    (hx : x ∈ validRows store ts n) (hy : y ∈ validRows store ts n) (hkey : Row.key x = Row.key y) :
    x = y :=
  List.inj_on_of_nodup_map (nodup_validRows h) hx hy hkey

end Valid

end GnnSandbox.Gnn.Fetch
