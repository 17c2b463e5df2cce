import GnnSandbox.Gnn.Snapshot
import GnnSandbox.Lib.GroupMean

/-!
# Metrics by composed keys

Rows and nodes meet in one dictionary under strings that both compose of names. A node gets the rows
of its own when no other names compose the same string; and the prefix counts of a router are
averaged over the rows of all its peers, not summed over the peers.

1. `promAgg_eq`: the values of a key.
2. `MetricsReach`: what is asked, and `Apart`, `Balanced`: when it holds.
-/

namespace GnnSandbox.Gnn.Fetch

open Graph

/-! ## Fields of metrics -/

/-- The type of the nodes that have a field. -/
def Field.type : Field → NodeType
  | .cpu | .memBytes | .ospfNumRoutes | .pfxCountRouter => .router
  | .pfxCountSession => .bgpSession
  | _ => .interface

def Scope.fields : Scope → List Field
  | .interface field => [field]
  | .router field => [field]
  | .bgpOrRouter => [.pfxCountRouter, .pfxCountSession]

/-- The fields that the metric of a row is kept in. -/
def MetricsRow.fields (row : MetricsRow) : List Field :=
  ((prometheusMetricMap.lookup row.metricName).map Scope.fields).getD []

/-- The key that a row composes for the nodes of a type. -/
def rowKey (row : MetricsRow) : NodeType → Option String
  | .router => some row.nodeName
  | .interface => (truthy row.interface).map (interfaceKey row.nodeName)
  | .bgpSession => row.peer.map (sessionKey row.nodeName)

variable {row : MetricsRow} {rows : List MetricsRow} {key : String} {field : Field}

theorem type_of_lookup {scope : Scope}
    (h : prometheusMetricMap.lookup row.metricName = some scope) :
    (∀ field, scope = .interface field → field.type = .interface) ∧
      ∀ field, scope = .router field → field.type = .router := by
  have hall : ∀ p ∈ prometheusMetricMap, (∀ field, p.2 = .interface field →
      field.type = .interface) ∧ ∀ field, p.2 = .router field → field.type = .router := by
    simp [prometheusMetricMap, Field.type]
  obtain ⟨before, after, heq, -⟩ := List.lookup_eq_some_iff.mp h
  exact hall (row.metricName, scope) (heq ▸ by simp)

/-- One list for each field, under the key for its type. -/
theorem targets_eq (hname : row.nodeName ≠ "") : targets row =
    row.fields.filterMap fun field => (rowKey row field.type).map fun key => (key, field) := by
  unfold targets MetricsRow.fields
  rw [if_neg hname]
  cases hlookup : prometheusMetricMap.lookup row.metricName with
  | none => rfl
  | some scope =>
    obtain ⟨hinterface, hrouter⟩ := type_of_lookup hlookup
    cases scope with
    | interface f =>
      have htype := hinterface f rfl
      cases hname' : truthy row.interface <;> simp [Scope.fields, htype, rowKey, hname']
    | router f =>
      have htype := hrouter f rfl
      simp [Scope.fields, htype, rowKey]
    | bgpOrRouter =>
      cases hpeer : row.peer <;> simp [Scope.fields, Field.type, rowKey, hpeer]

/-- **The lists that a row is appended to.** -/
theorem mem_targets : (key, field) ∈ targets row ↔
    row.nodeName ≠ "" ∧ field ∈ row.fields ∧ rowKey row field.type = some key := by
  by_cases hname : row.nodeName = ""
  · have hnone : targets row = [] := if_pos hname
    rw [hnone]
    exact iff_of_false List.not_mem_nil fun h => h.1 hname
  · rw [targets_eq hname, List.mem_filterMap]
    constructor
    · rintro ⟨f, hf, hkey⟩
      obtain ⟨k, hk, heq⟩ := Option.map_eq_some_iff.mp hkey
      obtain ⟨rfl, rfl⟩ := Prod.mk.inj heq
      exact ⟨hname, hf, hk⟩
    · rintro ⟨-, hf, hkey⟩
      exact ⟨field, hf, Option.map_eq_some_iff.mpr ⟨key, hkey, rfl⟩⟩

theorem nodup_targets (row : MetricsRow) : ((targets row).map Prod.snd).Nodup := by
  unfold targets
  split
  · exact List.nodup_nil
  · split
    · exact List.nodup_nil
    · split
      · exact List.nodup_nil
      · exact List.nodup_singleton _
    · exact List.nodup_singleton _
    · split
      · exact List.nodup_singleton _
      · simp

/-! ## Values of a key -/

/-- The rows whose values are appended to a list. -/
def readers (rows : List MetricsRow) (key : String) (field : Field) : List MetricsRow :=
  rows.filter fun row => row.value.isSome ∧ (key, field) ∈ targets row

/-- The values of rows. -/
def values (rows : List MetricsRow) : List ℚ := rows.filterMap MetricsRow.value

theorem foldl_append {value : ℚ} {ts : List (String × Field)} (hts : (ts.map Prod.snd).Nodup)
    (agg : PromAgg) (t : String × Field) : ts.foldl (PromAgg.append value) agg t =
      if t ∈ ts then agg t ++ [value] else agg t := by
  induction ts generalizing agg with
  | nil => rfl
  | cons t' ts ih =>
    rw [List.map_cons, List.nodup_cons] at hts
    rw [List.foldl_cons, ih hts.2, PromAgg.append]
    by_cases heq : t = t'
    · subst heq
      have hnot : t ∉ ts := fun hmem => hts.1 (List.mem_map_of_mem hmem)
      simp [hnot]
    · simp [heq]

/-- **The values of a key** are those of the rows that compose it. -/
theorem promAgg_eq (rows : List MetricsRow) (key : String) (field : Field) :
    promAgg rows (key, field) = values (readers rows key field) := by
  have hfoldl : ∀ (agg : PromAgg), rows.foldl accumulate agg (key, field) =
      agg (key, field) ++ values (readers rows key field) := by
    induction rows with
    | nil => exact fun agg => (List.append_nil _).symm
    | cons row rows ih =>
      intro agg
      rw [List.foldl_cons, ih]
      unfold readers values accumulate
      cases hvalue : row.value with
      | none => rw [List.filter_cons_of_neg (by simp [hvalue])]
      | some value =>
        dsimp only
        rw [foldl_append (nodup_targets row)]
        split
        · next hmem =>
          rw [List.filter_cons_of_pos (by simp [hvalue, hmem]), List.filterMap_cons_some hvalue,
            List.append_assoc, List.singleton_append]
        · next hmem => rw [List.filter_cons_of_neg (by simp [hmem])]
  exact hfoldl fun _ => []

/-! ## What is asked of the metrics -/

/-- The router that a node belongs to. -/
def Node.routerId : Node → String
  | .router n => n.id
  | .interface n => n.deviceId
  | .bgpSession n => n.routerId

/-- `r` is the router of a node. -/
def IsHost (nodes : List Node) (node : Node) (r : RouterNode) : Prop :=
  .router r ∈ nodes ∧ r.id = node.routerId

/-- The names of a row are those of a node. -/
def OfNode (hostname : String) : Node → MetricsRow → Prop
  | .router _, row => row.nodeName = hostname
  | .interface n, row => row.nodeName = hostname ∧ row.interface = some n.name
  | .bgpSession n, row => row.nodeName = hostname ∧ row.peer = some n.peerIp

instance (hostname : String) (node : Node) (row : MetricsRow) :
    Decidable (OfNode hostname node row) := by
  cases node <;> (unfold OfNode; infer_instance)

/-- The rows of a node and of a field. -/
def ownRows (rows : List MetricsRow) (hostname : String) (node : Node) (field : Field) :
    List MetricsRow :=
  rows.filter fun row => row.value.isSome ∧ field ∈ row.fields ∧ OfNode hostname node row

/-- The rows of the prefixes that a router advertises. -/
def prefixRows (rows : List MetricsRow) (hostname : String) : List MetricsRow :=
  rows.filter fun row =>
    row.value.isSome ∧ .pfxCountRouter ∈ row.fields ∧ row.nodeName = hostname

/-- The value of a row that has one. -/
def MetricsRow.count (row : MetricsRow) : ℚ := row.value.getD 0

/-- The sum over the peers of the mean of each. -/
def perPeerSum (rows : List MetricsRow) : ℚ :=
  Lib.sumOfAverages MetricsRow.peer MetricsRow.count rows

/-- The averages of a node's own rows. -/
def ownMetrics (rows : List MetricsRow) (hostname : String) (node : Node) (field : Field) :
    Option ℚ :=
  if field = .pfxCountRouter then some (perPeerSum (prefixRows rows hostname))
  else mean (values (ownRows rows hostname node field))

/-- The rows whose values are averaged for a node. -/
def averaged (nodes : List Node) (rows : List MetricsRow) (node : Node) (field : Field) :
    List MetricsRow :=
  readers rows (metricKey nodes node) field

/-- The nodes get the metrics of their own rows, and no two of a type share a row. -/
structure MetricsReach (nodes fetched : List Node) (rows : List MetricsRow) : Prop where
  exact : ∀ node ∈ nodes, ∀ r, IsHost nodes node r → ∀ field, field.type = node.type →
    averaged nodes rows node field = ownRows rows r.hostname node field
  set : ∀ (k : ℕ) (node : Node), nodes[k]? = some node → ∀ r, IsHost nodes node r →
    fetched[k]? = some (node.setMetrics (ownMetrics rows r.hostname node))
  once : ∀ node ∈ nodes, ∀ node' ∈ nodes, node.type = node'.type → ∀ field field',
    field.type = node.type → field'.type = node.type → ∀ row ∈ averaged nodes rows node field,
      row ∈ averaged nodes rows node' field' → node.id = node'.id

/-- Rows and nodes compose the same key from the same names only, which are not empty, and no two
nodes of a type have the names of a row. -/
structure Apart (nodes : List Node) (rows : List MetricsRow) : Prop where
  names : ∀ node ∈ nodes, ∀ r, IsHost nodes node r → ∀ row ∈ rows, row.value.isSome →
    (∃ field ∈ row.fields, field.type = node.type) → row.nodeName ≠ "" →
    rowKey row node.type = some (nodeKey r.hostname node) → OfNode r.hostname node row
  named : ∀ node ∈ nodes, ∀ r, IsHost nodes node r → ∀ row ∈ rows, row.value.isSome →
    (∃ field ∈ row.fields, field.type = node.type) → OfNode r.hostname node row →
    r.hostname ≠ "" ∧ ∀ n, node = .interface n → n.name ≠ ""
  single : ∀ node ∈ nodes, ∀ node' ∈ nodes, node.type = node'.type → ∀ r,
    IsHost nodes node r → IsHost nodes node' r → ∀ row ∈ rows, row.value.isSome →
    (∃ field ∈ row.fields, field.type = node.type) → OfNode r.hostname node row →
    OfNode r.hostname node' row → node.id = node'.id

/-- The counts of the peers of each router are balanced. -/
def CountsBalanced (nodes : List Node) (rows : List MetricsRow) : Prop :=
  ∀ r, .router r ∈ nodes →
    Lib.Balanced MetricsRow.peer MetricsRow.count (prefixRows rows r.hostname)

/-- Nodes of valid routers of different names. -/
structure Fleet (nodes : List Node) : Prop where
  routers : ∀ r r', .router r ∈ nodes → .router r' ∈ nodes → r.id = r'.id ∨
    r.hostname = r'.hostname → r = r'
  interfaces : ∀ n n', .interface n ∈ nodes → .interface n' ∈ nodes → n.id = n'.id → n = n'
  hosted : ∀ node ∈ nodes, ∃ r, IsHost nodes node r

/-! ## Keys of nodes -/

variable {nodes fetched : List Node} {node node' : Node} {r : RouterNode}

/-- Looking up a dictionary whose entries do not contradict each other. -/
theorem findSome?_eq {α β : Type} {f : α → Option β} {l : List α} {a : α} {b : β} (ha : a ∈ l)
    (hb : f a = some b) (hsame : ∀ a' ∈ l, ∀ b', f a' = some b' → b' = b) :
    l.reverse.findSome? f = some b := by
  cases hfind : l.reverse.findSome? f with
  | none =>
    have hnone := List.findSome?_eq_none_iff.mp hfind a (List.mem_reverse.mpr ha)
    exact absurd (hnone.symm.trans hb) (by simp)
  | some b' =>
    obtain ⟨a', ha', hb'⟩ := List.exists_of_findSome?_eq_some hfind
    rw [hsame a' (List.mem_reverse.mp ha') b' hb']

theorem routerIdToHostname_eq (hfleet : Fleet nodes) (hr : .router r ∈ nodes) :
    routerIdToHostname nodes r.id = some r.hostname := by
  refine findSome?_eq hr (if_pos rfl) fun node hnode hostname hhostname => ?_
  cases node with
  | router r' =>
    obtain ⟨hid, heq⟩ := Option.ite_none_right_eq_some.mp hhostname
    rw [← Option.some.inj heq, hfleet.routers r' r hnode hr (.inl hid)]
  | interface n => cases hhostname
  | bgpSession n => cases hhostname

theorem ifaceIds_eq (hfleet : Fleet nodes) {n : InterfaceNode} (hn : .interface n ∈ nodes) :
    ifaceIds nodes n.id = some n.deviceId := by
  refine findSome?_eq hn (if_pos rfl) fun node hnode deviceId hdevice => ?_
  cases node with
  | router r' => cases hdevice
  | interface n' =>
    obtain ⟨hid, heq⟩ := Option.ite_none_right_eq_some.mp hdevice
    rw [← Option.some.inj heq, hfleet.interfaces n' n hnode hn hid]
  | bgpSession n => cases hdevice

/-- A node's key is composed of the name of its router. -/
theorem metricKey_eq (hfleet : Fleet nodes) (hnode : node ∈ nodes) (hr : IsHost nodes node r) :
    metricKey nodes node = nodeKey r.hostname node := by
  obtain ⟨hr, hid⟩ := hr
  have hhostname := routerIdToHostname_eq hfleet hr
  rw [hid] at hhostname
  have hof : hostnameOf nodes node = r.hostname := by
    cases node with
    | router n => exact congrArg RouterNode.hostname (hfleet.routers n r hnode hr (.inl hid.symm))
    | interface n =>
      have hdevice := ifaceIds_eq hfleet hnode
      exact (congrArg (fun id => (routerIdToHostname nodes (id.getD "")).getD "") hdevice).trans
        (congrArg (Option.getD · "") hhostname)
    | bgpSession n => exact congrArg (Option.getD · "") hhostname
  rw [metricKey, hof]

/-! ## Rows of nodes -/

theorem mem_ownRows {hostname : String} : row ∈ ownRows rows hostname node field ↔
    row ∈ rows ∧ row.value.isSome ∧ field ∈ row.fields ∧ OfNode hostname node row := by
  rw [ownRows, List.mem_filter, decide_eq_true_iff]

theorem nodeName_of_ofNode {hostname : String} (h : OfNode hostname node row) :
    row.nodeName = hostname := by
  cases node with
  | router n => exact h
  | interface n => exact h.1
  | bgpSession n => exact h.1

/-- A row composes the key of the node that it is of. -/
theorem rowKey_of_ofNode {hostname : String} (h : OfNode hostname node row) (hname : hostname ≠ "")
    (hnamed : ∀ n, node = .interface n → n.name ≠ "") :
    rowKey row node.type = some (nodeKey hostname node) := by
  cases node with
  | router n => exact congrArg some h
  | interface n =>
    obtain ⟨rfl, hinterface⟩ := h
    have htruthy : truthy row.interface = some n.name :=
      truthy_eq_some.mpr ⟨hinterface, hnamed n rfl⟩
    exact (congrArg (Option.map _) htruthy).trans (congrArg some (if_neg hname).symm)
  | bgpSession n =>
    obtain ⟨rfl, hpeer⟩ := h
    have hne : n.peerIp ≠ "" := (truthy_eq_some.mp hpeer).2
    have hneither : ¬ (row.nodeName = "" ∨ n.peerIp = "") := not_or.mpr ⟨hname, hne⟩
    exact (congrArg (Option.map _) hpeer).trans (congrArg some (if_neg hneither).symm)

/-- **A node gets its own rows** when keys are composed of the same names only. -/
theorem averaged_eq (hfleet : Fleet nodes) (hapart : Apart nodes rows) (hnode : node ∈ nodes)
    (hr : IsHost nodes node r) (htype : field.type = node.type) :
    averaged nodes rows node field = ownRows rows r.hostname node field := by
  unfold averaged readers ownRows
  refine List.filter_congr fun row hrow => decide_eq_decide.mpr ?_
  rw [metricKey_eq hfleet hnode hr, mem_targets, htype]
  constructor
  · rintro ⟨hvalue, hname, hfield, hkey⟩
    exact ⟨hvalue, hfield,
      hapart.names node hnode r hr row hrow hvalue ⟨field, hfield, htype⟩ hname hkey⟩
  · rintro ⟨hvalue, hfield, hown⟩
    obtain ⟨hhostname, hnamed⟩ :=
      hapart.named node hnode r hr row hrow hvalue ⟨field, hfield, htype⟩ hown
    exact ⟨hvalue, nodeName_of_ofNode hown ▸ hhostname, hfield,
      rowKey_of_ofNode hown hhostname hnamed⟩

theorem once_of_apart (hfleet : Fleet nodes) (hapart : Apart nodes rows) (hnode : node ∈ nodes)
    (hnode' : node' ∈ nodes) (hsame : node.type = node'.type) {field field' : Field}
    (htype : field.type = node.type) (htype' : field'.type = node.type)
    (hrow : row ∈ averaged nodes rows node field) (hrow' : row ∈ averaged nodes rows node' field') :
    node.id = node'.id := by
  obtain ⟨r, hr⟩ := hfleet.hosted node hnode
  obtain ⟨r', hr'⟩ := hfleet.hosted node' hnode'
  rw [averaged_eq hfleet hapart hnode hr htype] at hrow
  rw [averaged_eq hfleet hapart hnode' hr' (htype'.trans hsame)] at hrow'
  obtain ⟨hrow, hvalue, hfield, hown⟩ := mem_ownRows.mp hrow
  obtain ⟨-, -, -, hown'⟩ := mem_ownRows.mp hrow'
  have hhostname := (nodeName_of_ofNode hown).symm.trans (nodeName_of_ofNode hown')
  obtain rfl := hfleet.routers r r' hr.1 hr'.1 (.inr hhostname)
  exact hapart.single node hnode node' hnode' hsame r hr hr' row hrow hvalue
    ⟨field, hfield, htype⟩ hown hown'

/-- Keys are apart when nodes get their own rows. -/
theorem apart_of_reach (hfleet : Fleet nodes) (h : MetricsReach nodes fetched rows) :
    Apart nodes rows := by
  have hread : ∀ node ∈ nodes, ∀ r, IsHost nodes node r → ∀ row ∈ rows, row.value.isSome →
      ∀ field ∈ row.fields, field.type = node.type → (OfNode r.hostname node row ↔
        row.nodeName ≠ "" ∧ rowKey row node.type = some (nodeKey r.hostname node)) := by
    intro node hnode r hr row hrow hvalue field hfield htype
    have hmem : row ∈ averaged nodes rows node field ↔
        row ∈ ownRows rows r.hostname node field := by rw [h.exact node hnode r hr field htype]
    rw [mem_ownRows, averaged, readers, List.mem_filter, decide_eq_true_iff,
      metricKey_eq hfleet hnode hr, mem_targets, htype] at hmem
    constructor
    · intro hown
      obtain ⟨-, -, hname, -, hkey⟩ := hmem.mpr ⟨hrow, hvalue, hfield, hown⟩
      exact ⟨hname, hkey⟩
    · rintro ⟨hname, hkey⟩
      exact (hmem.mp ⟨hrow, hvalue, hname, hfield, hkey⟩).2.2.2
  constructor
  · rintro node hnode r hr row hrow hvalue ⟨field, hfield, htype⟩ hname hkey
    exact (hread node hnode r hr row hrow hvalue field hfield htype).mpr ⟨hname, hkey⟩
  · rintro node hnode r hr row hrow hvalue ⟨field, hfield, htype⟩ hown
    obtain ⟨hname, hkey⟩ := (hread node hnode r hr row hrow hvalue field hfield htype).mp hown
    refine ⟨nodeName_of_ofNode hown ▸ hname, ?_⟩
    rintro n rfl
    obtain ⟨name, hname, -⟩ := Option.map_eq_some_iff.mp hkey
    obtain ⟨hinterface, hne⟩ := truthy_eq_some.mp hname
    exact Option.some.inj (hinterface.symm.trans hown.2) ▸ hne
  · rintro node hnode node' hnode' hsame r hr hr' row hrow hvalue ⟨field, hfield, htype⟩ hown hown'
    have htype' := htype.trans hsame
    refine h.once node hnode node' hnode' hsame field field htype htype row ?_ ?_
    · rw [h.exact node hnode r hr field htype]
      exact mem_ownRows.mpr ⟨hrow, hvalue, hfield, hown⟩
    · rw [h.exact node' hnode' r hr' field htype']
      exact mem_ownRows.mpr ⟨hrow, hvalue, hfield, hown'⟩

/-! ## Prefix counts -/

/-- The values of rows that all have one. -/
theorem values_eq_map (h : ∀ row ∈ rows, row.value.isSome) :
    values rows = rows.map MetricsRow.count := by
  rw [values, ← List.filterMap_eq_map]
  refine List.filterMap_congr fun row hrow => ?_
  obtain ⟨value, hvalue⟩ := Option.isSome_iff_exists.mp (h row hrow)
  simp [MetricsRow.count, hvalue]

theorem getD_mean (h : ∀ row ∈ rows, row.value.isSome) :
    (mean (values rows)).getD 0 = Lib.average MetricsRow.count rows := by
  rw [values_eq_map h, mean, Lib.average, Lib.total]
  split
  · next hnil => simp [hnil]
  · rw [Option.getD_some, List.length_map]

theorem mem_prefixRows {hostname : String} : row ∈ prefixRows rows hostname ↔
    row ∈ rows ∧ row.value.isSome ∧ .pfxCountRouter ∈ row.fields ∧ row.nodeName = hostname := by
  rw [prefixRows, List.mem_filter, decide_eq_true_iff]

theorem ownRows_router (n : RouterNode) (hostname : String) :
    ownRows rows hostname (.router n) .pfxCountRouter = prefixRows rows hostname :=
  List.filter_congr fun _ _ => decide_eq_decide.mpr Iff.rfl

/-- **Counts that are not negative**, each of some peer, are averaged as they should be when there
is one peer, or when they are zero. -/
theorem balanced_prefixRows_iff {hostname : String}
    (hpeer : ∀ row ∈ prefixRows rows hostname, row.peer.isSome)
    (hcount : ∀ row ∈ prefixRows rows hostname, 0 ≤ row.count) :
    (mean (values (prefixRows rows hostname))).getD 0 = perPeerSum (prefixRows rows hostname) ↔
      (∃ peer, ∀ row ∈ prefixRows rows hostname, row.peer = some peer) ∨
        ∀ row ∈ prefixRows rows hostname, row.count = 0 := by
  rw [getD_mean fun row hrow => (mem_prefixRows.mp hrow).2.1, perPeerSum, Lib.average_eq_iff,
    Lib.balanced_iff_of_nonneg hpeer hcount]

/-! ## The metrics of a node -/

section SetMetrics

variable {m m' : Field → Option ℚ}

theorem setMetrics_congr (h : ∀ field, field.type = node.type → m field = m' field) :
    node.setMetrics m = node.setMetrics m' := by
  cases node with
  | router n =>
    simp only [Node.setMetrics, RouterNode.setMetrics, h .cpu rfl, h .memBytes rfl,
      h .ospfNumRoutes rfl, h .pfxCountRouter rfl]
  | interface n =>
    simp only [Node.setMetrics, InterfaceNode.setMetrics, h .rxDrops rfl, h .txDrops rfl,
      h .mtuRaw rfl, h .rxErrsRate rfl, h .rxBytesRate rfl, h .txBytesRate rfl, h .netUp rfl]
  | bgpSession n =>
    simp only [Node.setMetrics, SessionNode.setMetrics, h .pfxCountSession rfl]

theorem router_setMetrics_iff {n : RouterNode}
    (h : ∀ field, field.type = .router → field ≠ .pfxCountRouter → m field = m' field) :
    (Node.router n).setMetrics m = (Node.router n).setMetrics m' ↔
      (m .pfxCountRouter).getD 0 = (m' .pfxCountRouter).getD 0 := by
  have hcpu : m .cpu = m' .cpu := h .cpu rfl (by simp)
  have hmem : m .memBytes = m' .memBytes := h .memBytes rfl (by simp)
  have hroutes : m .ospfNumRoutes = m' .ospfNumRoutes := h .ospfNumRoutes rfl (by simp)
  simp [Node.setMetrics, RouterNode.setMetrics, hcpu, hmem, hroutes]

end SetMetrics

/-! ## All nodes -/

theorem setMetrics_iff (hfleet : Fleet nodes) (hapart : Apart nodes rows) (hnode : node ∈ nodes)
    (hr : IsHost nodes node r) :
    applyMetrics nodes rows node = node.setMetrics (ownMetrics rows r.hostname node) ↔
      ∀ n, node = .router n →
        Lib.Balanced MetricsRow.peer MetricsRow.count (prefixRows rows r.hostname) := by
  have hown : ∀ field, field.type = node.type → field ≠ .pfxCountRouter →
      avgMetrics rows (metricKey nodes node) field = ownMetrics rows r.hostname node field := by
    intro field htype hne
    have haveraged := averaged_eq hfleet hapart hnode hr htype
    rw [avgMetrics, promAgg_eq, ownMetrics, if_neg hne]
    exact congrArg (fun rows => mean (values rows)) haveraged
  unfold applyMetrics
  cases node with
  | router n =>
    have hprefix : averaged nodes rows (.router n) .pfxCountRouter =
        prefixRows rows r.hostname :=
      (averaged_eq hfleet hapart hnode hr rfl).trans (ownRows_router n r.hostname)
    have hvalued : ∀ row ∈ prefixRows rows r.hostname, row.value.isSome :=
      fun row hrow => (mem_prefixRows.mp hrow).2.1
    have havg : (avgMetrics rows (metricKey nodes (.router n)) .pfxCountRouter).getD 0 =
        Lib.average MetricsRow.count (prefixRows rows r.hostname) := by
      rw [avgMetrics, promAgg_eq, ← getD_mean hvalued, ← hprefix]
      rfl
    rw [router_setMetrics_iff hown, havg]
    constructor
    · exact fun h _ _ => Lib.average_eq_iff.mp h
    · exact fun h => Lib.average_eq_iff.mpr (h n rfl)
  | interface n =>
    refine iff_of_true (setMetrics_congr fun field htype => hown field htype ?_) fun n' hn' => ?_
    · rintro rfl
      cases htype
    · cases hn'
  | bgpSession n =>
    refine iff_of_true (setMetrics_congr fun field htype => hown field htype ?_) fun n' hn' => ?_
    · rintro rfl
      cases htype
    · cases hn'

/-- **Metrics reach their own nodes** exactly when keys are composed of the same names only and the
counts of peers are balanced. -/
theorem metricsReach_iff_of_fleet (hfleet : Fleet nodes) :
    MetricsReach nodes (nodes.map (applyMetrics nodes rows)) rows ↔
      Apart nodes rows ∧ CountsBalanced nodes rows := by
  constructor
  · intro h
    have hapart := apart_of_reach hfleet h
    refine ⟨hapart, fun r hr => ?_⟩
    have hhost : IsHost nodes (.router r) r := ⟨hr, rfl⟩
    obtain ⟨k, hk⟩ := List.mem_iff_getElem?.mp hr
    have hset := h.set k (.router r) hk r hhost
    rw [List.getElem?_map, hk] at hset
    exact (setMetrics_iff hfleet hapart hr hhost).mp (Option.some.inj hset) r rfl
  · rintro ⟨hapart, hbalanced⟩
    constructor
    · exact fun node hnode r hr field htype => averaged_eq hfleet hapart hnode hr htype
    · intro k node hk r hr
      have hnode := List.mem_of_getElem? hk
      have hset := (setMetrics_iff hfleet hapart hnode hr).mpr fun _ _ => hbalanced r hr.1
      rw [List.getElem?_map, hk]
      exact congrArg some hset
    · exact fun node hnode node' hnode' hsame field field' htype htype' row hrow hrow' =>
        once_of_apart hfleet hapart hnode hnode' hsame htype htype' hrow hrow'

/-! ## Snapshots -/

section Snapshots

variable {store : Store} {ts now : Timestamp} {parse : Option String → ℚ}

/-- Valid routers have different names, and valid interfaces and sessions have valid routers. -/
structure Hosted (store : Store) (ts : Timestamp) : Prop where
  names : ((validRows store ts .physicalRouter).map PhysicalRouter.name).Nodup
  interfaces : ∀ i ∈ validRows store ts .physicalInterface,
    ∃ r ∈ validRows store ts .physicalRouter, r.id = i.routerId
  sessions : ∀ s ∈ sessionRows store ts,
    ∃ r ∈ validRows store ts .physicalRouter, r.id = s.routerId

theorem mem_nodes {a : Answers store ts} : node ∈ a.nodes parse ↔
    (∃ r ∈ validRows store ts .physicalRouter, node = .router (Answers.routerNode r)) ∨
      (∃ i ∈ validRows store ts .physicalInterface,
        node = .interface (Answers.interfaceNode parse i)) ∨
      ∃ s ∈ sessionRows store ts, node = .bgpSession (Answers.sessionNode s) := by
  have hrouters : (∃ r ∈ a.routers, Node.router (Answers.routerNode r) = node) ↔
      ∃ r ∈ validRows store ts .physicalRouter, node = .router (Answers.routerNode r) :=
    exists_congr fun r => and_congr a.routers_perm.mem_iff eq_comm
  have hinterfaces : (∃ i ∈ a.interfaces, Node.interface (Answers.interfaceNode parse i) = node) ↔
      ∃ i ∈ validRows store ts .physicalInterface,
        node = .interface (Answers.interfaceNode parse i) :=
    exists_congr fun i => and_congr a.interfaces_perm.mem_iff eq_comm
  have hsessions : (∃ s ∈ a.sessions, Node.bgpSession (Answers.sessionNode s) = node) ↔
      ∃ s ∈ sessionRows store ts, node = .bgpSession (Answers.sessionNode s) :=
    exists_congr fun s => and_congr a.sessions_perm.mem_iff eq_comm
  rw [Answers.nodes, List.mem_append, List.mem_append, List.mem_map, List.mem_map, List.mem_map,
    hrouters, hinterfaces, hsessions]

theorem fleet_nodes (hwf : ∀ n, Scd.WellFormed Row.key now (store.db n))
    (hhosted : Hosted store ts) (a : Answers store ts) : Fleet (a.nodes parse) := by
  have hrouter : ∀ r, .router r ∈ a.nodes parse ↔
      ∃ row ∈ validRows store ts .physicalRouter, r = Answers.routerNode row := by
    intro r
    rw [mem_nodes]
    simp
  have hinterface : ∀ n, .interface n ∈ a.nodes parse ↔
      ∃ row ∈ validRows store ts .physicalInterface, n = Answers.interfaceNode parse row := by
    intro n
    rw [mem_nodes]
    simp
  constructor
  · intro r r' hr hr' hsame
    obtain ⟨row, hrow, rfl⟩ := (hrouter r).mp hr
    obtain ⟨row', hrow', rfl⟩ := (hrouter r').mp hr'
    refine congrArg Answers.routerNode (hsame.elim (fun hid => ?_) fun hname => ?_)
    · exact eq_of_key (hwf .physicalRouter) hrow hrow' (congrArg Key.id hid)
    · exact List.inj_on_of_nodup_map hhosted.names hrow hrow' hname
  · intro n n' hn hn' hid
    obtain ⟨row, hrow, rfl⟩ := (hinterface n).mp hn
    obtain ⟨row', hrow', rfl⟩ := (hinterface n').mp hn'
    exact congrArg _ (eq_of_key (hwf .physicalInterface) hrow hrow' (congrArg Key.id hid))
  · intro node hnode
    have hhost : ∀ row ∈ validRows store ts .physicalRouter, row.id = node.routerId →
        ∃ r, IsHost (a.nodes parse) node r := fun row hrow hid =>
      ⟨Answers.routerNode row, (hrouter _).mpr ⟨row, hrow, rfl⟩, hid⟩
    rcases mem_nodes.mp hnode with ⟨row, hrow, rfl⟩ | ⟨i, hi, rfl⟩ | ⟨s, hs, rfl⟩
    · exact hhost row hrow rfl
    · obtain ⟨row, hrow, hid⟩ := hhosted.interfaces i hi
      exact hhost row hrow hid
    · obtain ⟨row, hrow, hid⟩ := hhosted.sessions s hs
      exact hhost row hrow hid

/-- **Metrics reach their own nodes** in every snapshot exactly when keys are composed of the same
names only and the counts of peers are balanced. -/
theorem metricsReach_iff (hwf : ∀ n, Scd.WellFormed Row.key now (store.db n))
    (hhosted : Hosted store ts) (a : Answers store ts) (rows : List MetricsRow) :
    MetricsReach (a.nodes parse) (fetchSnapshot parse a rows).nodes rows ↔
      Apart (a.nodes parse) rows ∧ CountsBalanced (a.nodes parse) rows :=
  metricsReach_iff_of_fleet (fleet_nodes hwf hhosted a)

end Snapshots

/-! ## Two peers -/

section TwoPeers

/-- One router, and nothing else. -/
def oneRouter : Store where
  db
    | .physicalRouter =>
      [{ data :=
          { id := "router:pe1"
            name := "pe1"
            vendor := none
            model := none
            locationCity := none
            locationLat := none
            locationLon := none
            role := some "PE"
            status := some "Running"
            config := none }
         validStartTs := 1
         validEndTs := none }]
    | _ => []
  bgpPeering := []

/-- The number of prefixes that `pe1` advertises to a peer. -/
def advertised (peer : String) (value : ℚ) : MetricsRow :=
  { nodeName := "pe1"
    interface := none
    metricName := "frr_bgp_peer_prefixes_advertised_count_total"
    value := some value
    labels := [("peer", peer)] }

theorem wellFormed_oneRouter (n : TableName) :
    Scd.WellFormed Row.key 3 (oneRouter.db n) := by
  cases n with
  | physicalRouter => exact Scd.wellFormed_singleton (by decide) fun e he => by cases he
  | _ => exact Scd.wellFormed_nil 3

theorem hosted_oneRouter : Hosted oneRouter 2 where
  names := by decide
  interfaces := by decide
  sessions := by decide

/-- Five prefixes to each of two peers are not ten. -/
theorem twoPeers_averaged : ¬ ∀ (store : Store) (ts now : Timestamp) (parse : Option String → ℚ)
    (a : Answers store ts) (rows : List MetricsRow),
    (∀ n, Scd.WellFormed Row.key now (store.db n)) → Hosted store ts →
      MetricsReach (a.nodes parse) (fetchSnapshot parse a rows).nodes rows := by
  intro h
  have hreach := h oneRouter 2 3 (fun _ => 0) (stored oneRouter 2)
    [advertised "10.0.0.2" 5, advertised "10.0.0.3" 5] wellFormed_oneRouter hosted_oneRouter
  have hset := hreach.set 0 _ rfl ⟨"router:pe1", "pe1", 0, 0, 0, 0⟩
    ⟨by decide +kernel, rfl⟩
  exact absurd hset (by decide +kernel)

/-- Five prefixes to one peer are five. -/
theorem onePeer_reaches : MetricsReach ((stored oneRouter 2).nodes fun _ => 0)
    (fetchSnapshot (fun _ => 0) (stored oneRouter 2) [advertised "10.0.0.2" 5]).nodes
    [advertised "10.0.0.2" 5] := by
  have hnodes : (stored oneRouter 2).nodes (fun _ => 0) =
      [.router { id := "router:pe1", hostname := "pe1" }] := by decide +kernel
  refine (metricsReach_iff wellFormed_oneRouter hosted_oneRouter (stored oneRouter 2)
    [advertised "10.0.0.2" 5]).mpr ?_
  rw [hnodes]
  constructor
  · constructor
    · intro node hnode r _ row _ _ _ _ hkey
      obtain rfl := List.mem_singleton.mp hnode
      exact Option.some.inj hkey
    · intro node hnode r _ row hrow _ _ hown
      obtain rfl := List.mem_singleton.mp hnode
      obtain rfl := List.mem_singleton.mp hrow
      refine ⟨fun hempty => ?_, fun n hn => by cases hn⟩
      have hname : "pe1" = r.hostname := hown
      exact absurd (hname.trans hempty) (by decide)
    · intro node hnode node' hnode' _ _ _ _ _ _ _ _ _ _
      rw [List.mem_singleton.mp hnode, List.mem_singleton.mp hnode']
  · intro r hr
    refine @Lib.balanced_of_one _ _ _ _ _ _ "10.0.0.2" fun row hrow => ?_
    rw [List.mem_singleton.mp (mem_prefixRows.mp hrow).1]
    decide

end TwoPeers

end GnnSandbox.Gnn.Fetch
