import Mathlib.Algebra.GroupWithZero.Nat
import Mathlib.Data.List.AList
import Mathlib.Data.List.ProdSigma
import Mathlib.Order.Defs.LinearOrder
import Mathlib.Order.Lattice

/-!
# Results of the GNN in the dashboard

The serving process writes a row of `NodeEmbedding` for each node of a snapshot, and the
supervisor attaches the latest rows to the routers of the topology. The writer takes the type of a
node from the graph builder and the reader asks for the names of the tables, so that no row is
found again.

1. `writeResults` and `addEmbeddingsToRouters`: the writer and the current-mode reader.
2. `not_attached_of_written`: nothing is attached to a node whose result is the latest.
3. `found_iff`: all results are found only if there are none to be found.
-/

namespace GnnSandbox.Supervisor.Embeddings

/-! ## Snapshots and results -/

/-- A node of a snapshot as `fetch_snapshot` builds it, less its features. -/
inductive Node where
  | router (id : String) (hostname : Option String)
  | interface (id : String) (name : Option String) (deviceId : String)
  | bgpSession (id : String)

namespace Node

def id : Node → String
  | router id _ | interface id _ _ | bgpSession id => id

def type : Node → String
  | router .. => "router"
  | interface .. => "interface"
  | bgpSession .. => "bgp_session"

/-- `node.get("hostname", node.get("name", node["id"]))` -/
def name : Node → Option String
  | router _ hostname => hostname
  | interface _ name _ => name
  | bgpSession id => some id

end Node

/-- `NODE_TYPES` -/
def nodeTypes : List String := ["router", "interface", "bgp_session"]

/-- `node_id_map` of the graph builder. -/
def nodeIdMap (nodes : List Node) (ntype : String) : List String :=
  (nodes.filter fun node => node.type = ntype).map Node.id

/-- `node_names` -/
def nodeNames (nodes : List Node) : AList fun _ : String => Option String :=
  nodes.foldl (fun names node => names.insert node.id node.name) ∅

/-- What is said about a node, with the features that deviate most. -/
structure Explanation (σ : Type) where
  anomalous : Option Bool := none
  topFeatures : Option (List (String × σ)) := none
deriving DecidableEq

/-- The explanation of a row, which begins with the name of the node. -/
structure AnomalyExplanation (σ : Type) where
  name : Option String
  explanation : Explanation σ
deriving DecidableEq

variable {ε σ τ : Type}

/-- The part of the results that is written, with a list for each type of nodes. -/
structure Results (ε σ : Type) where
  embeddings : AList fun _ : String => List ε
  anomalyScores : AList fun _ : String => List σ
  anomalyExplanations : AList fun _ : String => List (Explanation σ)

namespace Results

variable [Zero σ]

/-- The score of the `n`-th node of a type. -/
def score (results : Results ε σ) (ntype : String) (n : ℕ) : σ :=
  ((results.anomalyScores.lookup ntype).getD [])[n]?.getD 0

/-- The explanation of the `n`-th node of a type. -/
def explanation (results : Results ε σ) (ntype : String) (n : ℕ) : Explanation σ :=
  ((results.anomalyExplanations.lookup ntype).getD [])[n]?.getD {}

/-- The results of an inference on the nodes: the types that have nodes have an entry for each. -/
structure On (results : Results ε σ) (nodes : List Node) : Prop where
  types : ∀ ntype ∈ results.embeddings, ntype ∈ nodeTypes
  embeddings : ∀ node ∈ nodes, ∃ embs, results.embeddings.lookup node.type = some embs ∧
    embs.length = (nodeIdMap nodes node.type).length
  scores : ∀ node ∈ nodes, ∃ scores, results.anomalyScores.lookup node.type = some scores ∧
    scores.length = (nodeIdMap nodes node.type).length
  explanations : ∀ node ∈ nodes, ∃ expls,
    results.anomalyExplanations.lookup node.type = some expls ∧
      expls.length = (nodeIdMap nodes node.type).length

end Results

/-! ## The writer -/

/-- A row of `NodeEmbedding`. -/
structure Row (ε σ τ : Type) where
  nodeId : String
  nodeType : String
  embedding : ε
  score : Option σ
  explanation : Option (AnomalyExplanation σ)
  timestamp : τ

/-- The table, whose primary key is the node and the timestamp. -/
abbrev NodeEmbeddings (ε σ τ : Type) := AList fun _ : String × τ => Row ε σ τ

/-- `transaction.insert_or_update` -/
def insertOrUpdate [DecidableEq τ] (table : NodeEmbeddings ε σ τ) (row : Row ε σ τ) :
    NodeEmbeddings ε σ τ :=
  table.insert (row.nodeId, row.timestamp) row

section Writer

variable [Zero σ]

/-- The row of the `n`-th node of a type. -/
def embeddingRow (nodes : List Node) (results : Results ε σ) (now : τ) (ntype nodeId : String)
    (embedding : ε) (n : ℕ) : Row ε σ τ where
  nodeId := nodeId
  nodeType := ntype
  embedding := embedding
  score := some (results.score ntype n)
  explanation := some
    { name := ((nodeNames nodes).lookup nodeId).getD (some nodeId)
      explanation := results.explanation ntype n }
  timestamp := now

/-- The rows of `_write_results_to_spanner`, where an embedding without a node is skipped. -/
def embeddingRows (nodes : List Node) (results : Results ε σ) (now : τ) : List (Row ε σ τ) :=
  results.embeddings.entries.flatMap fun entry => entry.2.zipIdx.filterMap fun item =>
    (nodeIdMap nodes entry.1)[item.2]?.map fun nodeId =>
      embeddingRow nodes results now entry.1 nodeId item.1 item.2

/-- `_write_results_to_spanner`, with the timestamp of the commit. -/
def writeResults [DecidableEq τ] (nodes : List Node) (results : Results ε σ) (now : τ)
    (table : NodeEmbeddings ε σ τ) : NodeEmbeddings ε σ τ :=
  (embeddingRows nodes results now).foldl insertOrUpdate table

end Writer

/-! ## The reader -/

/-- A version of an interface in `PhysicalInterface`. -/
structure PhysicalInterface (τ : Type) where
  id : String
  routerId : String
  name : Option String
  validEnd : Option τ

section Reader

variable [LinearOrder τ]

/-- `e.timestamp = (SELECT MAX(timestamp) FROM NodeEmbedding WHERE node_id = e.node_id)` -/
def IsLatest (table : NodeEmbeddings ε σ τ) (row : Row ε σ τ) : Prop :=
  ∀ entry ∈ table.entries, entry.2.nodeId = row.nodeId → entry.2.timestamp ≤ row.timestamp

instance (table : NodeEmbeddings ε σ τ) (row : Row ε σ τ) : Decidable (IsLatest table row) := by
  unfold IsLatest
  infer_instance

/-- `router_embedding_query` of the current mode. -/
def routerEmbeddings (table : NodeEmbeddings ε σ τ) (routerIds : List String) :
    List (Row ε σ τ) :=
  (table.entries.map Sigma.snd).filter fun row =>
    row.nodeId ∈ routerIds ∧ row.nodeType = "PhysicalRouter" ∧ IsLatest table row

/-- `interface_embedding_query` of the current mode. -/
def interfaceEmbeddings (table : NodeEmbeddings ε σ τ) (interfaces : List (PhysicalInterface τ))
    (routerIds : List String) : List (Row ε σ τ × PhysicalInterface τ) :=
  ((table.entries.map Sigma.snd) ×ˢ interfaces).filter fun item =>
    item.1.nodeId = item.2.id ∧ item.2.routerId ∈ routerIds ∧
      item.1.nodeType = "PhysicalInterface" ∧ item.2.validEnd = none ∧ IsLatest table item.1

/-- What is attached to a router. -/
structure RouterEmbedding (σ τ : Type) where
  hetgnnScore : Option σ
  routerRca : Option (AnomalyExplanation σ)
  embeddingTimestamp : τ

/-- What is listed for an interface. -/
structure InterfaceMse (σ : Type) where
  name : Option String
  hetgnnScore : Option σ
  rca : Option (AnomalyExplanation σ)

/-- The part of a router that `_add_embeddings_to_routers` fills. -/
structure RouterEntry (σ τ : Type) where
  embedding : Option (RouterEmbedding σ τ) := none
  interfaceMses : AList fun _ : String => InterfaceMse σ := ∅

abbrev Routers (σ τ : Type) := AList fun _ : String => RouterEntry σ τ

/-- The routers as `fetch_physical_topology` collects them. -/
def collected (routerIds : List String) : Routers σ τ :=
  routerIds.foldl (fun routers routerId => routers.insert routerId {}) ∅

/-- The body of the first loop. -/
def addRouterEmbedding (routers : Routers σ τ) (row : Row ε σ τ) : Routers σ τ :=
  match routers.lookup row.nodeId with
  | none => routers
  | some entry => routers.insert row.nodeId
      { entry with embedding := some ⟨row.score, row.explanation, row.timestamp⟩ }

/-- The body of the second loop. -/
def addInterfaceEmbedding (routers : Routers σ τ) (item : Row ε σ τ × PhysicalInterface τ) :
    Routers σ τ :=
  match routers.lookup item.2.routerId with
  | none => routers
  | some entry =>
    let mse := ⟨item.2.name, item.1.score, item.1.explanation⟩
    routers.insert item.2.routerId
      { entry with interfaceMses := entry.interfaceMses.insert item.1.nodeId mse }

/-- `_add_embeddings_to_routers`, with the rows of the two queries in the order in which they
come. -/
def addEmbeddingsToRouters (routerRows : List (Row ε σ τ))
    (interfaceRows : List (Row ε σ τ × PhysicalInterface τ)) (routers : Routers σ τ) :
    Routers σ τ :=
  interfaceRows.foldl addInterfaceEmbedding (routerRows.foldl addRouterEmbedding routers)

/-! ## Results that are found -/

/-- Every router has its own score and explanation, every interface has them in the list of its
router, and no other router lists the interface. -/
structure Found [Zero σ] (nodes : List Node) (results : Results ε σ) (attached : Routers σ τ) :
    Prop where
  routers : ∀ n id hostname, (nodes.filter fun node => node.type = "router")[n]? =
    some (.router id hostname) → ∃ entry embedding, attached.lookup id = some entry ∧
      entry.embedding = some embedding ∧ embedding.hetgnnScore = some (results.score "router" n) ∧
      embedding.routerRca = some ⟨hostname, results.explanation "router" n⟩
  interfaces : ∀ n id name deviceId, (nodes.filter fun node => node.type = "interface")[n]? =
    some (.interface id name deviceId) → ∃ entry mse, attached.lookup deviceId = some entry ∧
      entry.interfaceMses.lookup id = some mse ∧
      mse.hetgnnScore = some (results.score "interface" n) ∧
      mse.rca = some ⟨name, results.explanation "interface" n⟩
  only : ∀ id name deviceId, Node.interface id name deviceId ∈ nodes → ∀ routerId entry,
    attached.lookup routerId = some entry → id ∈ entry.interfaceMses →
      ∃ name, Node.interface id name routerId ∈ nodes

end Reader

/-! ## What the writer leaves -/

section Written

variable {nodes : List Node} {results : Results ε σ} {now : τ} {table : NodeEmbeddings ε σ τ}
  {row : Row ε σ τ} {rows : List (Row ε σ τ)} {key : String × τ}

section Rows

variable [Zero σ]

theorem embeddingRows_spec (hon : results.On nodes) (hrow : row ∈ embeddingRows nodes results now) :
    row.timestamp = now ∧ row.nodeType ∈ nodeTypes := by
  obtain ⟨entry, hentry, hrow⟩ := List.mem_flatMap.mp hrow
  obtain ⟨item, -, hrow⟩ := List.mem_filterMap.mp hrow
  obtain ⟨nodeId, -, rfl⟩ := Option.map_eq_some_iff.mp hrow
  exact ⟨rfl, hon.types _ (AList.mem_keys.mpr (List.mem_map_of_mem hentry))⟩

/-- Every node has a row. -/
theorem exists_row (hon : results.On nodes) {node : Node} (hnode : node ∈ nodes) :
    ∃ row ∈ embeddingRows nodes results now, row.nodeId = node.id := by
  obtain ⟨embs, hlookup, hlength⟩ := hon.embeddings node hnode
  have hmem : node.id ∈ nodeIdMap nodes node.type :=
    List.mem_map_of_mem (List.mem_filter.mpr ⟨hnode, by simp⟩)
  obtain ⟨n, hn, hid⟩ := List.getElem_of_mem hmem
  refine ⟨embeddingRow nodes results now node.type node.id (embs.get ⟨n, hlength ▸ hn⟩) n,
    List.mem_flatMap.mpr ⟨⟨node.type, embs⟩, AList.mem_lookup_iff.mp hlookup,
      List.mem_filterMap.mpr ⟨(embs.get ⟨n, hlength ▸ hn⟩, n), ?_, ?_⟩⟩, rfl⟩
  · rw [List.mk_mem_zipIdx_iff_getElem?]
    exact List.getElem?_eq_getElem _
  · show ((nodeIdMap nodes node.type)[n]?.map _) = _
    rw [List.getElem?_eq_getElem hn, hid]
    rfl

end Rows

variable [DecidableEq τ]

/-- What is in the table after some rows is one of them, or was there. -/
theorem lookup_insertOrUpdate (h : (rows.foldl insertOrUpdate table).lookup key = some row) :
    row ∈ rows ∧ key = (row.nodeId, row.timestamp) ∨ table.lookup key = some row := by
  induction rows generalizing table with
  | nil => exact .inr h
  | cons first rows ih =>
    rcases ih h with ⟨hrow, hkey⟩ | hold
    · exact .inl ⟨List.mem_cons_of_mem _ hrow, hkey⟩
    · rcases eq_or_ne key (first.nodeId, first.timestamp) with rfl | hne
      · rw [insertOrUpdate, AList.lookup_insert] at hold
        obtain rfl := Option.some.inj hold
        exact .inl ⟨List.mem_cons_self, rfl⟩
      · rw [insertOrUpdate, AList.lookup_insert_ne hne] at hold
        exact .inr hold

theorem mem_insertOrUpdate (h : row ∈ rows ∨ (row.nodeId, row.timestamp) ∈ table) :
    (row.nodeId, row.timestamp) ∈ rows.foldl insertOrUpdate table := by
  induction rows generalizing table with
  | nil => exact h.resolve_left List.not_mem_nil
  | cons first rows ih =>
    refine ih ?_
    rcases h with h | h
    · rcases List.mem_cons.mp h with rfl | h
      · exact .inr ((AList.mem_insert _).mpr (.inl rfl))
      · exact .inl h
    · exact .inr ((AList.mem_insert _).mpr (.inr h))

/-- A row is in the table, or a later one with its key. -/
theorem insertOrUpdate_spec (h : row ∈ rows) :
    ∃ row' ∈ rows,
      (rows.foldl insertOrUpdate table).lookup (row.nodeId, row.timestamp) = some row' ∧
        (row.nodeId, row.timestamp) = (row'.nodeId, row'.timestamp) := by
  have hmem : (row.nodeId, row.timestamp) ∈ rows.foldl insertOrUpdate table :=
    mem_insertOrUpdate (.inl h)
  obtain ⟨row', hlookup⟩ := Option.isSome_iff_exists.mp (AList.lookup_isSome.mpr hmem)
  induction rows generalizing table with
  | nil => cases h
  | cons first rows ih =>
    by_cases hrest : row ∈ rows
    · obtain ⟨row', hrow', hspec⟩ := ih hrest hmem hlookup
      exact ⟨row', List.mem_cons_of_mem _ hrow', hspec⟩
    · obtain rfl : row = first := (List.mem_cons.mp h).resolve_right hrest
      have hafter : (rows.foldl insertOrUpdate (insertOrUpdate table row)).lookup
          (row.nodeId, row.timestamp) = some row' := hlookup
      rcases lookup_insertOrUpdate hafter with ⟨hrow', hkey⟩ | hold
      · exact ⟨row', List.mem_cons_of_mem _ hrow', hlookup, hkey⟩
      · rw [insertOrUpdate, AList.lookup_insert] at hold
        obtain rfl := Option.some.inj hold
        exact ⟨row, List.mem_cons_self, hlookup, rfl⟩

end Written

/-! ## What the reader attaches -/

section Attached

variable {nodes : List Node} {results : Results ε σ} {row : Row ε σ τ} {entry : RouterEntry σ τ}
  {routers : Routers σ τ} {id routerId : String} {rows : List (Row ε σ τ)}
  {items : List (Row ε σ τ × PhysicalInterface τ)}

theorem collected_spec {routerIds : List String}
    (h : (collected routerIds : Routers σ τ).lookup routerId = some entry) : entry = {} := by
  have hgeneral : ∀ routers : Routers σ τ, (∀ r e, routers.lookup r = some e → e = {}) →
      ∀ r e, (routerIds.foldl (fun routers routerId => routers.insert routerId {}) routers).lookup
        r = some e → e = {} := by
    clear h
    induction routerIds with
    | nil => exact fun _ h => h
    | cons first routerIds ih =>
      refine fun routers hrouters => ih _ fun r e he => ?_
      rcases eq_or_ne r first with rfl | hne
      · rw [AList.lookup_insert] at he
        exact (Option.some.inj he).symm
      · rw [AList.lookup_insert_ne hne] at he
        exact hrouters r e he
  exact hgeneral ∅ (fun _ _ he => by cases he) routerId entry h

/-- A router keeps what it has unless there is a row for it. -/
theorem addRouterEmbedding_spec
    (h : (rows.foldl addRouterEmbedding routers).lookup id = some entry) :
    ∃ old, routers.lookup id = some old ∧ entry.interfaceMses = old.interfaceMses ∧
      ((∀ row ∈ rows, row.nodeId ≠ id) → entry.embedding = old.embedding) := by
  induction rows generalizing routers with
  | nil => exact ⟨entry, h, rfl, fun _ => rfl⟩
  | cons first rows ih =>
    obtain ⟨old, hold, hmses, hembedding⟩ := ih h
    unfold addRouterEmbedding at hold
    split at hold
    · exact ⟨old, hold, hmses, fun hne => hembedding (List.forall_mem_cons.mp hne).2⟩
    · rename_i older holder
      rcases eq_or_ne id first.nodeId with rfl | hne
      · rw [AList.lookup_insert] at hold
        obtain rfl := Option.some.inj hold
        exact ⟨older, holder, hmses, fun hne => absurd rfl (List.forall_mem_cons.mp hne).1⟩
      · rw [AList.lookup_insert_ne hne] at hold
        exact ⟨old, hold, hmses, fun hne => hembedding (List.forall_mem_cons.mp hne).2⟩

/-- An interface is listed only if there is a row for it. -/
theorem addInterfaceEmbedding_spec
    (h : (items.foldl addInterfaceEmbedding routers).lookup routerId = some entry) :
    ∃ old, routers.lookup routerId = some old ∧ entry.embedding = old.embedding ∧
      (id ∈ entry.interfaceMses → id ∈ old.interfaceMses ∨ ∃ item ∈ items, item.1.nodeId = id) := by
  induction items generalizing routers with
  | nil => exact ⟨entry, h, rfl, .inl⟩
  | cons first items ih =>
    obtain ⟨old, hold, hembedding, hmses⟩ := ih h
    have hmses' : id ∈ entry.interfaceMses →
        id ∈ old.interfaceMses ∨ ∃ item ∈ first :: items, item.1.nodeId = id := by
      intro hid
      rcases hmses hid with hid | ⟨item, hitem, hid⟩
      · exact .inl hid
      · exact .inr ⟨item, List.mem_cons_of_mem _ hitem, hid⟩
    unfold addInterfaceEmbedding at hold
    split at hold
    · exact ⟨old, hold, hembedding, hmses'⟩
    · rename_i older holder
      rcases eq_or_ne routerId first.2.routerId with rfl | hne
      · rw [AList.lookup_insert] at hold
        obtain rfl := Option.some.inj hold
        refine ⟨older, holder, hembedding, fun hid => ?_⟩
        rcases hmses' hid with hid | hitem
        · rcases (AList.mem_insert _).mp hid with rfl | hid
          · exact .inr ⟨first, List.mem_cons_self, rfl⟩
          · exact .inl hid
        · exact .inr hitem
      · rw [AList.lookup_insert_ne hne] at hold
        exact ⟨old, hold, hembedding, hmses'⟩

end Attached

/-! ## Nothing is found again -/

section Read

variable [Zero σ] [LinearOrder τ] {nodes : List Node} {results : Results ε σ} {now : τ}
  {table : NodeEmbeddings ε σ τ} {row : Row ε σ τ} {node : Node} {routerIds : List String}
  {interfaces : List (PhysicalInterface τ)}

/-- The latest row of a node of the snapshot has a type of the graph builder. -/
theorem nodeType_of_latest (hon : results.On nodes)
    (hold : ∀ entry ∈ table.entries, entry.2.timestamp < now) (hnode : node ∈ nodes)
    (hrow : row ∈ (writeResults nodes results now table).entries.map Sigma.snd)
    (hid : row.nodeId = node.id) (hlatest : IsLatest (writeResults nodes results now table) row) :
    row.nodeType ∈ nodeTypes := by
  obtain ⟨own, hown, hownId⟩ := @exists_row ε σ τ nodes results now _ hon node hnode
  obtain ⟨own', hown', hlookup, hkey⟩ := @insertOrUpdate_spec ε σ τ table _ _ _ hown
  obtain ⟨hsame, hstamp⟩ := Prod.mk.inj hkey
  have hle : now ≤ row.timestamp := by
    have hle := hlatest _ (AList.mem_lookup_iff.mp hlookup) (by rw [← hsame, hownId, hid])
    rwa [← hstamp, (embeddingRows_spec hon hown).1] at hle
  obtain ⟨entry, hentry, rfl⟩ := List.mem_map.mp hrow
  rcases lookup_insertOrUpdate (AList.mem_lookup_iff.mpr hentry) with ⟨hmem, -⟩ | hold'
  · exact (embeddingRows_spec hon hmem).2
  · exact absurd hle (not_le.mpr (hold _ (AList.mem_lookup_iff.mp hold')))

theorem nodeId_of_mem_routerEmbeddings (hon : results.On nodes)
    (hold : ∀ entry ∈ table.entries, entry.2.timestamp < now) (hnode : node ∈ nodes)
    (hrow : row ∈ routerEmbeddings (writeResults nodes results now table) routerIds) :
    row.nodeId ≠ node.id := by
  intro hid
  obtain ⟨hmem, hrow⟩ := List.mem_filter.mp hrow
  obtain ⟨-, htype, hlatest⟩ := of_decide_eq_true hrow
  have hmem := nodeType_of_latest hon hold hnode hmem hid hlatest
  rw [htype] at hmem
  exact absurd hmem (by decide)

theorem nodeId_of_mem_interfaceEmbeddings {item : Row ε σ τ × PhysicalInterface τ}
    (hon : results.On nodes) (hold : ∀ entry ∈ table.entries, entry.2.timestamp < now)
    (hnode : node ∈ nodes)
    (hitem : item ∈
      interfaceEmbeddings (writeResults nodes results now table) interfaces routerIds) :
    item.1.nodeId ≠ node.id := by
  intro hid
  obtain ⟨hmem, hitem⟩ := List.mem_filter.mp hitem
  obtain ⟨-, -, htype, -, hlatest⟩ := of_decide_eq_true hitem
  have hmem := nodeType_of_latest hon hold hnode (List.mem_product.mp hmem).1 hid hlatest
  rw [htype] at hmem
  exact absurd hmem (by decide)

variable {routerRows : List (Row ε σ τ)} {interfaceRows : List (Row ε σ τ × PhysicalInterface τ)}

/-- Nothing is attached to a node whose result is the latest one. -/
theorem not_attached_of_written (hon : results.On nodes)
    (hold : ∀ entry ∈ table.entries, entry.2.timestamp < now) (hnode : node ∈ nodes)
    (hrouterRows : routerRows.Perm
      (routerEmbeddings (writeResults nodes results now table) routerIds))
    (hinterfaceRows : interfaceRows.Perm
      (interfaceEmbeddings (writeResults nodes results now table) interfaces routerIds))
    {routerId : String} {entry : RouterEntry σ τ}
    (h : (addEmbeddingsToRouters routerRows interfaceRows (collected routerIds)).lookup routerId =
      some entry) :
    (routerId = node.id → entry.embedding = none) ∧ node.id ∉ entry.interfaceMses := by
  obtain ⟨middle, hmiddle, hembedding, hmses⟩ := @addInterfaceEmbedding_spec ε σ τ _ _ node.id _ _ h
  obtain ⟨old, hlookup, hmses', hembedding'⟩ := addRouterEmbedding_spec hmiddle
  obtain rfl := collected_spec hlookup
  refine ⟨?_, fun hid => ?_⟩
  · rintro rfl
    rw [hembedding]
    exact hembedding' fun row hrow =>
      nodeId_of_mem_routerEmbeddings hon hold hnode (hrouterRows.mem_iff.mp hrow)
  · rcases hmses hid with hid | ⟨item, hitem, hid⟩
    · rw [hmses'] at hid
      cases hid
    · exact nodeId_of_mem_interfaceEmbeddings hon hold hnode (hinterfaceRows.mem_iff.mp hitem) hid

/-- **GNN results are found again** only where there are none to be found: when the results of a
snapshot are the latest ones, each of its routers and interfaces is attached its own score and
explanation if and only if it has neither routers nor interfaces. -/
theorem found_iff (hon : results.On nodes)
    (hold : ∀ entry ∈ table.entries, entry.2.timestamp < now)
    (hrouterRows : routerRows.Perm
      (routerEmbeddings (writeResults nodes results now table) routerIds))
    (hinterfaceRows : interfaceRows.Perm
      (interfaceEmbeddings (writeResults nodes results now table) interfaces routerIds)) :
    Found nodes results (addEmbeddingsToRouters routerRows interfaceRows (collected routerIds)) ↔
      ∀ node ∈ nodes, node.type = "bgp_session" := by
  have hnot := fun node hnode routerId entry =>
    @not_attached_of_written ε σ τ _ _ nodes results now table node routerIds interfaces routerRows
      interfaceRows hon hold hnode hrouterRows hinterfaceRows routerId entry
  constructor
  · intro hfound node hnode
    have hmem : ∀ ntype, node.type = ntype → ∃ n,
        (nodes.filter fun node => node.type = ntype)[n]? = some node := fun ntype htype =>
      List.mem_iff_getElem?.mp (List.mem_filter.mpr ⟨hnode, decide_eq_true htype⟩)
    cases node with
    | router id hostname =>
      obtain ⟨n, hn⟩ := hmem "router" rfl
      obtain ⟨entry, embedding, hlookup, hembedding, -⟩ := hfound.routers n id hostname hn
      have hnone := (hnot _ hnode id entry hlookup).1 rfl
      rw [hnone] at hembedding
      cases hembedding
    | interface id name deviceId =>
      obtain ⟨n, hn⟩ := hmem "interface" rfl
      obtain ⟨entry, mse, hlookup, hmse, -⟩ := hfound.interfaces n id name deviceId hn
      have hlisted : id ∈ entry.interfaceMses := AList.lookup_isSome.mp (by rw [hmse]; rfl)
      exact absurd hlisted (hnot _ hnode deviceId entry hlookup).2
    | bgpSession id => rfl
  · intro hsessions
    refine ⟨fun n id hostname hn => ?_, fun n id name deviceId hn => ?_,
      fun id name deviceId hmem => ?_⟩
    · obtain ⟨hmem, -⟩ := List.mem_filter.mp (List.mem_of_getElem? hn)
      exact absurd (hsessions _ hmem) (by simp [Node.type])
    · obtain ⟨hmem, -⟩ := List.mem_filter.mp (List.mem_of_getElem? hn)
      exact absurd (hsessions _ hmem) (by simp [Node.type])
    · exact absurd (hsessions _ hmem) (by simp [Node.type])

end Read

/-! ### A router that is not found -/

def sampleNodes : List Node := [.router "router_pe1" (some "pe1")]

/-- The router deviates. -/
def sampleResults : Results ℕ ℕ where
  embeddings := AList.singleton "router" [1]
  anomalyScores := AList.singleton "router" [3]
  anomalyExplanations := AList.singleton "router" [{ anomalous := some true }]

theorem sampleResults_on : sampleResults.On sampleNodes where
  types ntype h := by
    obtain rfl := List.mem_singleton.mp h
    decide
  embeddings node h := by
    obtain rfl := List.mem_singleton.mp h
    exact ⟨[1], rfl, rfl⟩
  scores node h := by
    obtain rfl := List.mem_singleton.mp h
    exact ⟨[3], rfl, rfl⟩
  explanations node h := by
    obtain rfl := List.mem_singleton.mp h
    exact ⟨_, rfl, rfl⟩

/-- The table after the only inference so far. -/
def sampleTable : NodeEmbeddings ℕ ℕ ℕ := writeResults sampleNodes sampleResults 1 ∅

theorem sample_found_iff : Found sampleNodes sampleResults
    (addEmbeddingsToRouters (routerEmbeddings sampleTable ["router_pe1"])
      (interfaceEmbeddings sampleTable [] ["router_pe1"]) (collected ["router_pe1"])) ↔
      ∀ node ∈ sampleNodes, node.type = "bgp_session" := by
  refine found_iff sampleResults_on ?_ (.refl _) (.refl _)
  exact fun _ h => nomatch h

theorem router_not_found : ¬∀ (nodes : List Node) (results : Results ℕ ℕ) (now : ℕ)
    (table : NodeEmbeddings ℕ ℕ ℕ) (routerIds : List String)
    (interfaces : List (PhysicalInterface ℕ)),
    results.On nodes → (∀ entry ∈ table.entries, entry.2.timestamp < now) →
      Found nodes results (addEmbeddingsToRouters
        (routerEmbeddings (writeResults nodes results now table) routerIds)
        (interfaceEmbeddings (writeResults nodes results now table) interfaces routerIds)
        (collected routerIds)) := by
  intro hall
  have hfound := hall sampleNodes sampleResults 1 ∅ ["router_pe1"] [] sampleResults_on
    fun _ h => (nomatch h)
  obtain ⟨entry, embedding, hlookup, hembedding, -⟩ :=
    hfound.routers 0 "router_pe1" (some "pe1") rfl
  obtain rfl := Option.some.inj hlookup
  cases hembedding

end GnnSandbox.Supervisor.Embeddings
