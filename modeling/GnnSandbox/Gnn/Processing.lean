import Mathlib.Data.List.Induction
import GnnSandbox.Gnn.Snapshot

/-!
# Graphs from snapshots

`process_snapshot` numbers the nodes of each type and replaces the ids at the ends of the edges by
these numbers; an edge whose ends are not nodes of the right types is left out.

1. `assigned`, `processSnapshot`: the numbers and the edges.
2. `index_injective`, `index_isSome_iff`: which ids have a number, of a type.
3. `edgeIndex_eq`: the edges of a type, by the ids of the edges of its relation.
-/

namespace GnnSandbox.Gnn.Fetch

/-! ## Types of edges -/

structure EdgeType where
  source : NodeType
  relation : Relation
  target : NodeType
deriving DecidableEq

namespace EdgeType

def hasInterface : EdgeType := ⟨.router, .hasInterface, .interface⟩
def interfaceOf : EdgeType := ⟨.interface, .interfaceOf, .router⟩
def connectedTo : EdgeType := ⟨.interface, .connectedTo, .interface⟩
def ospfPeer : EdgeType := ⟨.router, .ospfPeer, .router⟩
def bgpPeer : EdgeType := ⟨.router, .bgpPeer, .router⟩
def sessionOn : EdgeType := ⟨.bgpSession, .sessionOn, .router⟩
def hostsSession : EdgeType := ⟨.router, .hostsSession, .bgpSession⟩

end EdgeType

/-- `EDGE_TYPES` -/
def edgeTypes : List EdgeType :=
  [.hasInterface, .interfaceOf, .connectedTo, .ospfPeer, .bgpPeer, .sessionOn, .hostsSession]

/-! ## Numbers of nodes -/

/-- `nodes_by_type` and `global_id_map`. -/
structure Assigned where
  nodesByType : NodeType → List Node
  globalIdMap : String → Option (NodeType × ℕ)

/-- The body of the loop over the nodes; a later node of an id replaces an earlier one. -/
def assign (s : Assigned) (node : Node) : Assigned :=
  { nodesByType := fun t =>
      if t = node.type then s.nodesByType t ++ [node] else s.nodesByType t
    globalIdMap := fun id =>
      if id = node.id then some (node.type, (s.nodesByType node.type).length)
      else s.globalIdMap id }

def assigned (nodes : List Node) : Assigned := nodes.foldl assign ⟨fun _ => [], fun _ => none⟩

/-! ## The graph -/

/-- The ids of the nodes and the edges, by types. -/
structure HeteroData where
  nodeIdMap : NodeType → List String
  edgeIndex : EdgeType → List (ℕ × ℕ)

/-- The type of an edge and the numbers of its ends. -/
def bucketOf (s : Assigned) (e : Edge) : Option (EdgeType × ℕ × ℕ) :=
  match s.globalIdMap e.source, s.globalIdMap e.target with
  | some (srcType, srcIdx), some (dstType, dstIdx) =>
    if ⟨srcType, e.relation, dstType⟩ ∈ edgeTypes then
      some (⟨srcType, e.relation, dstType⟩, srcIdx, dstIdx)
    else none
  | _, _ => none

/-- `edge_buckets`, for one type. -/
def edgeBucket (s : Assigned) (edges : List Edge) (et : EdgeType) : List (ℕ × ℕ) :=
  edges.filterMap fun e =>
    match bucketOf s e with
    | some (key, p) => if key = et then some p else none
    | none => none

def processSnapshot (snapshot : Snapshot) : HeteroData :=
  { nodeIdMap := fun t => ((assigned snapshot.nodes).nodesByType t).map Node.id
    edgeIndex := edgeBucket (assigned snapshot.nodes) snapshot.edges }

/-! ## Numbers and ids -/

section Numbers

variable {nodes : List Node} {node : Node} {id id' : String} {t : NodeType} {k : ℕ}

theorem assigned_append (nodes : List Node) (node : Node) :
    assigned (nodes ++ [node]) = assign (assigned nodes) node := List.foldl_concat ..

/-- **A number is that of a node** with the id. -/
theorem globalIdMap_spec (h : (assigned nodes).globalIdMap id = some (t, k)) :
    ∃ node, ((assigned nodes).nodesByType t)[k]? = some node ∧ node.id = id := by
  induction nodes using List.reverseRecOn with
  | nil => cases h
  | append_singleton nodes node ih =>
    rw [assigned_append] at h ⊢
    unfold assign at h ⊢
    dsimp only at h ⊢
    split at h
    · next hid =>
      obtain ⟨rfl, rfl⟩ := Prod.mk.inj (Option.some.inj h)
      exact ⟨node, by rw [if_pos rfl, List.getElem?_concat_length], hid.symm⟩
    · obtain ⟨node', hnode', hid⟩ := ih h
      refine ⟨node', ?_, hid⟩
      split
      · rw [List.getElem?_append_left (List.getElem?_eq_some_iff.mp hnode').1, hnode']
      · exact hnode'

/-- The type that an id is resolved to is that of its last node. -/
theorem globalIdMap_type : ((assigned nodes).globalIdMap id).map Prod.fst =
    (nodes.reverse.find? fun node => node.id = id).map Node.type := by
  induction nodes using List.reverseRecOn with
  | nil => rfl
  | append_singleton nodes node ih =>
    rw [assigned_append, List.reverse_append, List.reverse_singleton, List.singleton_append,
      List.find?_cons]
    unfold assign
    dsimp only
    by_cases hid : id = node.id
    · simp [hid]
    · have hne : node.id ≠ id := fun heq => hid heq.symm
      simpa [hid, hne] using ih

/-- The number of an id that is resolved to a type. -/
def Assigned.index (s : Assigned) (t : NodeType) (id : String) : Option ℕ :=
  (s.globalIdMap id).bind fun p => if p.1 = t then some p.2 else none

theorem index_eq_some_iff {s : Assigned} :
    s.index t id = some k ↔ s.globalIdMap id = some (t, k) := by
  unfold Assigned.index
  cases s.globalIdMap id with
  | none => simp
  | some p =>
    obtain ⟨t', k'⟩ := p
    simp

theorem index_lt (h : (assigned nodes).index t id = some k) :
    k < ((assigned nodes).nodesByType t).length := by
  obtain ⟨node, hnode, -⟩ := globalIdMap_spec (index_eq_some_iff.mp h)
  exact (List.getElem?_eq_some_iff.mp hnode).1

/-- **Different ids have different numbers.** -/
theorem index_injective (h : (assigned nodes).index t id = some k)
    (h' : (assigned nodes).index t id' = some k) : id = id' := by
  obtain ⟨node, hnode, rfl⟩ := globalIdMap_spec (index_eq_some_iff.mp h)
  obtain ⟨node', hnode', rfl⟩ := globalIdMap_spec (index_eq_some_iff.mp h')
  rw [Option.some.inj (hnode.symm.trans hnode')]

/-- **An id has a number of a type** when its last node has the type. -/
theorem index_isSome_iff : (∃ k, (assigned nodes).index t id = some k) ↔
    (nodes.reverse.find? fun node => node.id = id).map Node.type = some t := by
  rw [← globalIdMap_type, Option.map_eq_some_iff]
  constructor
  · rintro ⟨k, hk⟩
    exact ⟨(t, k), index_eq_some_iff.mp hk, rfl⟩
  · rintro ⟨⟨t', k⟩, hmap, rfl⟩
    exact ⟨k, index_eq_some_iff.mpr hmap⟩

/-- The numbers of the two ends of an edge. -/
def Assigned.indexPair (s : Assigned) (t t' : NodeType) (p : String × String) : Option (ℕ × ℕ) :=
  (s.index t p.1).bind fun i => (s.index t' p.2).map fun j => (i, j)

theorem indexPair_eq_some_iff {s : Assigned} {t' : NodeType} {p : String × String} {q : ℕ × ℕ} :
    s.indexPair t t' p = some q ↔ s.index t p.1 = some q.1 ∧ s.index t' p.2 = some q.2 := by
  obtain ⟨i, j⟩ := q
  unfold Assigned.indexPair
  rw [Option.bind_eq_some_iff]
  constructor
  · rintro ⟨i', hi, hj⟩
    obtain ⟨j', hj', heq⟩ := Option.map_eq_some_iff.mp hj
    obtain ⟨rfl, rfl⟩ := Prod.mk.inj heq
    exact ⟨hi, hj'⟩
  · rintro ⟨hi, hj⟩
    exact ⟨i, hi, Option.map_eq_some_iff.mpr ⟨j, hj, rfl⟩⟩

theorem indexPair_injective {t' : NodeType} {p p' : String × String} {q : ℕ × ℕ}
    (h : (assigned nodes).indexPair t t' p = some q)
    (h' : (assigned nodes).indexPair t t' p' = some q) : p = p' := by
  rw [indexPair_eq_some_iff] at h h'
  exact Prod.ext (index_injective h.1 h'.1) (index_injective h.2 h'.2)

theorem indexPair_swap (s : Assigned) (t t' : NodeType) (p : String × String) :
    s.indexPair t t' p.swap = (s.indexPair t' t p).map Prod.swap := by
  unfold Assigned.indexPair
  rw [Prod.fst_swap, Prod.snd_swap]
  cases s.index t p.2 <;> cases s.index t' p.1 <;> rfl

end Numbers

/-! ## Edges of a relation -/

/-- Sources and targets of the edges of a relation. -/
def pairsOf (relation : Relation) (edges : List Edge) : List (String × String) :=
  edges.filterMap fun e => if e.relation = relation then some (e.source, e.target) else none

theorem bucketOf_eq_some_iff {s : Assigned} {e : Edge} {et : EdgeType} {q : ℕ × ℕ} :
    bucketOf s e = some (et, q) ↔ et ∈ edgeTypes ∧ e.relation = et.relation ∧
      s.indexPair et.source et.target (e.source, e.target) = some q := by
  rw [indexPair_eq_some_iff, index_eq_some_iff, index_eq_some_iff]
  unfold bucketOf
  split
  · next srcType srcIdx dstType dstIdx hsource htarget =>
    rw [Option.ite_none_right_eq_some, hsource, htarget]
    constructor
    · rintro ⟨hmem, heq⟩
      obtain ⟨rfl, rfl⟩ := Prod.mk.inj (Option.some.inj heq)
      exact ⟨hmem, rfl, rfl, rfl⟩
    · rintro ⟨hmem, hrelation, hsrc, hdst⟩
      obtain ⟨rfl, hi⟩ := Prod.mk.inj (Option.some.inj hsrc)
      obtain ⟨rfl, hj⟩ := Prod.mk.inj (Option.some.inj hdst)
      rw [hrelation]
      exact ⟨hmem, congrArg (fun q => some (et, q)) (Prod.ext hi hj)⟩
  · next hnone =>
    constructor
    · intro h
      cases h
    · rintro ⟨-, -, hsrc, hdst⟩
      exact absurd hdst (hnone _ _ _ _ hsrc)

/-- **The edges of a type** are those of its relation whose ends have numbers. -/
theorem edgeBucket_eq {s : Assigned} {edges : List Edge} {et : EdgeType} (het : et ∈ edgeTypes) :
    edgeBucket s edges et =
      (pairsOf et.relation edges).filterMap (s.indexPair et.source et.target) := by
  unfold edgeBucket pairsOf
  rw [List.filterMap_filterMap]
  refine List.filterMap_congr fun e _ => Option.ext fun q => ?_
  have hpair : (if e.relation = et.relation then some (e.source, e.target) else none).bind
      (s.indexPair et.source et.target) = some q ↔ e.relation = et.relation ∧
        s.indexPair et.source et.target (e.source, e.target) = some q := by
    split
    · next h => exact ⟨fun hq => ⟨h, hq⟩, fun hq => hq.2⟩
    · next h => exact iff_of_false (fun hq => by cases hq) fun hq => h hq.1
  rw [hpair, ← and_iff_right (b := e.relation = et.relation ∧ _) het, ← bucketOf_eq_some_iff]
  split
  · next key p hbucket =>
    rw [hbucket, Option.ite_none_right_eq_some, Option.some.injEq, Option.some.injEq]
    exact ⟨fun h => Prod.ext h.1 h.2, fun h => Prod.mk.inj h⟩
  · next hbucket =>
    rw [hbucket]
    exact iff_of_false (fun hq => by cases hq) fun hq => by cases hq

end GnnSandbox.Gnn.Fetch
