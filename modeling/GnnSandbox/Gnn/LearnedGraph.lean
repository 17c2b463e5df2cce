import Mathlib.Data.List.Dedup
import GnnSandbox.Gnn.Processing

/-!
# The learned graph

The seven relations of a snapshot come from different queries, with different ways of leaving out
duplicates. `query_ospf` selects distinct pairs with the order of the interface ids, so that two
routers can be selected in both orders, and both get all their edges twice.

1. `pairsOf_hasInterface` and the like: the ids at the ends of the edges of each relation.
2. `Consistent`: what is asked, and `OneOrder`, `JoinsShown`: when it holds.
-/

namespace GnnSandbox.Gnn.Fetch

open Graph

/-! ## What is asked of the graph -/

/-- The relations agree with the nodes and with each other. -/
structure Consistent (g : HeteroData) : Prop where
  bounds : ∀ et ∈ edgeTypes, ∀ p ∈ g.edgeIndex et,
    p.1 < (g.nodeIdMap et.source).length ∧ p.2 < (g.nodeIdMap et.target).length
  nodup : ∀ et ∈ edgeTypes, (g.edgeIndex et).Nodup
  interfaceOf : ∀ p, p ∈ g.edgeIndex .interfaceOf ↔ p.swap ∈ g.edgeIndex .hasInterface
  hostsSession : ∀ p, p ∈ g.edgeIndex .hostsSession ↔ p.swap ∈ g.edgeIndex .sessionOn
  symmetric : ∀ et ∈ [EdgeType.connectedTo, .ospfPeer, .bgpPeer], ∀ p,
    p ∈ g.edgeIndex et → p.swap ∈ g.edgeIndex et
  irreflexive : ∀ et ∈ [EdgeType.connectedTo, .ospfPeer, .bgpPeer], ∀ p ∈ g.edgeIndex et,
    p.1 ≠ p.2
  ospf : ∀ i j, i ≠ j → ((i, j) ∈ g.edgeIndex .ospfPeer ↔
    ∃ x y, (i, x) ∈ g.edgeIndex .hasInterface ∧ (j, y) ∈ g.edgeIndex .hasInterface ∧
      (x, y) ∈ g.edgeIndex .connectedTo)

/-- Valid rows of `Interface_Link` belong to valid links, and two interfaces share one at most. -/
structure LinksShared (store : Store) (ts : Timestamp) : Prop where
  valid : ∀ e ∈ validRows store ts .interfaceLink,
    ∃ l ∈ validRows store ts .physicalLink, l.id = e.linkId
  once : ∀ a b l l', a ≠ b → ⟨a, l⟩ ∈ validRows store ts .interfaceLink →
    ⟨b, l⟩ ∈ validRows store ts .interfaceLink → ⟨a, l'⟩ ∈ validRows store ts .interfaceLink →
      ⟨b, l'⟩ ∈ validRows store ts .interfaceLink → l = l'

/-- A valid link of two interfaces, in the order of their ids, of two valid routers. -/
structure Joins (store : Store) (ts : Timestamp) (ra rb a b : String) : Prop where
  link : ∃ l ∈ validRows store ts .physicalLink, ⟨a, l.id⟩ ∈ validRows store ts .interfaceLink ∧
    ⟨b, l.id⟩ ∈ validRows store ts .interfaceLink
  lt : a < b
  source : ∃ i ∈ validRows store ts .physicalInterface, i.id = a ∧ i.routerId = ra
  target : ∃ i ∈ validRows store ts .physicalInterface, i.id = b ∧ i.routerId = rb
  routers : ∀ id ∈ [ra, rb], ∃ r ∈ validRows store ts .physicalRouter, r.id = id
  ne : ra ≠ rb

/-- The id of a session. -/
def IsSession (store : Store) (ts : Timestamp) (id : String) : Prop :=
  ∃ s ∈ sessionRows store ts, s.id = id

/-- The id of a valid router, and of no valid interface or session. -/
structure IsRouter (store : Store) (ts : Timestamp) (id : String) : Prop where
  router : ∃ r ∈ validRows store ts .physicalRouter, r.id = id
  interface : ¬ ∃ i ∈ validRows store ts .physicalInterface, i.id = id
  session : ¬ IsSession store ts id

/-- No two routers are joined in both orders of the ids of their interfaces. -/
def OneOrder (store : Store) (ts : Timestamp) : Prop :=
  ∀ ra rb, IsRouter store ts ra → IsRouter store ts rb → ∀ a b, Joins store ts ra rb a b →
    ∀ a' b', ¬ Joins store ts rb ra a' b'

/-- Two routers that are joined are joined by interfaces whose ids are not those of sessions. -/
def JoinsShown (store : Store) (ts : Timestamp) : Prop :=
  ∀ ra rb, IsRouter store ts ra → IsRouter store ts rb → ∀ a b, Joins store ts ra rb a b →
    ∃ a' b', (Joins store ts ra rb a' b' ∨ Joins store ts rb ra a' b') ∧
      ¬ IsSession store ts a' ∧ ¬ IsSession store ts b'

variable {store : Store} {ts now : Timestamp}

/-! ## Rows of links -/

theorem mem_linkRows {a b : String} : (a, b) ∈ linkRows store ts ↔
    a < b ∧ ∃ l, ⟨a, l⟩ ∈ validRows store ts .interfaceLink ∧
      ⟨b, l⟩ ∈ validRows store ts .interfaceLink := by
  unfold linkRows
  rw [List.mem_flatMap]
  constructor
  · rintro ⟨il1, h1, h⟩
    obtain ⟨il2, h2, heq⟩ := List.mem_map.mp h
    obtain ⟨rfl, rfl⟩ := Prod.mk.inj heq
    obtain ⟨h2, hcond⟩ := List.mem_filter.mp h2
    obtain ⟨hlink, hlt⟩ := of_decide_eq_true hcond
    exact ⟨hlt, il1.linkId, h1, hlink ▸ h2⟩
  · rintro ⟨hlt, l, h1, h2⟩
    exact ⟨⟨a, l⟩, h1, List.mem_map.mpr
      ⟨⟨b, l⟩, List.mem_filter.mpr ⟨h2, decide_eq_true ⟨rfl, hlt⟩⟩, rfl⟩⟩

theorem mem_ospfRows {ra rb : String} : (ra, rb) ∈ ospfRows store ts ↔
    ∃ a b, Joins store ts ra rb a b := by
  unfold ospfRows
  rw [List.mem_dedup]
  simp only [List.mem_flatMap, List.mem_map, List.mem_filter, decide_eq_true_iff]
  constructor
  · rintro ⟨pl, hpl, il1, ⟨h1, hl1⟩, il2, ⟨h2, hl2, hlt⟩, pi1, ⟨hi1, hid1⟩, pi2, ⟨hi2, hid2⟩, r1,
      ⟨hr1, hrid1⟩, r2, ⟨hr2, hrid2, hne⟩, heq⟩
    obtain ⟨rfl, rfl⟩ := Prod.mk.inj heq
    exact ⟨il1.interfaceId, il2.interfaceId,
      { link := ⟨pl, hpl, hl1 ▸ h1, hl2 ▸ h2⟩
        lt := hlt
        source := ⟨pi1, hi1, hid1, hrid1.symm⟩
        target := ⟨pi2, hi2, hid2, hrid2.symm⟩
        routers := by simpa using ⟨⟨r1, hr1, rfl⟩, ⟨r2, hr2, rfl⟩⟩
        ne := hne }⟩
  · rintro ⟨a, b, h⟩
    obtain ⟨pl, hpl, h1, h2⟩ := h.link
    obtain ⟨pi1, hi1, hid1, hrid1⟩ := h.source
    obtain ⟨pi2, hi2, hid2, hrid2⟩ := h.target
    obtain ⟨r1, hr1, rfl⟩ := h.routers ra (by simp)
    obtain ⟨r2, hr2, rfl⟩ := h.routers rb (by simp)
    exact ⟨pl, hpl, ⟨a, pl.id⟩, ⟨h1, rfl⟩, ⟨b, pl.id⟩, ⟨h2, rfl, h.lt⟩, pi1, ⟨hi1, hid1⟩, pi2,
      ⟨hi2, hid2⟩, r1, ⟨hr1, hrid1.symm⟩, r2, ⟨hr2, hrid2.symm, h.ne⟩, rfl⟩

/-- **No link is selected twice** when two interfaces share one at most. -/
theorem nodup_linkRows (hwf : Scd.WellFormed Row.key now (store.db .interfaceLink))
    (hshared : LinksShared store ts) : (linkRows store ts).Nodup := by
  have hnodup : (validRows store ts .interfaceLink).Nodup := (nodup_validRows hwf).of_map _
  unfold linkRows
  refine List.nodup_flatMap.mpr ⟨fun il1 _ => ?_, ?_⟩
  · refine (hnodup.filter _).map_on fun il2 h2 il2' h2' heq => ?_
    obtain ⟨h2, hcond⟩ := List.mem_filter.mp h2
    obtain ⟨h2', hcond'⟩ := List.mem_filter.mp h2'
    have hlink := (of_decide_eq_true hcond).1.symm.trans (of_decide_eq_true hcond').1
    exact eq_of_key hwf h2 h2' (congrArg₂ Key.edge (Prod.mk.inj heq).2 hlink)
  · refine hnodup.imp_of_mem fun {il1 il1'} h1 h1' hne => ?_
    rintro ⟨a, b⟩ hp hp'
    obtain ⟨il2, h2, heq⟩ := List.mem_map.mp hp
    obtain ⟨il2', h2', heq'⟩ := List.mem_map.mp hp'
    obtain ⟨rfl, rfl⟩ := Prod.mk.inj heq
    obtain ⟨h2, hcond⟩ := List.mem_filter.mp h2
    obtain ⟨h2', hcond'⟩ := List.mem_filter.mp h2'
    obtain ⟨hlink, hlt⟩ := of_decide_eq_true hcond
    obtain ⟨hlink', -⟩ := of_decide_eq_true hcond'
    obtain ⟨ha, hb⟩ := Prod.mk.inj heq'
    have hsame : il1.linkId = il1'.linkId := by
      refine hshared.once il1.interfaceId il2.interfaceId _ _ hlt.ne h1 ?_ ?_ ?_
      · exact hlink ▸ h2
      · exact ha ▸ h1'
      · exact hb ▸ hlink' ▸ h2'
    exact hne (eq_of_key hwf h1 h1' (congrArg₂ Key.edge ha.symm hsame))

/-- A session has one VRF at most. -/
theorem length_vrfsOf_le (hwf : Scd.WellFormed Row.key now (store.db .vrf)) (bs : BGPSession) :
    (vrfsOf store ts bs).length ≤ 1 := by
  have hnodup : (vrfsOf store ts bs).Nodup := ((nodup_validRows hwf).of_map _).filter _
  cases hvrfs : vrfsOf store ts bs with
  | nil => exact Nat.zero_le 1
  | cons v rest =>
    cases rest with
    | nil => exact Nat.le_refl 1
    | cons w rest =>
      have hmem : ∀ u ∈ [v, w], u ∈ validRows store ts .vrf ∧ u.id = bs.vrfId := by
        intro u hu
        have hu : u ∈ vrfsOf store ts bs := by
          rw [hvrfs]
          exact List.mem_append_left rest hu
        exact ⟨(List.mem_filter.mp hu).1, of_decide_eq_true (List.mem_filter.mp hu).2⟩
      obtain ⟨hv, hvid⟩ := hmem v (by simp)
      obtain ⟨hw, hwid⟩ := hmem w (by simp)
      obtain rfl := eq_of_key hwf hv hw (congrArg Key.id (hvid.trans hwid.symm))
      rw [hvrfs] at hnodup
      exact absurd (List.mem_cons_self ..) (List.nodup_cons.mp hnodup).1

/-- **No session has two rows.** -/
theorem nodup_sessionRows (hwf : ∀ n, Scd.WellFormed Row.key now (store.db n)) :
    ((sessionRows store ts).map SessionRow.id).Nodup := by
  have hrows : ∀ bs, (((vrfsOf store ts bs).map fun v =>
      SessionRow.mk bs.id bs.peerIp v.routerId).map SessionRow.id).Sublist [bs.id] := by
    intro bs
    have hconst : ((vrfsOf store ts bs).map fun v =>
        SessionRow.mk bs.id bs.peerIp v.routerId).map SessionRow.id =
          List.replicate (vrfsOf store ts bs).length bs.id :=
      List.map_map.trans List.map_const'
    rw [hconst]
    exact (List.replicate_sublist_replicate bs.id).mpr (length_vrfsOf_le (hwf .vrf) bs)
  have hsublist : ∀ l : List BGPSession, ((l.flatMap fun bs => (vrfsOf store ts bs).map fun v =>
      SessionRow.mk bs.id bs.peerIp v.routerId).map SessionRow.id).Sublist (l.map BGPSession.id) := by
    intro l
    induction l with
    | nil => exact List.Sublist.refl []
    | cons bs l ih =>
      rw [List.flatMap_cons, List.map_append, List.map_cons]
      exact (hrows bs).append ih
  have hids : ((validRows store ts .bgpSession).map BGPSession.id).Nodup := by
    have hkeys := @nodup_validRows store ts now .bgpSession (hwf .bgpSession)
    exact List.Nodup.of_map Key.id (List.map_map.symm ▸ hkeys)
  exact (hsublist _).nodup hids

/-! ## Pairs of the relations -/

section Pairs

variable (a : Answers store ts)

theorem pairsOf_append (relation : Relation) (edges edges' : List Edge) :
    pairsOf relation (edges ++ edges') = pairsOf relation edges ++ pairsOf relation edges' :=
  List.filterMap_append

theorem pairsOf_bothWays {α : Type} (relation there back : Relation) (f g : α → String)
    (l : List α) : pairsOf relation (l.flatMap fun x => bothWays there back (f x) (g x)) =
      l.flatMap fun x => (if there = relation then [(f x, g x)] else []) ++
        if back = relation then [(g x, f x)] else [] := by
  unfold pairsOf
  rw [List.filterMap_flatMap]
  refine congrArg (List.flatMap · l) (funext fun x => ?_)
  unfold bothWays
  by_cases hthere : there = relation <;> by_cases hback : back = relation <;>
    simp [hthere, hback]

theorem sessionEdges_flatMap (l : List SessionRow) : l.flatMap Answers.sessionEdges =
    (l.filter fun s => s.routerId ≠ "").flatMap fun s =>
      bothWays .sessionOn .hostsSession s.id s.routerId := by
  induction l with
  | nil => rfl
  | cons s l ih =>
    rw [List.flatMap_cons, ih]
    by_cases hrouter : s.routerId = ""
    · rw [List.filter_cons_of_neg (by simpa using hrouter)]
      simp [Answers.sessionEdges, hrouter]
    · rw [List.filter_cons_of_pos (by simpa using hrouter), List.flatMap_cons]
      simp [Answers.sessionEdges, hrouter]

/-- The pairs of each relation. -/
def Answers.pairs : Relation → List (String × String)
  | .hasInterface => a.interfaces.map fun i => (i.routerId, i.id)
  | .interfaceOf => a.interfaces.map fun i => (i.id, i.routerId)
  | .connectedTo => Lib.withSwaps a.links
  | .ospfPeer => Lib.withSwaps (a.ospfPeers.filter fun p => p.1 ≠ p.2)
  | .bgpPeer => Lib.withSwaps a.newBgpPeers
  | .sessionOn => (a.sessions.filter fun s => s.routerId ≠ "").map fun s => (s.id, s.routerId)
  | .hostsSession => (a.sessions.filter fun s => s.routerId ≠ "").map fun s => (s.routerId, s.id)

theorem pairsOf_edges (relation : Relation) : pairsOf relation a.edges = a.pairs relation := by
  unfold Answers.edges
  rw [sessionEdges_flatMap]
  simp only [pairsOf_append, pairsOf_bothWays]
  have hnil : ∀ {α : Type} (l : List α), l.flatMap (fun _ => ([] : List (String × String))) = [] :=
    fun l => List.flatMap_eq_nil_iff.mpr fun _ _ => rfl
  cases relation <;> simp [Answers.pairs, hnil, Lib.withSwaps_eq, List.map_eq_flatMap]

theorem pairs_interfaceOf : a.pairs .interfaceOf = (a.pairs .hasInterface).map Prod.swap := by
  simp only [Answers.pairs, List.map_map]
  rfl

theorem pairs_hostsSession : a.pairs .hostsSession = (a.pairs .sessionOn).map Prod.swap := by
  simp only [Answers.pairs, List.map_map]
  rfl

end Pairs

/-! ## Ids that have numbers -/

section Resolved

variable {parse : Option String → ℚ} {a : Answers store ts} {rows : List MetricsRow} {id : String}

theorem setMetrics_id (m : Field → Option ℚ) (node : Node) : (node.setMetrics m).id = node.id := by
  cases node <;> rfl

theorem setMetrics_type (m : Field → Option ℚ) (node : Node) :
    (node.setMetrics m).type = node.type := by
  cases node <;> rfl

/-- The type of the last node of an id, in nodes of one type. -/
theorem lastType_eq {t : NodeType} {nodes : List Node} (h : ∀ node ∈ nodes, node.type = t) :
    (nodes.reverse.find? fun node => node.id = id).map Node.type =
      if id ∈ nodes.map Node.id then some t else none := by
  split
  · next hid =>
    obtain ⟨node, hnode, rfl⟩ := List.mem_map.mp hid
    cases hfind : nodes.reverse.find? fun node' => node'.id = node.id with
    | none =>
      have hnone := List.find?_eq_none.mp hfind node (List.mem_reverse.mpr hnode)
      exact absurd (decide_eq_true rfl) hnone
    | some node' => rw [Option.map_some, h node' (List.mem_reverse.mp (List.mem_of_find?_eq_some hfind))]
  · next hid =>
    rw [Option.map_eq_none_iff, List.find?_eq_none]
    intro node hnode hsame
    exact hid (List.mem_map.mpr ⟨node, List.mem_reverse.mp hnode, of_decide_eq_true hsame⟩)

/-- The type of the last node of an id, in a snapshot. -/
theorem lastType_fetched :
    ((fetchSnapshot parse a rows).nodes.reverse.find? fun node => node.id = id).map Node.type =
      (if id ∈ a.sessions.map SessionRow.id then some .bgpSession else none).or
        ((if id ∈ a.interfaces.map PhysicalInterface.id then some .interface else none).or
          (if id ∈ a.routers.map PhysicalRouter.id then some .router else none)) := by
  have hmetrics : ∀ nodes : List Node,
      (((nodes.map (applyMetrics (a.nodes parse) rows)).reverse.find? fun node =>
        node.id = id).map Node.type) =
          (nodes.reverse.find? fun node => node.id = id).map Node.type := by
    intro nodes
    rw [← List.map_reverse, List.find?_map, Option.map_map]
    unfold applyMetrics
    simp only [Function.comp_def, setMetrics_id, setMetrics_type]
  have hrouters := @lastType_eq id .router (a.routers.map fun r => .router (Answers.routerNode r))
    fun node hnode => by
      obtain ⟨r, -, rfl⟩ := List.mem_map.mp hnode
      rfl
  have hinterfaces := @lastType_eq id .interface
    (a.interfaces.map fun i => .interface (Answers.interfaceNode parse i)) fun node hnode => by
      obtain ⟨i, -, rfl⟩ := List.mem_map.mp hnode
      rfl
  have hsessions := @lastType_eq id .bgpSession
    (a.sessions.map fun s => .bgpSession (Answers.sessionNode s)) fun node hnode => by
      obtain ⟨s, -, rfl⟩ := List.mem_map.mp hnode
      rfl
  rw [List.map_map] at hrouters hinterfaces hsessions
  unfold fetchSnapshot
  rw [hmetrics, Answers.nodes, List.reverse_append, List.reverse_append, List.find?_append,
    List.find?_append, Option.map_or, Option.map_or, hrouters, hinterfaces, hsessions,
    Option.or_assoc]
  rfl

theorem mem_sessionIds : id ∈ a.sessions.map SessionRow.id ↔ IsSession store ts id :=
  List.mem_map.trans (exists_congr fun _ => and_congr_left' a.sessions_perm.mem_iff)

theorem mem_interfaceIds : id ∈ a.interfaces.map PhysicalInterface.id ↔
    ∃ i ∈ validRows store ts .physicalInterface, i.id = id :=
  List.mem_map.trans (exists_congr fun _ => and_congr_left' a.interfaces_perm.mem_iff)

theorem mem_routerIds : id ∈ a.routers.map PhysicalRouter.id ↔
    ∃ r ∈ validRows store ts .physicalRouter, r.id = id :=
  List.mem_map.trans (exists_congr fun _ => and_congr_left' a.routers_perm.mem_iff)

/-- **The ids with a number of a router.** -/
theorem index_router_iff :
    (∃ k, (assigned (fetchSnapshot parse a rows).nodes).index .router id = some k) ↔
      IsRouter store ts id := by
  have hrouter : IsRouter store ts id ↔ id ∈ a.routers.map PhysicalRouter.id ∧
      id ∉ a.interfaces.map PhysicalInterface.id ∧ id ∉ a.sessions.map SessionRow.id := by
    rw [mem_routerIds, mem_interfaceIds, mem_sessionIds]
    exact ⟨fun h => ⟨h.router, h.interface, h.session⟩, fun h => ⟨h.1, h.2.1, h.2.2⟩⟩
  rw [index_isSome_iff, lastType_fetched, hrouter]
  split_ifs with hsession hinterface hid <;> simp [*]

/-- **The ids with a number of an interface.** -/
theorem index_interface_iff :
    (∃ k, (assigned (fetchSnapshot parse a rows).nodes).index .interface id = some k) ↔
      (∃ i ∈ validRows store ts .physicalInterface, i.id = id) ∧ ¬ IsSession store ts id := by
  rw [index_isSome_iff, lastType_fetched, ← @mem_interfaceIds store ts a,
    ← @mem_sessionIds store ts a]
  split_ifs with hsession hinterface hid <;> simp [*]

end Resolved

/-! ## Edges of the graph -/

section Edges

variable (parse : Option String → ℚ) (a : Answers store ts) (rows : List MetricsRow)

/-- The graph of what is fetched. -/
def learnedGraph : HeteroData := processSnapshot (fetchSnapshot parse a rows)

/-- The numbers in the graph of what is fetched. -/
def numbers : Assigned := assigned (fetchSnapshot parse a rows).nodes

variable {parse a rows} {et : EdgeType} {q : ℕ × ℕ} {l : List (String × String)} {t : NodeType}

theorem edgeIndex_eq (het : et ∈ edgeTypes) : (learnedGraph parse a rows).edgeIndex et =
    (pairsOf et.relation a.edges).filterMap
      ((numbers parse a rows).indexPair et.source et.target) :=
  edgeBucket_eq het

theorem mem_edgeIndex (het : et ∈ edgeTypes) : q ∈ (learnedGraph parse a rows).edgeIndex et ↔
    ∃ p ∈ pairsOf et.relation a.edges,
      (numbers parse a rows).indexPair et.source et.target p = some q := by
  rw [edgeIndex_eq het, List.mem_filterMap]

/-- **Numbers are within bounds.** -/
theorem bounds_learnedGraph (het : et ∈ edgeTypes)
    (hq : q ∈ (learnedGraph parse a rows).edgeIndex et) :
    q.1 < ((learnedGraph parse a rows).nodeIdMap et.source).length ∧
      q.2 < ((learnedGraph parse a rows).nodeIdMap et.target).length := by
  obtain ⟨p, -, hp⟩ := (mem_edgeIndex het).mp hq
  obtain ⟨hsource, htarget⟩ := indexPair_eq_some_iff.mp hp
  unfold learnedGraph processSnapshot
  rw [List.length_map, List.length_map]
  exact ⟨index_lt hsource, index_lt htarget⟩

/-- Different pairs of ids are different pairs of numbers. -/
theorem nodup_filterMap_indexPair {t' : NodeType} (h : l.Nodup) :
    (l.filterMap ((numbers parse a rows).indexPair t t')).Nodup :=
  h.filterMap fun _ _ _ hp hp' => indexPair_injective hp hp'

theorem nodup_edgeIndex (het : et ∈ edgeTypes) (h : (pairsOf et.relation a.edges).Nodup) :
    ((learnedGraph parse a rows).edgeIndex et).Nodup := by
  rw [edgeIndex_eq het]
  exact nodup_filterMap_indexPair h

/-- **The converse of a relation** has the converse edges. -/
theorem mem_edgeIndex_swap {et' : EdgeType} (het : et ∈ edgeTypes) (het' : et' ∈ edgeTypes)
    (hsource : et'.source = et.target) (htarget : et'.target = et.source)
    (hpairs : pairsOf et'.relation a.edges = (pairsOf et.relation a.edges).map Prod.swap) :
    q ∈ (learnedGraph parse a rows).edgeIndex et' ↔
      q.swap ∈ (learnedGraph parse a rows).edgeIndex et := by
  rw [mem_edgeIndex het', mem_edgeIndex het, hpairs, hsource, htarget]
  constructor
  · rintro ⟨p, hp, hq⟩
    obtain ⟨p, hp', rfl⟩ := List.mem_map.mp hp
    refine ⟨p, hp', ?_⟩
    rw [indexPair_swap, Option.map_eq_some_iff] at hq
    obtain ⟨q, hq, rfl⟩ := hq
    rw [Prod.swap_swap, hq]
  · rintro ⟨p, hp, hq⟩
    refine ⟨p.swap, List.mem_map_of_mem hp, ?_⟩
    rw [indexPair_swap, hq, Option.map_some, Prod.swap_swap]

/-- The edges of a symmetric relation. -/
theorem edgeIndex_withSwaps (het : et ∈ edgeTypes) (hsame : et.target = et.source)
    (hpairs : pairsOf et.relation a.edges = Lib.withSwaps l) :
    (learnedGraph parse a rows).edgeIndex et = Lib.withSwaps
      (l.filterMap ((numbers parse a rows).indexPair et.source et.source)) := by
  rw [edgeIndex_eq het, hpairs, hsame]
  exact Lib.filterMap_withSwaps fun p => indexPair_swap ..

theorem ne_of_mem_edgeIndex (het : et ∈ edgeTypes) (hsame : et.target = et.source)
    (hpairs : pairsOf et.relation a.edges = Lib.withSwaps l) (hne : ∀ p ∈ l, p.1 ≠ p.2)
    (hq : q ∈ (learnedGraph parse a rows).edgeIndex et) : q.1 ≠ q.2 := by
  obtain ⟨p, hp, hq⟩ := (mem_edgeIndex het).mp hq
  rw [hsame] at hq
  obtain ⟨hfirst, hsecond⟩ := indexPair_eq_some_iff.mp hq
  intro heq
  have hsame := index_injective hfirst (heq ▸ hsecond)
  rw [hpairs, Lib.mem_withSwaps] at hp
  rcases hp with hp | hp
  · exact hne p hp hsame
  · exact hne p.swap hp hsame.symm

end Edges

/-! ## Pairs without duplicates -/

section Duplicates

variable {parse : Option String → ℚ} {a : Answers store ts} {rows : List MetricsRow}

theorem lt_of_mem_links {p : String × String} (hp : p ∈ a.links) : p.1 < p.2 :=
  (mem_linkRows.mp (a.links_perm.mem_iff.mp hp)).1

/-- No two interfaces are connected twice. -/
theorem nodup_links (hwf : Scd.WellFormed Row.key now (store.db .interfaceLink))
    (hshared : LinksShared store ts) : (Lib.withSwaps a.links).Nodup := by
  refine Lib.nodup_withSwaps.mpr ⟨a.links_perm.nodup_iff.mpr (nodup_linkRows hwf hshared), ?_⟩
  exact fun p hp hswap => (lt_of_mem_links hp).asymm (lt_of_mem_links hswap)

theorem ne_of_mem_bgpPeerRows {p : String × String} (hp : p ∈ bgpPeerRows store ts) :
    p.1 ≠ p.2 := by
  unfold bgpPeerRows at hp
  rw [List.mem_dedup] at hp
  simp only [List.mem_flatMap, List.mem_map, List.mem_filter, decide_eq_true_iff] at hp
  obtain ⟨_, -, _, -, _, -, v1, -, v2, ⟨-, hne⟩, rfl⟩ := hp
  exact hne

theorem newBgpPeers_eq : a.newBgpPeers =
    Lib.firstOfEach (fun p : String × String => Lib.sortedPair p.1 p.2) a.bgpPeers := by
  unfold Answers.newBgpPeers
  rw [Lib.foldl_addNew]
  simp

theorem ne_of_mem_newBgpPeers {p : String × String} (hp : p ∈ a.newBgpPeers) : p.1 ≠ p.2 := by
  rw [newBgpPeers_eq] at hp
  exact ne_of_mem_bgpPeerRows (a.bgpPeers_perm.mem_iff.mp (Lib.mem_of_mem_firstOfEach hp))

/-- No two routers are peers twice: the set of the pairs has them in order. -/
theorem nodup_newBgpPeers : (Lib.withSwaps a.newBgpPeers).Nodup := by
  refine Lib.nodup_withSwaps.mpr ⟨?_, fun p hp hswap => ?_⟩
  · rw [newBgpPeers_eq]
    have hkeys := @Lib.pairwise_firstOfEach _ _ _
      (fun p : String × String => Lib.sortedPair p.1 p.2) a.bgpPeers
    exact hkeys.imp fun hne heq => hne (congrArg (fun p => Lib.sortedPair p.1 p.2) heq)
  · have hne := ne_of_mem_newBgpPeers hp
    rw [newBgpPeers_eq] at hp hswap
    have heq := Lib.eq_of_mem_firstOfEach hp hswap (Lib.sortedPair_eq_iff.mpr (.inr ⟨rfl, rfl⟩))
    exact hne (congrArg Prod.fst heq)

theorem mem_ospfPeers {ra rb : String} :
    (ra, rb) ∈ a.ospfPeers.filter (fun p => p.1 ≠ p.2) ↔ ∃ x y, Joins store ts ra rb x y := by
  rw [List.mem_filter, a.ospfPeers_perm.mem_iff, mem_ospfRows, decide_eq_true_iff]
  constructor
  · exact fun h => h.1
  · rintro ⟨x, y, h⟩
    exact ⟨⟨x, y, h⟩, h.ne⟩

/-- **No pair of a relation is given twice**, of OSPF peers apart. -/
theorem nodup_pairsOf (hwf : ∀ n, Scd.WellFormed Row.key now (store.db n))
    (hshared : LinksShared store ts) {relation : Relation} (hne : relation ≠ .ospfPeer) :
    (pairsOf relation a.edges).Nodup := by
  have hinterfaces : (a.interfaces.map PhysicalInterface.id).Nodup := by
    have hkeys := @nodup_validRows store ts now .physicalInterface (hwf .physicalInterface)
    have hids : ((validRows store ts .physicalInterface).map PhysicalInterface.id).Nodup :=
      List.Nodup.of_map Key.id (List.map_map.symm ▸ hkeys)
    exact (a.interfaces_perm.map _).nodup_iff.mpr hids
  have hsessions : ((a.sessions.filter fun s => s.routerId ≠ "").map SessionRow.id).Nodup := by
    have hids : (a.sessions.map SessionRow.id).Nodup :=
      (a.sessions_perm.map _).nodup_iff.mpr (nodup_sessionRows hwf)
    exact (List.filter_sublist.map _).nodup hids
  rw [pairsOf_edges]
  cases relation with
  | hasInterface => exact List.Nodup.of_map Prod.snd (List.map_map.symm ▸ hinterfaces)
  | interfaceOf => exact List.Nodup.of_map Prod.fst (List.map_map.symm ▸ hinterfaces)
  | connectedTo => exact nodup_links (hwf .interfaceLink) hshared
  | ospfPeer => exact absurd rfl hne
  | bgpPeer => exact nodup_newBgpPeers
  | sessionOn => exact List.Nodup.of_map Prod.fst (List.map_map.symm ▸ hsessions)
  | hostsSession => exact List.Nodup.of_map Prod.snd (List.map_map.symm ▸ hsessions)

/-- The relations between nodes of one type are symmetric, and no pair is of equal ids. -/
theorem exists_withSwaps {et : EdgeType}
    (het : et ∈ [EdgeType.connectedTo, .ospfPeer, .bgpPeer]) :
    ∃ l, pairsOf et.relation a.edges = Lib.withSwaps l ∧ ∀ p ∈ l, p.1 ≠ p.2 := by
  rw [pairsOf_edges]
  rcases List.mem_cons.mp het with rfl | het
  · exact ⟨a.links, rfl, fun p hp => (lt_of_mem_links hp).ne⟩
  · rcases List.mem_cons.mp het with rfl | het
    · exact ⟨_, rfl, fun p hp => of_decide_eq_true (List.mem_filter.mp hp).2⟩
    · rw [List.mem_singleton.mp het]
      exact ⟨a.newBgpPeers, rfl, fun p hp => ne_of_mem_newBgpPeers hp⟩

/-- **No two routers are OSPF peers twice** exactly when they are joined in one order. -/
theorem nodup_ospfPeer_iff : ((learnedGraph parse a rows).edgeIndex .ospfPeer).Nodup ↔
    OneOrder store ts := by
  have hpairs : pairsOf EdgeType.ospfPeer.relation a.edges =
      Lib.withSwaps (a.ospfPeers.filter fun p => p.1 ≠ p.2) := pairsOf_edges a .ospfPeer
  have hnodup : (a.ospfPeers.filter fun p => p.1 ≠ p.2).Nodup :=
    (a.ospfPeers_perm.nodup_iff.mpr (List.nodup_dedup _)).filter _
  rw [edgeIndex_withSwaps (by decide) rfl hpairs, Lib.nodup_withSwaps,
    and_iff_right (nodup_filterMap_indexPair hnodup)]
  constructor
  · intro h ra rb hra hrb x y hjoins x' y' hjoins'
    obtain ⟨i, hi⟩ := (@index_router_iff store ts parse a rows ra).mpr hra
    obtain ⟨j, hj⟩ := (@index_router_iff store ts parse a rows rb).mpr hrb
    have hmem := (@mem_ospfPeers store ts a ra rb).mpr ⟨x, y, hjoins⟩
    have hmem' := (@mem_ospfPeers store ts a rb ra).mpr ⟨x', y', hjoins'⟩
    refine h (i, j) (List.mem_filterMap.mpr ⟨_, hmem, indexPair_eq_some_iff.mpr ⟨hi, hj⟩⟩) ?_
    exact List.mem_filterMap.mpr ⟨_, hmem', indexPair_eq_some_iff.mpr ⟨hj, hi⟩⟩
  · intro h q hq hswap
    obtain ⟨⟨ra, rb⟩, hp, hq⟩ := List.mem_filterMap.mp hq
    obtain ⟨⟨rc, rd⟩, hp', hq'⟩ := List.mem_filterMap.mp hswap
    obtain ⟨hra, hrb⟩ := indexPair_eq_some_iff.mp hq
    obtain ⟨hrc, hrd⟩ := indexPair_eq_some_iff.mp hq'
    obtain rfl : rc = rb := index_injective hrc hrb
    obtain rfl : rd = ra := index_injective hrd hra
    obtain ⟨x, y, hjoins⟩ := mem_ospfPeers.mp hp
    obtain ⟨x', y', hjoins'⟩ := mem_ospfPeers.mp hp'
    exact h rd rc (index_router_iff.mp ⟨_, hra⟩) (index_router_iff.mp ⟨_, hrb⟩) x y hjoins x' y'
      hjoins'

end Duplicates

/-! ## OSPF and connections -/

section Ospf

variable {parse : Option String → ℚ} {a : Answers store ts} {rows : List MetricsRow} {i j x y : ℕ}

theorem mem_hasInterface : (i, x) ∈ (learnedGraph parse a rows).edgeIndex .hasInterface ↔
    ∃ row ∈ validRows store ts .physicalInterface,
      (numbers parse a rows).index .router row.routerId = some i ∧
        (numbers parse a rows).index .interface row.id = some x := by
  rw [mem_edgeIndex (by decide), pairsOf_edges]
  constructor
  · rintro ⟨p, hp, hq⟩
    obtain ⟨row, hrow, rfl⟩ := List.mem_map.mp hp
    exact ⟨row, a.interfaces_perm.mem_iff.mp hrow, indexPair_eq_some_iff.mp hq⟩
  · rintro ⟨row, hrow, hq⟩
    exact ⟨_, List.mem_map.mpr ⟨row, a.interfaces_perm.mem_iff.mpr hrow, rfl⟩,
      indexPair_eq_some_iff.mpr hq⟩

theorem mem_connectedTo : (x, y) ∈ (learnedGraph parse a rows).edgeIndex .connectedTo ↔
    ∃ b c, ((b, c) ∈ linkRows store ts ∨ (c, b) ∈ linkRows store ts) ∧
      (numbers parse a rows).index .interface b = some x ∧
        (numbers parse a rows).index .interface c = some y := by
  rw [mem_edgeIndex (by decide), pairsOf_edges]
  constructor
  · rintro ⟨⟨b, c⟩, hp, hq⟩
    have hp := Lib.mem_withSwaps.mp hp
    rw [a.links_perm.mem_iff, a.links_perm.mem_iff] at hp
    exact ⟨b, c, hp, indexPair_eq_some_iff.mp hq⟩
  · rintro ⟨b, c, hp, hq⟩
    rw [← a.links_perm.mem_iff, ← a.links_perm.mem_iff] at hp
    exact ⟨(b, c), Lib.mem_withSwaps.mpr hp, indexPair_eq_some_iff.mpr hq⟩

theorem mem_ospfPeer : (i, j) ∈ (learnedGraph parse a rows).edgeIndex .ospfPeer ↔
    ∃ ra rb, (∃ b c, Joins store ts ra rb b c ∨ Joins store ts rb ra b c) ∧
      (numbers parse a rows).index .router ra = some i ∧
        (numbers parse a rows).index .router rb = some j := by
  have hjoins : ∀ ra rb, (ra, rb) ∈ Lib.withSwaps (a.ospfPeers.filter fun p => p.1 ≠ p.2) ↔
      ∃ b c, Joins store ts ra rb b c ∨ Joins store ts rb ra b c := by
    intro ra rb
    rw [Lib.mem_withSwaps, Prod.swap_prod_mk, mem_ospfPeers, mem_ospfPeers]
    constructor
    · rintro (⟨b, c, h⟩ | ⟨b, c, h⟩)
      · exact ⟨b, c, .inl h⟩
      · exact ⟨b, c, .inr h⟩
    · rintro ⟨b, c, h | h⟩
      · exact .inl ⟨b, c, h⟩
      · exact .inr ⟨b, c, h⟩
  rw [mem_edgeIndex (by decide), pairsOf_edges]
  constructor
  · rintro ⟨⟨ra, rb⟩, hp, hq⟩
    exact ⟨ra, rb, (hjoins ra rb).mp hp, indexPair_eq_some_iff.mp hq⟩
  · rintro ⟨ra, rb, hp, hq⟩
    exact ⟨(ra, rb), (hjoins ra rb).mpr hp, indexPair_eq_some_iff.mpr hq⟩

/-- Two interfaces that share a link join their routers. -/
theorem joins_of_link (hshared : LinksShared store ts) {b c : PhysicalInterface}
    (hb : b ∈ validRows store ts .physicalInterface)
    (hc : c ∈ validRows store ts .physicalInterface) (hlink : (b.id, c.id) ∈ linkRows store ts)
    (hrouters : ∀ id ∈ [b.routerId, c.routerId],
      ∃ r ∈ validRows store ts .physicalRouter, r.id = id) (hne : b.routerId ≠ c.routerId) :
    Joins store ts b.routerId c.routerId b.id c.id := by
  obtain ⟨hlt, l, h1, h2⟩ := mem_linkRows.mp hlink
  obtain ⟨pl, hpl, rfl⟩ := hshared.valid _ h1
  exact
    { link := ⟨pl, hpl, h1, h2⟩
      lt := hlt
      source := ⟨b, hb, rfl, rfl⟩
      target := ⟨c, hc, rfl, rfl⟩
      routers := hrouters
      ne := hne }

/-- **Connected interfaces of two routers** join them, and their ids are not those of sessions. -/
theorem joins_of_connected (hshared : LinksShared store ts) (hij : i ≠ j)
    (hi : (i, x) ∈ (learnedGraph parse a rows).edgeIndex .hasInterface)
    (hj : (j, y) ∈ (learnedGraph parse a rows).edgeIndex .hasInterface)
    (hxy : (x, y) ∈ (learnedGraph parse a rows).edgeIndex .connectedTo) :
    ∃ ra rb, (numbers parse a rows).index .router ra = some i ∧
      (numbers parse a rows).index .router rb = some j ∧
        ∃ b c, (Joins store ts ra rb b c ∨ Joins store ts rb ra b c) ∧
          ¬ IsSession store ts b ∧ ¬ IsSession store ts c := by
  obtain ⟨b, hb, hbrouter, hbx⟩ := mem_hasInterface.mp hi
  obtain ⟨c, hc, hcrouter, hcy⟩ := mem_hasInterface.mp hj
  obtain ⟨b', c', hlink, hbx', hcy'⟩ := mem_connectedTo.mp hxy
  obtain rfl : b' = b.id := index_injective hbx' hbx
  obtain rfl : c' = c.id := index_injective hcy' hcy
  have hb' := (index_router_iff.mp ⟨_, hbrouter⟩).router
  have hc' := (index_router_iff.mp ⟨_, hcrouter⟩).router
  have hbsession := (index_interface_iff.mp ⟨_, hbx⟩).2
  have hcsession := (index_interface_iff.mp ⟨_, hcy⟩).2
  have hne : b.routerId ≠ c.routerId := fun heq =>
    hij (Option.some.inj (hbrouter.symm.trans (heq ▸ hcrouter)))
  refine ⟨b.routerId, c.routerId, hbrouter, hcrouter, ?_⟩
  rcases hlink with hlink | hlink
  · have hjoins := joins_of_link hshared hb hc hlink (by simpa using ⟨hb', hc'⟩) hne
    exact ⟨b.id, c.id, .inl hjoins, hbsession, hcsession⟩
  · have hjoins := joins_of_link hshared hc hb hlink (by simpa using ⟨hc', hb'⟩) hne.symm
    exact ⟨c.id, b.id, .inr hjoins, hcsession, hbsession⟩

/-- A link that joins two routers connects their interfaces. -/
theorem connected_of_joins {ra rb b c : String} (hjoins : Joins store ts ra rb b c)
    (hb : ¬ IsSession store ts b) (hc : ¬ IsSession store ts c)
    (hi : (numbers parse a rows).index .router ra = some i)
    (hj : (numbers parse a rows).index .router rb = some j) :
    ∃ x y, (i, x) ∈ (learnedGraph parse a rows).edgeIndex .hasInterface ∧
      (j, y) ∈ (learnedGraph parse a rows).edgeIndex .hasInterface ∧
        (x, y) ∈ (learnedGraph parse a rows).edgeIndex .connectedTo ∧
          (y, x) ∈ (learnedGraph parse a rows).edgeIndex .connectedTo := by
  obtain ⟨row, hrow, rfl, rfl⟩ := hjoins.source
  obtain ⟨row', hrow', rfl, rfl⟩ := hjoins.target
  obtain ⟨l, -, h1, h2⟩ := hjoins.link
  have hlink : (row.id, row'.id) ∈ linkRows store ts := mem_linkRows.mpr ⟨hjoins.lt, l.id, h1, h2⟩
  obtain ⟨x, hx⟩ := (@index_interface_iff store ts parse a rows _).mpr ⟨⟨row, hrow, rfl⟩, hb⟩
  obtain ⟨y, hy⟩ := (@index_interface_iff store ts parse a rows _).mpr ⟨⟨row', hrow', rfl⟩, hc⟩
  exact ⟨x, y, mem_hasInterface.mpr ⟨row, hrow, hi, hx⟩, mem_hasInterface.mpr ⟨row', hrow', hj, hy⟩,
    mem_connectedTo.mpr ⟨_, _, .inl hlink, hx, hy⟩, mem_connectedTo.mpr ⟨_, _, .inr hlink, hy, hx⟩⟩

/-- **OSPF peers have connected interfaces**, and only they, exactly when joins are shown. -/
theorem ospf_iff_joinsShown (hshared : LinksShared store ts) :
    (∀ i j, i ≠ j → ((i, j) ∈ (learnedGraph parse a rows).edgeIndex .ospfPeer ↔
      ∃ x y, (i, x) ∈ (learnedGraph parse a rows).edgeIndex .hasInterface ∧
        (j, y) ∈ (learnedGraph parse a rows).edgeIndex .hasInterface ∧
          (x, y) ∈ (learnedGraph parse a rows).edgeIndex .connectedTo)) ↔
    JoinsShown store ts := by
  constructor
  · intro h ra rb hra hrb b c hjoins
    obtain ⟨i, hi⟩ := (@index_router_iff store ts parse a rows ra).mpr hra
    obtain ⟨j, hj⟩ := (@index_router_iff store ts parse a rows rb).mpr hrb
    have hij : i ≠ j := fun heq => hjoins.ne (index_injective hi (heq ▸ hj))
    obtain ⟨x, y, hix, hjy, hxy⟩ :=
      (h i j hij).mp (mem_ospfPeer.mpr ⟨ra, rb, ⟨b, c, .inl hjoins⟩, hi, hj⟩)
    obtain ⟨ra', rb', hi', hj', b', c', hjoins', hb', hc'⟩ :=
      joins_of_connected hshared hij hix hjy hxy
    obtain rfl : ra' = ra := index_injective hi' hi
    obtain rfl : rb' = rb := index_injective hj' hj
    exact ⟨b', c', hjoins', hb', hc'⟩
  · intro h i j hij
    constructor
    · intro hospf
      obtain ⟨ra, rb, ⟨b, c, hjoins⟩, hi, hj⟩ := mem_ospfPeer.mp hospf
      have hra := index_router_iff.mp ⟨_, hi⟩
      have hrb := index_router_iff.mp ⟨_, hj⟩
      have hshown : ∃ b' c', (Joins store ts ra rb b' c' ∨ Joins store ts rb ra b' c') ∧
          ¬ IsSession store ts b' ∧ ¬ IsSession store ts c' := by
        rcases hjoins with hjoins | hjoins
        · exact h ra rb hra hrb b c hjoins
        · obtain ⟨b', c', hjoins', hsessions⟩ := h rb ra hrb hra b c hjoins
          exact ⟨b', c', hjoins'.symm, hsessions⟩
      obtain ⟨b', c', hjoins' | hjoins', hb', hc'⟩ := hshown
      · obtain ⟨x, y, hx, hy, hxy, -⟩ := connected_of_joins hjoins' hb' hc' hi hj
        exact ⟨x, y, hx, hy, hxy⟩
      · obtain ⟨x, y, hx, hy, -, hyx⟩ := connected_of_joins hjoins' hb' hc' hj hi
        exact ⟨y, x, hy, hx, hyx⟩
    · rintro ⟨x, y, hix, hjy, hxy⟩
      obtain ⟨ra, rb, hi, hj, b, c, hjoins, -⟩ := joins_of_connected hshared hij hix hjy hxy
      exact mem_ospfPeer.mpr ⟨ra, rb, ⟨b, c, hjoins⟩, hi, hj⟩

end Ospf

/-! ## The learned graph -/

/-- **The learned graph is consistent** exactly when routers are joined in one order of their
interfaces, and by interfaces whose ids are not those of sessions. -/
theorem consistent_iff (hwf : ∀ n, Scd.WellFormed Row.key now (store.db n))
    (hshared : LinksShared store ts) (parse : Option String → ℚ) (a : Answers store ts)
    (rows : List MetricsRow) :
    Consistent (processSnapshot (fetchSnapshot parse a rows)) ↔
      OneOrder store ts ∧ JoinsShown store ts := by
  constructor
  · intro h
    exact ⟨nodup_ospfPeer_iff.mp (h.nodup .ospfPeer (by decide)),
      (ospf_iff_joinsShown hshared).mp h.ospf⟩
  · rintro ⟨horder, hshown⟩
    have hsame : ∀ et ∈ [EdgeType.connectedTo, .ospfPeer, .bgpPeer],
        et ∈ edgeTypes ∧ et.target = et.source := by decide
    constructor
    · exact fun et het p hp => bounds_learnedGraph het hp
    · intro et het
      by_cases hospf : et.relation = .ospfPeer
      · have honly : ∀ et ∈ edgeTypes, et.relation = .ospfPeer → et = .ospfPeer := by decide
        rw [honly et het hospf]
        exact nodup_ospfPeer_iff.mpr horder
      · exact nodup_edgeIndex het (nodup_pairsOf hwf hshared hospf)
    · intro p
      refine mem_edgeIndex_swap (by decide) (by decide) rfl rfl ?_
      rw [pairsOf_edges, pairsOf_edges]
      exact pairs_interfaceOf a
    · intro p
      refine mem_edgeIndex_swap (by decide) (by decide) rfl rfl ?_
      rw [pairsOf_edges, pairsOf_edges]
      exact pairs_hostsSession a
    · intro et het p hp
      obtain ⟨l, hl, -⟩ := @exists_withSwaps store ts a et het
      have hindex := @edgeIndex_withSwaps store ts parse a rows et l (hsame et het).1
        (hsame et het).2 hl
      unfold learnedGraph at hindex
      rw [hindex] at hp ⊢
      exact Lib.swap_mem_withSwaps.mpr hp
    · intro et het p hp
      obtain ⟨l, hl, hne⟩ := @exists_withSwaps store ts a et het
      exact ne_of_mem_edgeIndex (hsame et het).1 (hsame et het).2 hl hne hp
    · exact (ospf_iff_joinsShown hshared).mpr hshown

/-! ## Two links between two routers -/

section Cabled

def routerOf (id name : String) : PhysicalRouter :=
  { id := id
    name := name
    vendor := none
    model := none
    locationCity := none
    locationLat := none
    locationLon := none
    role := some "PE"
    status := some "Running"
    config := none }

def interfaceOf (id router name : String) : PhysicalInterface :=
  { id := id
    routerId := router
    name := name
    speed := some "1G"
    mediaType := none
    ipAddress := none
    macAddress := none
    status := some "UP" }

/-- Two routers with two interfaces each, and two links. -/
def cabled (edges : List InterfaceLink) : Store where
  db
    | .physicalRouter =>
      [routerOf "router:pe1" "pe1", routerOf "router:pe2" "pe2"].map fun r => ⟨r, 1, none⟩
    | .physicalInterface =>
      [interfaceOf "if1" "router:pe1" "eth1", interfaceOf "if2" "router:pe2" "eth1",
        interfaceOf "if3" "router:pe2" "eth2", interfaceOf "if4" "router:pe1" "eth2"].map
          fun i => ⟨i, 1, none⟩
    | .physicalLink =>
      [PhysicalLink.mk "link:a" none none none none, ⟨"link:b", none, none, none, none⟩].map
        fun l => ⟨l, 1, none⟩
    | .interfaceLink => edges.map fun e => ⟨e, 1, none⟩
    | _ => []
  bgpPeering := []

theorem wellFormed_cabled {edges : List InterfaceLink}
    (h : (edges.map (@Row.key .interfaceLink)).Nodup) (n : TableName) :
    Scd.WellFormed Row.key 3 ((cabled edges).db n) := by
  cases n with
  | physicalRouter => exact Scd.wellFormed_open (by decide) (by decide +kernel)
  | physicalInterface => exact Scd.wellFormed_open (by decide) (by decide +kernel)
  | physicalLink => exact Scd.wellFormed_open (by decide) (by decide +kernel)
  | interfaceLink => exact Scd.wellFormed_open (by decide) h
  | _ => exact Scd.wellFormed_nil 3

/-- The second link has its interfaces in the other order of the routers. -/
def bothLinks : List InterfaceLink :=
  [⟨"if1", "link:a"⟩, ⟨"if2", "link:a"⟩, ⟨"if3", "link:b"⟩, ⟨"if4", "link:b"⟩]

/-- Two interfaces of which each is at one link share one at most. -/
theorem linksShared_cabled {edges : List InterfaceLink}
    (hvalid : ∀ e ∈ edges, e.linkId = "link:a" ∨ e.linkId = "link:b")
    (honce : (edges.map InterfaceLink.interfaceId).Nodup) : LinksShared (cabled edges) 2 := by
  have hrows : validRows (cabled edges) 2 .interfaceLink = edges := by
    have hall : ((cabled edges).db .interfaceLink).filter (fun v => v.ValidAt 2) =
        (cabled edges).db .interfaceLink := by
      refine List.filter_eq_self.mpr fun v hv => ?_
      obtain ⟨e, -, rfl⟩ := List.mem_map.mp hv
      exact decide_eq_true ⟨Nat.le_succ 1, fun _ h => by cases h⟩
    unfold validRows validIn Scd.asOf
    rw [hall, List.map_map]
    exact List.map_map.trans (List.map_id _)
  constructor
  · intro e he
    rw [hrows] at he
    have hlinks : (validRows (cabled edges) 2 .physicalLink).map PhysicalLink.id =
        ["link:a", "link:b"] := rfl
    have hid : e.linkId ∈ (validRows (cabled edges) 2 .physicalLink).map PhysicalLink.id := by
      rw [hlinks]
      simpa using hvalid e he
    exact List.mem_map.mp hid
  · intro a b l l' _ ha _ ha' _
    rw [hrows] at ha ha'
    exact congrArg InterfaceLink.linkId (List.inj_on_of_nodup_map honce ha ha' rfl)

/-- Both links make each router twice a peer of the other. -/
theorem bothLinks_twice : ¬ ∀ (store : Store) (ts now : Timestamp) (parse : Option String → ℚ)
    (a : Answers store ts) (rows : List MetricsRow),
    (∀ n, Scd.WellFormed Row.key now (store.db n)) → LinksShared store ts →
      Consistent (processSnapshot (fetchSnapshot parse a rows)) := by
  intro h
  have hconsistent := h (cabled bothLinks) 2 3 (fun _ => 0) (stored (cabled bothLinks) 2) []
    (wellFormed_cabled (by decide)) (linksShared_cabled (by decide) (by decide))
  exact absurd (hconsistent.nodup .ospfPeer (by decide)) (by decide +kernel)

/-- The first link joins the routers in one order. -/
theorem joins_oneLink {ra rb b c : String}
    (h : Joins (cabled (bothLinks.take 2)) 2 ra rb b c) :
    ra = "router:pe1" ∧ rb = "router:pe2" := by
  have hrows : ospfRows (cabled (bothLinks.take 2)) 2 = [("router:pe1", "router:pe2")] := by
    decide +kernel
  have hmem := mem_ospfRows.mpr ⟨b, c, h⟩
  rw [hrows] at hmem
  exact Prod.mk.inj (List.mem_singleton.mp hmem)

/-- One of the links makes them peers once. -/
theorem oneLink_consistent : Consistent (processSnapshot
    (fetchSnapshot (fun _ => 0) (stored (cabled (bothLinks.take 2)) 2) [])) := by
  refine (consistent_iff (wellFormed_cabled (by decide))
    (linksShared_cabled (by decide) (by decide)) _ (stored _ 2) []).mpr ⟨?_, ?_⟩
  · intro ra rb _ _ b c hjoins b' c' hjoins'
    have hrouters := (joins_oneLink hjoins).1.symm.trans (joins_oneLink hjoins').2
    exact absurd hrouters (by decide)
  · intro ra rb _ _ b c hjoins
    have hnone : ∀ id, ¬ IsSession (cabled (bothLinks.take 2)) 2 id := by
      rintro id ⟨s, hs, -⟩
      cases hs
    exact ⟨b, c, .inl hjoins, hnone b, hnone c⟩

end Cabled

end GnnSandbox.Gnn.Fetch
