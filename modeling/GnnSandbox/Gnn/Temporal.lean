import Mathlib.Algebra.BigOperators.Group.List.Basic
import Mathlib.Algebra.Field.Rat
import Mathlib.Algebra.Order.Ring.Rat
import Mathlib.Data.List.Nodup
import GnnSandbox.Gnn.Timestamps

/-!
# Temporal features

`compute_temporal_features` walks over the snapshots and fills in how each node differs from the
node of the same id in the snapshot before, whose dictionaries it has already changed.

1. `computeTemporalFeatures`: the walk, with the index of the changed snapshot.
2. `computeTemporalFeatures_eq`: the same with the snapshots as they were.
3. `temporal`: what follows for lists of snapshots.
-/

namespace GnnSandbox.Gnn

inductive NodeType where
  | router
  | interface
  | bgpSession
deriving DecidableEq

namespace Temporal

/-! ## Snapshots -/

/-- A node dictionary: the keys that are read and those that are filled in. -/
structure Node where
  id : String
  type : NodeType
  rxErrsRate : Option ℚ := none
  pfxCountRaw : Option ℚ := none
  validStartTs : Option String := none
  rxErrGradient : Option ℚ := none
  prefixCountDelta : Option ℚ := none
  sessionUptimeNorm : Option ℚ := none
deriving DecidableEq

structure Snapshot where
  timestamp : String
  nodes : List Node
deriving DecidableEq

/-- `_index`: a later node replaces an earlier one of the same id. -/
def index (snap : Snapshot) (nid : String) : Option Node :=
  snap.nodes.reverse.find? fun n => n.id = nid

/-! ## The walk -/

section Walk

variable (fromisoformat : String → Option Datetime) (intervalSeconds : ℚ)

/-- The rate of change of the error rate. -/
def rxErrGradient (node prev : Node) : ℚ :=
  if 0 < intervalSeconds then
    (node.rxErrsRate.getD 0 - prev.rxErrsRate.getD 0) / intervalSeconds
  else 0

def prefixCountDelta (node prev : Node) : ℚ := node.pfxCountRaw.getD 0 - prev.pfxCountRaw.getD 0

/-- The age of a session in days, between 0 and 1; whatever is raised on the way gives 0. -/
def sessionUptimeNorm (snapTs : Datetime) (validStartTs : Option String) : ℚ :=
  match validStartTs with
  | none => 0
  | some vsStr =>
    if vsStr = "" then 0
    else
      match (fromisoformat vsStr).bind snapTs.minus with
      | none => 0
      | some micros => min (max (micros / 1000000 / 86400 : ℚ) 0) 1

/-- What is filled in for a node of the snapshot with number `snapI`. -/
def updateNode (snapI : ℕ) (prevIdx : String → Option Node) (snapTs : Datetime) (node : Node) :
    Node :=
  match node.type with
  | .interface =>
    { node with
      rxErrGradient := some <|
        match prevIdx node.id with
        | some prev => if 0 < snapI then rxErrGradient intervalSeconds node prev else 0
        | none => 0 }
  | .bgpSession =>
    { node with
      prefixCountDelta := some <|
        match prevIdx node.id with
        | some prev => if 0 < snapI then prefixCountDelta node prev else 0
        | none => 0
      sessionUptimeNorm := some (sessionUptimeNorm fromisoformat snapTs node.validStartTs) }
  | .router => node

def updateNodes (snapI : ℕ) (prevIdx : String → Option Node) (snapTs : Datetime)
    (snap : Snapshot) : Snapshot :=
  { snap with
    nodes := snap.nodes.map (updateNode fromisoformat intervalSeconds snapI prevIdx snapTs) }

/-- The loop; it raises at a timestamp that cannot be read. -/
def walk : ℕ → (String → Option Node) → List Snapshot → Option (List Snapshot)
  | _, _, [] => some []
  | snapI, prevIdx, snap :: snaps =>
    (fromisoformat snap.timestamp).bind fun snapTs =>
      let snap' := updateNodes fromisoformat intervalSeconds snapI prevIdx snapTs snap
      (walk (snapI + 1) (index snap') snaps).map (snap' :: ·)

def computeTemporalFeatures : List Snapshot → Option (List Snapshot)
  | [] => some []
  | snap :: snaps => walk fromisoformat intervalSeconds 0 (index snap) (snap :: snaps)

end Walk

/-! ## What is asked of the features -/

/-- The same nodes in any order. -/
structure SameNodes (s s' : Snapshot) : Prop where
  timestamp : s.timestamp = s'.timestamp
  nodes : s.nodes.Perm s'.nodes

/-- A dictionary value of the node with this id. -/
def value (field : Node → Option ℚ) (nid : String) (snap : Snapshot) : ℚ :=
  ((index snap nid).bind field).getD 0

/-- The features of each snapshot depend on the one before only. -/
structure Pairwise (compute : List Snapshot → Option (List Snapshot))
    (snaps out : List Snapshot) : Prop where
  pair : ∀ i s s', snaps[i]? = some s → snaps[i + 1]? = some s' →
    ∃ first second, compute [s, s'] = some [first, second] ∧ out[i + 1]? = some second
  unordered : ∀ snaps', List.Forall₂ SameNodes snaps snaps' →
    ∃ out', compute snaps' = some out' ∧ List.Forall₂ SameNodes out out'
  absent : ∀ i s s', snaps[i]? = some s → out[i + 1]? = some s' → ∀ node ∈ s'.nodes,
    (∀ prev ∈ s.nodes, prev.id ≠ node.id) →
    (node.type = .interface → node.rxErrGradient = some 0) ∧
    (node.type = .bgpSession → node.prefixCountDelta = some 0)
  telescopes : ∀ first last nid, snaps.head? = some first → snaps.getLast? = some last →
    (∀ s ∈ snaps, ∃ node ∈ s.nodes, node.id = nid ∧ node.type = .bgpSession) →
    (out.map (value Node.prefixCountDelta nid)).sum =
      value Node.pfxCountRaw nid last - value Node.pfxCountRaw nid first
  uptime : ∀ s ∈ out, ∀ node ∈ s.nodes, node.type = .bgpSession →
    ∃ u, node.sessionUptimeNorm = some u ∧ 0 ≤ u ∧ u ≤ 1
  again : compute out = some out

/-! ## Indices -/

variable {s s' : Snapshot} {nid : String} {node prev : Node}

/-- The ids of a snapshot's nodes are unique. -/
def UniqueIds (s : Snapshot) : Prop := (s.nodes.map Node.id).Nodup

theorem mem_of_index (h : index s nid = some node) : node ∈ s.nodes ∧ node.id = nid := by
  have hfind : (s.nodes.reverse.find? fun n : Node => n.id = nid) = some node := h
  exact ⟨List.mem_reverse.mp (List.mem_of_find?_eq_some hfind),
    of_decide_eq_true (List.find?_some hfind :)⟩

theorem index_eq_some_iff (h : UniqueIds s) :
    index s nid = some node ↔ node ∈ s.nodes ∧ node.id = nid := by
  refine ⟨mem_of_index, ?_⟩
  rintro ⟨hmem, hid⟩
  cases hindex : index s nid with
  | none =>
    have hnone := List.find?_eq_none.mp hindex node (List.mem_reverse.mpr hmem)
    exact absurd (decide_eq_true hid) hnone
  | some found =>
    obtain ⟨hmem', hfound⟩ := mem_of_index hindex
    rw [List.inj_on_of_nodup_map h hmem' hmem (hfound.trans hid.symm)]

theorem index_eq_none (h : ∀ node ∈ s.nodes, node.id ≠ nid) : index s nid = none :=
  List.find?_eq_none.mpr fun node hmem =>
    fun hid => h node (List.mem_reverse.mp hmem) (of_decide_eq_true hid)

theorem SameNodes.uniqueIds (h : SameNodes s s') (hs : UniqueIds s) : UniqueIds s' :=
  (h.nodes.map Node.id).nodup_iff.mp hs

/-- The index does not depend on the order of the nodes. -/
theorem SameNodes.index_eq (h : SameNodes s s') (hs : UniqueIds s) : index s' = index s := by
  funext nid
  ext node
  rw [index_eq_some_iff (h.uniqueIds hs), index_eq_some_iff hs, h.nodes.mem_iff]

section Walk

variable {fromisoformat : String → Option Datetime} {intervalSeconds : ℚ} {snapI : ℕ}
  {prevIdx prevIdx' : String → Option Node} {snapTs : Datetime}

@[simp] theorem updateNode_id :
    (updateNode fromisoformat intervalSeconds snapI prevIdx snapTs node).id = node.id := by
  unfold updateNode
  split <;> rfl

@[simp] theorem updateNode_type :
    (updateNode fromisoformat intervalSeconds snapI prevIdx snapTs node).type = node.type := by
  unfold updateNode
  split <;> rfl

theorem index_updateNodes :
    index (updateNodes fromisoformat intervalSeconds snapI prevIdx snapTs s) nid =
      (index s nid).map (updateNode fromisoformat intervalSeconds snapI prevIdx snapTs) := by
  unfold index updateNodes
  rw [← List.map_reverse, List.find?_map]
  congr 2
  funext node
  simp

/-- What is read of a previous node. -/
def reads (node : Node) : ℚ × ℚ := (node.rxErrsRate.getD 0, node.pfxCountRaw.getD 0)

/-- **Nothing that is read has been filled in.** -/
@[simp] theorem reads_updateNode :
    reads (updateNode fromisoformat intervalSeconds snapI prevIdx snapTs node) = reads node := by
  unfold updateNode
  split <;> rfl

/-- Two indices that read the same. -/
def SameReads (prevIdx prevIdx' : String → Option Node) : Prop :=
  ∀ nid, (prevIdx nid).map reads = (prevIdx' nid).map reads

theorem sameReads_updateNodes :
    SameReads (index (updateNodes fromisoformat intervalSeconds snapI prevIdx snapTs s))
      (index s) := by
  intro nid
  rw [index_updateNodes, Option.map_map]
  exact congrArg (Option.map · _) (funext fun node => reads_updateNode)

theorem updateNode_congr (h : SameReads prevIdx prevIdx') :
    updateNode fromisoformat intervalSeconds snapI prevIdx snapTs node =
      updateNode fromisoformat intervalSeconds snapI prevIdx' snapTs node := by
  have hread := h node.id
  unfold updateNode
  cases hprev : prevIdx node.id with
  | none =>
    rw [hprev, Option.map_none, eq_comm, Option.map_eq_none_iff] at hread
    rw [hread]
  | some prev =>
    rw [hprev, Option.map_some, eq_comm, Option.map_eq_some_iff] at hread
    obtain ⟨prev', hprev', hreads⟩ := hread
    obtain ⟨herrs, hpfx⟩ := Prod.mk.inj hreads
    rw [hprev']
    dsimp only
    unfold rxErrGradient prefixCountDelta
    rw [herrs, hpfx]

/-- The first snapshot has no previous nodes. -/
theorem updateNode_zero : updateNode fromisoformat intervalSeconds 0 prevIdx snapTs node =
    updateNode fromisoformat intervalSeconds 1 (fun _ => none) snapTs node := by
  unfold updateNode
  cases prevIdx node.id <;> rfl

theorem updateNode_succ : updateNode fromisoformat intervalSeconds (snapI + 1) prevIdx snapTs node =
    updateNode fromisoformat intervalSeconds 1 prevIdx snapTs node := by
  unfold updateNode
  cases prevIdx node.id <;> simp only [Nat.succ_pos, if_true, Nat.lt_one_iff]

end Walk

/-! ## The features of a pair -/

section Pairs

variable (fromisoformat : String → Option Datetime) (intervalSeconds : ℚ)

def prevIndex : Option Snapshot → String → Option Node
  | none => fun _ => none
  | some prev => index prev

/-- A snapshot with its features, from the previous one as it was. -/
def refresh (prev : Option Snapshot) (snap : Snapshot) : Option Snapshot :=
  (fromisoformat snap.timestamp).map fun snapTs =>
    updateNodes fromisoformat intervalSeconds 1 (prevIndex prev) snapTs snap

def refreshAll : Option Snapshot → List Snapshot → Option (List Snapshot)
  | _, [] => some []
  | prev, snap :: snaps =>
    (refresh fromisoformat intervalSeconds prev snap).bind fun snap' =>
      (refreshAll (some snap) snaps).map (snap' :: ·)

variable {fromisoformat intervalSeconds} {snapI : ℕ} {prevIdx : String → Option Node}
  {snaps out : List Snapshot} {p p' : Option Snapshot}

theorem walk_succ {prev : Snapshot} (h : SameReads prevIdx (index prev)) :
    walk fromisoformat intervalSeconds (snapI + 1) prevIdx snaps =
      refreshAll fromisoformat intervalSeconds (some prev) snaps := by
  induction snaps generalizing snapI prevIdx prev with
  | nil => rfl
  | cons snap snaps ih =>
    have hnodes : ∀ snapTs,
        updateNodes fromisoformat intervalSeconds (snapI + 1) prevIdx snapTs snap =
          updateNodes fromisoformat intervalSeconds 1 (index prev) snapTs snap := by
      intro snapTs
      unfold updateNodes
      congr 2
      funext node
      rw [updateNode_succ, updateNode_congr h]
    rw [walk, refreshAll, refresh, Option.bind_map]
    congr 1
    funext snapTs
    dsimp only [Function.comp_apply]
    rw [hnodes, ih sameReads_updateNodes]
    rfl

/-- **The changed snapshots read like the original ones.** -/
theorem computeTemporalFeatures_eq : computeTemporalFeatures fromisoformat intervalSeconds snaps =
    refreshAll fromisoformat intervalSeconds none snaps := by
  cases snaps with
  | nil => rfl
  | cons snap snaps =>
    have hnodes : ∀ snapTs, updateNodes fromisoformat intervalSeconds 0 (index snap) snapTs snap =
        updateNodes fromisoformat intervalSeconds 1 (fun _ => none) snapTs snap := by
      intro snapTs
      unfold updateNodes
      congr 2
      funext node
      exact updateNode_zero
    rw [computeTemporalFeatures, walk, refreshAll, refresh, Option.bind_map]
    congr 1
    funext snapTs
    dsimp only [Function.comp_apply]
    rw [hnodes, walk_succ sameReads_updateNodes]
    rfl

/-- What the snapshots become, one by one. -/
theorem refreshAll_cons {snap : Snapshot} :
    refreshAll fromisoformat intervalSeconds p (snap :: snaps) = some out ↔
      ∃ snap' snaps', refresh fromisoformat intervalSeconds p snap = some snap' ∧
        refreshAll fromisoformat intervalSeconds (some snap) snaps = some snaps' ∧
        out = snap' :: snaps' := by
  rw [refreshAll, Option.bind_eq_some_iff]
  constructor
  · rintro ⟨snap', hsnap, hrest⟩
    obtain ⟨snaps', hsnaps, rfl⟩ := Option.map_eq_some_iff.mp hrest
    exact ⟨snap', snaps', hsnap, hsnaps, rfl⟩
  · rintro ⟨snap', snaps', hsnap, hsnaps, rfl⟩
    exact ⟨snap', hsnap, Option.map_eq_some_iff.mpr ⟨snaps', hsnaps, rfl⟩⟩

theorem refresh_eq_some_iff : refresh fromisoformat intervalSeconds p s = some s' ↔
    ∃ snapTs, fromisoformat s.timestamp = some snapTs ∧
      updateNodes fromisoformat intervalSeconds 1 (prevIndex p) snapTs s = s' :=
  Option.map_eq_some_iff

/-- A snapshot after the first, with the one before. -/
theorem getElem_refreshAll {i : ℕ} (h : refreshAll fromisoformat intervalSeconds p snaps = some out)
    (hs : snaps[i]? = some s) (hs' : snaps[i + 1]? = some s') :
    ∃ first second, refresh fromisoformat intervalSeconds none s = some first ∧
      refresh fromisoformat intervalSeconds (some s) s' = some second ∧
      out[i + 1]? = some second := by
  induction snaps generalizing p out i with
  | nil => cases hs
  | cons snap snaps ih =>
    obtain ⟨snap', snaps', hsnap, hsnaps, rfl⟩ := refreshAll_cons.mp h
    cases i with
    | zero =>
      obtain rfl := Option.some.inj hs
      obtain ⟨snapTs, hts, -⟩ := refresh_eq_some_iff.mp hsnap
      cases snaps with
      | nil => cases hs'
      | cons next snaps =>
        obtain rfl := Option.some.inj hs'
        obtain ⟨second, rest, hsecond, -, rfl⟩ := refreshAll_cons.mp hsnaps
        exact ⟨_, second, refresh_eq_some_iff.mpr ⟨snapTs, hts, rfl⟩, hsecond, rfl⟩
    | succ i =>
      rw [List.getElem?_cons_succ] at hs hs' ⊢
      exact ih hsnaps hs hs'

theorem refreshAll_pair {first second : Snapshot}
    (hfirst : refresh fromisoformat intervalSeconds none s = some first)
    (hsecond : refresh fromisoformat intervalSeconds (some s) s' = some second) :
    refreshAll fromisoformat intervalSeconds none [s, s'] = some [first, second] :=
  refreshAll_cons.mpr ⟨first, [second], hfirst,
    refreshAll_cons.mpr ⟨second, [], hsecond, rfl, rfl⟩, rfl⟩

/-- The features follow a node wherever it is in the list. -/
theorem refreshAll_perm {snaps' : List Snapshot}
    (h : refreshAll fromisoformat intervalSeconds p snaps = some out)
    (hsame : List.Forall₂ SameNodes snaps snaps') (hunique : ∀ s ∈ snaps, UniqueIds s)
    (hprev : prevIndex p' = prevIndex p) :
    ∃ out', refreshAll fromisoformat intervalSeconds p' snaps' = some out' ∧
      List.Forall₂ SameNodes out out' := by
  induction hsame generalizing p p' out with
  | nil =>
    obtain rfl := Option.some.inj h
    exact ⟨[], rfl, List.Forall₂.nil⟩
  | @cons snap other snaps others hother _ ih =>
    obtain ⟨snap', snaps', hsnap, hsnaps, rfl⟩ := refreshAll_cons.mp h
    obtain ⟨snapTs, hts, rfl⟩ := refresh_eq_some_iff.mp hsnap
    have hindex : prevIndex (some other) = prevIndex (some snap) :=
      hother.index_eq (hunique snap (List.mem_cons_self ..))
    obtain ⟨out', hout', hforall⟩ :=
      ih hsnaps (fun s hs => hunique s (List.mem_cons_of_mem _ hs)) hindex
    refine ⟨_ :: out', refreshAll_cons.mpr ⟨_, out',
      refresh_eq_some_iff.mpr ⟨snapTs, hother.timestamp ▸ hts, rfl⟩, hout', rfl⟩,
      List.Forall₂.cons ?_ hforall⟩
    rw [hprev]
    exact { timestamp := hother.timestamp, nodes := hother.nodes.map _ }

/-- A node of the result, before its features were filled in. -/
theorem mem_refresh (h : refresh fromisoformat intervalSeconds p s = some s')
    (hnode : node ∈ s'.nodes) : ∃ snapTs before, before ∈ s.nodes ∧
      updateNode fromisoformat intervalSeconds 1 (prevIndex p) snapTs before = node := by
  obtain ⟨snapTs, -, rfl⟩ := refresh_eq_some_iff.mp h
  obtain ⟨before, hbefore, hnode⟩ := List.mem_map.mp hnode
  exact ⟨snapTs, before, hbefore, hnode⟩

/-- **A node without a predecessor** has not changed. -/
theorem refresh_absent (h : refresh fromisoformat intervalSeconds p s = some s')
    (hnode : node ∈ s'.nodes) (habsent : prevIndex p node.id = none) :
    (node.type = .interface → node.rxErrGradient = some 0) ∧
    (node.type = .bgpSession → node.prefixCountDelta = some 0) := by
  obtain ⟨snapTs, before, -, rfl⟩ := mem_refresh h hnode
  rw [updateNode_id] at habsent
  rw [updateNode_type]
  unfold updateNode
  rw [habsent]
  constructor
  · intro htype
    rw [htype]
  · intro htype
    rw [htype]

theorem sessionUptimeNorm_mem (snapTs : Datetime) (validStartTs : Option String) :
    0 ≤ sessionUptimeNorm fromisoformat snapTs validStartTs ∧
      sessionUptimeNorm fromisoformat snapTs validStartTs ≤ 1 := by
  unfold sessionUptimeNorm
  split
  · exact ⟨le_rfl, zero_le_one⟩
  · split
    · exact ⟨le_rfl, zero_le_one⟩
    · split
      · exact ⟨le_rfl, zero_le_one⟩
      · exact ⟨le_min (le_max_right ..) zero_le_one, min_le_right ..⟩

theorem refresh_uptime (h : refresh fromisoformat intervalSeconds p s = some s')
    (hnode : node ∈ s'.nodes) (htype : node.type = .bgpSession) :
    ∃ u, node.sessionUptimeNorm = some u ∧ 0 ≤ u ∧ u ≤ 1 := by
  obtain ⟨snapTs, before, -, rfl⟩ := mem_refresh h hnode
  rw [updateNode_type] at htype
  unfold updateNode
  rw [htype]
  exact ⟨_, rfl, sessionUptimeNorm_mem snapTs before.validStartTs⟩

/-- Filling in the features of a node again changes nothing. -/
theorem updateNode_updateNode {prevIdx prevIdx' : String → Option Node} {snapTs : Datetime}
    (h : SameReads prevIdx' prevIdx) :
    updateNode fromisoformat intervalSeconds snapI prevIdx' snapTs
        (updateNode fromisoformat intervalSeconds snapI prevIdx snapTs node) =
      updateNode fromisoformat intervalSeconds snapI prevIdx snapTs node := by
  rw [updateNode_congr h]
  unfold updateNode
  cases htype : node.type with
  | router => simp only [htype]
  | interface => rfl
  | bgpSession => rfl

theorem refreshAll_again (h : refreshAll fromisoformat intervalSeconds p snaps = some out)
    (hprev : SameReads (prevIndex p') (prevIndex p)) :
    refreshAll fromisoformat intervalSeconds p' out = some out := by
  induction snaps generalizing p p' out with
  | nil =>
    obtain rfl := Option.some.inj h
    rfl
  | cons snap snaps ih =>
    obtain ⟨snap', snaps', hsnap, hsnaps, rfl⟩ := refreshAll_cons.mp h
    obtain ⟨snapTs, hts, rfl⟩ := refresh_eq_some_iff.mp hsnap
    refine refreshAll_cons.mpr ⟨_, snaps', refresh_eq_some_iff.mpr ⟨snapTs, hts, ?_⟩,
      ih hsnaps sameReads_updateNodes, rfl⟩
    unfold updateNodes
    rw [List.map_map]
    congr 2
    funext node
    exact updateNode_updateNode hprev

/-- A snapshot in which an id is that of a session. -/
def HasSession (nid : String) (s : Snapshot) : Prop :=
  ∃ node, index s nid = some node ∧ node.type = .bgpSession

theorem value_refresh (h : refresh fromisoformat intervalSeconds p s = some s')
    (hs : HasSession nid s) : value Node.prefixCountDelta nid s' =
      (prevIndex p nid).elim 0 fun prev =>
        value Node.pfxCountRaw nid s - prev.pfxCountRaw.getD 0 := by
  obtain ⟨snapTs, -, rfl⟩ := refresh_eq_some_iff.mp h
  obtain ⟨node, hindex, htype⟩ := hs
  have hid := (mem_of_index hindex).2
  unfold value
  rw [index_updateNodes, hindex]
  dsimp only [Option.map_some, Option.bind_some]
  unfold updateNode
  rw [htype, hid]
  cases prevIndex p nid <;> rfl

/-- The differences add up. -/
theorem sum_refreshAll {before last : Snapshot}
    (h : refreshAll fromisoformat intervalSeconds (some before) snaps = some out)
    (hsession : ∀ s ∈ before :: snaps, HasSession nid s)
    (hlast : (before :: snaps).getLast? = some last) :
    (out.map (value Node.prefixCountDelta nid)).sum =
      value Node.pfxCountRaw nid last - value Node.pfxCountRaw nid before := by
  induction snaps generalizing before out with
  | nil =>
    obtain rfl := Option.some.inj h
    obtain rfl := Option.some.inj hlast
    exact (sub_self _).symm
  | cons snap snaps ih =>
    obtain ⟨snap', snaps', hsnap, hsnaps, rfl⟩ := refreshAll_cons.mp h
    obtain ⟨hbefore, hsession⟩ := List.forall_mem_cons.mp hsession
    rw [List.getLast?_cons_cons] at hlast
    obtain ⟨prev, hprev, -⟩ := hbefore
    have hdelta : value Node.prefixCountDelta nid snap' =
        value Node.pfxCountRaw nid snap - value Node.pfxCountRaw nid before := by
      have hindex : prevIndex (some before) nid = some prev := hprev
      rw [value_refresh hsnap (hsession snap (List.mem_cons_self ..)), hindex]
      unfold value
      rw [hprev]
      rfl
    rw [List.map_cons, List.sum_cons, ih hsnaps hsession hlast, hdelta]
    exact sub_add_sub_cancel' ..

end Pairs

/-! ## Lists of snapshots -/

section Lists

variable {fromisoformat : String → Option Datetime} {intervalSeconds : ℚ} {snaps out : List Snapshot}

/-- The walk does not raise when the timestamps can be read. -/
theorem exists_refreshAll (h : ∀ s ∈ snaps, (fromisoformat s.timestamp).isSome)
    (p : Option Snapshot) :
    ∃ out, refreshAll fromisoformat intervalSeconds p snaps = some out := by
  induction snaps generalizing p with
  | nil => exact ⟨[], rfl⟩
  | cons snap snaps ih =>
    obtain ⟨hsnap, hsnaps⟩ := List.forall_mem_cons.mp h
    obtain ⟨snapTs, hts⟩ := Option.isSome_iff_exists.mp hsnap
    obtain ⟨out, hout⟩ := ih hsnaps (some snap)
    exact ⟨_, refreshAll_cons.mpr ⟨_, out, refresh_eq_some_iff.mpr ⟨snapTs, hts, rfl⟩, hout, rfl⟩⟩

theorem mem_refreshAll {p : Option Snapshot} {s' : Snapshot}
    (h : refreshAll fromisoformat intervalSeconds p snaps = some out) (hs' : s' ∈ out) :
    ∃ p s, refresh fromisoformat intervalSeconds p s = some s' := by
  induction snaps generalizing p out with
  | nil =>
    obtain rfl := Option.some.inj h
    cases hs'
  | cons snap snaps ih =>
    obtain ⟨snap', snaps', hsnap, hsnaps, rfl⟩ := refreshAll_cons.mp h
    rcases List.mem_cons.mp hs' with rfl | hs'
    · exact ⟨p, snap, hsnap⟩
    · exact ih hsnaps hs'

theorem length_refreshAll {p : Option Snapshot}
    (h : refreshAll fromisoformat intervalSeconds p snaps = some out) :
    out.length = snaps.length := by
  induction snaps generalizing p out with
  | nil =>
    obtain rfl := Option.some.inj h
    rfl
  | cons snap snaps ih =>
    obtain ⟨snap', snaps', -, hsnaps, rfl⟩ := refreshAll_cons.mp h
    rw [List.length_cons, List.length_cons, ih hsnaps]

theorem UniqueIds.hasSession {s : Snapshot} {nid : String} (h : UniqueIds s)
    (hs : ∃ node ∈ s.nodes, node.id = nid ∧ node.type = .bgpSession) : HasSession nid s := by
  obtain ⟨node, hmem, hid, htype⟩ := hs
  exact ⟨node, (index_eq_some_iff h).mpr ⟨hmem, hid⟩, htype⟩

/-- **Temporal features are pairwise.** -/
theorem temporal (fromisoformat : String → Option Datetime) (intervalSeconds : ℚ)
    (snaps : List Snapshot) (hunique : ∀ s ∈ snaps, UniqueIds s)
    (hread : ∀ s ∈ snaps, (fromisoformat s.timestamp).isSome) :
    ∃ out, computeTemporalFeatures fromisoformat intervalSeconds snaps = some out ∧
      Pairwise (computeTemporalFeatures fromisoformat intervalSeconds) snaps out := by
  obtain ⟨out, hout⟩ : ∃ out, refreshAll fromisoformat intervalSeconds none snaps = some out :=
    exists_refreshAll hread none
  refine ⟨out, computeTemporalFeatures_eq.trans hout, ?_⟩
  exact
    { pair := by
        intro i s s' hs hs'
        obtain ⟨first, second, hfirst, hsecond, hi⟩ := getElem_refreshAll hout hs hs'
        exact ⟨first, second,
          computeTemporalFeatures_eq.trans (refreshAll_pair hfirst hsecond), hi⟩
      unordered := by
        intro snaps' hsame
        obtain ⟨out', hout', hforall⟩ := refreshAll_perm hout hsame hunique rfl
        exact ⟨out', computeTemporalFeatures_eq.trans hout', hforall⟩
      absent := by
        intro i s s' hs hs' node hnode habsent
        obtain ⟨hlt, -⟩ := List.getElem?_eq_some_iff.mp hs'
        rw [length_refreshAll hout] at hlt
        obtain ⟨-, second, -, hsecond, hi⟩ :=
          getElem_refreshAll hout hs (List.getElem?_eq_getElem hlt)
        obtain rfl := Option.some.inj (hs'.symm.trans hi)
        exact refresh_absent hsecond hnode (index_eq_none habsent)
      telescopes := by
        intro first last nid hfirst hlast hsession
        cases snaps with
        | nil => cases hfirst
        | cons snap snaps =>
          obtain rfl := Option.some.inj hfirst
          have hall : ∀ s ∈ snap :: snaps, HasSession nid s :=
            fun s hs => (hunique s hs).hasSession (hsession s hs)
          obtain ⟨snap', snaps', hsnap, hsnaps, rfl⟩ := refreshAll_cons.mp hout
          rw [List.map_cons, List.sum_cons, sum_refreshAll hsnaps hall hlast,
            value_refresh hsnap (hall snap (List.mem_cons_self ..))]
          exact zero_add _
      uptime := by
        intro s hs node hnode htype
        obtain ⟨p, before, hbefore⟩ := mem_refreshAll hout hs
        exact refresh_uptime hbefore hnode htype
      again := computeTemporalFeatures_eq.trans (refreshAll_again hout fun _ => rfl) }

end Lists

/-- Three snapshots of a session and an interface that comes and goes. -/
def threeSnapshots : List Snapshot :=
  [{ timestamp := "t0", nodes := [{ id := "s", type := .bgpSession, pfxCountRaw := some 3 }] },
    { timestamp := "t1"
      nodes := [{ id := "i", type := .interface, rxErrsRate := some 2 },
        { id := "s", type := .bgpSession, pfxCountRaw := some 5, validStartTs := some "t0" }] },
    { timestamp := "t2"
      nodes := [{ id := "s", type := .bgpSession, pfxCountRaw := some 1, validStartTs := some "t0" },
        { id := "i", type := .interface, rxErrsRate := some 8 }] }]

/-- Times five minutes apart. -/
def readTime (s : String) : Option Datetime :=
  if s = "t0" then some { micros := 0, le_max := Nat.zero_le _ }
  else if s = "t1" then some { micros := 300000000, le_max := by decide }
  else if s = "t2" then some { micros := 600000000, le_max := by decide }
  else none

theorem temporal_threeSnapshots :
    ∃ out, computeTemporalFeatures readTime 300 threeSnapshots = some out ∧
      Pairwise (computeTemporalFeatures readTime 300) threeSnapshots out :=
  temporal readTime 300 threeSnapshots
    (by
      intro s hs
      rcases List.mem_cons.mp hs with rfl | hs
      · exact List.nodup_singleton _
      · rcases List.mem_cons.mp hs with rfl | hs
        · exact (by decide : ["i", "s"].Nodup)
        · obtain rfl := List.mem_singleton.mp hs
          exact (by decide : ["s", "i"].Nodup))
    (by decide +kernel)

example : ((computeTemporalFeatures readTime 300 threeSnapshots).map fun out =>
    out.map (value Node.prefixCountDelta "s")) = some [0, 2, -4] := by
  decide +kernel

end Temporal

end GnnSandbox.Gnn
