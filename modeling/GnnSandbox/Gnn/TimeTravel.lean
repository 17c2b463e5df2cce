import GnnSandbox.Gnn.Processing
import GnnSandbox.Graph.History

/-!
# Training on the past

The model is trained on graphs of past instants, which are fetched long after, and serves a graph
of the present. Both are read by one query. A graph that is fetched later is one that could have
been fetched at its instant, when the rows that are valid were the open ones.

1. `asOf_later`: the store of a later run at the instant, and the open rows at the instant.
2. `Answers.ofSame`: what is made of the rows depends on nothing else.
3. `fetch_later`: the graphs.
-/

namespace GnnSandbox.Gnn

open Graph Scd

/-! ## The store -/

section Store

variable {env : Env} {u : Timestamp}

/-- Everything in the store is past once the calls so far are. -/
theorem past_of_calls {S : Admissible} {w w' : World} (hw : ∀ n, Past u (w.db n))
    (hc : Calls env (Steps S) w w') (hpast : ∀ c < w'.calls, env.commitTs c ≤ u) :
    ∀ n, Past u (w'.db n) := by
  revert hpast
  refine hc.invariant
    (I := fun v => (∀ c < v.calls, env.commitTs c ≤ u) → ∀ n, Past u (v.db n)) ?_ fun _ => hw
  intro v v' hv hcall hpast n
  have hlt : v.calls < v'.calls := by
    rw [hcall.1]
    exact Nat.lt_succ_self _
  exact (hcall.2 n).past (hv (fun c hc => hpast c (hc.trans hlt)) n) (hpast _ hlt)

theorem calls_le_runFrom (env : Env) (w : World) (ops : List Op) :
    w.calls ≤ (runFrom env w ops).calls :=
  runFrom_invariant (I := fun v => w.calls ≤ v.calls)
    (fun op _ _ hle => hle.trans (op.respects_exec env _).calls_le) le_rfl

theorem past_runFrom {w : World} (ops : List Op) (hw : ∀ n, Past u (w.db n))
    (hpast : ∀ c < (runFrom env w ops).calls, env.commitTs c ≤ u) :
    ∀ n, Past u ((runFrom env w ops).db n) := by
  induction ops generalizing w with
  | nil => exact hw
  | cons op ops ih =>
    have hcalls := op.respects_exec env w
    refine ih (past_of_calls hw hcalls fun c hc => hpast c (hc.trans_le ?_)) hpast
    exact calls_le_runFrom env _ ops

/-- A continuation that finds no edge to erase keeps the history before it. -/
theorem historyKept_continued {w₀ w : World} {t : Timestamp} {ops : List Op}
    (hkept : HistoryKept w₀ t w) (hnext : t < env.commitTs w.calls)
    (h : ∀ pre op post, ops = pre ++ op :: post → ErasesNothing (runFrom env w pre) op) :
    HistoryKept w₀ t (runFrom env w ops) := by
  induction ops generalizing w with
  | nil => exact hkept
  | cons op ops ih =>
    obtain ⟨hstep, hlt⟩ := hkept.calls hnext (calls_of_erasesNothing env (h [] op ops rfl))
    exact ih hstep hlt fun pre op' post hpre =>
      h (op :: pre) op' post (congrArg (op :: ·) hpre)

/-- **The past of a later store** is what was open then. -/
theorem asOf_later {ops ops' : List Op} {t : Timestamp}
    (hpast : ∀ c < (run env ops).calls, env.commitTs c ≤ t)
    (hnext : t < env.commitTs (run env ops).calls)
    (h : ∀ pre op post, ops' = pre ++ op :: post → ErasesNothing (run env (ops ++ pre)) op)
    (n : TableName) :
    asOf t ((run env (ops ++ ops')).db n) = current ((run env ops).db n) := by
  have hkept : HistoryKept (run env ops) t (run env (ops ++ ops')) := by
    rw [run_append]
    refine historyKept_continued (HistoryKept.refl _ t) hnext fun pre op post hpre => ?_
    rw [← run_append]
    exact h pre op post hpre
  have hopen := (past_runFrom ops (fun _ _ hv => absurd hv List.not_mem_nil) hpast n).asOf_eq
  exact (hkept n).1.trans hopen

end Store

/-! ## The graph -/

namespace Fetch

section Same

variable {store store' : Store} {ts ts' : Timestamp}

/-- Two stores, each at an instant, in which the same rows are valid. -/
structure Same (store store' : Store) (ts ts' : Timestamp) : Prop where
  rows : ∀ n, validRows store ts n = validRows store' ts' n
  bgpPeering : validIn ts store.bgpPeering = validIn ts' store'.bgpPeering

theorem Same.symm (h : Same store store' ts ts') : Same store' store ts' ts :=
  ⟨fun n => (h.rows n).symm, h.bgpPeering.symm⟩

theorem Same.vrfsOf_eq (h : Same store store' ts ts') : vrfsOf store ts = vrfsOf store' ts' := by
  funext bs
  unfold vrfsOf
  rw [h.rows]

theorem Same.linkRows_eq (h : Same store store' ts ts') :
    linkRows store ts = linkRows store' ts' := by
  unfold linkRows
  rw [h.rows]

theorem Same.ospfRows_eq (h : Same store store' ts ts') :
    ospfRows store ts = ospfRows store' ts' := by
  unfold ospfRows
  rw [h.rows .physicalLink, h.rows .interfaceLink, h.rows .physicalInterface,
    h.rows .physicalRouter]

theorem Same.sessionRows_eq (h : Same store store' ts ts') :
    sessionRows store ts = sessionRows store' ts' := by
  unfold sessionRows
  rw [h.rows, h.vrfsOf_eq]

theorem Same.bgpPeerRows_eq (h : Same store store' ts ts') :
    bgpPeerRows store ts = bgpPeerRows store' ts' := by
  unfold bgpPeerRows
  rw [h.bgpPeering, h.rows, h.vrfsOf_eq]

/-- Answers over one of them are answers over the other. -/
def Answers.ofSame (h : Same store store' ts ts') (a : Answers store ts) : Answers store' ts' where
  routers := a.routers
  interfaces := a.interfaces
  links := a.links
  ospfPeers := a.ospfPeers
  sessions := a.sessions
  bgpPeers := a.bgpPeers
  routers_perm := h.rows .physicalRouter ▸ a.routers_perm
  interfaces_perm := h.rows .physicalInterface ▸ a.interfaces_perm
  links_perm := h.linkRows_eq ▸ a.links_perm
  ospfPeers_perm := h.ospfRows_eq ▸ a.ospfPeers_perm
  sessions_perm := h.sessionRows_eq ▸ a.sessions_perm
  bgpPeers_perm := h.bgpPeerRows_eq ▸ a.bgpPeers_perm

theorem fetchSnapshot_ofSame (h : Same store store' ts ts') (a : Answers store ts)
    (parse : Option String → ℚ) (rows : List MetricsRow) :
    fetchSnapshot parse (a.ofSame h) rows = fetchSnapshot parse a rows := rfl

/-- The snapshots that can be fetched are the same. -/
theorem Same.exists_iff (h : Same store store' ts ts') {parse : Option String → ℚ}
    {rows : List MetricsRow} {snapshot : Snapshot} :
    (∃ a : Answers store ts, fetchSnapshot parse a rows = snapshot) ↔
      ∃ a : Answers store' ts', fetchSnapshot parse a rows = snapshot := by
  constructor
  · rintro ⟨a, rfl⟩
    exact ⟨a.ofSame h, fetchSnapshot_ofSame h a parse rows⟩
  · rintro ⟨a, rfl⟩
    exact ⟨a.ofSame h.symm, fetchSnapshot_ofSame h.symm a parse rows⟩

end Same

/-- **The model trains on graphs that were current.** After a run, and a continuation none of
whose operations finds an edge to erase, the rows that a fetch for an instant between the two
reads are those that were open at the end of the run, and it returns a graph exactly when a fetch
at that instant could have returned it. -/
theorem fetch_later (env : Env) (ops ops' : List Op)
    (bgpPeering : Scd.Table Timestamp BgpPeering) (t : Timestamp)
    (hpast : ∀ c < (run env ops).calls, env.commitTs c ≤ t)
    (hnext : t < env.commitTs (run env ops).calls)
    (h : ∀ pre op post, ops' = pre ++ op :: post → ErasesNothing (run env (ops ++ pre)) op) :
    (∀ n, validRows ⟨(run env (ops ++ ops')).db, bgpPeering⟩ t n =
        (current ((run env ops).db n)).map Prod.fst) ∧
      ∀ (parse : Option String → ℚ) (rows : List MetricsRow) (snapshot : Snapshot),
        (∃ a : Answers ⟨(run env (ops ++ ops')).db, bgpPeering⟩ t,
            fetchSnapshot parse a rows = snapshot) ↔
          ∃ a : Answers ⟨(run env ops).db, bgpPeering⟩ t, fetchSnapshot parse a rows = snapshot := by
  have hlater : ∀ n, validRows ⟨(run env (ops ++ ops')).db, bgpPeering⟩ t n =
      (current ((run env ops).db n)).map Prod.fst :=
    fun n => congrArg (List.map Prod.fst) (asOf_later hpast hnext h n)
  have hthen : ∀ n, validRows ⟨(run env ops).db, bgpPeering⟩ t n =
      (current ((run env ops).db n)).map Prod.fst := by
    intro n
    have hnone : ∀ pre op post, ([] : List Op) = pre ++ op :: post →
        ErasesNothing (run env (ops ++ pre)) op := fun pre op post hnil => by simp at hnil
    have hnow := asOf_later hpast hnext hnone n
    rw [List.append_nil] at hnow
    exact congrArg (List.map Prod.fst) hnow
  exact ⟨hlater, fun parse rows snapshot =>
    Same.exists_iff ⟨fun n => (hlater n).trans (hthen n).symm, rfl⟩⟩

/-- The router was readdressed since; what is fetched for 5 has its first address. -/
theorem fetch_later_sample :
    validRows ⟨(run Env.plain ([.syncRouter (Sample.router Sample.r1 "10.0.0.1/30")] ++
        [.syncRouter (Sample.router Sample.r1 "10.0.0.5/30")])).db, []⟩ 5 .physicalInterface =
      (current ((run Env.plain [.syncRouter (Sample.router Sample.r1 "10.0.0.1/30")]).db
        .physicalInterface)).map Prod.fst := by
  refine (fetch_later Env.plain [.syncRouter (Sample.router Sample.r1 "10.0.0.1/30")]
    [.syncRouter (Sample.router Sample.r1 "10.0.0.5/30")] [] 5 (by decide) (by decide) ?_).1 _
  rintro pre op post hpre
  cases pre with
  | nil =>
    obtain ⟨rfl, -⟩ := List.cons.inj hpre
    exact trivial
  | cons => simp at hpre

end Fetch

end GnnSandbox.Gnn
