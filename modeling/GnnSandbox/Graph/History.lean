import GnnSandbox.Graph.Run

/-!
# History

A query about an instant in the past returns the rows that were valid then. All
operations but two only end the interval of open versions or append versions that start
now, and leave its answer alone. `delete_vyos_infrastructure` and
`delete_physical_router` erase rows of the two edge tables together with their past.
-/

namespace GnnSandbox.Graph

open Scd Effect

/-- The operation finds no edge to erase. -/
def ErasesNothing (w : World) : Op → Prop
  | .deleteInfrastructure _ =>
    (∀ v ∈ w.db .interfaceLink, like (InterfaceLink.linkId v.data) "link:%" = false) ∧
      ∀ v ∈ w.db .subnetAssociation, like (SubnetAssociation.subnetId v.data) "subnet:%" = false
  | .deleteRouter name =>
    (∀ v ∈ w.db .interfaceLink,
      InterfaceLink.interfaceId v.data ∉ Router.interfaceIds ("router:" ++ name) w.db) ∧
      ∀ v ∈ w.db .subnetAssociation,
        SubnetAssociation.entityId v.data ∉ Router.interfaceIds ("router:" ++ name) w.db
  | _ => True

theorem writes_deleteInfrastructure {w : World} {name : ResourceName} {now : Timestamp}
    {db' : Database} (h : ErasesNothing w (.deleteInfrastructure name)) (S : Admissible)
    (hdb : Infrastructure.sqlDelete now w.db = some db') : Writes S now w.db db' := by
  rw [Infrastructure.sqlDelete_eq, Option.some.injEq] at hdb
  subst hdb
  rw [deleteWhere_eq_self h.1, deleteWhere_eq_self h.2]
  refine ((((Writes.refl S now w.db).set rfl ?_).set ?_ ?_).set ?_ ?_).set ?_ ?_
  all_goals try simp
  · exact .revision .keep
  · exact .close _
  · exact .revision .keep
  · exact .close _

theorem writes_deleteRouter {w : World} {name : ResourceName} {now : Timestamp}
    {db' : Database} (h : ErasesNothing w (.deleteRouter name)) (S : Admissible)
    (hdb : Router.sqlDeleteRouter ("router:" ++ name) now w.db = some db') :
    Writes S now w.db db' := by
  rw [Router.sqlDeleteRouter_eq, Option.some.injEq] at hdb
  subst hdb
  rw [deleteWhere_eq_self (t := w.db .interfaceLink) (by simpa using h.1),
    deleteWhere_eq_self (t := w.db .subnetAssociation) (by simpa using h.2)]
  refine ((((Writes.refl S now w.db).set rfl ?_).set ?_ ?_).set ?_ ?_).set ?_ ?_
  all_goals try simp
  · exact .revision .keep
  · exact .revision .keep
  · exact .close _
  · exact .close _

/-- An operation that erases nothing only writes. -/
theorem calls_of_erasesNothing (env : Env) {w : World} {op : Op} (h : ErasesNothing w op) :
    Calls env (Writes (op.Inserts env)) w (after (op.exec env) w) := by
  by_cases herase : op.erases = true
  · cases op with
    | deleteInfrastructure name =>
      exact calls_runInTransaction (Writes.refl _ _ _) fun _ hdb =>
        writes_deleteInfrastructure h _ hdb
    | deleteRouter name =>
      exact calls_runInTransaction (Writes.refl _ _ _) fun _ hdb => writes_deleteRouter h _ hdb
    | _ => cases herase
  · rw [Bool.not_eq_true] at herase
    exact op.respects_of_not_erases env herase w

/-- What the history at `t` was in the world `w₀` it still is in `w`, and no row of `w₀`
was removed or, once closed, altered. -/
def HistoryKept (w₀ : World) (t : Timestamp) (w : World) : Prop :=
  ∀ n, asOf t (w.db n) = asOf t (w₀.db n) ∧ Kept (w₀.db n) (w.db n)

theorem HistoryKept.refl (w₀ : World) (t : Timestamp) : HistoryKept w₀ t w₀ :=
  fun n => ⟨rfl, Kept.refl (w₀.db n)⟩

/-- One call that only writes keeps the history before its commit timestamp. -/
theorem HistoryKept.call {env : Env} {S : Admissible} {w₀ w w' : World} {t : Timestamp}
    (h : HistoryKept w₀ t w) (ht : t < env.commitTs w.calls) (hc : Call env (Writes S) w w') :
    HistoryKept w₀ t w' := by
  intro n
  refine ⟨?_, (h n).2.trans (hc.2 n).kept⟩
  rw [(hc.2 n).asOf_eq ht]
  exact (h n).1

theorem HistoryKept.calls {env : Env} {S : Admissible} {w₀ w w' : World} {t : Timestamp}
    (h : HistoryKept w₀ t w) (ht : t < env.commitTs w.calls) (hc : Calls env (Writes S) w w') :
    HistoryKept w₀ t w' ∧ t < env.commitTs w'.calls := by
  refine hc.invariant (I := fun v => HistoryKept w₀ t v ∧ t < env.commitTs v.calls) ?_ ⟨h, ht⟩
  rintro v v' ⟨hv, hlt⟩ hcall
  refine ⟨hv.call hlt hcall, hlt.trans (env.commitTs_strictMono ?_)⟩
  rw [hcall.1]
  exact Nat.lt_succ_self _

/-- **History is immutable while no edge is erased.** In a continuation of a run none of
whose operations finds an edge to erase, every query about an instant before the
continuation keeps its answer, and rows are neither removed nor altered once closed. -/
theorem history_immutable (env : Env) (ops ops' : List Op) (t : Timestamp)
    (ht : t < env.commitTs (run env ops).calls)
    (h : ∀ pre op post, ops' = pre ++ op :: post → ErasesNothing (run env (ops ++ pre)) op) :
    HistoryKept (run env ops) t (run env (ops ++ ops')) := by
  suffices hkept : ∀ w, (∀ pre op post, ops' = pre ++ op :: post →
      ErasesNothing (runFrom env w pre) op) → HistoryKept (run env ops) t w →
      t < env.commitTs w.calls → HistoryKept (run env ops) t (runFrom env w ops') by
    rw [run_append]
    refine hkept _ (fun pre op post hpre => ?_) (HistoryKept.refl _ t) ht
    rw [← run_append]
    exact h pre op post hpre
  clear h
  induction ops' with
  | nil => exact fun w _ hw _ => hw
  | cons op rest ih =>
    intro w herase hw hlt
    have hstep := hw.calls hlt (calls_of_erasesNothing env (herase [] op rest rfl))
    exact ih _ (fun pre op' post hpre => herase (op :: pre) op' post (by rw [hpre]; rfl))
      hstep.1 hstep.2

/-- Deleting a router that was never synced leaves the history of another one alone. -/
theorem history_immutable_sample :
    HistoryKept (run Env.plain [.syncRouter (Sample.router Sample.r1 "10.0.0.1/30")]) 5
      (run Env.plain ([.syncRouter (Sample.router Sample.r1 "10.0.0.1/30")] ++
        [.deleteRouter Sample.r2])) := by
  refine history_immutable Env.plain _ _ 5 (by decide) ?_
  rintro pre op post hpre
  match pre with
  | [] =>
    obtain ⟨rfl, -⟩ := List.cons.inj hpre
    exact ⟨by decide, by decide⟩
  | _ :: _ => simp at hpre

/-- Deleting a router erases the association of its interface, past included. -/
theorem history_erased :
    5 < Env.plain.commitTs
        (run Env.plain [.syncRouter (Sample.router Sample.r1 "10.0.0.1/30")]).calls ∧
      ¬HistoryKept (run Env.plain [.syncRouter (Sample.router Sample.r1 "10.0.0.1/30")]) 5
        (run Env.plain ([.syncRouter (Sample.router Sample.r1 "10.0.0.1/30")] ++
          [.deleteRouter Sample.r1])) := by
  refine ⟨by decide, fun h => ?_⟩
  have hassoc := (h .subnetAssociation).1
  revert hassoc
  decide

end GnnSandbox.Graph
