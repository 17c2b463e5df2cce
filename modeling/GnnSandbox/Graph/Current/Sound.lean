import GnnSandbox.Graph.Outcome
import GnnSandbox.Graph.Written

/-!
# Keys that a sync leaves behind

`Leaves` says in which rows a run of calls that all commit leaves the open version of a
key. An upsert leaves its key with the fresh row or with one that it takes for the same,
and every other key alone.
-/

namespace GnnSandbox.Graph

open Scd Effect

/-- A reachable world in which no call fails any more. -/
structure Sound (env : Env) (w : World) : Prop where
  wellFormed : WellFormed env w
  written : AllWritten env w
  reliable : ∀ i, w.calls ≤ i → env.fails i = false

section Sound

variable {env : Env} {w w' : World} {S : Admissible}

/-- Calls of an operation keep a world sound. -/
theorem Sound.calls (h : Sound env w) (op : Op) (hc : Calls env (Revises S) w w')
    (hS : ∀ db n row x, S db n row x → op.Inserts env db n row x) : Sound env w' := by
  have hop : Calls env (Steps (op.Inserts env)) w w' :=
    hc.imp fun _ _ _ hr => (hr.imp (hS _)).writes.steps
  exact ⟨h.wellFormed.calls hop, h.written.calls hop,
    fun i hi => h.reliable i (le_trans hop.calls_le hi)⟩

theorem Sound.ok (h : Sound env w) : env.fails w.calls = false := h.reliable _ (le_refl _)

/-- A read leaves a world sound. -/
theorem Sound.read (h : Sound env w) : Sound env ⟨w.db, w.calls + 1⟩ := by
  refine ⟨fun n => (h.wellFormed n).mono ?_, h.written, fun i hi => h.reliable i ?_⟩
  · exact env.commitTs_strictMono.monotone (Nat.le_succ _)
  · exact (Nat.le_succ _).trans hi

/-- An upsert of a row of a known shape keeps a world sound. -/
theorem Sound.upsert (h : Sound env w) {n : TableName} {fresh : Row n}
    (hfresh : Written env n fresh) (unchanged : Row n → Bool) :
    Sound env (after (runInTransaction env (sqlUpsert n fresh unchanged)) w) := by
  have hc : Calls env _ w _ := respects_upsert_fresh n fresh unchanged w
  refine ⟨h.wellFormed.calls (hc.imp fun _ _ _ hr => hr.writes.steps), ?_,
    fun i hi => h.reliable i (hc.calls_le.trans hi)⟩
  refine hc.invariant (fun _ _ hv hcall m => ?_) h.written
  refine Step.forall_data (.write (.revision (hcall.2 m))) ?_ (hv m)
  rintro row x ⟨rfl, rfl⟩ -
  exact hfresh

end Sound

/-! ## Keys -/

/-- A run of `m` from `w` leaves the key with one open version, in `P`, or leaves it alone. -/
abbrev Leaves {α : Type} (n : TableName) (k : Key) (m : Sync α) (w : World) :
    Option (Row n → Prop) → Prop :=
  Settles (fun w : World => w.db.active n k) (fun P l => ∃ v, l = [v] ∧ P v.data) m w

section Leaves

variable {env : Env} {w : World} {S : Admissible} {α : Type} {m : Sync α}

/-- Calls none of whose rows has the key leave it alone. -/
theorem leaves_none {n : TableName} {k : Key} (hc : Calls env (Revises S) w (after m w))
    (hS : ∀ db row x, S db n row x → x.key ≠ k) : Leaves n k m w none := hc.active_eq hS

/-- An upsert leaves its key with the fresh row, or with the version that it takes for the same. -/
theorem leaves_upsert_mem {n : TableName} {fresh : Row n} {unchanged : Row n → Bool}
    (h : Sound env w) (k : Key) {P : Row n → Prop} (hfresh : P fresh)
    (hsame : ∀ v ∈ w.db.active n fresh.key, unchanged v.data = true → P v.data) :
    Leaves n k (runInTransaction env (sqlUpsert n fresh unchanged)) w
      (if fresh.key = k then some P else none) := by
  by_cases hk : fresh.key = k
  · subst hk
    rw [if_pos rfl]
    rcases (runInTransaction_upsert n fresh unchanged h.ok (h.wellFormed.one _ _)).2 with
      ⟨v, hv, hu, hafter⟩ | ⟨-, hafter⟩
    · have hmem : v ∈ w.db.active n fresh.key := by
        rw [hv]
        exact List.mem_singleton_self v
      refine ⟨v, ?_, hsame v hmem hu⟩
      rw [hafter]
      exact hv
    · refine ⟨⟨fresh, env.commitTs w.calls, none⟩, ?_, hfresh⟩
      rw [hafter]
      exact active_renew_self n fresh env w
  · rw [if_neg hk]
    have hc : Calls env _ w _ := respects_upsert_fresh n fresh unchanged w
    refine leaves_none hc ?_
    rintro db row x ⟨_, rfl⟩
    exact hk

/-- A row that passes for the same has the key and the shape of a row of its table. -/
theorem leaves_upsert {n : TableName} {fresh : Row n} {unchanged : Row n → Bool}
    (h : Sound env w) (k : Key) {P : Row n → Prop} (hfresh : P fresh)
    (hsame : ∀ x, Written env n x → x.key = fresh.key → unchanged x = true → P x) :
    Leaves n k (runInTransaction env (sqlUpsert n fresh unchanged)) w
      (if fresh.key = k then some P else none) := by
  refine leaves_upsert_mem h k hfresh fun v hv hu => ?_
  obtain ⟨hmem, -, hkey⟩ := mem_active.mp hv
  exact hsame v.data (h.written n v hmem) hkey hu

/-- A table that stays as it was keeps its open versions. -/
theorem leaves_of_table_eq {n : TableName} (h : (after m w).db n = w.db n) (k : Key) :
    Leaves n k m w none := congrArg (Scd.active Row.key k) h

theorem Leaves.attempt {n : TableName} {k : Key} {f : Transaction}
    {o : Option (Row n → Prop)} (h : Leaves n k (runInTransaction env f) w o) :
    Leaves n k (attempt env f) w o := h.congr rfl rfl

end Leaves

end GnnSandbox.Graph
