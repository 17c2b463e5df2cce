import GnnSandbox.Lib.Effect
import GnnSandbox.Graph.Schema
import GnnSandbox.Graph.Text
import Mathlib.Logic.Relation
import Mathlib.Order.Monotone.Defs

/-!
# Transactions against the store

The controllers reach the store through `run_in_transaction` and `snapshot`. Every
call may fail, and then leaves the database unchanged. A transaction that commits
stamps the rows it writes with its commit timestamp.

`Env` collects what the controllers do not decide: which calls fail, the commit
timestamps, which of several rows a `LIMIT 1` returns, and Python's full Unicode
case mapping and number parsing.
-/

namespace GnnSandbox.Graph

open Scd Effect

/-- The world around the controllers. -/
structure Env where
  /-- The `n`-th call fails. -/
  fails : ℕ → Bool
  /-- The commit timestamp of the `n`-th call. -/
  commitTs : ℕ → Timestamp
  commitTs_strictMono : StrictMono commitTs
  /-- The index of the row that the `n`-th call returns first, among rows with these ids. -/
  pick : ℕ → List String → ℕ
  pick_lt : ∀ n l, l ≠ [] → pick n l < l.length
  /-- `str.lower` -/
  lower : String → String
  lower_lower : ∀ s, lower (lower s) = lower s
  /-- `str.upper` -/
  upper : String → String
  upper_upper : ∀ s, upper (upper s) = upper s
  upper_unknown : upper "unknown" = "UNKNOWN"
  /-- `float` of a string; `none` when it raises. -/
  float : String → Option Float64

/-- No transaction and no read fails. -/
def Env.Reliable (env : Env) : Prop := ∀ n, env.fails n = false

/-- A read of the same rows always returns the same one first. -/
def Env.Steady (env : Env) : Prop := ∀ n m, env.pick n = env.pick m

/-- Calls that never fail and commit at 1, 2, …, with the case mapping of ASCII text. -/
def Env.plain : Env where
  fails _ := false
  commitTs n := n + 1
  commitTs_strictMono _ _ h := Nat.add_lt_add_right h 1
  pick _ _ := 0
  pick_lt _ _ h := List.length_pos_of_ne_nil h
  lower := lowerAscii
  lower_lower := lowerAscii_lowerAscii
  upper := upperAscii
  upper_upper := upperAscii_upperAscii
  upper_unknown := by decide
  float _ := none

theorem Env.upper_ne_unknown (env : Env) (s : String) : env.upper s ≠ "unknown" := by
  intro h
  have h' := env.upper_upper s
  rw [h, env.upper_unknown] at h'
  exact absurd h' (by decide)

/-- The database and the number of calls made so far. -/
structure World where
  db : Database
  calls : ℕ

/-- The store before the first call. -/
def World.empty : World := ⟨Database.empty, 0⟩

/-- What a controller does to the store. -/
abbrev Sync := StateM World

/-- The body of a transaction; `none` when it raises. -/
abbrev Transaction := Timestamp → Database → Option Database

/-- `db.run_in_transaction(f)` inside `try`: whether it committed. -/
def runInTransaction (env : Env) (f : Transaction) : Sync Bool := fun w =>
  if env.fails w.calls then (false, { w with calls := w.calls + 1 })
  else
    match f (env.commitTs w.calls) w.db with
    | some db => (true, ⟨db, w.calls + 1⟩)
    | none => (false, { w with calls := w.calls + 1 })

/-- A read-only query inside `try`; `none` when it fails. -/
def snapshot {α : Type} (env : Env) (query : Database → List α) (id : α → String) :
    Sync (Option (Option α)) := fun w =>
  if env.fails w.calls then (none, { w with calls := w.calls + 1 })
  else
    let rows := query w.db
    (some rows[env.pick w.calls (rows.map id)]?, { w with calls := w.calls + 1 })

/-- A transaction commits, or it leaves the database alone. -/
theorem runInTransaction_cases (env : Env) (f : Transaction) (w : World) :
    (∃ db, env.fails w.calls = false ∧ f (env.commitTs w.calls) w.db = some db ∧
      result (runInTransaction env f) w = true ∧
      after (runInTransaction env f) w = ⟨db, w.calls + 1⟩) ∨
    ((env.fails w.calls = true ∨ f (env.commitTs w.calls) w.db = none) ∧
      result (runInTransaction env f) w = false ∧
      after (runInTransaction env f) w = ⟨w.db, w.calls + 1⟩) := by
  unfold result after runInTransaction StateT.run
  dsimp only
  cases hfail : env.fails w.calls with
  | true => simp
  | false => cases hf : f (env.commitTs w.calls) w.db <;> simp

/-- A transaction whose body does not raise commits. -/
theorem runInTransaction_commit {env : Env} {f : Transaction} {w : World} {db : Database}
    (hok : env.fails w.calls = false) (hf : f (env.commitTs w.calls) w.db = some db) :
    result (runInTransaction env f) w = true ∧
      after (runInTransaction env f) w = ⟨db, w.calls + 1⟩ := by
  rcases runInTransaction_cases env f w with ⟨db', -, hdb, hres, hafter⟩ | ⟨hfail, -, -⟩
  · rw [hf, Option.some.injEq] at hdb
    subst hdb
    exact ⟨hres, hafter⟩
  · rw [hok, hf] at hfail
    simp at hfail

theorem after_snapshot {α : Type} (env : Env) (query : Database → List α) (id : α → String)
    (w : World) : after (snapshot env query id) w = ⟨w.db, w.calls + 1⟩ := by
  unfold after snapshot StateT.run
  dsimp only
  split <;> rfl

/-- What a read returns is one of the rows it selects. -/
theorem result_snapshot_mem {α : Type} {env : Env} {query : Database → List α} {id : α → String}
    {w : World} {a : α} (h : result (snapshot env query id) w = some (some a)) :
    a ∈ query w.db := by
  unfold result snapshot StateT.run at h
  dsimp only at h
  split at h
  · cases h
  · simp only [Option.some.injEq] at h
    exact List.mem_of_getElem? h

/-- A read that does not fail returns a row when it selects one. -/
theorem result_snapshot_isSome {α : Type} {env : Env} {query : Database → List α}
    (id : α → String) {w : World} (hok : env.fails w.calls = false) (hne : query w.db ≠ []) :
    ∃ a, result (snapshot env query id) w = some (some a) := by
  have hlt := env.pick_lt w.calls ((query w.db).map id) (by simpa using hne)
  rw [List.length_map] at hlt
  refine ⟨(query w.db)[env.pick w.calls ((query w.db).map id)], ?_⟩
  unfold result snapshot StateT.run
  simp [hok, hlt]

/-! ## Statements -/

/-- Read the open version of `k`, let `next` decide, close it and insert the next one. -/
def sqlRevise (n : TableName) (k : Key) (next : Option (Row n) → Option (Row n)) : Transaction :=
  fun now db => (revise Row.key now k next (db n)).map (db.set n)

/-- Insert `fresh` unless the open version of its key is `unchanged`. -/
def sqlUpsert (n : TableName) (fresh : Row n) (unchanged : Row n → Bool) : Transaction :=
  sqlRevise n fresh.key fun
    | some row => if unchanged row then none else some fresh
    | none => some fresh

/-- Insert `fresh` unless its key has an open version. -/
def sqlEnsure (n : TableName) (fresh : Row n) : Transaction := sqlUpsert n fresh fun _ => true

/-- `UPDATE … SET valid_end_ts = PENDING_COMMIT_TIMESTAMP() WHERE p AND valid_end_ts IS NULL` -/
def closeRows (n : TableName) (p : Row n → Bool) : Transaction :=
  fun now db => some (db.set n (closeWhere now p (db n)))

/-- `DELETE FROM … WHERE p` -/
def deleteRows (n : TableName) (p : Row n → Bool) : Transaction :=
  fun _ db => some (db.set n (deleteWhere p (db n)))

/-- One statement after another in the same transaction. -/
def Transaction.andThen (f g : Transaction) : Transaction :=
  fun now db => (f now db).bind (g now)

/-- A transaction whose outcome is only logged. -/
def attempt (env : Env) (f : Transaction) : Sync Unit := do
  let _ ← runInTransaction env f

@[simp] theorem after_attempt (env : Env) (f : Transaction) (w : World) :
    after (attempt env f) w = after (runInTransaction env f) w := rfl

/-! ## What a commit may do -/

section Commits

/-- Which row a table may receive in a state of the database, given the open row it replaces. -/
abbrev Admissible := Database → (n : TableName) → Option (Row n) → Row n → Prop

/-- No table sees more than one writer. -/
def Revises (S : Admissible) (now : Timestamp) (db db' : Database) : Prop :=
  ∀ n, Revision Row.key (S db n) now (db n) (db' n)

/-- No table sees more than one writer or closing statement. -/
def Writes (S : Admissible) (now : Timestamp) (db db' : Database) : Prop :=
  ∀ n, Write Row.key (S db n) now (db n) (db' n)

/-- No table sees more than one statement. -/
def Steps (S : Admissible) (now : Timestamp) (db db' : Database) : Prop :=
  ∀ n, Step Row.key (S db n) now (db n) (db' n)

variable {S S' : Admissible} {now : Timestamp} {db db' : Database}

theorem Revises.refl (S : Admissible) (now : Timestamp) (db : Database) : Revises S now db db :=
  fun _ => .keep

theorem Revises.writes (h : Revises S now db db') : Writes S now db db' := fun n => .revision (h n)

theorem Writes.steps (h : Writes S now db db') : Steps S now db db' := fun n => .write (h n)

theorem Revises.imp (h : Revises S now db db') (hS : ∀ n row x, S db n row x → S' db n row x) :
    Revises S' now db db' := fun n => (h n).imp (hS n)

/-- A writer on a table that the transaction has not touched yet. -/
theorem Revises.set (h : Revises S now db db') {n : TableName} (hn : db' n = db n)
    {t : Table Timestamp (Row n)} (ht : Revision Row.key (S db n) now (db' n) t) :
    Revises S now db (db'.set n t) := by
  intro m
  by_cases hm : m = n
  · subst hm
    rw [Database.set_self, ← hn]
    exact ht
  · rw [Database.set_of_ne _ _ hm]
    exact h m

theorem Steps.set (h : Steps S now db db') {n : TableName} (hn : db' n = db n)
    {t : Table Timestamp (Row n)} (ht : Step Row.key (S db n) now (db' n) t) :
    Steps S now db (db'.set n t) := by
  intro m
  by_cases hm : m = n
  · subst hm
    rw [Database.set_self, ← hn]
    exact ht
  · rw [Database.set_of_ne _ _ hm]
    exact h m

theorem Writes.set (h : Writes S now db db') {n : TableName} (hn : db' n = db n)
    {t : Table Timestamp (Row n)} (ht : Write Row.key (S db n) now (db' n) t) :
    Writes S now db (db'.set n t) := by
  intro m
  by_cases hm : m = n
  · subst hm
    rw [Database.set_self, ← hn]
    exact ht
  · rw [Database.set_of_ne _ _ hm]
    exact h m

theorem sqlRevise_spec {n : TableName} {k : Key} {next : Option (Row n) → Option (Row n)}
    (hnext : ∀ row x, next row = some x → x.key = k ∧ S db n row x)
    (h : sqlRevise n k next now db = some db') : Revises S now db db' := by
  unfold sqlRevise at h
  rw [Option.map_eq_some_iff] at h
  obtain ⟨t, ht, rfl⟩ := h
  exact (Revises.refl S now db).set rfl (revise_revision hnext ht)

theorem sqlUpsert_spec {n : TableName} {fresh : Row n} {unchanged : Row n → Bool}
    (hS : ∀ row, S db n row fresh) (h : sqlUpsert n fresh unchanged now db = some db') :
    Revises S now db db' := by
  refine sqlRevise_spec (fun row x hx => ?_) h
  match row with
  | none =>
    simp only [Option.some.injEq] at hx
    exact ⟨hx ▸ rfl, hx ▸ hS _⟩
  | some row =>
    by_cases hu : unchanged row
    · simp [hu] at hx
    · simp only [hu, Bool.false_eq_true, if_false, Option.some.injEq] at hx
      exact ⟨hx ▸ rfl, hx ▸ hS _⟩

end Commits

/-! ## Sequences of calls -/

/-- One call: it changes the database in a way that `T` allows. -/
def Call (env : Env) (T : Timestamp → Database → Database → Prop) (w w' : World) : Prop :=
  w'.calls = w.calls + 1 ∧ T (env.commitTs w.calls) w.db w'.db

/-- Any number of calls. -/
abbrev Calls (env : Env) (T : Timestamp → Database → Database → Prop) : World → World → Prop :=
  Relation.ReflTransGen (Call env T)

section Calls

variable {env : Env} {T T' : Timestamp → Database → Database → Prop}

theorem Calls.imp {w w' : World} (h : Calls env T w w')
    (hT : ∀ now db db', T now db db' → T' now db db') : Calls env T' w w' := by
  induction h with
  | refl => exact .refl
  | tail _ hcall ih => exact ih.tail ⟨hcall.1, hT _ _ _ hcall.2⟩

/-- An invariant that every call keeps. -/
theorem Calls.invariant {I : World → Prop} {w w' : World} (h : Calls env T w w')
    (hI : ∀ w w', I w → Call env T w w' → I w') (hw : I w) : I w' := by
  induction h with
  | refl => exact hw
  | tail _ hcall ih => exact hI _ _ ih hcall

theorem Calls.calls_le {w w' : World} (h : Calls env T w w') : w.calls ≤ w'.calls :=
  h.invariant (I := fun v => w.calls ≤ v.calls) (fun _ _ hle hc => hc.1 ▸ Nat.le_succ_of_le hle)
    (le_refl _)

/-- One transaction is one call, judged in the state it starts from. -/
theorem calls_runInTransaction {f : Transaction} {w : World}
    (hrefl : T (env.commitTs w.calls) w.db w.db)
    (hf : ∀ db', f (env.commitTs w.calls) w.db = some db' → T (env.commitTs w.calls) w.db db') :
    Calls env T w (after (runInTransaction env f) w) := by
  refine Relation.ReflTransGen.single ?_
  rcases runInTransaction_cases env f w with ⟨db, -, hdb, -, hw⟩ | ⟨-, -, hw⟩ <;> rw [hw]
  · exact ⟨rfl, hf _ hdb⟩
  · exact ⟨rfl, hrefl⟩

theorem respects_runInTransaction {f : Transaction}
    (hrefl : ∀ now db, T now db db) (hf : ∀ now db db', f now db = some db' → T now db db') :
    Respects (Calls env T) (runInTransaction env f) :=
  fun _ => calls_runInTransaction (hrefl _ _) (hf _ _)

theorem respects_snapshot {α : Type} {query : Database → List α} {id : α → String}
    (hrefl : ∀ now db, T now db db) : Respects (Calls env T) (snapshot env query id) := by
  intro w
  rw [after_snapshot]
  exact Relation.ReflTransGen.single ⟨rfl, hrefl _ _⟩

end Calls

section Revising

variable {env : Env} {S : Admissible}

theorem Writes.refl (S : Admissible) (now : Timestamp) (db : Database) : Writes S now db db :=
  (Revises.refl S now db).writes

theorem Steps.refl (S : Admissible) (now : Timestamp) (db : Database) : Steps S now db db :=
  (Revises.refl S now db).writes.steps

theorem respects_upsert {n : TableName} {fresh : Row n} {unchanged : Row n → Bool}
    (hS : ∀ db row, S db n row fresh) :
    Respects (Calls env (Revises S)) (runInTransaction env (sqlUpsert n fresh unchanged)) :=
  respects_runInTransaction (Revises.refl S) fun _ _ _ h => sqlUpsert_spec (hS _) h

theorem respects_revise {n : TableName} {k : Key} {next : Option (Row n) → Option (Row n)}
    (hnext : ∀ db row x, next row = some x → x.key = k ∧ S db n row x) :
    Respects (Calls env (Revises S)) (runInTransaction env (sqlRevise n k next)) :=
  respects_runInTransaction (Revises.refl S) fun _ _ _ h => sqlRevise_spec (hnext _) h

/-- A single closing statement. -/
theorem respects_closeRows {n : TableName} {p : Row n → Bool} :
    Respects (Calls env (Writes S)) (attempt env (closeRows n p)) := by
  refine Respects.bind (respects_runInTransaction (Writes.refl S) fun now db db' h => ?_)
    fun _ => Respects.pure ()
  cases h
  exact (Writes.refl S now db).set rfl (.close p)

theorem respects_query {α : Type} {query : Database → List α} {id : α → String} :
    Respects (Calls env (Revises S)) (snapshot env query id) :=
  respects_snapshot (Revises.refl S)

end Revising

/-! ## Frames -/

section Frames

variable {env : Env} {S : Admissible} {w w' : World}

/-- A table that receives no row stays as it was. -/
theorem Calls.table_eq (h : Calls env (Revises S) w w') {n : TableName}
    (hS : ∀ db row x, ¬S db n row x) : w'.db n = w.db n :=
  h.invariant (I := fun v => v.db n = w.db n)
    (fun _ _ hv hc => ((hc.2 n).eq_self (hS _)).trans hv) rfl

/-- A key that receives no row keeps its open version. -/
theorem Calls.active_eq (h : Calls env (Revises S) w w') {n : TableName} {k : Key}
    (hS : ∀ db row x, S db n row x → x.key ≠ k) : w'.db.active n k = w.db.active n k :=
  h.invariant (I := fun v => v.db.active n k = w.db.active n k)
    (fun _ _ hv hc => ((hc.2 n).active_eq (hS _)).trans hv) rfl

/-- No sync leaves a key without an open version. -/
theorem Calls.active_ne_nil (h : Calls env (Revises S) w w') {n : TableName} {k : Key}
    (hk : w.db.active n k ≠ []) : w'.db.active n k ≠ [] :=
  h.invariant (I := fun v => v.db.active n k ≠ []) (fun _ _ hv hc => (hc.2 n).active_ne_nil hv) hk

/-- A key that is open afterwards was open before, or a row was inserted for it. -/
theorem Calls.key_of_active (h : Calls env (Revises S) w w') {n : TableName} {k : Key}
    (hk : w'.db.active n k ≠ []) :
    w.db.active n k ≠ [] ∨ ∃ v, Calls env (Revises S) w v ∧ ∃ x, S v.db n none x ∧ x.key = k := by
  induction h with
  | refl => exact Or.inl hk
  | tail hpre hcall ih =>
    rcases (hcall.2 n).key_of_active hk with hk | ⟨x, hx, hkey⟩
    · exact ih hk
    · exact Or.inr ⟨_, hpre, x, hx, hkey⟩

/-- No sync loses a version. -/
theorem Calls.versions_le (h : Calls env (Revises S) w w') (n : TableName) (k : Key) :
    versions Row.key k (w.db n) ≤ versions Row.key k (w'.db n) :=
  h.invariant (I := fun v => versions Row.key k (w.db n) ≤ versions Row.key k (v.db n))
    (fun _ _ hv hc => hv.trans ((hc.2 n).versions_le k)) (le_refl _)

/-- Calls that insert nothing into a table see it as it was at the start. -/
theorem Calls.sees (h : Calls env (Revises S) w w') {m : TableName}
    (hS : ∀ db row x, ¬S db m row x) :
    Calls env (Revises fun db n row x => db m = w.db m ∧ S db n row x) w w' := by
  induction h with
  | refl => exact .refl
  | @tail w₁ w₂ hpre hcall ih =>
    have hm : w₁.db m = w.db m := Calls.table_eq hpre hS
    exact ih.tail ⟨hcall.1, hcall.2.imp fun _ _ _ hx => ⟨hm, hx⟩⟩

end Frames

end GnnSandbox.Graph
