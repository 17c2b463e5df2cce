import GnnSandbox.Graph.Run

/-!
# What committed transactions leave behind

In a well-formed store whose calls do not fail, an upsert commits: either the open
version of its key was unchanged and the database stays as it was, or the fresh row is
now the open version. Whatever else a sync does is bounded by the rows it may insert.
-/

namespace GnnSandbox.Graph

open Scd Effect

/-! ## Well-formed stores -/

section WellFormed

variable {env : Env} {w : World}

theorem WellFormed.one (hw : WellFormed env w) (n : TableName) (k : Key) :
    (w.db.active n k).length ≤ 1 := (hw n).length_active_le k

/-- A sync keeps the store well formed. -/
theorem WellFormed.respects {α : Type} (hw : WellFormed env w) {S : Admissible} {m : Sync α}
    (h : Respects (Calls env (Revises S)) m) : WellFormed env (after m w) :=
  hw.calls ((h w).imp fun _ _ _ hr => hr.writes.steps)

end WellFormed

/-! ## Upserts -/

/-- The key has exactly one open version, and its data satisfy `P`. -/
def Holds (w : World) (n : TableName) (k : Key) (P : Row n → Prop) : Prop :=
  ∃ v, w.db.active n k = [v] ∧ P v.data

theorem Holds.imp {w : World} {n : TableName} {k : Key} {P Q : Row n → Prop}
    (h : Holds w n k P) (hPQ : ∀ x, P x → Q x) : Holds w n k Q := by
  obtain ⟨v, hv, hP⟩ := h
  exact ⟨v, hv, hPQ _ hP⟩

theorem Holds.ne_nil {w : World} {n : TableName} {k : Key} {P : Row n → Prop}
    (h : Holds w n k P) : w.db.active n k ≠ [] := by
  obtain ⟨v, hv, -⟩ := h
  simp [hv]

theorem Holds.congr {w w' : World} {n : TableName} {k : Key} {P : Row n → Prop}
    (h : Holds w n k P) (hw : w'.db.active n k = w.db.active n k) : Holds w' n k P := by
  obtain ⟨v, hv, hP⟩ := h
  exact ⟨v, hw.trans hv, hP⟩

/-- The row of a key's open version. -/
theorem Holds.exists_mem {w : World} {n : TableName} {k : Key} {P : Row n → Prop}
    (h : Holds w n k P) : ∃ v ∈ w.db n, v.data.key = k ∧ P v.data := by
  obtain ⟨v, hv, hP⟩ := h
  have hv' : v ∈ w.db.active n k := by simp [hv]
  obtain ⟨hmem, -, hkey⟩ := mem_active.mp hv'
  exact ⟨v, hmem, hkey, hP⟩

section Revise

variable {env : Env} {w : World} {n : TableName} {k : Key}
  {next : Option (Row n) → Option (Row n)}

/-- A revision of a key with at most one open version commits. -/
theorem runInTransaction_revise (hok : env.fails w.calls = false)
    (hone : (w.db.active n k).length ≤ 1) :
    result (runInTransaction env (sqlRevise n k next)) w = true ∧
      ((w.db.active n k = [] ∧ next none = none ∧
          after (runInTransaction env (sqlRevise n k next)) w = ⟨w.db, w.calls + 1⟩) ∨
        (∃ x, w.db.active n k = [] ∧ next none = some x ∧
          after (runInTransaction env (sqlRevise n k next)) w =
            ⟨w.db.set n (insert (env.commitTs w.calls) x (w.db n)), w.calls + 1⟩) ∨
        (∃ v, w.db.active n k = [v] ∧ next (some v.data) = none ∧
          after (runInTransaction env (sqlRevise n k next)) w = ⟨w.db, w.calls + 1⟩) ∨
        ∃ v x, w.db.active n k = [v] ∧ next (some v.data) = some x ∧
          after (runInTransaction env (sqlRevise n k next)) w =
            ⟨w.db.set n (insert (env.commitTs w.calls) x
              (closeKey Row.key (env.commitTs w.calls) k (w.db n))), w.calls + 1⟩) := by
  obtain ⟨t, ht⟩ : ∃ t, revise Row.key (env.commitTs w.calls) k next (w.db n) = some t :=
    revise_isSome hone
  have htx : sqlRevise n k next (env.commitTs w.calls) w.db = some (w.db.set n t) :=
    Option.map_eq_some_iff.mpr ⟨t, ht, rfl⟩
  obtain ⟨hres, hafter⟩ := runInTransaction_commit hok htx
  refine ⟨hres, ?_⟩
  rw [hafter]
  rcases revise_cases ht with ⟨hnil, hnext, rfl⟩ | ⟨x, hnil, hnext, rfl⟩ | ⟨v, hv, hnext, rfl⟩ |
    ⟨v, x, hv, hnext, rfl⟩
  · exact Or.inl ⟨hnil, hnext, by rw [Database.set_eq_self]⟩
  · exact Or.inr (Or.inl ⟨x, hnil, hnext, rfl⟩)
  · exact Or.inr (Or.inr (Or.inl ⟨v, hv, hnext, by rw [Database.set_eq_self]⟩))
  · exact Or.inr (Or.inr (Or.inr ⟨v, x, hv, hnext, rfl⟩))

end Revise

section Upsert

variable {env : Env} {w : World} (n : TableName) (fresh : Row n) (unchanged : Row n → Bool)

/-- The database with a fresh version of its key. -/
def World.renew (env : Env) (w : World) (n : TableName) (fresh : Row n) : Database :=
  w.db.set n (insert (env.commitTs w.calls) fresh
    (closeKey Row.key (env.commitTs w.calls) fresh.key (w.db n)))

theorem active_renew_self (env : Env) (w : World) :
    (w.renew env n fresh).active n fresh.key = [⟨fresh, env.commitTs w.calls, none⟩] := by
  unfold Database.active World.renew
  rw [Database.set_self, active_insert, active_closeKey_self]
  simp

theorem versions_renew_self (env : Env) (w : World) :
    versions Row.key fresh.key (w.renew env n fresh n) =
      versions Row.key fresh.key (w.db n) + 1 := by
  rw [World.renew, Database.set_self, versions_insert, closeKey, versions_closeWhere]
  simp

/-- An upsert inserts its fresh row or nothing. -/
theorem respects_upsert_fresh :
    Respects (Calls env (Revises fun _ m _ x => ∃ hm : m = n, hm ▸ x = fresh))
      (runInTransaction env (sqlUpsert n fresh unchanged)) :=
  respects_upsert fun _ _ => ⟨rfl, rfl⟩

/-- An upsert leaves the other tables alone. -/
theorem upsert_table_eq {n' : TableName} (hn : n' ≠ n) :
    (after (runInTransaction env (sqlUpsert n fresh unchanged)) w).db n' = w.db n' := by
  have hc : Calls env _ w _ := respects_upsert_fresh n fresh unchanged w
  exact hc.table_eq fun _ _ _ hx => absurd hx.1 hn

/-- What an upsert does to a key with at most one open version. -/
theorem sqlUpsert_cases (env : Env) (hone : (w.db.active n fresh.key).length ≤ 1) :
    (∃ v, w.db.active n fresh.key = [v] ∧ unchanged v.data = true ∧
        sqlUpsert n fresh unchanged (env.commitTs w.calls) w.db = some w.db) ∨
      ((∀ v, w.db.active n fresh.key = [v] → unchanged v.data = false) ∧
        sqlUpsert n fresh unchanged (env.commitTs w.calls) w.db = some (w.renew env n fresh)) := by
  obtain ⟨db, htx⟩ : ∃ db, sqlUpsert n fresh unchanged (env.commitTs w.calls) w.db = some db :=
    (revise_isSome hone).elim fun t ht => ⟨_, Option.map_eq_some_iff.mpr ⟨t, ht, rfl⟩⟩
  rw [htx]
  obtain ⟨t, ht, rfl⟩ := Option.map_eq_some_iff.mp htx
  rcases revise_cases ht with ⟨-, hnext, -⟩ | ⟨x, hnil, hnext, rfl⟩ | ⟨v, hv, hnext, rfl⟩ |
    ⟨v, x, hv, hnext, rfl⟩
  · cases hnext
  · cases hnext
    refine Or.inr ⟨fun v hv => ?_, ?_⟩
    · rw [Database.active, hnil] at hv
      cases hv
    · -- there is nothing to close
      rw [World.renew, closeKey, closeWhere_eq_self]
      intro v hv hopen
      simpa using active_eq_nil_iff.mp hnil v hv hopen
  · dsimp only at hnext
    split at hnext
    · next hu => exact Or.inl ⟨v, hv, hu, by rw [Database.set_eq_self]⟩
    · cases hnext
  · dsimp only at hnext
    split at hnext
    · cases hnext
    · next hu =>
      cases hnext
      refine Or.inr ⟨fun u hu' => ?_, rfl⟩
      rw [Database.active, hv] at hu'
      cases hu'
      simpa using hu

/-- An upsert whose key has at most one open version commits. -/
theorem runInTransaction_upsert (hok : env.fails w.calls = false)
    (hone : (w.db.active n fresh.key).length ≤ 1) :
    result (runInTransaction env (sqlUpsert n fresh unchanged)) w = true ∧
      ((∃ v, w.db.active n fresh.key = [v] ∧ unchanged v.data = true ∧
          after (runInTransaction env (sqlUpsert n fresh unchanged)) w = ⟨w.db, w.calls + 1⟩) ∨
        ((∀ v, w.db.active n fresh.key = [v] → unchanged v.data = false) ∧
          after (runInTransaction env (sqlUpsert n fresh unchanged)) w =
            ⟨w.renew env n fresh, w.calls + 1⟩)) := by
  rcases sqlUpsert_cases n fresh unchanged env hone with ⟨v, hv, hu, hdb⟩ | ⟨hchanged, hdb⟩
  · obtain ⟨hres, hafter⟩ := runInTransaction_commit hok hdb
    exact ⟨hres, Or.inl ⟨v, hv, hu, hafter⟩⟩
  · obtain ⟨hres, hafter⟩ := runInTransaction_commit hok hdb
    exact ⟨hres, Or.inr ⟨hchanged, hafter⟩⟩

/-- After an upsert the open version of its key is the fresh row or was found unchanged. -/
theorem runInTransaction_upsert_holds (hok : env.fails w.calls = false)
    (hone : (w.db.active n fresh.key).length ≤ 1) :
    Holds (after (runInTransaction env (sqlUpsert n fresh unchanged)) w) n fresh.key
      fun x => x = fresh ∨ unchanged x = true := by
  rcases (runInTransaction_upsert n fresh unchanged hok hone).2 with
    ⟨v, hv, hu, hafter⟩ | ⟨-, hafter⟩ <;> rw [hafter]
  · exact ⟨v, hv, Or.inr hu⟩
  · exact ⟨_, active_renew_self n fresh env w, Or.inl rfl⟩

end Upsert

/-- The transaction that writes a new version of a veth link commits, with its edge. -/
theorem Bridge.insertLink_spec {w : World} {linkId : String}
    (hostVethName containerIfaceId bandwidth state : String)
    (hlink : (w.db.active .physicalLink (.id linkId)).length ≤ 1)
    (hedge : (w.db.active .interfaceLink (.edge containerIfaceId linkId)).length ≤ 1) (env : Env)
    (hchanged : ∀ v, w.db.active .physicalLink (.id linkId) = [v] →
      vethUnchanged hostVethName containerIfaceId state v.data = false) :
    ∃ db, sqlUpsertLink.insertLink env linkId hostVethName containerIfaceId bandwidth state
        (env.commitTs w.calls) w.db = some db ∧
      (db = w.renew env .physicalLink
          (vethRow env linkId hostVethName containerIfaceId bandwidth state) ∧
          w.db.active .interfaceLink (.edge containerIfaceId linkId) ≠ [] ∨
        db = World.renew env ⟨w.renew env .physicalLink
            (vethRow env linkId hostVethName containerIfaceId bandwidth state), w.calls⟩
          .interfaceLink ⟨containerIfaceId, linkId⟩) := by
  generalize hrow : vethRow env linkId hostVethName containerIfaceId bandwidth state = row
  have hkey : Row.key (n := .physicalLink) row = .id linkId := by rw [← hrow]; rfl
  rw [← hkey] at hlink hchanged
  rcases sqlUpsert_cases .physicalLink row (vethUnchanged hostVethName containerIfaceId state) env
    hlink with ⟨v, hv, hu, -⟩ | ⟨-, hwrite⟩
  · rw [hchanged v hv] at hu
    cases hu
  · -- the edge table is as it was when the edge is looked up
    have htable : (w.renew env .physicalLink row) .interfaceLink = w.db .interfaceLink := by
      simp [World.renew]
    have hedge' : ((w.renew env .physicalLink row).active .interfaceLink
        (.edge containerIfaceId linkId)).length ≤ 1 := by
      rw [Database.active, htable]
      exact hedge
    unfold sqlUpsertLink.insertLink Transaction.andThen
    rw [hrow, hwrite, Option.bind_some]
    rcases sqlUpsert_cases .interfaceLink ⟨containerIfaceId, linkId⟩ (fun _ => true) env
      (w := ⟨w.renew env .physicalLink row, w.calls⟩) hedge' with ⟨v, hv, -, hdb⟩ | ⟨-, hdb⟩
    · refine ⟨_, hdb, Or.inl ⟨rfl, ?_⟩⟩
      rw [Database.active, ← htable]
      exact fun hnil => List.cons_ne_nil v [] (hv.symm.trans hnil)
    · exact ⟨_, hdb, Or.inr rfl⟩

end GnnSandbox.Graph
