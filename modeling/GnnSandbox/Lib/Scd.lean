import Mathlib.Data.List.Dedup
import Mathlib.Data.List.Pairwise
import Mathlib.Data.Set.Lattice
import Mathlib.Order.CompletePartialOrder
import Mathlib.Order.Interval.Set.Basic
import Mathlib.Tactic.Common

/-!
# Versioned tables

A table of slowly changing dimensions keeps every version of a row with the
half-open interval `[validStartTs, validEndTs)` in which it was current. The
current version of a key is the one whose interval is still open. Writers read
it with `oneOrNone`, close it and append its successor.

* `WellFormed`: intervals are non-empty, and the versions of one key follow
  each other without overlap.
* `Write`: what a disciplined statement does to a table. `Step` also allows
  rows to be erased.
* `asOf`: the rows valid at an instant. `Write` never changes it for the past, and for
  the present (`Past`) it is the open rows, `current`.
-/

namespace Scd

/-- A row together with the interval in which it was current. -/
structure Version (τ α : Type) where
  data : α
  validStartTs : τ
  validEndTs : Option τ
deriving DecidableEq, Repr

/-- Versions in the order in which they were inserted. -/
abbrev Table (τ α : Type) := List (Version τ α)

variable {τ α κ : Type}

namespace Version

/-- `validEndTs` is null. -/
def isActive (v : Version τ α) : Bool := v.validEndTs.isNone

theorem isActive_iff {v : Version τ α} : v.isActive = true ↔ v.validEndTs = none := by
  simp [isActive]

/-- The version with its interval ended at `now`. -/
def close (now : τ) (v : Version τ α) : Version τ α := { v with validEndTs := some now }

@[simp] theorem close_data (now : τ) (v : Version τ α) : (v.close now).data = v.data := rfl

@[simp] theorem close_validStartTs (now : τ) (v : Version τ α) :
    (v.close now).validStartTs = v.validStartTs := rfl

@[simp] theorem close_validEndTs (now : τ) (v : Version τ α) :
    (v.close now).validEndTs = some now := rfl

@[simp] theorem isActive_close (now : τ) (v : Version τ α) : (v.close now).isActive = false := rfl

section Order

variable [LinearOrder τ]

/-- The instant `t` lies in the version's interval. -/
def ValidAt (v : Version τ α) (t : τ) : Prop :=
  v.validStartTs ≤ t ∧ ∀ e ∈ v.validEndTs, t < e

instance (v : Version τ α) (t : τ) : Decidable (v.ValidAt t) := by
  unfold ValidAt; exact inferInstance

/-- The interval `[validStartTs, validEndTs)`, unbounded while the version is active. -/
def validity (v : Version τ α) : Set τ := {t | v.ValidAt t}

end Order

end Version

/-! ## Reading -/

section Read

variable [DecidableEq κ] (key : α → κ)

/-- The open versions of a key. -/
def active (k : κ) (t : Table τ α) : Table τ α :=
  t.filter fun v => v.isActive && decide (key v.data = k)

/-- A result set that is expected to hold at most one row; `none` when it holds more. -/
def oneOrNone {β : Type} : List β → Option (Option β)
  | [] => some none
  | [b] => some (some b)
  | _ :: _ :: _ => none

variable {key}

theorem mem_active {k : κ} {t : Table τ α} {v : Version τ α} :
    v ∈ active key k t ↔ v ∈ t ∧ v.validEndTs = none ∧ key v.data = k := by
  simp [active, Version.isActive]

@[simp] theorem active_nil (k : κ) : active key k ([] : Table τ α) = [] := rfl

@[simp] theorem active_append (k : κ) (t t' : Table τ α) :
    active key k (t ++ t') = active key k t ++ active key k t' := by
  simp [active]

theorem active_eq_nil_iff {k : κ} {t : Table τ α} :
    active key k t = [] ↔ ∀ v ∈ t, v.validEndTs = none → key v.data ≠ k := by
  rw [List.eq_nil_iff_forall_not_mem]
  simp only [mem_active, not_and]

@[simp] theorem oneOrNone_eq_some_none {β : Type} {l : List β} :
    oneOrNone l = some none ↔ l = [] := by
  rcases l with _ | ⟨b, _ | ⟨c, l⟩⟩ <;> simp [oneOrNone]

@[simp] theorem oneOrNone_eq_some_some {β : Type} {l : List β} {b : β} :
    oneOrNone l = some (some b) ↔ l = [b] := by
  rcases l with _ | ⟨c, _ | ⟨d, l⟩⟩ <;> simp [oneOrNone]

theorem oneOrNone_eq_none {β : Type} {l : List β} : oneOrNone l = none ↔ 2 ≤ l.length := by
  rcases l with _ | ⟨b, _ | ⟨c, l⟩⟩ <;> simp [oneOrNone]

end Read

/-! ## Statements -/

/-- Append a version that starts now. -/
def insert (now : τ) (x : α) (t : Table τ α) : Table τ α := t ++ [⟨x, now, none⟩]

/-- End the interval of every open version that satisfies `p`. -/
def closeWhere (now : τ) (p : α → Bool) (t : Table τ α) : Table τ α :=
  t.map fun v => if v.isActive && p v.data then v.close now else v

/-- Erase every version, open or closed, that satisfies `p`. -/
def deleteWhere (p : α → Bool) (t : Table τ α) : Table τ α :=
  t.filter fun v => !p v.data

section Statements

variable [DecidableEq κ] {key : α → κ}

@[simp] theorem length_insert (now : τ) (x : α) (t : Table τ α) :
    (insert now x t).length = t.length + 1 := by
  simp [insert]

@[simp] theorem length_closeWhere (now : τ) (p : α → Bool) (t : Table τ α) :
    (closeWhere now p t).length = t.length := by
  simp [closeWhere]

theorem mem_insert {now : τ} {x : α} {t : Table τ α} {v : Version τ α} :
    v ∈ insert now x t ↔ v ∈ t ∨ v = ⟨x, now, none⟩ := by
  simp [insert]

theorem mem_closeWhere {now : τ} {p : α → Bool} {t : Table τ α} {v : Version τ α} :
    v ∈ closeWhere now p t ↔
      (v ∈ t ∧ ¬(v.validEndTs = none ∧ p v.data = true)) ∨
        ∃ u ∈ t, u.validEndTs = none ∧ p u.data = true ∧ v = u.close now := by
  simp only [closeWhere, List.mem_map]
  constructor
  · rintro ⟨u, hu, rfl⟩
    by_cases h : u.isActive && p u.data
    · simp only [h, if_true]
      simp only [Bool.and_eq_true, Version.isActive_iff] at h
      exact Or.inr ⟨u, hu, h.1, h.2, rfl⟩
    · simp only [h]
      simp only [Bool.and_eq_true, Version.isActive_iff] at h
      exact Or.inl ⟨hu, h⟩
  · rintro (⟨hv, h⟩ | ⟨u, hu, h, hp, rfl⟩)
    · refine ⟨v, hv, ?_⟩
      rw [if_neg]
      simpa only [Bool.and_eq_true, Version.isActive_iff] using h
    · refine ⟨u, hu, ?_⟩
      rw [if_pos]
      simpa only [Bool.and_eq_true, Version.isActive_iff] using ⟨h, hp⟩

theorem mem_deleteWhere {p : α → Bool} {t : Table τ α} {v : Version τ α} :
    v ∈ deleteWhere p t ↔ v ∈ t ∧ p v.data = false := by
  simp [deleteWhere]

@[simp] theorem active_insert (k : κ) (now : τ) (x : α) (t : Table τ α) :
    active key k (insert now x t) =
      active key k t ++ if key x = k then [⟨x, now, none⟩] else [] := by
  by_cases h : key x = k <;> simp [insert, active, Version.isActive, h]

theorem active_closeWhere (k : κ) (now : τ) (p : α → Bool) (t : Table τ α) :
    active key k (closeWhere now p t) = (active key k t).filter fun v => !p v.data := by
  induction t with
  | nil => rfl
  | cons v t ih =>
    have hcons : closeWhere now p (v :: t) =
        (if v.isActive && p v.data then v.close now else v) :: closeWhere now p t := rfl
    rw [hcons]
    by_cases ha : v.isActive <;> by_cases hp : p v.data <;> by_cases hk : key v.data = k <;>
      simp_all [active]

/-- Closing the open versions of the key `k`. -/
def closeKey (key : α → κ) (now : τ) (k : κ) (t : Table τ α) : Table τ α :=
  closeWhere now (fun x => decide (key x = k)) t

theorem active_closeKey_self (now : τ) (k : κ) (t : Table τ α) :
    active key k (closeKey key now k t) = [] := by
  rw [closeKey, active_closeWhere, List.filter_eq_nil_iff]
  intro v hv
  simp [(mem_active.mp hv).2.2]

theorem active_closeKey_of_ne {k k' : κ} (h : k' ≠ k) (now : τ) (t : Table τ α) :
    active key k' (closeKey key now k t) = active key k' t := by
  rw [closeKey, active_closeWhere, List.filter_eq_self]
  intro v hv
  simp [(mem_active.mp hv).2.2, h]

/-- Closing touches nothing when no open version satisfies the predicate. -/
theorem closeWhere_eq_self {now : τ} {p : α → Bool} {t : Table τ α}
    (h : ∀ v ∈ t, v.validEndTs = none → p v.data = false) : closeWhere now p t = t := by
  refine (List.map_congr_left fun v hv => ?_).trans (List.map_id t)
  by_cases ha : v.validEndTs = none
  · simp [h v hv ha]
  · simp [Version.isActive, ha]

theorem deleteWhere_eq_self {p : α → Bool} {t : Table τ α}
    (h : ∀ v ∈ t, p v.data = false) : deleteWhere p t = t := by
  rw [deleteWhere, List.filter_eq_self]
  intro v hv
  simp [h v hv]

end Statements

/-! ## Well-formed tables -/

section WellFormed

variable [LinearOrder τ] (key : α → κ)

/-- An earlier version of the same key ended before the later one started. -/
def Follows (u v : Version τ α) : Prop :=
  key u.data = key v.data → ∃ e, u.validEndTs = some e ∧ e ≤ v.validStartTs

/-- Every timestamp lies before `now`, every interval is non-empty, and the versions
of a key succeed each other. -/
structure WellFormed (now : τ) (t : Table τ α) : Prop where
  started : ∀ v ∈ t, v.validStartTs < now
  ended : ∀ v ∈ t, ∀ e, v.validEndTs = some e → e < now
  nonempty : ∀ v ∈ t, ∀ e, v.validEndTs = some e → v.validStartTs < e
  follows : t.Pairwise (Follows key)

variable {key}

theorem wellFormed_nil (now : τ) : WellFormed key now ([] : Table τ α) :=
  ⟨by simp, by simp, by simp, List.Pairwise.nil⟩

theorem wellFormed_singleton {now : τ} {v : Version τ α} (hstart : v.validStartTs < now)
    (hend : ∀ e, v.validEndTs = some e → v.validStartTs < e ∧ e < now) :
    WellFormed key now [v] where
  started := by simpa using hstart
  ended := by simpa using fun e he => (hend e he).2
  nonempty := by simpa using fun e he => (hend e he).1
  follows := List.pairwise_singleton ..

/-- Open versions of different keys. -/
theorem wellFormed_open {now start : τ} (hstart : start < now) {rows : List α}
    (h : (rows.map key).Nodup) : WellFormed key now (rows.map fun data => ⟨data, start, none⟩) where
  started := by simpa using fun _ _ => hstart
  ended := by simp
  nonempty := by simp
  follows := by
    refine List.pairwise_map.mpr ((List.pairwise_map.mp h).imp fun hne hkey => ?_)
    exact absurd hkey hne

theorem WellFormed.mono {now now' : τ} {t : Table τ α} (h : WellFormed key now t)
    (hle : now ≤ now') : WellFormed key now' t :=
  ⟨fun v hv => (h.started v hv).trans_le hle, fun v hv e he => (h.ended v hv e he).trans_le hle,
    h.nonempty, h.follows⟩

/-- A non-empty interval contains its start. -/
theorem WellFormed.validity_nonempty {now : τ} {t : Table τ α} (h : WellFormed key now t)
    {v : Version τ α} (hv : v ∈ t) : v.validity.Nonempty :=
  ⟨v.validStartTs, le_refl _, fun e he => h.nonempty v hv e he⟩

theorem Follows.disjoint {u v : Version τ α} (h : Follows key u v)
    (hk : key u.data = key v.data) : Disjoint u.validity v.validity := by
  obtain ⟨e, he, hle⟩ := h hk
  rw [Set.disjoint_left]
  intro x hu hv
  exact absurd (hu.2 e he) (not_lt.mpr (hle.trans hv.1))

/-- The intervals of one key's versions are pairwise disjoint. -/
theorem WellFormed.pairwise_disjoint [DecidableEq κ] {now : τ} {t : Table τ α}
    (h : WellFormed key now t) (k : κ) :
    (t.filter fun v => key v.data = k).Pairwise fun u v => Disjoint u.validity v.validity := by
  refine (h.follows.filter _).imp_of_mem fun {u v} hu hv huv => huv.disjoint ?_
  simp only [List.mem_filter, decide_eq_true_eq] at hu hv
  rw [hu.2, hv.2]

/-- A key has at most one open version. -/
theorem WellFormed.length_active_le [DecidableEq κ] {now : τ} {t : Table τ α}
    (h : WellFormed key now t) (k : κ) : (active key k t).length ≤ 1 := by
  have hp : (active key k t).Pairwise (Follows key) := h.follows.filter _
  match hact : active key k t with
  | [] => simp
  | [v] => simp
  | u :: v :: rest =>
    rw [hact] at hp
    have hu : u ∈ active key k t := by simp [hact]
    have hv : v ∈ active key k t := by simp [hact]
    obtain ⟨-, hnone, huk⟩ := mem_active.mp hu
    obtain ⟨-, -, hvk⟩ := mem_active.mp hv
    obtain ⟨e, he, -⟩ := List.rel_of_pairwise_cons hp (by simp : v ∈ v :: rest) (huk.trans hvk.symm)
    rw [hnone] at he
    cases he

section Preservation

variable {now now' : τ} {t : Table τ α}

theorem WellFormed.closeWhere (h : WellFormed key now t) (hlt : now < now') (p : α → Bool) :
    WellFormed key now' (closeWhere now p t) where
  started := by
    intro v hv
    rcases mem_closeWhere.mp hv with ⟨hv, -⟩ | ⟨u, hu, -, -, rfl⟩
    · exact (h.started v hv).trans hlt
    · exact (h.started u hu).trans hlt
  ended := by
    intro v hv e he
    rcases mem_closeWhere.mp hv with ⟨hv, -⟩ | ⟨u, -, -, -, rfl⟩
    · exact (h.ended v hv e he).trans hlt
    · simp only [Version.close_validEndTs, Option.some.injEq] at he
      exact he ▸ hlt
  nonempty := by
    intro v hv e he
    rcases mem_closeWhere.mp hv with ⟨hv, -⟩ | ⟨u, hu, -, -, rfl⟩
    · exact h.nonempty v hv e he
    · simp only [Version.close_validEndTs, Option.some.injEq] at he
      exact he ▸ h.started u hu
  follows := by
    refine List.pairwise_map.mpr (h.follows.imp ?_)
    intro u v huv hk
    -- the earlier version was closed already, so the statement leaves it alone
    have hk' : key u.data = key v.data := by
      split_ifs at hk <;> simpa using hk
    obtain ⟨e, he, hle⟩ := huv hk'
    refine ⟨e, ?_, ?_⟩
    · simp [Version.isActive, he]
    · split_ifs <;> simpa using hle

theorem WellFormed.insert [DecidableEq κ] (h : WellFormed key now' t) (hlt : now < now') {x : α}
    (hx : active key (key x) t = []) (hpast : ∀ v ∈ t, ∀ e, v.validEndTs = some e → e ≤ now) :
    WellFormed key now' (insert now x t) where
  started := by
    intro v hv
    rcases mem_insert.mp hv with hv | rfl
    · exact h.started v hv
    · exact hlt
  ended := by
    intro v hv e he
    rcases mem_insert.mp hv with hv | rfl
    · exact h.ended v hv e he
    · cases he
  nonempty := by
    intro v hv e he
    rcases mem_insert.mp hv with hv | rfl
    · exact h.nonempty v hv e he
    · cases he
  follows := by
    refine List.pairwise_append.mpr ⟨h.follows, List.pairwise_singleton _ _, ?_⟩
    intro u hu v hv hk
    rw [List.mem_singleton] at hv
    subst hv
    match he : u.validEndTs with
    | none => exact absurd hk (active_eq_nil_iff.mp hx u hu he)
    | some e => exact ⟨e, rfl, hpast u hu e he⟩

theorem WellFormed.deleteWhere (h : WellFormed key now t) (p : α → Bool) :
    WellFormed key now (deleteWhere p t) where
  started := fun v hv => h.started v (mem_deleteWhere.mp hv).1
  ended := fun v hv => h.ended v (mem_deleteWhere.mp hv).1
  nonempty := fun v hv => h.nonempty v (mem_deleteWhere.mp hv).1
  follows := h.follows.filter _

end Preservation

end WellFormed

/-! ## What a statement may do -/

section Statement

variable [DecidableEq κ] (key : α → κ) (S : Option α → α → Prop) (now : τ)

/-- A writer leaves the table alone, inserts a row for a key that has no open
version, or replaces the one open version of its key. `S` relates the data it
replaces to the data it inserts. -/
inductive Revision (t : Table τ α) : Table τ α → Prop
  | keep : Revision t t
  | insert (x : α) (hS : S none x) (hx : active key (key x) t = []) : Revision t (insert now x t)
  | replace (x : α) (v : Version τ α) (hS : S (some v.data) x) (hx : active key (key x) t = [v]) :
      Revision t (insert now x (closeKey key now (key x) t))

/-- A writer, or a statement that ends the interval of selected open versions. -/
inductive Write (t : Table τ α) : Table τ α → Prop
  | revision {t' : Table τ α} (h : Revision key S now t t') : Write t t'
  | close (p : α → Bool) : Write t (closeWhere now p t)

/-- A `Write`, or a statement that erases versions. -/
inductive Step (t : Table τ α) : Table τ α → Prop
  | write {t' : Table τ α} (h : Write key S now t t') : Step t t'
  | delete (p : α → Bool) : Step t (deleteWhere p t)

variable {key S now}

/-- The template of the upsert transactions: read the open version of `k`, let `next`
decide, close the old version if there is one, insert the new. `none` when the read
finds several open versions. -/
def revise (key : α → κ) (now : τ) (k : κ) (next : Option α → Option α) (t : Table τ α) :
    Option (Table τ α) :=
  match oneOrNone (active key k t) with
  | none => none
  | some row =>
    match next (row.map Version.data) with
    | none => some t
    | some x => some (insert now x (if row.isSome then closeKey key now k t else t))

/-- What `revise` returns, by what the read finds. -/
theorem revise_cases {k : κ} {next : Option α → Option α} {t t' : Table τ α}
    (h : revise key now k next t = some t') :
    (active key k t = [] ∧ next none = none ∧ t' = t) ∨
    (∃ x, active key k t = [] ∧ next none = some x ∧ t' = insert now x t) ∨
    (∃ v, active key k t = [v] ∧ next (some v.data) = none ∧ t' = t) ∨
    (∃ v x, active key k t = [v] ∧ next (some v.data) = some x ∧
      t' = insert now x (closeKey key now k t)) := by
  unfold revise at h
  match hrow : oneOrNone (active key k t) with
  | none => simp [hrow] at h
  | some none =>
    have hnil := oneOrNone_eq_some_none.mp hrow
    match hnext : next none with
    | none => simp [hrow, hnext] at h; exact Or.inl ⟨hnil, rfl, h.symm⟩
    | some x => simp [hrow, hnext] at h; exact Or.inr (Or.inl ⟨x, hnil, rfl, h.symm⟩)
  | some (some v) =>
    have hone := oneOrNone_eq_some_some.mp hrow
    match hnext : next (some v.data) with
    | none =>
      simp [hrow, hnext] at h
      exact Or.inr (Or.inr (Or.inl ⟨v, hone, hnext, h.symm⟩))
    | some x =>
      simp [hrow, hnext] at h
      exact Or.inr (Or.inr (Or.inr ⟨v, x, hone, hnext, h.symm⟩))

theorem revise_revision {k : κ} {next : Option α → Option α} {t t' : Table τ α}
    (hnext : ∀ row x, next row = some x → key x = k ∧ S row x)
    (h : revise key now k next t = some t') : Revision key S now t t' := by
  rcases revise_cases h with ⟨-, -, rfl⟩ | ⟨x, hx, hn, rfl⟩ | ⟨v, -, -, rfl⟩ | ⟨v, x, hx, hn, rfl⟩
  · exact .keep
  · obtain ⟨rfl, hS⟩ := hnext _ _ hn
    exact .insert x hS hx
  · exact .keep
  · obtain ⟨rfl, hS⟩ := hnext _ _ hn
    exact .replace x v hS hx

/-- Without a second open version the template commits. -/
theorem revise_isSome {k : κ} {next : Option α → Option α} {t : Table τ α}
    (h : (active key k t).length ≤ 1) : ∃ t', revise key now k next t = some t' := by
  unfold revise
  match hrow : oneOrNone (active key k t) with
  | none =>
    have := oneOrNone_eq_none.mp hrow
    omega
  | some row =>
    match hn : next (row.map Version.data) with
    | none => exact ⟨t, by simp [hn]⟩
    | some x => exact ⟨_, by simp only [hn]; rfl⟩

section Mono

variable {S' : Option α → α → Prop} {t t' : Table τ α}

theorem Revision.imp (h : Revision key S now t t') (hS : ∀ row x, S row x → S' row x) :
    Revision key S' now t t' := by
  cases h with
  | keep => exact .keep
  | insert x hx hk => exact .insert x (hS _ x hx) hk
  | replace x v hx hk => exact .replace x v (hS _ x hx) hk

end Mono

/-! ## What every statement preserves -/

section Preservation

variable [LinearOrder τ] {now' : τ} {t t' : Table τ α}

theorem WellFormed.revision (hw : WellFormed key now t) (h : Revision key S now t t')
    (hlt : now < now') : WellFormed key now' t' := by
  cases h with
  | keep => exact hw.mono hlt.le
  | insert x _ hx =>
    exact (hw.mono hlt.le).insert hlt hx fun v hv e he => (hw.ended v hv e he).le
  | replace x v _ hx =>
    refine (hw.closeWhere hlt _).insert hlt (active_closeKey_self now _ t) ?_
    intro u hu e he
    rcases mem_closeWhere.mp hu with ⟨hu, -⟩ | ⟨u, -, -, -, rfl⟩
    · exact (hw.ended u hu e he).le
    · simp only [Version.close_validEndTs, Option.some.injEq] at he
      exact he ▸ le_refl _

/-- One statement keeps the table well formed. -/
theorem WellFormed.step (hw : WellFormed key now t) (h : Step key S now t t')
    (hlt : now < now') : WellFormed key now' t' := by
  cases h with
  | write h =>
    cases h with
    | revision h => exact hw.revision h hlt
    | close p => exact hw.closeWhere hlt p
  | delete p => exact (hw.mono hlt.le).deleteWhere p

omit [LinearOrder τ] in
theorem exists_of_mem_closeWhere {p : α → Bool} {v : Version τ α} (hv : v ∈ closeWhere now p t) :
    ∃ u ∈ t, u.data = v.data ∧ u.validStartTs = v.validStartTs := by
  rcases mem_closeWhere.mp hv with ⟨hv, -⟩ | ⟨u, hu, -, -, rfl⟩
  · exact ⟨v, hv, rfl, rfl⟩
  · exact ⟨u, hu, rfl, rfl⟩

omit [LinearOrder τ] in
/-- Every row a statement leaves behind was there before, or is one it inserted. -/
theorem Step.origin (h : Step key S now t t') {v : Version τ α} (hv : v ∈ t') :
    (∃ u ∈ t, u.data = v.data ∧ u.validStartTs = v.validStartTs) ∨
      (v.validStartTs = now ∧
        (S none v.data ∨ ∃ u ∈ t, key u.data = key v.data ∧ S (some u.data) v.data)) := by
  cases h with
  | write h =>
    cases h with
    | revision h =>
      cases h with
      | keep => exact Or.inl ⟨v, hv, rfl, rfl⟩
      | insert x hS _ =>
        rcases mem_insert.mp hv with hv | rfl
        · exact Or.inl ⟨v, hv, rfl, rfl⟩
        · exact Or.inr ⟨rfl, Or.inl hS⟩
      | replace x u hS hx =>
        rcases mem_insert.mp hv with hv | rfl
        · exact Or.inl (exists_of_mem_closeWhere hv)
        · have hu : u ∈ active key (key x) t := hx ▸ List.mem_singleton_self u
          exact Or.inr ⟨rfl, Or.inr ⟨u, (mem_active.mp hu).1, (mem_active.mp hu).2.2, hS⟩⟩
    | close p => exact Or.inl (exists_of_mem_closeWhere hv)
  | delete p => exact Or.inl ⟨v, (mem_deleteWhere.mp hv).1, rfl, rfl⟩

omit [LinearOrder τ] in
/-- A property of rows that every insertion passes on. -/
theorem Step.forall_data (h : Step key S now t t') {I : α → Prop}
    (hS : ∀ row x, S row x → (∀ y, row = some y → key y = key x ∧ I y) → I x)
    (ht : ∀ v ∈ t, I v.data) :
    ∀ v ∈ t', I v.data := by
  intro v hv
  rcases h.origin hv with ⟨u, hu, hdata, -⟩ | ⟨-, hnone | ⟨u, hu, hkey, hsome⟩⟩
  · exact hdata ▸ ht u hu
  · exact hS _ _ hnone (by simp)
  · exact hS _ _ hsome (by rintro y ⟨rfl⟩; exact ⟨hkey, ht u hu⟩)

end Preservation

end Statement

/-! ## What a statement leaves in place -/

section Survivors

variable {now : τ} {p : α → Bool} {t : Table τ α} {C : Version τ α → Prop}

/-- Closing spares the versions outside `C` exactly when every open version it selects
is in `C`. -/
theorem forall_mem_closeWhere_iff :
    (∀ v ∈ t, ¬C v → v ∈ Scd.closeWhere now p t) ↔
      ∀ v ∈ t, v.isActive = true → p v.data = true → C v := by
  constructor
  · intro h v hv hopen hp
    rw [Version.isActive_iff] at hopen
    by_contra hC
    rcases mem_closeWhere.mp (h v hv hC) with ⟨-, hkeep⟩ | ⟨u, -, -, -, rfl⟩
    · exact hkeep ⟨hopen, hp⟩
    · cases hopen
  · intro h v hv hC
    refine mem_closeWhere.mpr (Or.inl ⟨hv, fun ⟨hopen, hp⟩ => hC ?_⟩)
    exact h v hv (Version.isActive_iff.mpr hopen) hp

/-- Erasing spares the versions outside `C` exactly when every version it selects is in `C`. -/
theorem forall_mem_deleteWhere_iff :
    (∀ v ∈ t, ¬C v → v ∈ Scd.deleteWhere p t) ↔ ∀ v ∈ t, p v.data = true → C v := by
  constructor
  · intro h v hv hp
    by_contra hC
    have hkeep := (mem_deleteWhere.mp (h v hv hC)).2
    rw [hp] at hkeep
    cases hkeep
  · intro h v hv hC
    refine mem_deleteWhere.mpr ⟨hv, ?_⟩
    rw [Bool.eq_false_iff]
    exact fun hp => hC (h v hv hp)

end Survivors

/-! ## History -/

section History

variable [LinearOrder τ]

/-- The rows valid at `u`, each with the instant it became current. -/
def asOf (u : τ) (t : Table τ α) : List (α × τ) :=
  (t.filter fun v => v.ValidAt u).map fun v => (v.data, v.validStartTs)

theorem asOf_insert {u now : τ} (h : u < now) (x : α) (t : Table τ α) :
    asOf u (insert now x t) = asOf u t := by
  have hx : ¬(⟨x, now, none⟩ : Version τ α).ValidAt u := fun hv => absurd hv.1 (not_le.mpr h)
  simp [asOf, insert, hx]

/-- No key is valid twice at an instant. -/
theorem WellFormed.nodup_asOf {key : α → κ} {now u : τ} {t : Table τ α}
    (h : WellFormed key now t) : ((asOf u t).map fun p => key p.1).Nodup := by
  rw [asOf, List.map_map]
  refine List.pairwise_map.mpr ((h.follows.filter _).imp_of_mem fun {v w} hv hw hfollows hkey => ?_)
  have hv := of_decide_eq_true (List.mem_filter.mp hv).2
  have hw := of_decide_eq_true (List.mem_filter.mp hw).2
  obtain ⟨e, he, hle⟩ := hfollows hkey
  exact absurd (hv.2 e he) (not_lt.mpr (hle.trans hw.1))

/-- An interval that ends later than `u` still contains `u`. -/
theorem asOf_closeWhere {u now : τ} (h : u < now) (p : α → Bool) (t : Table τ α) :
    asOf u (closeWhere now p t) = asOf u t := by
  induction t with
  | nil => rfl
  | cons v t ih =>
    have hcons : closeWhere now p (v :: t) =
        (if v.isActive && p v.data then v.close now else v) :: closeWhere now p t := rfl
    have happ : ∀ (w : Version τ α) (r : Table τ α), asOf u (w :: r) =
        (if w.ValidAt u then [(w.data, w.validStartTs)] else []) ++ asOf u r := by
      intro w r
      by_cases hw : w.ValidAt u <;> simp [asOf, hw]
    rw [hcons, happ, happ, ih]
    congr 1
    split_ifs with hc h1 h2 h2 <;> try rfl
    · simp only [Bool.and_eq_true, Version.isActive_iff] at hc
      refine absurd ⟨h1.1, ?_⟩ h2
      simp [hc.1]
    · refine absurd ⟨h2.1, ?_⟩ h1
      simpa using h

/-- The open rows, each with the instant it became current. -/
def current (t : Table τ α) : List (α × τ) :=
  (t.filter Version.isActive).map fun v => (v.data, v.validStartTs)

/-- No key is open twice. -/
theorem WellFormed.nodup_current {key : α → κ} {now : τ} {t : Table τ α}
    (h : WellFormed key now t) : ((current t).map fun p => key p.1).Nodup := by
  rw [current, List.map_map]
  refine List.pairwise_map.mpr ((h.follows.filter _).imp_of_mem fun {v w} hv _ hfollows hkey => ?_)
  have hopen := Version.isActive_iff.mp (List.mem_filter.mp hv).2
  obtain ⟨e, he, -⟩ := hfollows hkey
  rw [hopen] at he
  cases he

variable [DecidableEq κ] {key : α → κ} {S : Option α → α → Prop} {now : τ} {t t' : Table τ α}

/-- A write never changes what a query about the past returns. -/
theorem Write.asOf_eq (h : Write key S now t t') {u : τ} (hu : u < now) :
    asOf u t' = asOf u t := by
  cases h with
  | revision h =>
    cases h with
    | keep => rfl
    | insert x _ _ => exact asOf_insert hu x t
    | replace x _ _ _ => rw [asOf_insert hu, closeKey, asOf_closeWhere hu]
  | close p => exact asOf_closeWhere hu p t

/-- No timestamp of the table lies after `u`. -/
def Past (u : τ) (t : Table τ α) : Prop :=
  ∀ v ∈ t, v.validStartTs ≤ u ∧ ∀ e ∈ v.validEndTs, e ≤ u

/-- Once everything in a table is past, the rows that are valid are the open ones. -/
theorem Past.asOf_eq {u : τ} (h : Past u t) : asOf u t = current t := by
  unfold asOf current
  congr 1
  refine List.filter_congr fun v hv => ?_
  obtain ⟨hstart, hend⟩ := h v hv
  cases hv' : v.validEndTs with
  | none => simp [Version.ValidAt, Version.isActive, hv', hstart]
  | some e =>
    have hle : e ≤ u := hend e hv'
    simp [Version.ValidAt, Version.isActive, hv', hle]

omit [LinearOrder τ] in
/-- The end of an interval was there before, or is that of the statement. -/
theorem validEndTs_of_mem_closeWhere {p : α → Bool} {v : Version τ α}
    (hv : v ∈ closeWhere now p t) :
    ∃ u ∈ t, u.validStartTs = v.validStartTs ∧
      (u.validEndTs = v.validEndTs ∨ v.validEndTs = some now) := by
  rcases mem_closeWhere.mp hv with ⟨hv, -⟩ | ⟨u, hu, -, -, rfl⟩
  · exact ⟨v, hv, rfl, Or.inl rfl⟩
  · exact ⟨u, hu, rfl, Or.inr rfl⟩

theorem Past.closeWhere {u : τ} (h : Past u t) (hle : now ≤ u) (p : α → Bool) :
    Past u (closeWhere now p t) := by
  intro v hv
  obtain ⟨w, hw, hstart, hend⟩ := validEndTs_of_mem_closeWhere hv
  refine ⟨hstart ▸ (h w hw).1, fun e he => ?_⟩
  rcases hend with hend | hend
  · exact (h w hw).2 e (hend ▸ he)
  · rw [hend, Option.mem_some_iff] at he
    exact he ▸ hle

theorem Past.insert {u : τ} (h : Past u t) (hle : now ≤ u) (x : α) : Past u (insert now x t) := by
  intro v hv
  rcases mem_insert.mp hv with hv | rfl
  · exact h v hv
  · exact ⟨hle, by simp⟩

/-- What a statement writes is past once its own timestamp is. -/
theorem Step.past (h : Step key S now t t') {u : τ} (ht : Past u t) (hle : now ≤ u) :
    Past u t' := by
  cases h with
  | write h =>
    cases h with
    | revision h =>
      cases h with
      | keep => exact ht
      | insert x _ _ => exact ht.insert hle x
      | replace x _ _ _ => exact (ht.closeWhere hle _).insert hle x
    | close p => exact ht.closeWhere hle p
  | delete p => exact fun v hv => ht v (mem_deleteWhere.mp hv).1

/-- A row of `t` is in `t'` with the same start, either untouched or, when it was open,
closed at some instant. -/
def Kept (t t' : Table τ α) : Prop :=
  ∀ v ∈ t, v ∈ t' ∨ (v.validEndTs = none ∧ ∃ e, v.close e ∈ t')

omit [LinearOrder τ] in
theorem Kept.refl (t : Table τ α) : Kept t t := fun _ hv => Or.inl hv

omit [LinearOrder τ] in
theorem Kept.trans {t₁ t₂ t₃ : Table τ α} (h : Kept t₁ t₂) (h' : Kept t₂ t₃) : Kept t₁ t₃ := by
  intro v hv
  rcases h v hv with hv | ⟨hnone, e, he⟩
  · exact h' v hv
  · rcases h' _ he with he | ⟨hnone', -⟩
    · exact Or.inr ⟨hnone, e, he⟩
    · cases hnone'

omit [LinearOrder τ] in
theorem kept_closeWhere (now : τ) (p : α → Bool) (t : Table τ α) :
    Kept t (closeWhere now p t) := by
  intro v hv
  by_cases h : v.validEndTs = none ∧ p v.data = true
  · exact Or.inr ⟨h.1, now, mem_closeWhere.mpr (Or.inr ⟨v, hv, h.1, h.2, rfl⟩)⟩
  · exact Or.inl (mem_closeWhere.mpr (Or.inl ⟨hv, h⟩))

omit [LinearOrder τ] in
theorem kept_insert (now : τ) (x : α) (t : Table τ α) : Kept t (insert now x t) :=
  fun _ hv => Or.inl (mem_insert.mpr (Or.inl hv))

omit [LinearOrder τ] in
/-- A write removes no row and leaves the closed ones alone. -/
theorem Write.kept (h : Write key S now t t') : Kept t t' := by
  cases h with
  | revision h =>
    cases h with
    | keep => exact Kept.refl t
    | insert x _ _ => exact kept_insert now x t
    | replace x _ _ _ => exact (kept_closeWhere now _ t).trans (kept_insert now x _)
  | close p => exact kept_closeWhere now p t

end History

/-! ## Keys under revision -/

section Keys

variable [DecidableEq κ] {key : α → κ} {S : Option α → α → Prop} {now : τ} {t t' : Table τ α}

/-- A writer never leaves a key without an open version that had one. -/
theorem Revision.active_ne_nil (h : Revision key S now t t') {k : κ}
    (hk : active key k t ≠ []) : active key k t' ≠ [] := by
  cases h with
  | keep => exact hk
  | insert x _ _ => simp [hk]
  | replace x _ _ _ =>
    by_cases hx : key x = k
    · simp [hx]
    · rw [active_insert, active_closeKey_of_ne (Ne.symm hx)]
      simp [hk]

/-- A key that gains its first open version is the key of an inserted row. -/
theorem Revision.key_of_active (h : Revision key S now t t') {k : κ}
    (hk : active key k t' ≠ []) : active key k t ≠ [] ∨ ∃ x, S none x ∧ key x = k := by
  cases h with
  | keep => exact Or.inl hk
  | insert x hS _ =>
    by_cases hx : key x = k
    · exact Or.inr ⟨x, hS, hx⟩
    · exact Or.inl (by simpa [hx] using hk)
  | replace x v _ hv =>
    by_cases hx : key x = k
    · subst hx
      exact Or.inl (by simp [hv])
    · refine Or.inl ?_
      rwa [active_insert, active_closeKey_of_ne (Ne.symm hx), if_neg hx, List.append_nil] at hk

/-- A writer leaves every key alone that none of its rows has. -/
theorem Revision.active_eq (h : Revision key S now t t') {k : κ}
    (hk : ∀ row x, S row x → key x ≠ k) : active key k t' = active key k t := by
  cases h with
  | keep => rfl
  | insert x hS _ => simp [hk _ x hS]
  | replace x v hS _ =>
    rw [active_insert, if_neg (hk _ x hS), List.append_nil,
      active_closeKey_of_ne (Ne.symm (hk _ x hS))]

/-- A writer opens no second version of a key. -/
theorem Revision.length_active_le (h : Revision key S now t t') {k : κ}
    (hk : (active key k t).length ≤ 1) : (active key k t').length ≤ 1 := by
  cases h with
  | keep => exact hk
  | insert x _ hx =>
    by_cases hxk : key x = k
    · subst hxk
      simp [hx]
    · simpa [hxk] using hk
  | replace x _ _ _ =>
    by_cases hxk : key x = k
    · subst hxk
      simp [active_closeKey_self]
    · rwa [active_insert, if_neg hxk, List.append_nil, active_closeKey_of_ne (Ne.symm hxk)]

/-- A writer none of whose rows is admissible leaves the table alone. -/
theorem Revision.eq_self (h : Revision key S now t t') (hS : ∀ row x, ¬S row x) : t' = t := by
  cases h with
  | keep => rfl
  | insert x hx _ => exact absurd hx (hS _ x)
  | replace x v hx _ => exact absurd hx (hS _ x)

/-- The number of versions of a key. -/
def versions (key : α → κ) (k : κ) (t : Table τ α) : ℕ :=
  (t.filter fun v => decide (key v.data = k)).length

@[simp] theorem versions_insert (k : κ) (x : α) (t : Table τ α) :
    versions key k (insert now x t) = versions key k t + if key x = k then 1 else 0 := by
  by_cases h : key x = k <;> simp [versions, insert, h]

@[simp] theorem versions_closeWhere (k : κ) (p : α → Bool) (t : Table τ α) :
    versions key k (closeWhere now p t) = versions key k t := by
  unfold versions closeWhere
  rw [List.filter_map, List.length_map]
  congr 2
  funext v
  dsimp only [Function.comp]
  split_ifs <;> rfl

theorem Revision.versions_le (h : Revision key S now t t') (k : κ) :
    versions key k t ≤ versions key k t' := by
  cases h with
  | keep => exact le_refl _
  | insert x _ _ => simp
  | replace x _ _ _ => simp [closeKey]

end Keys

end Scd

/-!
## Joins of versioned tables

A table of edges is joined with the versions of its sources and of its targets. Two versions meet
when each starts before the other ends, where a null end is read as the instant `eot`. The edges
carry intervals of their own, which this comparison does not look at.

* `exists_validAt_and`: when two versions have an instant in common.
* `mem_join_iff`: which pairs of versions a join holds.
* `join_iff_joined`: when these are the pairs that an edge joins at some instant.
-/

namespace Scd

variable {τ α β ε ι : Type} [LinearOrder τ]

/-! ## Two versions -/

namespace Version

/-- `IFNULL(valid_end_ts, eot)` -/
def endTs (eot : τ) (v : Version τ α) : τ := v.validEndTs.getD eot

def meets (eot : τ) (u : Version τ α) (v : Version τ β) : Bool :=
  decide (u.validStartTs < v.endTs eot) && decide (v.validStartTs < u.endTs eot)

/-- A version that has not ended reads as one that ends after the other starts. -/
def OpenBefore (eot : τ) (u : Version τ α) (v : Version τ β) : Prop :=
  (v.validEndTs = none → u.validStartTs < eot) ∧ (u.validEndTs = none → v.validStartTs < eot)

variable {eot : τ} {u : Version τ α} {v : Version τ β}

/-- Two versions have an instant in common when each starts before the other ends. -/
theorem exists_validAt_and (hu : ∀ e ∈ u.validEndTs, u.validStartTs < e)
    (hv : ∀ e ∈ v.validEndTs, v.validStartTs < e) :
    (∃ t, u.ValidAt t ∧ v.ValidAt t) ↔
      (∀ e ∈ v.validEndTs, u.validStartTs < e) ∧ ∀ e ∈ u.validEndTs, v.validStartTs < e := by
  constructor
  · rintro ⟨t, ⟨hut, hue⟩, hvt, hve⟩
    exact ⟨fun e he => hut.trans_lt (hve e he), fun e he => hvt.trans_lt (hue e he)⟩
  · rintro ⟨huv, hvu⟩
    exact ⟨max u.validStartTs v.validStartTs,
      ⟨le_max_left .., fun e he => max_lt (hu e he) (hvu e he)⟩,
      le_max_right .., fun e he => max_lt (huv e he) (hv e he)⟩

theorem lt_endTs_iff {t : τ} :
    t < v.endTs eot ↔ (∀ e ∈ v.validEndTs, t < e) ∧ (v.validEndTs = none → t < eot) := by
  unfold endTs
  cases v.validEndTs with
  | none => simp
  | some e => simp

theorem meets_iff (hu : ∀ e ∈ u.validEndTs, u.validStartTs < e)
    (hv : ∀ e ∈ v.validEndTs, v.validStartTs < e) :
    meets eot u v = true ↔ (∃ t, u.ValidAt t ∧ v.ValidAt t) ∧ OpenBefore eot u v := by
  unfold meets OpenBefore
  rw [Bool.and_eq_true, decide_eq_true_iff, decide_eq_true_iff, exists_validAt_and hu hv,
    lt_endTs_iff, lt_endTs_iff]
  exact and_and_and_comm

theorem meets_comm : meets eot u v = meets eot v u := Bool.and_comm ..

end Version

/-- A table that is well formed by the image of a key is so by the key. -/
theorem WellFormed.of_comp {κ κ' : Type} {key : α → κ} {f : κ → κ'} {now : τ} {t : Table τ α}
    (h : WellFormed (fun x => f (key x)) now t) : WellFormed key now t where
  started := h.started
  ended := h.ended
  nonempty := h.nonempty
  follows := h.follows.imp fun hfollows hkey => hfollows (congrArg f hkey)

/-- The versions of a key start at different instants. -/
theorem WellFormed.eq_of_start {κ : Type} {key : α → κ} {now : τ} {t : Table τ α}
    (h : WellFormed key now t) {u v : Version τ α} (hu : u ∈ t) (hv : v ∈ t)
    (hkey : key u.data = key v.data) (hstart : u.validStartTs = v.validStartTs) : u = v := by
  have hpairs : t.Pairwise fun u v =>
      key u.data = key v.data → u.validStartTs = v.validStartTs → u = v := by
    refine h.follows.imp_of_mem fun {u v} hu hv hfollows hkey hstart => ?_
    obtain ⟨e, he, hle⟩ := hfollows hkey
    exact absurd (hstart ▸ hle) (not_le.mpr (h.nonempty u hu e he))
  exact hpairs.forall_of_forall_of_flip (fun _ _ _ _ => rfl)
    (hpairs.imp fun hsame hkey hstart => (hsame hkey.symm hstart.symm).symm) hu hv hkey hstart

/-! ## Joins over a table of edges -/

/-- Two versions, by their ids and starts. -/
structure Pair (ι τ : Type) where
  sourceId : ι
  sourceTs : τ
  targetId : ι
  targetTs : τ
deriving DecidableEq

/-- The other way round. -/
def Pair.swap (p : Pair ι τ) : Pair ι τ := ⟨p.targetId, p.targetTs, p.sourceId, p.sourceTs⟩

def Pair.of (idOf : α → ι) (idOf' : β → ι) (u : Version τ α) (v : Version τ β) : Pair ι τ :=
  ⟨idOf u.data, u.validStartTs, idOf' v.data, v.validStartTs⟩

section Join

variable [DecidableEq ι] (eot : τ) (idOf : α → ι) (src dst : ε → ι) (idOf' : β → ι)
  (sources : Table τ α) (edges : Table τ ε) (targets : Table τ β)

/-- Sources and targets that meet and that an edge names, without repetitions. -/
def join : List (Pair ι τ) :=
  (sources.flatMap fun u =>
    (edges.filter fun e => idOf u.data = src e.data).flatMap fun e =>
      (targets.filter fun v => dst e.data = idOf' v.data ∧ u.meets eot v).map fun v =>
        .of idOf idOf' u v).dedup

/-- An edge of the ids is valid at an instant of both versions. -/
def Joined (u : Version τ α) (v : Version τ β) : Prop :=
  ∃ e ∈ edges, idOf u.data = src e.data ∧ dst e.data = idOf' v.data ∧
    ∃ t, u.ValidAt t ∧ e.ValidAt t ∧ v.ValidAt t

/-- Versions with an instant in common whose ids an edge joins at any time are joined by an edge
at such an instant, and only open versions that start before `eot` are. -/
def Held (u : Version τ α) (v : Version τ β) : Prop :=
  ((∃ e ∈ edges, idOf u.data = src e.data ∧ dst e.data = idOf' v.data) →
      (∃ t, u.ValidAt t ∧ v.ValidAt t) → u.OpenBefore eot v →
    Joined idOf src dst idOf' edges u v) ∧
  (Joined idOf src dst idOf' edges u v → u.OpenBefore eot v)

variable {eot idOf src dst idOf' sources edges targets}

theorem mem_join {p : Pair ι τ} :
    p ∈ join eot idOf src dst idOf' sources edges targets ↔
      ∃ u ∈ sources, ∃ v ∈ targets, p = .of idOf idOf' u v ∧ u.meets eot v = true ∧
        ∃ e ∈ edges, idOf u.data = src e.data ∧ dst e.data = idOf' v.data := by
  simp only [join, List.mem_dedup, List.mem_flatMap, List.mem_map, List.mem_filter,
    decide_eq_true_eq, Bool.decide_and, Bool.decide_eq_true, Bool.and_eq_true]
  constructor
  · rintro ⟨u, hu, e, ⟨he, hsrc⟩, v, ⟨hv, hdst, hmeets⟩, rfl⟩
    exact ⟨u, hu, v, hv, rfl, hmeets, e, he, hsrc, hdst⟩
  · rintro ⟨u, hu, v, hv, rfl, hmeets, e, he, hsrc, hdst⟩
    exact ⟨u, hu, e, ⟨he, hsrc⟩, v, ⟨hv, hdst, hmeets⟩, rfl⟩

/-- A join read from the targets holds the same pairs the other way round. -/
theorem swap_mem_join {p : Pair ι τ} :
    p.swap ∈ join eot idOf' dst src idOf targets edges sources ↔
      p ∈ join eot idOf src dst idOf' sources edges targets := by
  rw [mem_join, mem_join]
  constructor
  · rintro ⟨v, hv, u, hu, hp, hmeets, e, he, hdst, hsrc⟩
    refine ⟨u, hu, v, hv, ?_, Version.meets_comm.trans hmeets, e, he, hsrc.symm, hdst.symm⟩
    exact congrArg Pair.swap hp
  · rintro ⟨u, hu, v, hv, rfl, hmeets, e, he, hsrc, hdst⟩
    exact ⟨v, hv, u, hu, rfl, Version.meets_comm.trans hmeets, e, he, hdst.symm, hsrc.symm⟩

variable {now : τ} {u : Version τ α} {v : Version τ β}

/-- The pair of two versions is in a join when they meet and any edge names their ids. -/
theorem mem_join_iff (hsources : WellFormed idOf now sources) (htargets : WellFormed idOf' now targets)
    (hu : u ∈ sources) (hv : v ∈ targets) :
    Pair.of idOf idOf' u v ∈ join eot idOf src dst idOf' sources edges targets ↔
      u.meets eot v = true ∧ ∃ e ∈ edges, idOf u.data = src e.data ∧ dst e.data = idOf' v.data := by
  rw [mem_join]
  constructor
  · rintro ⟨u', hu', v', hv', hp, hjoin⟩
    obtain ⟨hid, hts, hid', hts'⟩ := Pair.mk.inj hp
    rwa [hsources.eq_of_start hu hu' hid hts, htargets.eq_of_start hv hv' hid' hts']
  · intro hjoin
    exact ⟨u, hu, v, hv, rfl, hjoin⟩

/-- **A join holds the pairs that are joined** exactly when these are held. -/
theorem join_iff_joined (hsources : WellFormed idOf now sources)
    (htargets : WellFormed idOf' now targets) (hu : u ∈ sources) (hv : v ∈ targets) :
    (Pair.of idOf idOf' u v ∈ join eot idOf src dst idOf' sources edges targets ↔
        Joined idOf src dst idOf' edges u v) ↔
      Held eot idOf src dst idOf' edges u v := by
  rw [mem_join_iff hsources htargets hu hv,
    Version.meets_iff (hsources.nonempty u hu) (htargets.nonempty v hv)]
  constructor
  · intro hiff
    exact ⟨fun he hcommon hopen => hiff.mp ⟨⟨hcommon, hopen⟩, he⟩, fun h => (hiff.mpr h).1.2⟩
  · rintro ⟨hheld, hopen⟩
    refine ⟨fun h => hheld h.2 h.1.1 h.1.2, fun h => ?_⟩
    have hopen := hopen h
    obtain ⟨e, he, hsrc, hdst, t, hut, -, hvt⟩ := h
    exact ⟨⟨⟨t, hut, hvt⟩, hopen⟩, e, he, hsrc, hdst⟩

end Join

end Scd
