import GnnSandbox.Graph.Outcome

/-!
# Transactions as revisions of keys

A transaction of a sync asks for the open row of a key and decides which row follows it,
if any does. `Performed` runs a list of such revisions one after another. What becomes of
the open row of a key is the fold of the decisions about it, and a second pass of the
same revisions changes nothing exactly when every decision accepts that row.
-/

namespace GnnSandbox.Graph

open Scd Effect

/-- What one transaction decides about one key: the row that follows the open one. -/
structure Revising where
  n : TableName
  k : Key
  next : Option (Row n) → Option (Row n)

namespace Revising

/-- The decision about a key; revisions of other keys decide nothing. -/
def at' (r : Revising) (n : TableName) (k : Key) (s : Option (Row n)) : Option (Row n) :=
  if h : r.n = n then if r.k = k then (h ▸ r.next : Option (Row n) → Option (Row n)) s else none
  else none

@[simp] theorem at'_self (r : Revising) (s : Option (Row r.n)) : r.at' r.n r.k s = r.next s := by
  simp [at']

theorem at'_of_key_ne {r : Revising} {k : Key} (h : r.k ≠ k) (n : TableName) (s : Option (Row n)) :
    r.at' n k s = none := by
  simp [at', h]

theorem at'_of_table_ne {r : Revising} {n : TableName} (h : r.n ≠ n) (k : Key)
    (s : Option (Row n)) : r.at' n k s = none := by
  simp [at', h]

/-- Insert `fresh` unless the open row is `unchanged`. -/
def upsert (n : TableName) (fresh : Row n) (unchanged : Row n → Bool) : Revising where
  n := n
  k := fresh.key
  next
    | some row => if unchanged row then none else some fresh
    | none => some fresh

/-- Insert `fresh` unless there is an open row. -/
def ensure (n : TableName) (fresh : Row n) : Revising := upsert n fresh fun _ => true

section Upsert

variable {n : TableName} {fresh : Row n} {unchanged : Row n → Bool}

theorem upsert_next_some {s : Option (Row n)} {x : Row n}
    (h : (upsert n fresh unchanged).next s = some x) : x = fresh := by
  match s with
  | none => exact (Option.some.inj h).symm
  | some row =>
    have h' : (if unchanged row then none else some fresh) = some x := h
    split at h'
    · cases h'
    · exact (Option.some.inj h').symm

/-- An upsert accepts the rows that pass its test. -/
theorem upsert_next_none {s : Option (Row n)} :
    (upsert n fresh unchanged).next s = none ↔ ∃ row, s = some row ∧ unchanged row = true := by
  constructor
  · intro h
    match s with
    | none => cases h
    | some row =>
      have h' : (if unchanged row then none else some fresh) = none := h
      split at h'
      · next hrow => exact ⟨row, rfl, hrow⟩
      · cases h'
  · rintro ⟨row, rfl, hrow⟩
    exact if_pos hrow

end Upsert

end Revising

/-- The data of the open version of a key. -/
def openRow (db : Database) (n : TableName) (k : Key) : Option (Row n) :=
  (db.active n k).head?.map Version.data

/-- No key has two open versions. -/
def Single (db : Database) : Prop := ∀ n k, (db.active n k).length ≤ 1

/-- What becomes of the open row of a key. -/
def settle (l : List Revising) (n : TableName) (k : Key) (s : Option (Row n)) : Option (Row n) :=
  l.foldl (fun s r => (r.at' n k s).or s) s

/-- Every decision accepts what becomes of the open row of its key. -/
def Accepted (l : List Revising) (db : Database) : Prop :=
  ∀ r ∈ l, r.next (settle l r.n r.k (openRow db r.n r.k)) = none

section Settle

variable {l : List Revising} {n : TableName} {k : Key} {s : Option (Row n)}

/-- A row that every decision accepts stays. -/
theorem settle_eq_self (h : ∀ r ∈ l, r.at' n k s = none) : settle l n k s = s := by
  induction l with
  | nil => rfl
  | cons r l ih =>
    have hr : (r.at' n k s).or s = s := by rw [h r (List.mem_cons_self ..), Option.none_or]
    show settle l n k ((r.at' n k s).or s) = s
    rw [hr]
    exact ih fun r' hr' => h r' (List.mem_cons_of_mem _ hr')

/-- The row that stays is the first one or one that some decision put in place. -/
theorem settle_cases : settle l n k s = s ∨
    ∃ r ∈ l, ∃ s' x, r.at' n k s' = some x ∧ settle l n k s = some x := by
  induction l generalizing s with
  | nil => exact Or.inl rfl
  | cons r l ih =>
    rcases ih (s := (r.at' n k s).or s) with hself | ⟨r', hr', s', x, hx, hsettle⟩
    · cases hdec : r.at' n k s with
      | none =>
        rw [hdec, Option.none_or] at hself
        refine Or.inl ?_
        show settle l n k ((r.at' n k s).or s) = s
        rw [hdec, Option.none_or, hself]
      | some x =>
        refine Or.inr ⟨r, List.mem_cons_self .., s, x, hdec, ?_⟩
        show settle l n k ((r.at' n k s).or s) = some x
        rw [hself, hdec, Option.some_or]
    · exact Or.inr ⟨r', List.mem_cons_of_mem _ hr', s', x, hx, hsettle⟩

/-- When every decision accepts what any of them puts in place, all accept what stays. -/
theorem settle_accepted (h : ∀ r ∈ l, ∀ s x, r.at' n k s = some x →
      ∀ r' ∈ l, r'.at' n k (some x) = none) :
    ∀ r ∈ l, r.at' n k (settle l n k s) = none := by
  suffices hsub : ∀ l', l' ⊆ l → (∀ r ∈ l, r.at' n k (settle l' n k s) = none) ∨
      (settle l' n k s = s ∧ ∀ r ∈ l', r.at' n k s = none) by
    rcases hsub l (List.Subset.refl l) with hall | ⟨hself, hall⟩
    · exact hall
    · rw [hself]
      exact hall
  intro l' hl'
  induction l' generalizing s with
  | nil => exact Or.inr ⟨rfl, fun _ hr => absurd hr List.not_mem_nil⟩
  | cons r l' ih =>
    have hrest : l' ⊆ l := fun _ hr => hl' (List.mem_cons_of_mem _ hr)
    have hstep : settle (r :: l') n k s = settle l' n k ((r.at' n k s).or s) := rfl
    rw [hstep]
    cases hdec : r.at' n k s with
    | none =>
      rw [Option.none_or]
      rcases ih hrest with hall | ⟨hself, hall⟩
      · exact Or.inl hall
      · exact Or.inr ⟨hself, List.forall_mem_cons.mpr ⟨hdec, hall⟩⟩
    | some x =>
      have hx := h r (hl' (List.mem_cons_self ..)) s x hdec
      have hself : settle l' n k (some x) = some x :=
        settle_eq_self fun r' hr' => hx r' (hrest hr')
      rw [Option.some_or, hself]
      exact Or.inl hx

/-- A single decision is asked twice. -/
theorem accepted_singleton {r : Revising} {db : Database} : Accepted [r] db ↔
    r.next ((r.next (openRow db r.n r.k)).or (openRow db r.n r.k)) = none := by
  have hsettle : settle [r] r.n r.k (openRow db r.n r.k) =
      (r.at' r.n r.k (openRow db r.n r.k)).or (openRow db r.n r.k) := rfl
  rw [Revising.at'_self] at hsettle
  rw [Accepted, List.forall_mem_singleton, hsettle]

/-- An upsert whose fresh row passes its own test is accepted. -/
theorem accepted_upsert {fresh : Row n} {unchanged : Row n → Bool} {db : Database}
    (h : unchanged fresh = true) : Accepted [.upsert n fresh unchanged] db := by
  rw [accepted_singleton]
  cases hnext : (Revising.upsert n fresh unchanged).next (openRow db n fresh.key) with
  | none =>
    have hnext' : (Revising.upsert n fresh unchanged).next
        (openRow db (Revising.upsert n fresh unchanged).n
          (Revising.upsert n fresh unchanged).k) = none := hnext
    rw [hnext', Option.none_or, hnext']
  | some x =>
    have hx := Revising.upsert_next_some hnext
    have hnext' : (Revising.upsert n fresh unchanged).next
        (openRow db (Revising.upsert n fresh unchanged).n
          (Revising.upsert n fresh unchanged).k) = some x := hnext
    rw [hnext', Option.some_or, hx]
    exact Revising.upsert_next_none.mpr ⟨fresh, rfl, h⟩

end Settle

/-! ## Tests of columns -/

section Compares

variable {ι V : Type} {l : List Revising} {db : Database} {n : TableName}

/-- Every decision about a table accepts what becomes of the open row of its key. -/
def AcceptedIn (l : List Revising) (db : Database) (n : TableName) : Prop :=
  ∀ r ∈ l, r.n = n → r.next (settle l r.n r.k (openRow db r.n r.k)) = none

theorem accepted_iff : Accepted l db ↔ ∀ n, AcceptedIn l db n :=
  ⟨fun h _ r hr _ => h r hr, fun h r hr => h r.n r hr rfl⟩

/-- The revisions of a table are upserts whose test compares columns of the open row with
computed values. -/
structure Compares (l : List Revising) (n : TableName) (E : ι → Prop) (fresh : ι → Row n)
    (columns : Row n → V) (computed : ι → V) (test : ι → Row n → Bool) : Prop where
  mem : ∀ r, r ∈ l ∧ r.n = n ↔ ∃ e, E e ∧ r = .upsert n (fresh e) (test e)
  test : ∀ e row, test e row = true ↔ columns row = computed e

namespace Compares

variable {E : ι → Prop} {fresh : ι → Row n} {columns : Row n → V} {computed : ι → V}
  {test : ι → Row n → Bool}

/-- What puts a row in place is one of the upserts, for its key. -/
theorem put (h : Compares l n E fresh columns computed test) {r : Revising} {k : Key}
    {s : Option (Row n)} {x : Row n} (hr : r ∈ l) (hx : r.at' n k s = some x) :
    ∃ e, E e ∧ (fresh e).key = k ∧ x = fresh e := by
  by_cases hn : r.n = n
  · obtain ⟨e, he, rfl⟩ := (h.mem r).mp ⟨hr, hn⟩
    by_cases hk : (fresh e).key = k
    · subst hk
      have hx' : (Revising.upsert n (fresh e) (test e)).next s = some x :=
        (Revising.at'_self (.upsert n (fresh e) (test e)) s).symm.trans hx
      exact ⟨e, he, rfl, Revising.upsert_next_some hx'⟩
    · have hnone : (Revising.upsert n (fresh e) (test e)).at' n k s = none :=
        Revising.at'_of_key_ne hk n s
      rw [hnone] at hx
      cases hx
  · rw [Revising.at'_of_table_ne hn] at hx
    cases hx

/-- A row that passes the tests of its key is accepted. -/
theorem accepts (h : Compares l n E fresh columns computed test) {r : Revising} {k : Key}
    {row : Row n} (hr : r ∈ l) (hrow : ∀ e, E e → (fresh e).key = k → columns row = computed e) :
    r.at' n k (some row) = none := by
  by_cases hn : r.n = n
  · obtain ⟨e, he, rfl⟩ := (h.mem r).mp ⟨hr, hn⟩
    by_cases hk : (fresh e).key = k
    · subst hk
      refine (Revising.at'_self (.upsert n (fresh e) (test e)) (some row)).trans ?_
      exact Revising.upsert_next_none.mpr ⟨row, rfl, (h.test e row).mpr (hrow e he rfl)⟩
    · exact Revising.at'_of_key_ne hk n _
  · exact Revising.at'_of_table_ne hn k _

/-- The upserts accept what stays when it has the computed values. -/
theorem acceptedIn_iff_settle (h : Compares l n E fresh columns computed test) :
    AcceptedIn l db n ↔ ∀ e, E e →
      (settle l n (fresh e).key (openRow db n (fresh e).key)).map columns = some (computed e) := by
  constructor
  · intro hacc e he
    obtain ⟨hr, -⟩ := (h.mem _).mpr ⟨e, he, rfl⟩
    obtain ⟨row, hrow, htest⟩ := Revising.upsert_next_none.mp (hacc _ hr rfl)
    have hrow' : settle l n (fresh e).key (openRow db n (fresh e).key) = some row := hrow
    rw [hrow', Option.map_some, (h.test e row).mp htest]
  · intro hall r hr hn
    obtain ⟨e, he, rfl⟩ := (h.mem r).mp ⟨hr, hn⟩
    obtain ⟨row, hrow, hcol⟩ := Option.map_eq_some_iff.mp (hall e he)
    exact Revising.upsert_next_none.mpr ⟨row, hrow, (h.test e row).mpr hcol⟩

/-- Upserts settle on a row that they accept when those of one key compare with the same
values, and the row that each inserts, or else the open row, has them. -/
theorem acceptedIn_iff (h : Compares l n E fresh columns computed test)
    (hfresh : ∀ e e', E e → E e' → (fresh e').key = (fresh e).key → computed e' = computed e →
      columns (fresh e') = computed e' → columns (fresh e) = computed e) :
    AcceptedIn l db n ↔ ∀ e, E e →
      (∀ e', E e' → (fresh e').key = (fresh e).key → computed e' = computed e) ∧
      (columns (fresh e) = computed e ∨
        (openRow db n (fresh e).key).map columns = some (computed e)) := by
  rw [h.acceptedIn_iff_settle]
  constructor
  · intro hall e he
    have hsame : ∀ e', E e' → (fresh e').key = (fresh e).key → computed e' = computed e := by
      intro e' he' hk
      have h₁ := hall e he
      have h₂ := hall e' he'
      rw [hk, h₁] at h₂
      exact (Option.some.inj h₂).symm
    refine ⟨hsame, ?_⟩
    rcases settle_cases (l := l) (n := n) (k := (fresh e).key)
      (s := openRow db n (fresh e).key) with hself | ⟨r, hr, s', x, hx, hsettle⟩
    · exact Or.inr (hself ▸ hall e he)
    · -- the row that stays was inserted for an element of the same key
      obtain ⟨e', he', hk, rfl⟩ := h.put hr hx
      have hcol := hall e he
      rw [hsettle, Option.map_some, Option.some.injEq] at hcol
      have hcomp := hsame e' he' hk
      exact Or.inl (hfresh e e' he he' hk hcomp (hcol.trans hcomp.symm))
  · intro hall e he
    obtain ⟨hsame, hpass⟩ := hall e he
    have hpass' : ∀ row, columns row = computed e →
        ∀ e', E e' → (fresh e').key = (fresh e).key → columns row = computed e' :=
      fun row hrow e' he' hk => hrow.trans (hsame e' he' hk).symm
    rcases hpass with hpass | hpass
    · have hins : ∀ r ∈ l, ∀ s x, r.at' n (fresh e).key s = some x →
          columns x = computed e := by
        intro r hr s x hx
        obtain ⟨e', he', hk, rfl⟩ := h.put hr hx
        have hcomp := hsame e' he' hk
        exact (hfresh e' e he' he hk.symm hcomp.symm hpass).trans hcomp
      have hacc := settle_accepted (l := l) (n := n) (k := (fresh e).key)
        (s := openRow db n (fresh e).key) fun r hr s x hx r' hr' =>
          h.accepts hr' (hpass' x (hins r hr s x hx))
      obtain ⟨hr, -⟩ := (h.mem _).mpr ⟨e, he, rfl⟩
      have hself : (Revising.upsert n (fresh e) (test e)).next
          (settle l n (fresh e).key (openRow db n (fresh e).key)) = none :=
        (Revising.at'_self (.upsert n (fresh e) (test e)) _).symm.trans (hacc _ hr)
      obtain ⟨row, hrow, htest⟩ := Revising.upsert_next_none.mp hself
      rw [hrow, Option.map_some, (h.test e row).mp htest]
    · obtain ⟨row, hrow, hcol⟩ := Option.map_eq_some_iff.mp hpass
      have hself : settle l n (fresh e).key (openRow db n (fresh e).key) =
          openRow db n (fresh e).key := by
        refine settle_eq_self fun r hr => ?_
        rw [hrow]
        exact h.accepts hr (hpass' row hcol)
      rw [hself, hrow, Option.map_some, hcol]

/-- Upserts that insert the values with which they compare. -/
theorem acceptedIn (h : Compares l n E fresh columns computed test)
    (hsame : ∀ e e', E e → E e' → (fresh e').key = (fresh e).key → computed e' = computed e)
    (hfresh : ∀ e, E e → columns (fresh e) = computed e) : AcceptedIn l db n :=
  (h.acceptedIn_iff fun e _ he _ _ _ _ => hfresh e he).mpr fun e he =>
    ⟨fun e' he' => hsame e e' he he', Or.inl (hfresh e he)⟩

/-- Upserts that never insert the values with which they compare settle only on a row
that is up to date from the start. -/
theorem acceptedIn_iff_openRow (h : Compares l n E fresh columns computed test)
    (hfresh : ∀ e, E e → columns (fresh e) ≠ computed e) :
    AcceptedIn l db n ↔
      ∀ e, E e → (openRow db n (fresh e).key).map columns = some (computed e) := by
  rw [h.acceptedIn_iff fun e e' _ he' _ _ hcol => absurd hcol (hfresh e' he')]
  constructor
  · intro hall e he
    exact (hall e he).2.resolve_left (hfresh e he)
  · intro hall e he
    refine ⟨fun e' he' hk => ?_, Or.inr (hall e he)⟩
    have h₁ := hall e he
    have h₂ := hall e' he'
    rw [hk, h₁] at h₂
    exact (Option.some.inj h₂).symm

end Compares

end Compares

/-! ## Running revisions -/

section Performed

variable (side : TableName → Prop)

/-- One transaction. A new version of its key may come with rows in the tables `side`. -/
inductive Applies (r : Revising) (db : Database) : Database → Prop
  | keep (h : r.next (openRow db r.n r.k) = none) : Applies r db db
  | write {db' : Database} (now : Timestamp) (x : Row r.n)
      (h : r.next (openRow db r.n r.k) = some x) (hx : x.key = r.k)
      (hn : db' r.n = insert now x (closeKey Row.key now r.k (db r.n)))
      (hm : ∀ m, m ≠ r.n → db' m = db m ∨ (side m ∧ (db m).length ≤ (db' m).length ∧
        ((∀ k, (db.active m k).length ≤ 1) → ∀ k, (db'.active m k).length ≤ 1))) :
      Applies r db db'

/-- One transaction after another. -/
inductive Performed : Database → List Revising → Database → Prop
  | nil (db : Database) : Performed db [] db
  | cons {db db₁ db₂ : Database} {r : Revising} {l : List Revising} (h : Applies side r db db₁)
      (hl : Performed db₁ l db₂) : Performed db (r :: l) db₂

variable {side} {r : Revising} {l l' : List Revising} {db db₁ db₂ : Database}

theorem Performed.append (h : Performed side db l db₁) (h' : Performed side db₁ l' db₂) :
    Performed side db (l ++ l') db₂ := by
  induction h with
  | nil => exact h'
  | cons hr _ ih => exact .cons hr (ih h')

theorem Applies.single (h : Applies side r db db₁) (hdb : Single db) : Single db₁ := by
  cases h with
  | keep => exact hdb
  | write now x _ hx hn hm =>
    intro m k
    by_cases hmn : m = r.n
    · subst hmn
      rw [Database.active, hn, active_insert]
      by_cases hk : x.key = k
      · have hkr : r.k = k := hx.symm.trans hk
        rw [if_pos hk, hkr, active_closeKey_self]
        simp
      · rw [if_neg hk, List.append_nil, active_closeKey_of_ne fun heq => hk (hx.trans heq.symm)]
        exact hdb _ k
    · rcases hm m hmn with heq | ⟨-, -, hone⟩
      · rw [Database.active, heq]
        exact hdb m k
      · exact hone (hdb m) k

theorem Applies.openRow_eq (h : Applies side r db db₁) {n : TableName} (hn : ¬side n) (k : Key) :
    openRow db₁ n k = (r.at' n k (openRow db n k)).or (openRow db n k) := by
  cases h with
  | keep h =>
    by_cases hrn : r.n = n
    · subst hrn
      by_cases hk : r.k = k
      · subst hk
        rw [Revising.at'_self, h, Option.none_or]
      · rw [Revising.at'_of_key_ne hk, Option.none_or]
    · rw [Revising.at'_of_table_ne hrn, Option.none_or]
  | write now x h hx htable hm =>
    by_cases hrn : r.n = n
    · subst hrn
      by_cases hk : r.k = k
      · subst hk
        rw [Revising.at'_self, h, Option.some_or, openRow, Database.active, htable, active_insert,
          if_pos hx, active_closeKey_self]
        rfl
      · rw [Revising.at'_of_key_ne hk, Option.none_or, openRow, Database.active, htable,
          active_insert, if_neg fun heq => hk (hx.symm.trans heq), List.append_nil,
          active_closeKey_of_ne (Ne.symm hk)]
        rfl
    · rw [Revising.at'_of_table_ne hrn, Option.none_or]
      rcases hm n (Ne.symm hrn) with heq | ⟨hside, -⟩
      · rw [openRow, Database.active, heq]
        rfl
      · exact absurd hside hn

theorem Applies.length_le (h : Applies side r db db₁) (n : TableName) :
    (db n).length ≤ (db₁ n).length := by
  cases h with
  | keep => exact le_refl _
  | write now x _ _ hn hm =>
    by_cases hrn : n = r.n
    · subst hrn
      rw [hn, length_insert, closeKey, length_closeWhere]
      exact Nat.le_succ _
    · rcases hm n hrn with heq | ⟨-, hle, -⟩
      · rw [heq]
      · exact hle

namespace Performed

theorem single (h : Performed side db l db₁) (hdb : Single db) : Single db₁ := by
  induction h with
  | nil => exact hdb
  | cons hr _ ih => exact ih (hr.single hdb)

/-- The open row of a key is what its revisions settle on. -/
theorem openRow_eq (h : Performed side db l db₁) {n : TableName} (hn : ¬side n) (k : Key) :
    openRow db₁ n k = settle l n k (openRow db n k) := by
  induction h with
  | nil => rfl
  | cons hr _ ih =>
    rw [ih, hr.openRow_eq hn]
    rfl

/-- A table that no revision is about stays as it was. -/
theorem table_eq (h : Performed side db l db₁) {n : TableName} (hn : ¬side n)
    (hl : ∀ r ∈ l, r.n ≠ n) : db₁ n = db n := by
  induction h with
  | nil => rfl
  | @cons db db₁ db₂ r l hr _ ih =>
    refine (ih fun r' hr' => hl r' (List.mem_cons_of_mem _ hr')).trans ?_
    cases hr with
    | keep => rfl
    | write now x _ _ _ hm =>
      rcases hm n (Ne.symm (hl r (List.mem_cons_self ..))) with heq | ⟨hside, -⟩
      · exact heq
      · exact absurd hside hn

theorem length_le (h : Performed side db l db₁) (n : TableName) :
    (db n).length ≤ (db₁ n).length := by
  induction h with
  | nil => exact le_refl _
  | cons hr _ ih => exact (hr.length_le n).trans ih

/-- Revisions change nothing exactly when each accepts the open row of its key. -/
theorem eq_self_iff (h : Performed side db l db₁) :
    db₁ = db ↔ ∀ r ∈ l, r.next (openRow db r.n r.k) = none := by
  induction h with
  | nil => simp
  | @cons db db₁ db₂ r l hr hl ih =>
    rw [List.forall_mem_cons]
    cases hr with
    | keep hkeep => exact ⟨fun heq => ⟨hkeep, ih.mp heq⟩, fun hall => ih.mpr hall.2⟩
    | write now x hx _ hn _ =>
      constructor
      · -- the new version makes the table longer, and no later one makes it shorter
        intro heq
        have hle := hl.length_le r.n
        rw [heq, hn, length_insert, closeKey, length_closeWhere] at hle
        omega
      · intro hall
        rw [hall.1] at hx
        cases hx

/-- A second pass changes nothing exactly when each revision accepts what the first pass
settled on. -/
theorem idempotent_iff (h : Performed side db l db₁) (h' : Performed side db₁ l db₂)
    (hside : ∀ r ∈ l, ¬side r.n) :
    db₂ = db₁ ↔ Accepted l db := by
  rw [h'.eq_self_iff]
  refine forall₂_congr fun r hr => ?_
  rw [h.openRow_eq (hside r hr)]

end Performed

end Performed

end GnnSandbox.Graph

/-!
## What a sync performs

When no call fails and reads are steady, a sync performs the revisions that its resource
and the tables that it reads determine. It does not write the tables that it reads, so a
second sync performs the same revisions.
-/

namespace GnnSandbox.Graph

open Scd Effect

/-- The row that a steady read returns first. -/
def Env.read {α : Type} (env : Env) (rows : List α) (id : α → String) : Option α :=
  rows[env.pick 0 (rows.map id)]?

/-- Which of these rows a read returns first does not depend on the call. -/
def Env.Decides {α : Type} (env : Env) (rows : List α) (id : α → String) : Prop :=
  ∀ n, rows[env.pick n (rows.map id)]? = env.read rows id

theorem Env.Steady.decides {α : Type} {env : Env} (h : env.Steady) (rows : List α)
    (id : α → String) : env.Decides rows id := fun n => by
  rw [Env.read, h n 0]

/-- Of at most one row there is nothing to choose. -/
theorem Env.decides_of_length_le {α : Type} (env : Env) {rows : List α} (id : α → String)
    (h : rows.length ≤ 1) : env.Decides rows id := by
  intro n
  rcases rows with _ | ⟨a, _ | ⟨b, l⟩⟩
  · rfl
  · have hzero : ∀ n, env.pick n ([a].map id) = 0 := fun n =>
      Nat.lt_one_iff.mp (env.pick_lt n ([a].map id) (List.cons_ne_nil _ _))
    rw [Env.read, hzero, hzero]
  · simp at h

/-- No table is written on the side. -/
def noSide (_ : TableName) : Prop := False

theorem not_noSide (n : TableName) : ¬noSide n := id

/-- A run of `m` from `w` performs the revisions `l`. -/
def Performs {α : Type} (side : TableName → Prop) (m : Sync α) (w : World) (l : List Revising) :
    Prop := Performed side w.db l (after m w).db

section Performs

variable {env : Env} {side : TableName → Prop} {w : World} {α β : Type}

theorem result_snapshot_eq (hok : env.Reliable) {query : Database → List α} {id : α → String}
    {w : World} (h : env.Decides (query w.db) id) :
    result (snapshot env query id) w = some (env.read (query w.db) id) := by
  rw [← h w.calls]
  unfold result snapshot StateT.run
  simp [hok w.calls]

theorem Performs.pure (a : α) : Performs side (pure a : Sync α) w [] := Performed.nil _

theorem Performs.bind {m : Sync α} {f : α → Sync β} {l l' : List Revising}
    (hm : Performs side m w l) (hf : Performs side (f (result m w)) (after m w) l') :
    Performs side (m >>= f) w (l ++ l') := Performed.append hm hf

/-- A read comes before what depends on it. -/
theorem Performs.bind_read {m : Sync α} {f : α → Sync β} {l : List Revising}
    (hm : (after m w).db = w.db) (hf : Performs side (f (result m w)) (after m w) l) :
    Performs side (m >>= f) w l := by
  have hf' : Performed side (after m w).db l (after (f (result m w)) (after m w)).db := hf
  rw [hm] at hf'
  exact hf'

/-- A loop whose steps do not write what they read performs what each step does. -/
theorem Performs.loop (reads : TableName → Prop) {f : β → Sync PUnit} {p : β → List Revising}
    {l : List β} (hw : Single w.db) (hside : ∀ m, reads m → ¬side m)
    (hp : ∀ b ∈ l, ∀ r ∈ p b, ¬reads r.n)
    (hf : ∀ b ∈ l, ∀ v, Single v.db → (∀ m, reads m → v.db m = w.db m) →
      Performs side (f b) v (p b)) :
    Performs side (forM l f) w (l.flatMap p) := by
  suffices h : ∀ l', l' ⊆ l → ∀ v, Single v.db → (∀ m, reads m → v.db m = w.db m) →
      Performs side (forM l' f) v (l'.flatMap p) from
    h l (List.Subset.refl l) w hw fun _ _ => rfl
  intro l'
  induction l' with
  | nil => exact fun _ v _ _ => Performed.nil _
  | cons b l' ih =>
    intro hl' v hv hreads
    have hb := hl' (List.mem_cons_self ..)
    have hstep := hf b hb v hv hreads
    refine Performed.append hstep (ih (fun _ h => hl' (List.mem_cons_of_mem _ h)) _
      (Performed.single hstep hv) fun m hm => ?_)
    refine (Performed.table_eq hstep (hside m hm) fun r hr hrm => ?_).trans (hreads m hm)
    exact hp b hb r hr (hrm ▸ hm)

/-- A transaction performs its revision. -/
theorem performs_revise {n : TableName} {k : Key} {next : Option (Row n) → Option (Row n)}
    (hok : env.Reliable) (hw : Single w.db) (hnext : ∀ s x, next s = some x → x.key = k) :
    result (runInTransaction env (sqlRevise n k next)) w = true ∧
      Performs side (runInTransaction env (sqlRevise n k next)) w [⟨n, k, next⟩] := by
  obtain ⟨hres, hcases⟩ := runInTransaction_revise (hok w.calls) (hw n k) (n := n) (k := k)
  refine ⟨hres, .cons ?_ (.nil _)⟩
  have hopen : ∀ l, w.db.active n k = l → openRow w.db n k = l.head?.map Version.data := by
    intro l hl
    rw [openRow, hl]
  rcases hcases with ⟨hnil, hnone, hafter⟩ | ⟨x, hnil, hsome, hafter⟩ | ⟨v, hv, hnone, hafter⟩ |
    ⟨v, x, hv, hsome, hafter⟩ <;> rw [hafter]
  · exact .keep ((congrArg next (hopen _ hnil)).trans hnone)
  · refine .write (env.commitTs w.calls) x ((congrArg next (hopen _ hnil)).trans hsome)
      (hnext _ _ hsome) ?_ fun m hm => Or.inl (Database.set_of_ne _ _ hm)
    -- there is nothing to close
    have hself : closeKey Row.key (env.commitTs w.calls) k (w.db n) = w.db n := by
      refine closeWhere_eq_self fun u hu hu' => ?_
      simpa using active_eq_nil_iff.mp hnil u hu hu'
    show (w.db.set n _) n = _
    rw [Database.set_self, hself]
  · exact .keep ((congrArg next (hopen _ hv)).trans hnone)
  · refine .write (env.commitTs w.calls) x ((congrArg next (hopen _ hv)).trans hsome)
      (hnext _ _ hsome) ?_ fun m hm => Or.inl (Database.set_of_ne _ _ hm)
    show (w.db.set n _) n = _
    rw [Database.set_self]

/-- An upsert performs its revision. -/
theorem performs_upsert (side : TableName → Prop) {w : World} {n : TableName} (fresh : Row n)
    (unchanged : Row n → Bool) (hok : env.Reliable) (hw : Single w.db) :
    result (runInTransaction env (sqlUpsert n fresh unchanged)) w = true ∧
      Performs side (runInTransaction env (sqlUpsert n fresh unchanged)) w
        [.upsert n fresh unchanged] :=
  performs_revise hok hw fun _ _ h => congrArg Row.key (Revising.upsert_next_some h)

/-- A second run that performs the same revisions changes nothing exactly when these
accept what the first run settled on. -/
theorem Performs.idempotent_iff {m : Sync α} {l : List Revising} (h : Performs side m w l)
    (h' : Performs side m (after m w) l) (hside : ∀ r ∈ l, ¬side r.n) :
    (after m (after m w)).db = (after m w).db ↔ Accepted l w.db :=
  Performed.idempotent_iff h h' hside

end Performs

end GnnSandbox.Graph
