import Mathlib.Data.List.Sort
import Mathlib.Tactic.Common

/-!
# Stable sorting by a key

A stable sort keeps items with equal keys in their order. Hence two lists have the same sorted list
exactly when, for each key, the items with this key are the same in the same order.
-/

namespace StableSort

variable {α β κ : Type} [LinearOrder κ] (key : α → κ)

/-- The stable sort by a key. -/
def sortBy (items : List α) : List α := items.mergeSort fun a b => decide (key a ≤ key b)

/-- The items with a key. -/
def withKey (k : κ) (items : List α) : List α := items.filter fun a => key a = k

theorem sortBy_perm (items : List α) : (sortBy key items).Perm items :=
  List.mergeSort_perm _ _

theorem mem_sortBy {items : List α} {a : α} : a ∈ sortBy key items ↔ a ∈ items :=
  (sortBy_perm key items).mem_iff

theorem mem_withKey {k : κ} {items : List α} {a : α} :
    a ∈ withKey key k items ↔ a ∈ items ∧ key a = k := by
  simp [withKey]

theorem withKey_cons_self (a : α) (items : List α) :
    withKey key (key a) (a :: items) = a :: withKey key (key a) items :=
  List.filter_cons_of_pos (decide_eq_true rfl)

theorem withKey_cons_of_ne {a : α} {k : κ} (h : key a ≠ k) (items : List α) :
    withKey key k (a :: items) = withKey key k items :=
  List.filter_cons_of_neg (by simpa using h)

theorem trans_le (a b c : α) : decide (key a ≤ key b) = true → decide (key b ≤ key c) = true →
    decide (key a ≤ key c) = true := by
  simp only [decide_eq_true_eq]
  exact le_trans

theorem total_le (a b : α) : (decide (key a ≤ key b) || decide (key b ≤ key a)) = true := by
  simp only [Bool.or_eq_true, decide_eq_true_eq]
  exact le_total _ _

theorem pairwise_sortBy (items : List α) :
    (sortBy key items).Pairwise fun a b => key a ≤ key b := by
  refine (List.pairwise_mergeSort (trans_le key) (total_le key) items).imp fun h => ?_
  exact of_decide_eq_true h

/-! ## Stability -/

/-- Items with equal keys keep their order. -/
theorem withKey_sortBy (k : κ) (items : List α) :
    withKey key k (sortBy key items) = withKey key k items := by
  have hpairwise : (withKey key k items).Pairwise fun a b => decide (key a ≤ key b) = true := by
    refine List.pairwise_of_forall_mem_list fun a ha b hb => decide_eq_true ?_
    rw [((mem_withKey key).mp ha).2, ((mem_withKey key).mp hb).2]
  have hsublist : (withKey key k items).Sublist (sortBy key items) :=
    List.sublist_mergeSort (trans_le key) (total_le key) hpairwise List.filter_sublist
  have hfilter : withKey key k (withKey key k items) = withKey key k items := by
    simp [withKey]
  have hkeyed : (withKey key k items).Sublist (withKey key k (sortBy key items)) :=
    hfilter ▸ hsublist.filter _
  exact (hkeyed.eq_of_length ((sortBy_perm key items).filter _).length_eq.symm).symm

/-- Sorted lists are determined by their items with each key. -/
theorem eq_of_withKey {l₁ l₂ : List α} (h₁ : l₁.Pairwise fun a b => key a ≤ key b)
    (h₂ : l₂.Pairwise fun a b => key a ≤ key b) (h : ∀ k, withKey key k l₁ = withKey key k l₂) :
    l₁ = l₂ := by
  have hmem : ∀ a, a ∈ l₁ ↔ a ∈ l₂ := by
    intro a
    have heq : a ∈ withKey key (key a) l₁ ↔ a ∈ withKey key (key a) l₂ := by rw [h]
    simpa [mem_withKey] using heq
  induction l₁ generalizing l₂ with
  | nil => exact (List.eq_nil_iff_forall_not_mem.mpr fun a ha => nomatch (hmem a).mpr ha).symm
  | cons a l₁ ih =>
    cases l₂ with
    | nil => exact nomatch (hmem a).mp List.mem_cons_self
    | cons b l₂ =>
      obtain ⟨ha, htail₁⟩ := List.pairwise_cons.mp h₁
      obtain ⟨hb, htail₂⟩ := List.pairwise_cons.mp h₂
      have hab : key a ≤ key b := by
        rcases List.mem_cons.mp ((hmem b).mpr List.mem_cons_self) with rfl | hmem
        · exact le_refl _
        · exact ha b hmem
      have hba : key b ≤ key a := by
        rcases List.mem_cons.mp ((hmem a).mp List.mem_cons_self) with rfl | hmem
        · exact le_refl _
        · exact hb a hmem
      have hkey := le_antisymm hab hba
      have hhead := h (key a)
      rw [withKey_cons_self, hkey, withKey_cons_self] at hhead
      obtain ⟨rfl, -⟩ := List.cons.inj hhead
      have htail : ∀ k, withKey key k l₁ = withKey key k l₂ := by
        intro k
        by_cases hk : key a = k
        · have hcons := h k
          rw [← hk, withKey_cons_self, withKey_cons_self] at hcons
          rw [← hk]
          exact (List.cons.inj hcons).2
        · have hcons := h k
          rwa [withKey_cons_of_ne key hk, withKey_cons_of_ne key hk] at hcons
      refine congrArg (a :: ·) (ih htail₁ htail₂ htail fun c => ?_)
      have heq : c ∈ withKey key (key c) l₁ ↔ c ∈ withKey key (key c) l₂ := by rw [htail]
      simpa [mem_withKey] using heq

/-- **Equal sorted lists.** -/
theorem sortBy_eq_iff {l₁ l₂ : List α} :
    sortBy key l₁ = sortBy key l₂ ↔ ∀ k, withKey key k l₁ = withKey key k l₂ := by
  constructor
  · intro h k
    rw [← withKey_sortBy, h, withKey_sortBy]
  · intro h
    refine eq_of_withKey key (pairwise_sortBy key l₁) (pairwise_sortBy key l₂) fun k => ?_
    rw [withKey_sortBy, withKey_sortBy, h]

/-- A key that tells the items apart leaves nothing of the order. -/
theorem sortBy_eq_iff_perm (h : Function.Injective key) {l₁ l₂ : List α} :
    sortBy key l₁ = sortBy key l₂ ↔ l₁.Perm l₂ := by
  constructor
  · intro heq
    exact (sortBy_perm key l₁).symm.trans (heq ▸ sortBy_perm key l₂)
  · intro hperm
    refine List.Perm.eq_of_pairwise (fun a b _ _ hab hba => h (le_antisymm hab hba))
      (pairwise_sortBy key l₁) (pairwise_sortBy key l₂) ?_
    exact (sortBy_perm key l₁).trans (hperm.trans (sortBy_perm key l₂).symm)

/-- Sorting commutes with a map that keeps the keys. -/
theorem map_sortBy {key' : β → κ} {f : α → β} (h : ∀ a, key' (f a) = key a) (items : List α) :
    (sortBy key items).map f = sortBy key' (items.map f) := by
  unfold sortBy
  refine List.map_mergeSort fun a _ b _ => ?_
  rw [h, h]

/-! ## Lists that sort alike in any order -/

/-- When items with one key are equal, sorting forgets the order. -/
theorem sortBy_eq_of_perm {l₁ l₂ : List α} (h : ∀ a ∈ l₁, ∀ b ∈ l₁, key a = key b → a = b)
    (hperm : l₁.Perm l₂) : sortBy key l₁ = sortBy key l₂ := by
  rw [sortBy_eq_iff]
  intro k
  have hfilter : (withKey key k l₁).Perm (withKey key k l₂) := hperm.filter _
  have hall : ∀ a ∈ withKey key k l₁, ∀ b ∈ withKey key k l₁, a = b := by
    intro a ha b hb
    obtain ⟨ha, hka⟩ := (mem_withKey key).mp ha
    obtain ⟨hb, hkb⟩ := (mem_withKey key).mp hb
    exact h a ha b hb (hka.trans hkb.symm)
  cases hl : withKey key k l₁ with
  | nil =>
    rw [hl] at hfilter
    exact hfilter.nil_eq
  | cons a l =>
    rw [hl] at hfilter hall
    have hrep : a :: l = List.replicate (a :: l).length a :=
      List.eq_replicate_iff.mpr ⟨rfl, fun b hb => hall b hb a List.mem_cons_self⟩
    rw [hrep] at hfilter ⊢
    exact (List.perm_replicate.mp hfilter.symm).symm

/-- Two different items with one key are sorted as they come. -/
theorem exists_perm_sortBy_ne {f : β → α} {l : List β} {a b : β} (ha : a ∈ l) (hb : b ∈ l)
    (hne : f a ≠ f b) (hkey : key (f a) = key (f b)) :
    ∃ l', l.Perm l' ∧ sortBy key (l.map f) ≠ sortBy key (l'.map f) := by
  obtain ⟨l', hl'⟩ : ∃ l', l.Perm (a :: l') := by
    obtain ⟨s, t, rfl⟩ := List.append_of_mem ha
    exact ⟨s ++ t, List.perm_middle⟩
  have hb' : b ∈ l' := by
    rcases List.mem_cons.mp (hl'.mem_iff.mp hb) with rfl | hb'
    · exact absurd rfl hne
    · exact hb'
  obtain ⟨s, t, rfl⟩ := List.append_of_mem hb'
  have hab : l.Perm (a :: b :: (s ++ t)) := hl'.trans (List.Perm.cons a List.perm_middle)
  by_cases h : sortBy key (l.map f) = sortBy key ((a :: b :: (s ++ t)).map f)
  · refine ⟨b :: a :: (s ++ t), hab.trans (List.Perm.swap b a _), fun h' => hne ?_⟩
    have hheads := (sortBy_eq_iff key).mp (h.symm.trans h') (key (f a))
    simp only [List.map_cons] at hheads
    rw [withKey_cons_self key (f a) (f b :: _), hkey, withKey_cons_self key (f b) (f a :: _)]
      at hheads
    exact (List.cons.inj hheads).1
  · exact ⟨_, hab, h⟩

end StableSort

/-!
## Reading a sorted list in batches

A reader of a list that is sorted by a key remembers the key of the last item it has read and goes
on behind that key. It reads everything once as long as no batch ends between items with the same
key.
-/

namespace Batch

open StableSort

variable {α κ : Type} [LinearOrder κ] {key : α → κ} {l l' : List α} {n : ℕ} {a : α}

/-- The first `n` items do not end between items with the same key. -/
def Uncut (key : α → κ) (n : ℕ) (l : List α) : Prop :=
  ∀ a ∈ (l.take n).getLast?, ∀ b ∈ (l.drop n).head?, key a ≠ key b

instance (n : ℕ) (l : List α) : Decidable (Uncut key n l) :=
  inferInstanceAs (Decidable (∀ a ∈ (l.take n).getLast?, ∀ b ∈ (l.drop n).head?, key a ≠ key b))

/-- A list that fits into a batch is not cut. -/
theorem uncut_of_length_le (h : l.length ≤ n) : Uncut key n l := by
  intro a _ b hb
  rw [List.drop_eq_nil_of_le h] at hb
  cases hb

/-- Every item of a batch comes before its last one, and every item behind it after. -/
theorem batch_bounds (hsorted : l.Pairwise fun a b => key a ≤ key b) (hcut : Uncut key n l)
    (ha : (l.take n).getLast? = some a) :
    (∀ b ∈ l.take n, key b ≤ key a) ∧ ∀ b ∈ l.drop n, key a < key b := by
  obtain ⟨before, hbefore⟩ := List.getLast?_eq_some_iff.mp ha
  have hall := List.take_append_drop n l ▸ hsorted
  rw [hbefore] at hall
  obtain ⟨hbatch, hrest, hcross⟩ := List.pairwise_append.mp hall
  obtain ⟨-, -, hlast⟩ := List.pairwise_append.mp hbatch
  constructor
  · intro b hb
    rw [hbefore, List.mem_append, List.mem_singleton] at hb
    rcases hb with hb | rfl
    · exact hlast b hb a List.mem_cons_self
    · exact le_rfl
  · have ha' : a ∈ before ++ [a] := List.mem_append_right _ List.mem_cons_self
    cases hdrop : l.drop n with
    | nil => simp
    | cons c rest =>
      rw [hdrop] at hcross hrest
      have hne := hcut a ha c (by rw [hdrop]; rfl)
      have hac : key a < key c := lt_of_le_of_ne (hcross a ha' c List.mem_cons_self) hne
      intro b hb
      rcases List.mem_cons.mp hb with rfl | hb
      · exact hac
      · exact hac.trans_le ((List.pairwise_cons.mp hrest).1 b hb)

/-- **A batch that is not cut** holds the items up to the key of its last one. -/
theorem take_eq_filter (hsorted : l.Pairwise fun a b => key a ≤ key b) (hcut : Uncut key n l)
    (ha : (l.take n).getLast? = some a) :
    l.take n = l.filter (fun b => key b ≤ key a) ∧
      l.drop n = l.filter fun b => key a < key b := by
  obtain ⟨hle, hlt⟩ := batch_bounds hsorted hcut ha
  have hfilter (p : α → Bool) : l.filter p = (l.take n).filter p ++ (l.drop n).filter p := by
    rw [← List.filter_append, List.take_append_drop]
  constructor
  · rw [hfilter, List.filter_eq_self.mpr (by simpa using hle),
      List.filter_eq_nil_iff.mpr (by simpa using hlt), List.append_nil]
  · rw [hfilter, List.filter_eq_nil_iff.mpr (by simpa using hle),
      List.filter_eq_self.mpr (by simpa using hlt), List.nil_append]

/-- A sorted list is what comes up to a key and what comes after it. -/
theorem filter_le_append_filter_lt (hsorted : l.Pairwise fun a b => key a ≤ key b) (c : κ) :
    l.filter (fun a => key a ≤ c) ++ l.filter (fun a => c < key a) = l := by
  induction l with
  | nil => rfl
  | cons a l ih =>
    obtain ⟨ha, hl⟩ := List.pairwise_cons.mp hsorted
    by_cases hac : key a ≤ c
    · rw [List.filter_cons_of_pos (by simpa using hac),
        List.filter_cons_of_neg (by simpa using hac), List.cons_append, ih hl]
    · have hlt : ∀ b ∈ a :: l, c < key b := by
        intro b hb
        rcases List.mem_cons.mp hb with rfl | hb
        · exact not_le.mp hac
        · exact (not_le.mp hac).trans_le (ha b hb)
      rw [List.filter_eq_nil_iff.mpr fun b hb => by simpa using hlt b hb,
        List.filter_eq_self.mpr fun b hb => by simpa using hlt b hb, List.nil_append]

/-! ## Sorting what is read -/

/-- Sorting and selecting commute. -/
theorem sortBy_filter (p : α → Bool) (l : List α) :
    sortBy key (l.filter p) = (sortBy key l).filter p := by
  refine eq_of_withKey key (pairwise_sortBy key _) ((pairwise_sortBy key l).filter p) fun k => ?_
  have hcomm (l : List α) : withKey key k (l.filter p) = (withKey key k l).filter p := by
    unfold withKey
    rw [List.filter_filter, List.filter_filter]
    exact List.filter_congr fun a _ => Bool.and_comm _ _
  rw [withKey_sortBy, hcomm, hcomm, withKey_sortBy]

/-- Items with later keys are sorted behind. -/
theorem sortBy_append (h : ∀ a ∈ l, ∀ b ∈ l', key a < key b) :
    sortBy key (l ++ l') = sortBy key l ++ sortBy key l' := by
  refine eq_of_withKey key (pairwise_sortBy key _) ?_ fun k => ?_
  · refine List.pairwise_append.mpr ⟨pairwise_sortBy key l, pairwise_sortBy key l', ?_⟩
    intro a ha b hb
    exact (h a ((mem_sortBy key).mp ha) b ((mem_sortBy key).mp hb)).le
  · have happend (l l' : List α) : withKey key k (l ++ l') = withKey key k l ++ withKey key k l' :=
      List.filter_append ..
    rw [withKey_sortBy, happend, happend, withKey_sortBy, withKey_sortBy]

end Batch

/-!
# Binary search

`search n f` halves an interval until it has the first index below `n` at which `f` holds, or
`n` when there is none. The predicate must not go back to false.
-/

namespace BinarySearch

variable {f : ℕ → Bool}

/-- The loop over `[i, j)`, which runs at most `j - i` times. -/
def loop (f : ℕ → Bool) : ℕ → ℕ → ℕ → ℕ
  | 0, i, _ => i
  | fuel + 1, i, j =>
    if i < j then
      let h := (i + j) / 2
      if f h then loop f fuel i h else loop f fuel (h + 1) j
    else i

def search (n : ℕ) (f : ℕ → Bool) : ℕ := loop f n 0 n

/-- Once `f` holds it holds further on, below `n`. -/
def Rises (f : ℕ → Bool) (n : ℕ) : Prop := ∀ i k, i ≤ k → k < n → f i = true → f k = true

/-- The index that is found: `f` fails before it and holds from there on. -/
structure Splits (f : ℕ → Bool) (n i : ℕ) : Prop where
  le : i ≤ n
  before : ∀ k < i, f k = false
  after : ∀ k, i ≤ k → k < n → f k = true

/-- The loop keeps `f` false below `i` and true from `j` on. -/
theorem loop_splits {n : ℕ} (hf : Rises f n) (fuel i j : ℕ) (hfuel : j - i ≤ fuel) (hij : i ≤ j)
    (hj : j ≤ n) (hbefore : ∀ k < i, f k = false) (hfrom : ∀ k, j ≤ k → k < n → f k = true) :
    Splits f n (loop f fuel i j) := by
  induction fuel generalizing i j with
  | zero =>
    have heq : i = j := by omega
    exact ⟨heq ▸ hj, hbefore, fun k hk => hfrom k (heq ▸ hk)⟩
  | succ fuel ih =>
    unfold loop
    dsimp only
    split_ifs with hlt hmid
    · exact ih i _ (by omega) (by omega) (by omega) hbefore fun k hk hkn =>
        hf _ k hk hkn hmid
    · refine ih _ j (by omega) (by omega) hj (fun k hk => ?_) hfrom
      rw [← Bool.not_eq_true]
      exact fun hk' => hmid (hf k _ (by omega) (by omega) hk')
    · have heq : i = j := by omega
      exact ⟨heq ▸ hj, hbefore, fun k hk => hfrom k (heq ▸ hk)⟩

/-- **The first index at which a rising predicate holds is found.** -/
theorem search_splits {n : ℕ} (hf : Rises f n) : Splits f n (search n f) :=
  loop_splits hf n 0 n (Nat.sub_le ..) (Nat.zero_le n) (Nat.le_refl n)
    (fun _ hk => absurd hk (Nat.not_lt_zero _)) fun _ hk hkn => absurd hkn (Nat.not_lt.mpr hk)

end BinarySearch
