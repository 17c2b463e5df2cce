import Mathlib.Algebra.GroupWithZero.Nat
import Mathlib.Order.Interval.Finset.Nat
import Mathlib.Tactic.Common

/-!
# Arrivals of numbered packets

Numbers arrive in some order, and the receiver expects the successor of the largest one so far. A
number below what is expected is late, and a number above it leaves a gap.
-/

namespace Sequence

/-- What is expected after some arrivals. -/
def next : ℕ → List ℕ → ℕ
  | e, [] => e
  | e, s :: seqs => next (max e (s + 1)) seqs

/-- How many numbers arrive after a larger one. -/
def late : ℕ → List ℕ → ℕ
  | _, [] => 0
  | e, s :: seqs => (if s < e then 1 else 0) + late (max e (s + 1)) seqs

/-- The gap that each arrival leaves. -/
def gaps : ℕ → List ℕ → List ℕ
  | _, [] => []
  | e, s :: seqs => (s - e) :: gaps (max e (s + 1)) seqs

def least (seqs : List ℕ) : ℕ := seqs.min?.getD 0

def greatest (seqs : List ℕ) : ℕ := seqs.max?.getD 0

/-- How many of the numbers from the smallest to the largest have not arrived. -/
def missing (seqs : List ℕ) : ℤ :=
  if seqs = [] then 0 else greatest seqs - least seqs + 1 - seqs.length

variable {e s : ℕ} {seqs : List ℕ}

/-- An arrival moves what is expected by its gap and by itself, unless it is late. -/
theorem sum_gaps (e : ℕ) (seqs : List ℕ) :
    e + (gaps e seqs).sum + seqs.length = next e seqs + late e seqs := by
  induction seqs generalizing e with
  | nil => simp [gaps, next, late]
  | cons s seqs ih =>
    have hih := ih (max e (s + 1))
    simp only [gaps, next, late, List.sum_cons, List.length_cons]
    split_ifs with hs
    · rw [max_eq_left (by omega)] at hih ⊢
      omega
    · rw [max_eq_right (by omega)] at hih ⊢
      omega

theorem next_le {bound : ℕ} (he : e ≤ bound) (hseqs : ∀ s ∈ seqs, s < bound) :
    next e seqs ≤ bound := by
  induction seqs generalizing e with
  | nil => exact he
  | cons s seqs ih =>
    obtain ⟨hs, hrest⟩ := List.forall_mem_cons.mp hseqs
    exact ih (max_le he hs) hrest

theorem le_next (e : ℕ) (seqs : List ℕ) : e ≤ next e seqs ∧ ∀ s ∈ seqs, s < next e seqs := by
  induction seqs generalizing e with
  | nil => exact ⟨le_rfl, by simp⟩
  | cons s seqs ih =>
    obtain ⟨hle, hrest⟩ := ih (max e (s + 1))
    obtain ⟨he, hs⟩ := max_le_iff.mp hle
    exact ⟨he, List.forall_mem_cons.mpr ⟨hs, hrest⟩⟩

theorem le_greatest (h : s ∈ seqs) : s ≤ greatest seqs := by
  obtain ⟨g, hg⟩ := Option.isSome_iff_exists.mp (List.isSome_max?_of_mem h)
  rw [greatest, hg]
  exact (List.max?_eq_some_iff.mp hg).2 s h

theorem greatest_mem (h : seqs ≠ []) : greatest seqs ∈ seqs := by
  cases hg : seqs.max? with
  | none => exact absurd (List.max?_eq_none_iff.mp hg) h
  | some g =>
    rw [greatest, hg]
    exact (List.max?_eq_some_iff.mp hg).1

theorem least_le (h : s ∈ seqs) : least seqs ≤ s := by
  obtain ⟨g, hg⟩ := Option.isSome_iff_exists.mp (List.isSome_min?_of_mem h)
  rw [least, hg]
  exact (List.min?_eq_some_iff.mp hg).2 s h

/-- Different numbers are at most as many as there are from the smallest to the largest. -/
theorem missing_nonneg (h : seqs.Nodup) : 0 ≤ missing seqs := by
  unfold missing
  split_ifs with hnil
  · exact le_rfl
  · have hsub : seqs.toFinset ⊆ Finset.Icc (least seqs) (greatest seqs) := by
      intro s hs
      have hs := List.mem_toFinset.mp hs
      exact Finset.mem_Icc.mpr ⟨least_le hs, le_greatest hs⟩
    have hcard := Finset.card_le_card hsub
    rw [List.toFinset_card_of_nodup h, Nat.card_Icc] at hcard
    have hle := least_le (greatest_mem hnil)
    omega

/-- The late arrivals that make up for the numbers below what was expected and for some that are
counted without a number. -/
def Balanced (e : ℕ) (seqs : List ℕ) (extra : ℕ) : Prop :=
  let slack : ℤ := (e - least seqs) + extra - (next e seqs - (greatest seqs + 1))
  seqs = [] ∨ late e seqs = slack ∨ missing seqs = 0 ∧ late e seqs ≤ slack

/-- The gaps less what is counted without a number, when they are what is missing. -/
theorem balanced_iff (h : seqs.Nodup) (e extra : ℕ) :
    max 0 ((gaps e seqs).sum - extra : ℤ) = missing seqs ↔ Balanced e seqs extra := by
  by_cases hnil : seqs = []
  · subst hnil
    simp [Balanced, gaps, missing]
  · have hsum := sum_gaps e seqs
    have hmissing := missing_nonneg h
    have heq : missing seqs = greatest seqs - least seqs + 1 - seqs.length := if_neg hnil
    simp only [Balanced, hnil, false_or]
    omega

/-! ## What is missing from the first arrival on -/

/-- How many numbers from the first arrival on, below what is expected, have not arrived. -/
def lost (seqs : List ℕ) : ℕ :=
  ((Finset.Ico (seqs.headD 0) (next (seqs.headD 0) seqs)).filter (· ∉ seqs)).card

/-- How many numbers from `first` on arrive after a larger one. -/
def overtaken (first : ℕ) : ℕ → List ℕ → ℕ
  | _, [] => 0
  | e, s :: seqs => (if first ≤ s ∧ s < e then 1 else 0) + overtaken first (max e (s + 1)) seqs

theorem next_concat (e : ℕ) (seqs : List ℕ) (s : ℕ) :
    next e (seqs ++ [s]) = max (next e seqs) (s + 1) := by
  induction seqs generalizing e with
  | nil => rfl
  | cons a seqs ih => exact ih _

theorem gaps_concat (e : ℕ) (seqs : List ℕ) (s : ℕ) :
    gaps e (seqs ++ [s]) = gaps e seqs ++ [s - next e seqs] := by
  induction seqs generalizing e with
  | nil => rfl
  | cons a seqs ih => exact congrArg _ (ih _)

theorem late_le_length (e : ℕ) (seqs : List ℕ) : late e seqs ≤ seqs.length := by
  induction seqs generalizing e with
  | nil => exact le_rfl
  | cons s seqs ih =>
    have hih := ih (max e (s + 1))
    rw [late, List.length_cons]
    split_ifs <;> omega

/-- Late are those that were overtaken and those before the first. -/
theorem late_eq {first : ℕ} (h : first ≤ e) (seqs : List ℕ) :
    late e seqs = overtaken first e seqs + seqs.countP (· < first) := by
  induction seqs generalizing e with
  | nil => rfl
  | cons s seqs ih =>
    have hih := ih (le_trans h (le_max_left e (s + 1)))
    rw [late, overtaken, List.countP_cons, hih]
    by_cases hs : s < first
    · have hlate : s < e := lt_of_lt_of_le hs h
      simp [hs, hlate, not_le.mpr hs]
      omega
    · by_cases hlate : s < e
      · simp [hs, hlate, not_lt.mp hs]
        omega
      · simp [hs, hlate]

/-- **The gaps count what is missing and what was overtaken.** -/
theorem sum_gaps_eq (h : seqs.Nodup) : (gaps (seqs.headD 0) seqs).sum =
    lost seqs + overtaken (seqs.headD 0) (seqs.headD 0) seqs := by
  have hsum := sum_gaps (seqs.headD 0) seqs
  have hlate := late_eq (le_refl (seqs.headD 0)) seqs
  obtain ⟨hle, hlt⟩ := le_next (seqs.headD 0) seqs
  have harrived : ((Finset.Ico (seqs.headD 0) (next (seqs.headD 0) seqs)).filter (· ∈ seqs)).card =
      seqs.countP fun s => ¬s < seqs.headD 0 := by
    rw [List.countP_eq_length_filter, ← List.toFinset_card_of_nodup (h.filter _)]
    congr 1
    ext s
    simp only [Finset.mem_filter, Finset.mem_Ico, List.mem_toFinset, List.mem_filter, not_lt,
      decide_eq_true_eq]
    constructor
    · rintro ⟨⟨hs, -⟩, hmem⟩
      exact ⟨hmem, hs⟩
    · rintro ⟨hmem, hs⟩
      exact ⟨⟨hs, hlt s hmem⟩, hmem⟩
  have hall : ((Finset.Ico (seqs.headD 0) (next (seqs.headD 0) seqs)).filter (· ∈ seqs)).card +
      lost seqs = next (seqs.headD 0) seqs - seqs.headD 0 := by
    rw [← Nat.card_Ico]
    exact Finset.card_filter_add_card_filter_not _
  have hlength := List.length_eq_countP_add_countP (fun s => decide (s < seqs.headD 0)) (l := seqs)
  simp only [decide_eq_true_eq] at hlength
  omega

/-- Numbers that arrive in their order overtake none. -/
theorem overtaken_eq_zero {first : ℕ} (h : seqs.Pairwise (· < ·)) (he : ∀ s ∈ seqs, e ≤ s) :
    overtaken first e seqs = 0 := by
  induction seqs generalizing e with
  | nil => rfl
  | cons s seqs ih =>
    obtain ⟨hs, hseqs⟩ := List.pairwise_cons.mp h
    have hle := he s (List.mem_cons_self ..)
    rw [overtaken, if_neg fun hlt => absurd hlt.2 (not_lt.mpr hle), Nat.zero_add]
    exact ih hseqs fun s' hs' => max_le (he s' (List.mem_cons_of_mem _ hs')) (hs s' hs')

end Sequence
