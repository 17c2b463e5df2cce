import Mathlib.Algebra.BigOperators.Ring.List
import Mathlib.Algebra.Order.BigOperators.Group.List
import Mathlib.Algebra.Order.Field.Rat
import Mathlib.Data.List.Dedup

/-!
# Means of groups

The mean of all elements is not the sum of the means of groups, unless the totals of the groups
happen to balance. Of values that are not negative they do so in two cases only: when there is one
group, and when all values are zero.
-/

namespace GnnSandbox.Lib

variable {α κ : Type*} [DecidableEq κ] (group : α → Option κ) (value : α → ℚ) (l : List α)

/-- The groups that there are. -/
def groups : List κ := (l.filterMap group).dedup

def inGroup (k : κ) : List α := l.filter fun a => group a = some k

def total : ℚ := (l.map value).sum

/-- The mean, 0 of no elements. -/
def average : ℚ := total value l / l.length

def sumOfAverages : ℚ := ((groups group l).map fun k => average value (inGroup group l k)).sum

/-- The total of each group, times the number of all elements by the number of the group's, add up
to the total of all. -/
def Balanced : Prop :=
  ((groups group l).map fun k =>
    total value (inGroup group l k) * (l.length / (inGroup group l k).length)).sum = total value l

variable {group value l} {a : α} {k : κ}

theorem mem_groups : k ∈ groups group l ↔ ∃ a ∈ l, group a = some k := by
  rw [groups, List.mem_dedup, List.mem_filterMap]

theorem mem_inGroup : a ∈ inGroup group l k ↔ a ∈ l ∧ group a = some k := by
  rw [inGroup, List.mem_filter, decide_eq_true_iff]

theorem length_inGroup_pos (hk : k ∈ groups group l) : 0 < (inGroup group l k).length := by
  obtain ⟨a, ha, hgroup⟩ := mem_groups.mp hk
  exact List.length_pos_of_mem (mem_inGroup.mpr ⟨ha, hgroup⟩)

/-- **The mean is the sum of the groups' means** exactly when the elements are balanced. -/
theorem average_eq_iff : average value l = sumOfAverages group value l ↔
    Balanced group value l := by
  have hscale : ((groups group l).map fun k =>
      total value (inGroup group l k) * (l.length / (inGroup group l k).length)).sum =
        l.length * sumOfAverages group value l := by
    rw [sumOfAverages, ← List.sum_map_mul_left]
    exact congrArg List.sum (List.map_congr_left fun k _ => mul_div_left_comm ..)
  unfold Balanced
  rw [hscale]
  cases hl : l with
  | nil => simp [average, total, sumOfAverages, groups]
  | cons a rest =>
    have hlength : (l.length : ℚ) ≠ 0 := by
      rw [hl]
      exact Nat.cast_ne_zero.mpr (Nat.succ_ne_zero _)
    rw [← hl, average, div_eq_iff hlength, eq_comm, mul_comm]

/-- One group is balanced. -/
theorem balanced_of_one (h : ∀ a ∈ l, group a = some k) : Balanced group value l := by
  refine average_eq_iff.mp ?_
  cases hl : l with
  | nil => simp [average, total, sumOfAverages, groups]
  | cons a rest =>
    have hall : inGroup group l k = l :=
      List.filter_eq_self.mpr fun a ha => decide_eq_true (h a ha)
    have hone : groups group l = [k] := by
      have hreplicate : l.filterMap group = List.replicate l.length k := by
        rw [← List.map_const', ← List.filterMap_eq_map]
        exact List.filterMap_congr h
      rw [groups, hreplicate, List.replicate_dedup (by simp [hl])]
    rw [← hl, sumOfAverages, hone, List.map_singleton, List.sum_singleton, hall]

/-- The totals of the groups add up to the total. -/
theorem sum_total_inGroup {ks : List κ} (hks : ks.Nodup)
    (h : ∀ a ∈ l, ∃ k ∈ ks, group a = some k) :
    (ks.map fun k => total value (inGroup group l k)).sum = total value l := by
  induction l with
  | nil => simp [total, inGroup]
  | cons a l ih =>
    obtain ⟨k₀, hk₀, hgroup⟩ := h a (List.mem_cons_self ..)
    have hcons : ∀ k, total value (inGroup group (a :: l) k) =
        (if k = k₀ then value a else 0) + total value (inGroup group l k) := by
      intro k
      unfold inGroup total
      by_cases hk : k = k₀
      · subst hk
        simp [hgroup]
      · have hne : k₀ ≠ k := fun heq => hk heq.symm
        simp [hgroup, hk, hne]
    have hsingle : (ks.map fun k => if k = k₀ then value a else 0).sum = value a := by
      rw [List.sum_map_eq_nsmul_single k₀ _ fun k hk _ => if_neg hk,
        List.count_eq_one_of_mem hks hk₀, if_pos rfl, one_nsmul]
    have hrest := ih fun b hb => h b (List.mem_cons_of_mem _ hb)
    simp only [hcons]
    rw [List.sum_map_add, hsingle, hrest]
    exact List.sum_cons.symm

theorem length_inGroup_lt (ha : a ∈ l) (hne : group a ≠ some k) :
    (inGroup group l k).length < l.length :=
  List.length_filter_lt_length_iff_exists.mpr ⟨a, ha, by simpa using hne⟩

theorem total_nonneg (h : ∀ a ∈ l, 0 ≤ value a) : 0 ≤ total value l := by
  refine List.sum_nonneg fun x hx => ?_
  obtain ⟨a, ha, rfl⟩ := List.mem_map.mp hx
  exact h a ha

theorem eq_zero_of_total (h : ∀ a ∈ l, 0 ≤ value a) (htotal : total value l = 0) (ha : a ∈ l) :
    value a = 0 := by
  refine List.all_zero_of_le_zero_le_of_sum_eq_zero (fun x hx => ?_) htotal
    (List.mem_map_of_mem ha)
  obtain ⟨b, hb, rfl⟩ := List.mem_map.mp hx
  exact h b hb

theorem total_eq_zero (h : ∀ a ∈ l, value a = 0) : total value l = 0 := by
  refine List.sum_eq_zero fun x hx => ?_
  obtain ⟨a, ha, rfl⟩ := List.mem_map.mp hx
  exact h a ha

/-- A group of balanced values that are not negative has no weight if it is not the only one. -/
theorem total_inGroup_eq_zero (hgroup : ∀ a ∈ l, (group a).isSome)
    (hvalue : ∀ a ∈ l, 0 ≤ value a) (h : Balanced group value l) (hk : k ∈ groups group l)
    (ha : a ∈ l) (hne : group a ≠ some k) : total value (inGroup group l k) = 0 := by
  have htotals : ((groups group l).map fun k => total value (inGroup group l k)).sum =
      total value l := by
    refine sum_total_inGroup (List.nodup_dedup _) fun a ha => ?_
    obtain ⟨k, hk⟩ := Option.isSome_iff_exists.mp (hgroup a ha)
    exact ⟨k, mem_groups.mpr ⟨a, ha, hk⟩, hk⟩
  have hexcess : ((groups group l).map fun k => total value (inGroup group l k) *
      (l.length / (inGroup group l k).length - 1)).sum = 0 := by
    have hsplit : ∀ k, total value (inGroup group l k) *
        (l.length / (inGroup group l k).length) = total value (inGroup group l k) +
          total value (inGroup group l k) * (l.length / (inGroup group l k).length - 1) := by
      intro k
      rw [mul_sub, mul_one, add_sub_cancel]
    unfold Balanced at h
    simp only [hsplit] at h
    rw [List.sum_map_add, htotals] at h
    exact left_eq_add.mp h.symm
  have hterm : ∀ k ∈ groups group l, 0 ≤ total value (inGroup group l k) *
      (l.length / (inGroup group l k).length - 1) := by
    intro k hk
    have hpos : (0 : ℚ) < (inGroup group l k).length := Nat.cast_pos.mpr (length_inGroup_pos hk)
    have hle : ((inGroup group l k).length : ℚ) ≤ l.length :=
      Nat.cast_le.mpr (List.length_filter_le ..)
    refine mul_nonneg (total_nonneg fun a ha => hvalue a (mem_inGroup.mp ha).1) ?_
    exact sub_nonneg.mpr ((one_le_div₀ hpos).mpr hle)
  have hzero : total value (inGroup group l k) *
      (l.length / (inGroup group l k).length - 1) = 0 := by
    refine List.all_zero_of_le_zero_le_of_sum_eq_zero (fun x hx => ?_) hexcess
      (List.mem_map.mpr ⟨k, hk, rfl⟩)
    obtain ⟨k, hk, rfl⟩ := List.mem_map.mp hx
    exact hterm k hk
  have hpos : (0 : ℚ) < (inGroup group l k).length := Nat.cast_pos.mpr (length_inGroup_pos hk)
  have hlt : ((inGroup group l k).length : ℚ) < l.length :=
    Nat.cast_lt.mpr (length_inGroup_lt ha hne)
  exact (mul_eq_zero.mp hzero).resolve_right (sub_pos.mpr ((one_lt_div₀ hpos).mpr hlt)).ne'

/-- **Values that are not negative** are balanced in one group, or when they are all zero. -/
theorem balanced_iff_of_nonneg (hgroup : ∀ a ∈ l, (group a).isSome)
    (hvalue : ∀ a ∈ l, 0 ≤ value a) : Balanced group value l ↔
      (∃ k, ∀ a ∈ l, group a = some k) ∨ ∀ a ∈ l, value a = 0 := by
  constructor
  · intro h
    refine or_iff_not_imp_left.mpr fun hmany a ha => ?_
    obtain ⟨k, hk⟩ := Option.isSome_iff_exists.mp (hgroup a ha)
    obtain ⟨b, hb, hne⟩ : ∃ b ∈ l, group b ≠ some k := by
      by_contra hall
      exact hmany ⟨k, fun b hb => not_not.mp fun hne => hall ⟨b, hb, hne⟩⟩
    have hzero := total_inGroup_eq_zero hgroup hvalue h (mem_groups.mpr ⟨a, ha, hk⟩) hb hne
    exact eq_zero_of_total (fun c hc => hvalue c (mem_inGroup.mp hc).1) hzero
      (mem_inGroup.mpr ⟨ha, hk⟩)
  · rintro (⟨k, hk⟩ | hzero)
    · exact balanced_of_one hk
    · have hgroups : ∀ k, total value (inGroup group l k) = 0 :=
        fun k => total_eq_zero fun a ha => hzero a (mem_inGroup.mp ha).1
      unfold Balanced
      rw [total_eq_zero hzero]
      refine List.sum_eq_zero fun x hx => ?_
      obtain ⟨k, -, rfl⟩ := List.mem_map.mp hx
      rw [hgroups, zero_mul]

end GnnSandbox.Lib
