import Mathlib.Data.List.Chain
import Mathlib.Order.Basic
import Mathlib.Order.Lattice

/-!
# Intervals in a row

Closed intervals whose ends move forward leave no gap and share no more than end points exactly when
each of them starts where the one before it stops.
-/

namespace GnnSandbox.Lib

variable {ι α : Type*} [LinearOrder α] {start stop : ι → α} {l : List ι}

/-- Between any two of the intervals no point is left out, and no point is inside two of them. -/
structure Tiles (start stop : ι → α) (l : List ι) : Prop where
  covers : ∀ i ∈ l, ∀ j ∈ l, ∀ t, start i ≤ t → t ≤ stop j → ∃ k ∈ l, start k ≤ t ∧ t ≤ stop k
  apart : l.Pairwise fun i j => ∀ t, start i ≤ t → t ≤ stop i → start j ≤ t → t ≤ stop j →
    t = stop i ∧ t = start j

/-- The ends of the intervals move forward. -/
structure Forward (start stop : ι → α) (l : List ι) : Prop where
  le : ∀ i ∈ l, start i ≤ stop i
  starts : l.Pairwise fun i j => start i ≤ start j
  stops : l.Pairwise fun i j => stop i ≤ stop j

theorem Forward.tail {i : ι} (h : Forward start stop (i :: l)) : Forward start stop l where
  le j hj := h.le j (List.mem_cons_of_mem _ hj)
  starts := (List.pairwise_cons.mp h.starts).2
  stops := (List.pairwise_cons.mp h.stops).2

/-- A chain reaches every point from its start on. -/
theorem exists_of_isChain {i j : ι} {t : α} (h : (i :: l).IsChain fun i j => stop i = start j)
    (hi : start i ≤ t) (hj : j ∈ i :: l) (ht : t ≤ stop j) :
    ∃ k ∈ i :: l, start k ≤ t ∧ t ≤ stop k := by
  induction l generalizing i with
  | nil =>
    obtain rfl := List.mem_singleton.mp hj
    exact ⟨j, hj, hi, ht⟩
  | cons i' l ih =>
    obtain ⟨hnext, htail⟩ := List.isChain_cons_cons.mp h
    by_cases hstop : t ≤ stop i
    · exact ⟨i, List.mem_cons_self .., hi, hstop⟩
    · have hmem : j ∈ i' :: l := by
        refine (List.mem_cons.mp hj).resolve_left fun heq => hstop ?_
        rwa [← heq]
      obtain ⟨k, hk, hkt⟩ := ih htail (hnext ▸ (not_le.mp hstop).le) hmem
      exact ⟨k, List.mem_cons_of_mem _ hk, hkt⟩

/-- In a chain every later interval starts after an earlier one has stopped. -/
theorem pairwise_of_isChain (hforward : Forward start stop l)
    (h : l.IsChain fun i j => stop i = start j) : l.Pairwise fun i j => stop i ≤ start j := by
  induction l with
  | nil => exact List.Pairwise.nil
  | cons i l ih =>
    refine List.pairwise_cons.mpr ⟨fun j hj => ?_, ih hforward.tail h.tail⟩
    cases l with
    | nil => cases hj
    | cons i' l =>
      have hnext := (List.isChain_cons_cons.mp h).1
      rcases List.mem_cons.mp hj with rfl | hj
      · exact hnext.le
      · exact hnext.trans_le ((List.pairwise_cons.mp hforward.tail.starts).1 j hj)

theorem tiles_of_isChain (hforward : Forward start stop l)
    (h : l.IsChain fun i j => stop i = start j) : Tiles start stop l where
  covers i hi j hj t hit htj := by
    cases l with
    | nil => cases hi
    | cons first l =>
      refine exists_of_isChain h (le_trans ?_ hit) hj htj
      rcases List.mem_cons.mp hi with rfl | hi
      · exact le_rfl
      · exact (List.pairwise_cons.mp hforward.starts).1 i hi
  apart := (pairwise_of_isChain hforward h).imp fun hij _ _ hti hjt _ =>
    ⟨le_antisymm hti (hij.trans hjt), le_antisymm (hti.trans hij) hjt⟩

/-- A point between two neighbours is in no interval at all. -/
theorem stop_eq_start [DenselyOrdered α] {before after : List ι} {i j : ι}
    (hforward : Forward start stop (before ++ i :: j :: after))
    (h : Tiles start stop (before ++ i :: j :: after)) : stop i = start j := by
  have hi : i ∈ before ++ i :: j :: after := by simp
  have hj : j ∈ before ++ i :: j :: after := by simp
  obtain ⟨-, hstarts, hstartsFrom⟩ := List.pairwise_append.mp hforward.starts
  obtain ⟨-, hstops, hstopsFrom⟩ := List.pairwise_append.mp hforward.stops
  have hij : stop i ≤ stop j := (List.pairwise_cons.mp hstops).1 j (List.mem_cons_self ..)
  refine le_antisymm (not_lt.mp fun hlt => ?_) (not_lt.mp fun hlt => ?_)
  · -- the intervals overlap in more than an end point
    have hpair := (List.pairwise_append.mp h.apart).2.1
    have happart := (List.pairwise_cons.mp hpair).1 j (List.mem_cons_self ..)
    exact hlt.ne' (happart (stop i) (hforward.le i hi) le_rfl hlt.le hij).2
  · obtain ⟨t, hti, htj⟩ := exists_between hlt
    obtain ⟨k, hk, hstart, hstop⟩ := h.covers i hi j hj t ((hforward.le i hi).trans hti.le)
      (htj.le.trans (hforward.le j hj))
    have hafter : ∀ k ∈ j :: after, start j ≤ start k := by
      intro k hk
      rcases List.mem_cons.mp hk with rfl | hk
      · exact le_rfl
      · exact (List.pairwise_cons.mp (List.pairwise_cons.mp hstarts).2).1 k hk
    rcases List.mem_append.mp hk with hk | hk
    · exact absurd (hstop.trans (hstopsFrom k hk i (List.mem_cons_self ..))) (not_le.mpr hti)
    · rcases List.mem_cons.mp hk with rfl | hk
      · exact absurd hstop (not_le.mpr hti)
      · exact absurd ((hafter k hk).trans hstart) (not_le.mpr htj)

/-- **Intervals tile** exactly when each starts where the one before it stops. -/
theorem tiles_iff [DenselyOrdered α] (hforward : Forward start stop l) :
    Tiles start stop l ↔ l.IsChain fun i j => stop i = start j := by
  refine ⟨fun h => ?_, tiles_of_isChain hforward⟩
  refine List.isChain_iff_forall_rel_of_append_cons_cons.mpr fun before i j after heq => ?_
  subst heq
  exact stop_eq_start hforward h

end GnnSandbox.Lib
