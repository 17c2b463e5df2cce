import Mathlib.Data.Set.Lattice
import Mathlib.Logic.Function.Basic
import Mathlib.Order.CompletePartialOrder
import Mathlib.Tactic.Common

/-!
# Holdings

Items are taken out of a common stock by holders. The books balance when the items that are
taken are exactly the items that somebody holds, and nobody holds an item of another holder.
Taking free items, returning all items of a holder and handing them over to another holder keep
the books balanced.
-/

/-- The taken items are the ones that are held, each by one holder. -/
structure BalancedHoldings {ι α : Type*} (taken : Set α) (held : ι → Set α) : Prop where
  mem_taken_iff : ∀ a, a ∈ taken ↔ ∃ i, a ∈ held i
  unique : ∀ {a i j}, a ∈ held i → a ∈ held j → i = j

namespace BalancedHoldings

variable {ι α : Type*} {taken new : Set α} {held held' : ι → Set α} {i j : ι} {a : α}

theorem held_subset (h : BalancedHoldings taken held) (i : ι) : held i ⊆ taken := fun a ha =>
  (h.mem_taken_iff a).mpr ⟨i, ha⟩

/-- Nothing is taken and nobody holds anything. -/
theorem empty : BalancedHoldings (∅ : Set α) (fun _ : ι => ∅) where
  mem_taken_iff a := by simp
  unique ha := ha.elim

variable [DecidableEq ι]

theorem mem_update_iff :
    a ∈ Function.update held i new j ↔ (j = i ∧ a ∈ new) ∨ (j ≠ i ∧ a ∈ held j) := by
  rcases eq_or_ne j i with rfl | hne
  · simp
  · simp [hne]

/-- A holder who has nothing takes free items. -/
theorem take (h : BalancedHoldings taken held) (hnone : held i = ∅) (hfree : Disjoint new taken) :
    BalancedHoldings (taken ∪ new) (Function.update held i new) where
  mem_taken_iff a := by
    simp only [mem_update_iff]
    constructor
    · rintro (ha | ha)
      · obtain ⟨j, hj⟩ := (h.mem_taken_iff a).mp ha
        refine ⟨j, .inr ⟨?_, hj⟩⟩
        rintro rfl
        rw [hnone] at hj
        exact hj
      · exact ⟨i, .inl ⟨rfl, ha⟩⟩
    · rintro ⟨j, ⟨-, hj⟩ | ⟨-, hj⟩⟩
      · exact .inr hj
      · exact .inl (h.held_subset j hj)
  unique := by
    intro a j k hj hk
    rcases mem_update_iff.mp hj with ⟨hji, hj⟩ | ⟨-, hj⟩ <;>
      rcases mem_update_iff.mp hk with ⟨hki, hk⟩ | ⟨-, hk⟩
    · exact hji.trans hki.symm
    · exact absurd (h.held_subset k hk) (Set.disjoint_left.mp hfree hj)
    · exact absurd (h.held_subset j hj) (Set.disjoint_left.mp hfree hk)
    · exact h.unique hj hk

/-- A holder returns everything. -/
theorem giveBack (h : BalancedHoldings taken held) (i : ι) :
    BalancedHoldings (taken \ held i) (Function.update held i ∅) where
  mem_taken_iff a := by
    simp only [mem_update_iff, Set.mem_empty_iff_false, and_false, false_or]
    constructor
    · rintro ⟨ha, hi⟩
      obtain ⟨j, hj⟩ := (h.mem_taken_iff a).mp ha
      refine ⟨j, ?_, hj⟩
      rintro rfl
      exact hi hj
    · rintro ⟨j, hne, hj⟩
      exact ⟨h.held_subset j hj, fun hi => hne (h.unique hj hi)⟩
  unique := by
    intro a j k hj hk
    simp only [mem_update_iff, Set.mem_empty_iff_false, and_false, false_or] at hj hk
    exact h.unique hj.2 hk.2

/-- A holder hands everything over to one who has nothing. -/
theorem handOver (h : BalancedHoldings taken held) (hne : i ≠ j) (hnone : held j = ∅) :
    BalancedHoldings taken (Function.update (Function.update held i ∅) j (held i)) := by
  have hnone' : Function.update held i ∅ j = ∅ := by rw [Function.update_of_ne hne.symm, hnone]
  have hfree : Disjoint (held i) (taken \ held i) := Set.disjoint_sdiff_left.symm
  have htake := (h.giveBack i).take hnone' hfree
  rwa [Set.sdiff_union_of_subset (h.held_subset i)] at htake

end BalancedHoldings

/-- What is held is taken, each item by one holder. -/
structure Covered {ι α : Type*} (taken : Set α) (held : ι → Set α) : Prop where
  held_subset : ∀ i, held i ⊆ taken
  unique : ∀ {a i j}, a ∈ held i → a ∈ held j → i = j

namespace Covered

variable {ι α : Type*} {taken new gone : Set α} {held held' : ι → Set α} {i j : ι} {a : α}

/-- Holders who give up a part of what they hold. -/
theorem mono {taken' : Set α} (h : Covered taken held) (htaken : taken ⊆ taken')
    (hheld : ∀ i, held' i ⊆ held i) : Covered taken' held' where
  held_subset i := (hheld i).trans ((h.held_subset i).trans htaken)
  unique hi hj := h.unique (hheld _ hi) (hheld _ hj)

/-- A holder takes free items. -/
theorem take (h : Covered taken held) (hfree : Disjoint new taken)
    (hi : held' i ⊆ held i ∪ new) (hheld : ∀ j, j ≠ i → held' j ⊆ held j) :
    Covered (taken ∪ new) held' where
  held_subset j := by
    rcases eq_or_ne j i with rfl | hne
    · exact hi.trans (Set.union_subset_union_left new (h.held_subset j))
    · exact (hheld j hne).trans ((h.held_subset j).trans Set.subset_union_left)
  unique := by
    have hother : ∀ {a j}, j ≠ i → a ∈ held' i → a ∈ held' j → False := by
      intro a j hne ha haj
      have haj := hheld j hne haj
      rcases hi ha with hold | hnew
      · exact hne (h.unique haj hold)
      · exact Set.disjoint_left.mp hfree hnew (h.held_subset j haj)
    intro a j k hj hk
    by_cases hji : j = i
    · by_cases hki : k = i
      · rw [hji, hki]
      · subst hji
        exact (hother hki hj hk).elim
    · by_cases hki : k = i
      · subst hki
        exact (hother hji hk hj).elim
      · exact h.unique (hheld j hji hj) (hheld k hki hk)

/-- A holder returns a part of the items. -/
theorem giveBack (h : Covered taken held) (hgone : gone ⊆ held i) (hi : held' i ⊆ held i \ gone)
    (hheld : ∀ j, j ≠ i → held' j ⊆ held j) : Covered (taken \ gone) held' where
  held_subset j := by
    intro a ha
    rcases eq_or_ne j i with rfl | hne
    · exact ⟨h.held_subset j (hi ha).1, (hi ha).2⟩
    · have ha := hheld j hne ha
      exact ⟨h.held_subset j ha, fun hg => hne (h.unique ha (hgone hg))⟩
  unique := by
    have hsub : ∀ j, held' j ⊆ held j := by
      intro j
      rcases eq_or_ne j i with rfl | hne
      · exact hi.trans Set.sdiff_subset
      · exact hheld j hne
    intro a j k hj hk
    exact h.unique (hsub j hj) (hsub k hk)

end Covered
