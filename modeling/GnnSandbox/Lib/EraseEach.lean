import Mathlib.Data.List.Count
import Mathlib.Data.List.Pairwise
import Mathlib.Tactic.Common

/-!
# Removing elements by their keys

For each key of a list, the first element is removed whose key is the same. When the keys are
those of the elements that satisfy `p`, this removes these elements unless others of the same
keys stand before them.

* `eraseEach_eq_filter_iff`: when exactly the elements that satisfy `p` are removed.
-/

namespace EraseEach

variable {α κ : Type} (key : α → κ) (same : κ → κ → Bool) {p : α → Bool}

/-- Remove, for each key, the first element with the same key. -/
def eraseEach (keys : List κ) (l : List α) : List α :=
  keys.foldl (fun l k => l.eraseP fun a => same (key a) k) l

variable {key same} {keys : List κ} {k : κ} {l : List α} {a : α}

theorem eraseEach_cons :
    eraseEach key same (k :: keys) l = eraseEach key same keys (l.eraseP fun a => same (key a) k) :=
  rfl

/-- The head goes when the key is its own. -/
theorem eraseEach_cons_of_pos (h : same (key a) k = true) :
    eraseEach key same (k :: keys) (a :: l) = eraseEach key same keys l := by
  have hhead : ((a :: l).eraseP fun a => same (key a) k) = l := List.eraseP_cons_of_pos h
  rw [eraseEach_cons, hhead]

theorem eraseEach_cons_of_neg (h : same (key a) k = false) :
    eraseEach key same (k :: keys) (a :: l) =
      eraseEach key same keys (a :: l.eraseP fun a => same (key a) k) := by
  have hhead : ((a :: l).eraseP fun a => same (key a) k) =
      a :: l.eraseP fun a => same (key a) k :=
    List.eraseP_cons_of_neg (Bool.eq_false_iff.mp h)
  rw [eraseEach_cons, hhead]

theorem eraseEach_sublist : (eraseEach key same keys l).Sublist l := by
  induction keys generalizing l with
  | nil => exact List.Sublist.refl l
  | cons k keys ih => exact ih.trans List.eraseP_sublist

/-- An element stays at the front while no key is its own. -/
theorem eraseEach_cons_of_forall (h : ∀ k ∈ keys, same (key a) k = false) :
    eraseEach key same keys (a :: l) = a :: eraseEach key same keys l := by
  induction keys generalizing l with
  | nil => rfl
  | cons k keys ih =>
    rw [eraseEach_cons_of_neg (h k (List.mem_cons_self ..)), eraseEach_cons]
    exact ih fun k' hk' => h k' (List.mem_cons_of_mem _ hk')

/-- An element goes from the front when some key is its own. -/
theorem eraseEach_cons_sublist (h : ∃ k ∈ keys, same (key a) k = true) :
    (eraseEach key same keys (a :: l)).Sublist l := by
  induction keys generalizing l with
  | nil =>
    obtain ⟨k, hk, -⟩ := h
    cases hk
  | cons k keys ih =>
    cases hk : same (key a) k with
    | true =>
      rw [eraseEach_cons_of_pos hk]
      exact eraseEach_sublist
    | false =>
      rw [eraseEach_cons_of_neg hk]
      obtain ⟨k', hk', hsame⟩ := h
      rcases List.mem_cons.mp hk' with rfl | hk'
      · rw [hsame] at hk
        cases hk
      · exact (ih ⟨k', hk', hsame⟩).trans List.eraseP_sublist

/-- To filter once for each key is to keep what every filter keeps. -/
theorem foldl_filter {q : κ → α → Bool} :
    keys.foldl (fun l k => l.filter (q k)) l = l.filter fun a => keys.all fun k => q k a := by
  induction keys generalizing l with
  | nil => exact (List.filter_eq_self.mpr fun _ _ => rfl).symm
  | cons k keys ih =>
    rw [List.foldl_cons, ih, List.filter_filter]
    refine List.filter_congr fun a _ => ?_
    rw [List.all_cons, Bool.and_comm]

/-- The elements that satisfy `p` have keys, and none that does not stands before one of the same
key. -/
structure Separated (key : α → κ) (same : κ → κ → Bool) (p : α → Bool) (l : List α) : Prop where
  self : ∀ a ∈ l, p a = true → same (key a) (key a) = true
  first : l.Pairwise fun a b => p b = true → same (key a) (key b) = true → p a = true

theorem separated_cons :
    Separated key same p (a :: l) ↔
      (p a = true → same (key a) (key a) = true) ∧
        (p a = false → ∀ b ∈ l, p b = true → same (key a) (key b) = false) ∧
          Separated key same p l := by
  constructor
  · rintro ⟨hself, hfirst⟩
    obtain ⟨hhead, htail⟩ := List.pairwise_cons.mp hfirst
    refine ⟨hself a (List.mem_cons_self ..), fun ha b hb hpb => ?_,
      fun b hb => hself b (List.mem_cons_of_mem _ hb), htail⟩
    cases hsame : same (key a) (key b) with
    | false => rfl
    | true =>
      rw [hhead b hb hpb hsame] at ha
      cases ha
  · rintro ⟨hself, hhead, htail⟩
    refine ⟨fun b hb hpb => ?_, List.pairwise_cons.mpr ⟨fun b hb hpb hsame => ?_, htail.first⟩⟩
    · rcases List.mem_cons.mp hb with rfl | hb
      · exact hself hpb
      · exact htail.self b hb hpb
    · cases ha : p a with
      | true => rfl
      | false =>
        rw [hhead ha b hb hpb] at hsame
        cases hsame

/-- **The elements of the keys are removed, and no others**, exactly when they are separated. -/
theorem eraseEach_eq_filter_iff (hsame : ∀ j k, same j k = true → same j j = true) :
    eraseEach key same ((l.filter p).map key) l = l.filter (fun a => !p a) ↔
      Separated key same p l := by
  induction l with
  | nil => exact ⟨fun _ => ⟨by simp, List.Pairwise.nil⟩, fun _ => rfl⟩
  | cons a l ih =>
    rw [separated_cons]
    cases ha : p a with
    | true =>
      have hfilter : (a :: l).filter (fun a => !p a) = l.filter fun a => !p a :=
        List.filter_cons_of_neg (by simp [ha])
      rw [hfilter, List.filter_cons_of_pos ha, List.map_cons]
      by_cases hself : same (key a) (key a) = true
      · rw [eraseEach_cons_of_pos hself, ih]
        simp [hself]
      · -- a key that is not the same as itself removes nothing
        have hnone : ∀ k ∈ key a :: (l.filter p).map key, same (key a) k = false :=
          fun k _ => Bool.eq_false_iff.mpr fun h => hself (hsame _ _ h)
        rw [eraseEach_cons_of_forall hnone]
        constructor
        · intro heq
          have hmem : a ∈ l.filter fun a => !p a := heq ▸ List.mem_cons_self ..
          simp [ha] at hmem
        · intro h
          exact absurd (h.1 rfl) hself
    | false =>
      have hfilter : (a :: l).filter (fun a => !p a) = a :: l.filter fun a => !p a :=
        List.filter_cons_of_pos (by simp [ha])
      rw [hfilter, List.filter_cons_of_neg (by simp [ha])]
      by_cases hkeys : ∃ k ∈ (l.filter p).map key, same (key a) k = true
      · -- the removals leave too few of the elements that should stay
        constructor
        · intro heq
          have hsub := eraseEach_cons_sublist (l := l) hkeys
          rw [heq] at hsub
          have hlength := hsub.countP_le (p := fun a => !p a)
          rw [List.countP_cons_of_pos (by simp [ha]), List.countP_filter] at hlength
          simp only [Bool.and_self] at hlength
          exact absurd hlength (Nat.not_succ_le_self _)
        · rintro ⟨-, hhead, -⟩
          obtain ⟨k, hk, htrue⟩ := hkeys
          obtain ⟨b, hb, rfl⟩ := List.mem_map.mp hk
          obtain ⟨hb, hpb⟩ := List.mem_filter.mp hb
          rw [hhead rfl b hb hpb] at htrue
          cases htrue
      · have hnone : ∀ k ∈ (l.filter p).map key, same (key a) k = false :=
          fun k hk => Bool.eq_false_iff.mpr fun h => hkeys ⟨k, hk, h⟩
        rw [eraseEach_cons_of_forall hnone, List.cons.injEq, ih]
        constructor
        · rintro ⟨-, hrest⟩
          refine ⟨fun h => (by cases h), fun _ b hb hpb => ?_, hrest⟩
          exact hnone _ (List.mem_map_of_mem (List.mem_filter.mpr ⟨hb, hpb⟩))
        · rintro ⟨-, -, hrest⟩
          exact ⟨rfl, hrest⟩

end EraseEach
