import Mathlib.Data.List.Nodup
import Mathlib.Order.Lattice
import Mathlib.Tactic.Common

/-!
# Changing the first match

`modifyFirst p f` changes the first element of a list that satisfies `p`, as a search loop
that stops at its first hit does.

`OneChange R l l'`: the lists are the same up to one position, where their elements are related by
`R`. For an irreflexive `R` the position is determined, so that a change of the first match is
judged at the match.
-/

/-- The list with its first element that satisfies `p` changed by `f`. -/
def modifyFirst {α : Type} (p : α → Bool) (f : α → α) : List α → List α
  | [] => []
  | a :: l => if p a then f a :: l else a :: modifyFirst p f l

section

variable {α : Type} {p q : α → Bool} {f g : α → α} {l : List α} {a : α}

theorem modifyFirst_cons_of_pos (h : p a = true) : modifyFirst p f (a :: l) = f a :: l := if_pos h

theorem modifyFirst_cons_of_neg (h : p a = false) :
    modifyFirst p f (a :: l) = a :: modifyFirst p f l := if_neg (Bool.eq_false_iff.mp h)

/-- Without a match nothing changes. -/
theorem modifyFirst_of_find?_eq_none (h : l.find? p = none) : modifyFirst p f l = l := by
  induction l with
  | nil => rfl
  | cons b l ih =>
    rw [List.find?_cons] at h
    cases hb : p b with
    | true =>
      rw [hb] at h
      cases h
    | false =>
      rw [hb] at h
      rw [modifyFirst_cons_of_neg hb, ih h]

/-- Changes do the same to the list exactly when they do the same to the match. -/
theorem modifyFirst_eq_iff (h : l.find? p = some a) :
    modifyFirst p f l = modifyFirst p g l ↔ f a = g a := by
  induction l with
  | nil => cases h
  | cons b l ih =>
    rw [List.find?_cons] at h
    cases hb : p b with
    | true =>
      rw [hb] at h
      obtain rfl := Option.some.inj h
      rw [modifyFirst_cons_of_pos hb, modifyFirst_cons_of_pos hb, List.cons.injEq]
      exact and_iff_left rfl
    | false =>
      rw [hb] at h
      rw [modifyFirst_cons_of_neg hb, modifyFirst_cons_of_neg hb, List.cons.injEq]
      exact (and_iff_right rfl).trans (ih h)

theorem modifyFirst_id : modifyFirst p id l = l := by
  induction l with
  | nil => rfl
  | cons b l ih =>
    unfold modifyFirst
    rw [ih]
    exact ite_self _

/-- The list changes exactly when the match does. -/
theorem modifyFirst_eq_self_iff (h : l.find? p = some a) : modifyFirst p f l = l ↔ f a = a := by
  have hiff := modifyFirst_eq_iff (f := f) (g := id) h
  rwa [modifyFirst_id] at hiff

/-- Only the match counts, and not what it is searched by. -/
theorem modifyFirst_congr_find? (hp : l.find? p = some a) (hq : l.find? q = some a) :
    modifyFirst p f l = modifyFirst q f l := by
  have hpa : p a = true := List.find?_some hp
  have hqa : q a = true := List.find?_some hq
  induction l with
  | nil => cases hp
  | cons b l ih =>
    rw [List.find?_cons] at hp hq
    cases hb : p b with
    | true =>
      rw [hb] at hp
      obtain rfl := Option.some.inj hp
      rw [modifyFirst_cons_of_pos hb, modifyFirst_cons_of_pos hqa]
    | false =>
      rw [hb] at hp
      cases hb' : q b with
      | true =>
        rw [hb'] at hq
        obtain rfl := Option.some.inj hq
        exact absurd (hpa.symm.trans hb) (by decide)
      | false =>
        rw [hb'] at hq
        rw [modifyFirst_cons_of_neg hb, modifyFirst_cons_of_neg hb', ih hp hq]

/-- A narrower search stops at the same match, if that is one. -/
theorem find?_of_imp (h : l.find? q = some a) (hpa : p a = true)
    (hpq : ∀ a, p a = true → q a = true) : l.find? p = some a := by
  induction l with
  | nil => cases h
  | cons b l ih =>
    rw [List.find?_cons] at h ⊢
    cases hb : q b with
    | true =>
      rw [hb] at h
      obtain rfl := Option.some.inj h
      rw [hpa]
    | false =>
      rw [hb] at h
      cases hpb : p b with
      | true => exact absurd (hb.symm.trans (hpq b hpb)) (by decide)
      | false => exact ih h

/-- A match of `q` that is none of `p` stays where it is. -/
theorem find?_modifyFirst_of_neg (h : l.find? q = some a) (hpa : p a = false)
    (hq : ∀ a, q (f a) = q a) : (modifyFirst p f l).find? q = some a := by
  induction l with
  | nil => cases h
  | cons b l ih =>
    rw [List.find?_cons] at h
    cases hb : q b with
    | true =>
      rw [hb] at h
      obtain rfl := Option.some.inj h
      rw [modifyFirst_cons_of_neg hpa, List.find?_cons, hb]
    | false =>
      rw [hb] at h
      cases hpb : p b with
      | true =>
        rw [modifyFirst_cons_of_pos hpb, List.find?_cons, hq, hb]
        exact h
      | false =>
        rw [modifyFirst_cons_of_neg hpb, List.find?_cons, hb]
        exact ih h

/-- A change that keeps `p` leaves the match where it is. -/
theorem find?_modifyFirst (hp : ∀ a, p (f a) = p a) :
    (modifyFirst p f l).find? p = (l.find? p).map f := by
  induction l with
  | nil => rfl
  | cons b l ih =>
    cases hb : p b with
    | true =>
      rw [modifyFirst_cons_of_pos hb, List.find?_cons, List.find?_cons, hb, hp, hb]
      rfl
    | false =>
      rw [modifyFirst_cons_of_neg hb, List.find?_cons, List.find?_cons, hb]
      exact ih

/-- Two changes of the same match are one. -/
theorem modifyFirst_modifyFirst (hp : ∀ a, p (f a) = p a) :
    modifyFirst p g (modifyFirst p f l) = modifyFirst p (fun a => g (f a)) l := by
  induction l with
  | nil => rfl
  | cons b l ih =>
    cases hb : p b with
    | true =>
      rw [modifyFirst_cons_of_pos hb, modifyFirst_cons_of_pos ((hp b).trans hb),
        modifyFirst_cons_of_pos hb]
    | false =>
      rw [modifyFirst_cons_of_neg hb, modifyFirst_cons_of_neg hb, modifyFirst_cons_of_neg hb, ih]

/-- A change of elements that do not satisfy `q` is not seen by a search for `q`. -/
theorem find?_modifyFirst_of_disjoint (hpq : ∀ a, p a = true → q a = false)
    (hq : ∀ a, q (f a) = q a) : (modifyFirst p f l).find? q = l.find? q := by
  induction l with
  | nil => rfl
  | cons b l ih =>
    cases hb : p b with
    | true =>
      rw [modifyFirst_cons_of_pos hb, List.find?_cons, List.find?_cons, hq, hpq b hb]
    | false =>
      rw [modifyFirst_cons_of_neg hb, List.find?_cons, List.find?_cons, ih]

/-- Changes commute that do not see each other, and do so where they meet. -/
theorem modifyFirst_comm (hp : ∀ a, q a = true → p (g a) = p a)
    (hq : ∀ a, p a = true → q (f a) = q a)
    (hfg : ∀ a, l.find? p = some a → l.find? q = some a → g (f a) = f (g a)) :
    modifyFirst q g (modifyFirst p f l) = modifyFirst p f (modifyFirst q g l) := by
  induction l with
  | nil => rfl
  | cons b l ih =>
    rw [List.find?_cons, List.find?_cons] at hfg
    cases hb : p b with
    | true =>
      rw [modifyFirst_cons_of_pos hb]
      cases hqb : q b with
      | true =>
        rw [hb, hqb] at hfg
        rw [modifyFirst_cons_of_pos ((hq b hb).trans hqb), modifyFirst_cons_of_pos hqb,
          modifyFirst_cons_of_pos ((hp b hqb).trans hb), hfg b rfl rfl]
      | false =>
        rw [modifyFirst_cons_of_neg ((hq b hb).trans hqb), modifyFirst_cons_of_neg hqb,
          modifyFirst_cons_of_pos hb]
    | false =>
      rw [modifyFirst_cons_of_neg hb]
      cases hqb : q b with
      | true =>
        rw [modifyFirst_cons_of_pos hqb, modifyFirst_cons_of_pos hqb,
          modifyFirst_cons_of_neg ((hp b hqb).trans hb)]
      | false =>
        rw [hb, hqb] at hfg
        rw [modifyFirst_cons_of_neg hqb, modifyFirst_cons_of_neg hqb, modifyFirst_cons_of_neg hb,
          ih hfg]

/-- Changes of different matches commute. -/
theorem modifyFirst_comm_of_disjoint (hpq : ∀ a, p a = true → q a = false)
    (hp : ∀ a, p (g a) = p a) (hq : ∀ a, q (f a) = q a) :
    modifyFirst q g (modifyFirst p f l) = modifyFirst p f (modifyFirst q g l) :=
  modifyFirst_comm (fun a _ => hp a) (fun a _ => hq a) fun a ha ha' =>
    absurd ((List.find?_some ha').symm.trans (hpq a (List.find?_some ha))) (by decide)

/-- What a search reads from its match is not changed by a change that it does not see. -/
theorem find?_bind_modifyFirst {β : Type} {find : α → Option β}
    (hq : ∀ a, p a = true → q (f a) = q a)
    (hfind : ∀ a, p a = true → q a = true → find (f a) = find a) :
    ((modifyFirst p f l).find? q).bind find = (l.find? q).bind find := by
  induction l with
  | nil => rfl
  | cons b l ih =>
    cases hb : p b with
    | true =>
      rw [modifyFirst_cons_of_pos hb, List.find?_cons, List.find?_cons, hq b hb]
      cases hqb : q b with
      | true => exact hfind b hb hqb
      | false => rfl
    | false =>
      rw [modifyFirst_cons_of_neg hb, List.find?_cons, List.find?_cons]
      cases q b with
      | true => rfl
      | false => exact ih

theorem mem_of_mem_modifyFirst {b : α} (h : b ∈ modifyFirst p f l) :
    b ∈ l ∨ ∃ a ∈ l, p a = true ∧ b = f a := by
  induction l with
  | nil => cases h
  | cons a l ih =>
    cases ha : p a with
    | true =>
      rw [modifyFirst_cons_of_pos ha] at h
      rcases List.mem_cons.mp h with rfl | h
      · exact .inr ⟨a, List.mem_cons_self, ha, rfl⟩
      · exact .inl (List.mem_cons_of_mem _ h)
    | false =>
      rw [modifyFirst_cons_of_neg ha] at h
      rcases List.mem_cons.mp h with rfl | h
      · exact .inl List.mem_cons_self
      · rcases ih h with h | ⟨c, hc, hpc, rfl⟩
        · exact .inl (List.mem_cons_of_mem _ h)
        · exact .inr ⟨c, List.mem_cons_of_mem _ hc, hpc, rfl⟩

/-- A change of a match that is not seen. -/
theorem map_modifyFirst_of_imp {β : Type} {g : α → β} (h : ∀ a, p a = true → g (f a) = g a)
    (l : List α) : (modifyFirst p f l).map g = l.map g := by
  induction l with
  | nil => rfl
  | cons a l ih =>
    cases ha : p a with
    | true => rw [modifyFirst_cons_of_pos ha, List.map_cons, List.map_cons, h a ha]
    | false => rw [modifyFirst_cons_of_neg ha, List.map_cons, List.map_cons, ih]

/-- A change that is not seen. -/
theorem map_modifyFirst {β : Type} {g : α → β} (h : ∀ a, g (f a) = g a) (l : List α) :
    (modifyFirst p f l).map g = l.map g :=
  map_modifyFirst_of_imp (fun a _ => h a) l

/-- Among the elements that are searched, a change of the first match is one too. -/
theorem filter_modifyFirst (h : ∀ a, q (f a) = q a) (l : List α) :
    (modifyFirst (fun a => q a && p a) f l).filter q = modifyFirst p f (l.filter q) := by
  induction l with
  | nil => rfl
  | cons a l ih =>
    cases hq : q a with
    | false =>
      rw [modifyFirst_cons_of_neg (by simp [hq]), List.filter_cons_of_neg (by simp [hq]),
        List.filter_cons_of_neg (by simp [hq]), ih]
    | true =>
      rw [List.filter_cons_of_pos hq]
      cases ha : p a with
      | true =>
        rw [modifyFirst_cons_of_pos (by simp [hq, ha]), modifyFirst_cons_of_pos ha,
          List.filter_cons_of_pos ((h a).trans hq)]
      | false =>
        rw [modifyFirst_cons_of_neg (by simp [ha]), modifyFirst_cons_of_neg ha,
          List.filter_cons_of_pos hq, ih]

/-- Among the elements that satisfy `q`, the first one that does is the first of all. -/
theorem filter_modifyFirst_cons {rest : List α} (h : l.filter q = a :: rest)
    (hq : ∀ a, q (f a) = q a) : (modifyFirst q f l).filter q = f a :: rest := by
  have hfilter := filter_modifyFirst (p := fun _ => true) hq l
  simp only [Bool.and_true] at hfilter
  rw [hfilter, h]
  rfl

/-- The list around its first match. -/
theorem exists_modifyFirst_eq (h : l.find? p = some a) : ∃ before after,
    (∀ b ∈ before, p b = false) ∧ ∀ f, modifyFirst p f l = before ++ f a :: after := by
  induction l with
  | nil => cases h
  | cons b l ih =>
    rw [List.find?_cons] at h
    cases hb : p b with
    | true =>
      rw [hb] at h
      obtain rfl := Option.some.inj h
      exact ⟨[], l, by simp, fun f => modifyFirst_cons_of_pos hb⟩
    | false =>
      rw [hb] at h
      obtain ⟨before, after, hbefore, hmodify⟩ := ih h
      refine ⟨b :: before, after, ?_, fun f => ?_⟩
      · rintro x (_ | ⟨_, hx⟩)
        · exact hb
        · exact hbefore x hx
      · rw [modifyFirst_cons_of_neg hb, hmodify f]
        rfl

end

/-! ## Lists that differ in one element -/

section

variable {α : Type} {R : α → α → Prop} {l l' : List α} {a b : α} {p : α → Bool} {f : α → α}

theorem map_eq_self_iff : l.map f = l ↔ ∀ a ∈ l, f a = a := by
  have h := List.map_inj_left (l := l) (f := f) (g := id)
  rwa [List.map_id] at h

/-- One element is changed along `R`, and the others stay. -/
inductive OneChange (R : α → α → Prop) : List α → List α → Prop where
  | head {a b : α} {l : List α} (h : R a b) : OneChange R (a :: l) (b :: l)
  | tail {a : α} {l l' : List α} (h : OneChange R l l') : OneChange R (a :: l) (a :: l')

namespace OneChange

theorem not_self (hR : ∀ a, ¬R a a) : ¬OneChange R l l := by
  intro h
  induction l with
  | nil => cases h
  | cons a l ih =>
    cases h with
    | head h => exact hR a h
    | tail h => exact ih h

/-- The changed element is the first, or it is a later one and the first stays. -/
theorem cons_iff : OneChange R (a :: l) (b :: l') ↔ R a b ∧ l = l' ∨ a = b ∧ OneChange R l l' := by
  constructor
  · intro h
    cases h with
    | head h => exact .inl ⟨h, rfl⟩
    | tail h => exact .inr ⟨rfl, h⟩
  · rintro (⟨h, rfl⟩ | ⟨rfl, h⟩)
    · exact .head h
    · exact .tail h

/-- **A change of the first match** is one along `R` exactly when the match is changed so. -/
theorem modifyFirst_iff (hR : ∀ a, ¬R a a) (h : l.find? p = some a) :
    OneChange R l (modifyFirst p f l) ↔ R a (f a) := by
  induction l with
  | nil => cases h
  | cons b l ih =>
    rw [List.find?_cons] at h
    cases hb : p b with
    | true =>
      rw [hb] at h
      obtain rfl := Option.some.inj h
      rw [modifyFirst_cons_of_pos hb, cons_iff, and_iff_left rfl]
      exact or_iff_left fun h => not_self hR h.2
    | false =>
      rw [hb] at h
      rw [modifyFirst_cons_of_neg hb, cons_iff, ih h]
      constructor
      · rintro (⟨h, -⟩ | ⟨-, h⟩)
        · exact absurd h (hR b)
        · exact h
      · exact fun h => .inr ⟨rfl, h⟩

/-- **A change of all elements** is one along `R` exactly when one element is changed, and so. -/
theorem map_iff (hR : ∀ a, ¬R a a) (hp : ∀ a, p a = true ↔ f a ≠ a) :
    OneChange R l (l.map f) ↔ ∃ a, l.filter p = [a] ∧ R a (f a) := by
  have hsame : ∀ l : List α, l = l.map f ↔ l.filter p = [] := fun l => by
    rw [List.filter_eq_nil_iff, eq_comm, map_eq_self_iff]
    exact forall₂_congr fun a _ => (not_iff_comm.mp (hp a).symm).symm
  induction l with
  | nil =>
    constructor
    · intro h
      cases h
    · rintro ⟨a, h, -⟩
      cases h
  | cons b l ih =>
    rw [List.map_cons, cons_iff, hsame]
    cases hb : p b with
    | true =>
      rw [List.filter_cons_of_pos hb]
      constructor
      · rintro (⟨h, hl⟩ | ⟨h, -⟩)
        · exact ⟨b, by rw [hl], h⟩
        · exact absurd h.symm ((hp b).mp hb)
      · rintro ⟨a, h, ha⟩
        obtain ⟨rfl, hl⟩ := List.cons.inj h
        exact .inl ⟨ha, hl⟩
    | false =>
      have hfb : f b = b := not_not.mp fun h => Bool.false_ne_true (hb.symm.trans ((hp b).mpr h))
      rw [List.filter_cons_of_neg (Bool.eq_false_iff.mp hb), hfb]
      constructor
      · rintro (⟨h, -⟩ | ⟨-, h⟩)
        · exact absurd h (hR b)
        · exact ih.mp h
      · exact fun h => .inr ⟨rfl, ih.mpr h⟩

end OneChange

end

/-!
## The first element of each key

A loop with a set of the keys it has seen keeps the first element of each key. Which elements these
are depends on the order; which keys they have does not. The key of a pair can be the sorted pair; a
symmetric relation takes each pair in both orders.
-/

namespace GnnSandbox.Lib

variable {α κ : Type*} [DecidableEq κ] {key : α → κ} {l : List α} {a b : α}

def firstOfEach (key : α → κ) : List α → List α
  | [] => []
  | a :: l => a :: (firstOfEach key l).filter fun b => key b ≠ key a

/-- One round of the loop: the keys seen and the elements kept. -/
def addNew (key : α → κ) (s : List κ × List α) (a : α) : List κ × List α :=
  if key a ∈ s.1 then s else (s.1 ++ [key a], s.2 ++ [a])

theorem mem_of_mem_firstOfEach (h : a ∈ firstOfEach key l) : a ∈ l := by
  induction l with
  | nil => cases h
  | cons b l ih =>
    rcases List.mem_cons.mp h with rfl | h
    · exact List.mem_cons_self ..
    · exact List.mem_cons_of_mem _ (ih (List.mem_filter.mp h).1)

theorem exists_mem_firstOfEach (h : a ∈ l) : ∃ b ∈ firstOfEach key l, key b = key a := by
  induction l with
  | nil => cases h
  | cons c l ih =>
    by_cases hkey : key c = key a
    · exact ⟨c, List.mem_cons_self .., hkey⟩
    · have hmem : a ∈ l := (List.mem_cons.mp h).resolve_left fun heq => hkey (heq ▸ rfl)
      obtain ⟨b, hb, hba⟩ := ih hmem
      refine ⟨b, List.mem_cons_of_mem _ (List.mem_filter.mpr ⟨hb, ?_⟩), hba⟩
      exact decide_eq_true fun hbc => hkey (hbc.symm.trans hba)

/-- **No key is kept twice.** -/
theorem pairwise_firstOfEach : (firstOfEach key l).Pairwise fun a b => key a ≠ key b := by
  induction l with
  | nil => exact List.Pairwise.nil
  | cons c l ih =>
    refine List.pairwise_cons.mpr ⟨fun b hb => ?_, ih.filter _⟩
    exact (of_decide_eq_true (List.mem_filter.mp hb).2).symm

theorem eq_of_mem_firstOfEach (ha : a ∈ firstOfEach key l) (hb : b ∈ firstOfEach key l)
    (hkey : key a = key b) : a = b := by
  have hpairs : (firstOfEach key l).Pairwise fun a b => key a = key b → a = b :=
    pairwise_firstOfEach.imp fun hne heq => absurd heq hne
  exact hpairs.forall_of_forall_of_flip (fun _ _ _ => rfl)
    (hpairs.imp fun hsame heq => (hsame heq.symm).symm) ha hb hkey

/-- The first element is kept. -/
theorem mem_firstOfEach_cons : a ∈ firstOfEach key (a :: l) := List.mem_cons_self ..

theorem firstOfEach_filter_cons {seen : List κ} :
    (firstOfEach key (a :: l)).filter (fun b => key b ∉ seen) =
      if key a ∈ seen then (firstOfEach key l).filter fun b => key b ∉ seen
      else a :: (firstOfEach key l).filter fun b => key b ∉ seen ++ [key a] := by
  rw [firstOfEach]
  split
  · next hseen =>
    rw [List.filter_cons_of_neg (by simpa using hseen), List.filter_filter]
    refine List.filter_congr fun b _ => ?_
    by_cases hb : key b ∈ seen
    · simp [hb]
    · have hne : key b ≠ key a := fun heq => hb (heq ▸ hseen)
      simp [hb, hne]
  · next hseen =>
    rw [List.filter_cons_of_pos (by simpa using hseen), List.filter_filter]
    congr 1
    refine List.filter_congr fun b _ => ?_
    simp [not_or]

/-- **The loop keeps** the first element of each key that it has not seen before. -/
theorem foldl_addNew (seen : List κ) (out : List α) :
    (l.foldl (addNew key) (seen, out)).2 =
      out ++ (firstOfEach key l).filter fun b => key b ∉ seen := by
  induction l generalizing seen out with
  | nil => simp [firstOfEach]
  | cons a l ih =>
    rw [List.foldl_cons, firstOfEach_filter_cons, addNew]
    split
    · exact ih seen out
    · rw [ih, List.append_assoc]
      rfl

/-! ## One of a name -/

section Named

variable {ν : Type*} [DecidableEq ν] {name : α → ν} {n : ν} {k : κ} {R : α → Prop}

/-- When all elements of a name or of a key are the ones looked for, one of them is kept. -/
theorem exists_filter_firstOfEach (hR : ∀ a, R a → name a = n ∧ key a = k) (hex : ∃ a ∈ l, R a)
    (honly : ∀ a ∈ l, name a = n ∨ key a = k → R a) :
    ∃ a, (firstOfEach key l).filter (fun b => name b = n) = [a] ∧ R a := by
  obtain ⟨a, ha, hra⟩ := hex
  obtain ⟨b, hb, hba⟩ : ∃ b ∈ firstOfEach key l, key b = key a := exists_mem_firstOfEach ha
  have hrb : R b := honly b (mem_of_mem_firstOfEach hb) (.inr (hba.trans (hR a hra).2))
  have hkept : ∀ c ∈ (firstOfEach key l).filter fun b => name b = n, c = b := by
    intro c hc
    obtain ⟨hc, hname⟩ := List.mem_filter.mp hc
    have hrc := honly c (mem_of_mem_firstOfEach hc) (.inl (of_decide_eq_true hname))
    exact eq_of_mem_firstOfEach hc hb ((hR c hrc).2.trans (hR b hrb).2.symm)
  have hmem : b ∈ (firstOfEach key l).filter fun b => name b = n :=
    List.mem_filter.mpr ⟨hb, decide_eq_true (hR b hrb).1⟩
  have hall : (firstOfEach key l).Pairwise fun a b => key a ≠ key b := pairwise_firstOfEach
  have hpairs := hall.filter fun b => name b = n
  refine ⟨b, ?_, hrb⟩
  cases hfilter : (firstOfEach key l).filter fun b => name b = n with
  | nil =>
    rw [hfilter] at hmem
    cases hmem
  | cons c rest =>
    rw [hfilter] at hkept hpairs
    obtain rfl := hkept c (List.mem_cons_self ..)
    cases rest with
    | nil => rfl
    | cons d rest =>
      have heq := hkept d (List.mem_cons_of_mem _ (List.mem_cons_self ..))
      exact absurd (heq ▸ rfl) ((List.pairwise_cons.mp hpairs).1 d (List.mem_cons_self ..))

/-- The first element is the one looked for if it has its name or its key. -/
theorem of_filter_firstOfEach_cons (hR : ∀ a, R a → name a = n ∧ key a = k)
    (h : ∃ b, (firstOfEach key (a :: l)).filter (fun b => name b = n) = [b] ∧ R b)
    (ha : name a = n ∨ key a = k) : R a := by
  obtain ⟨b, hfilter, hrb⟩ := h
  have hb : b ∈ firstOfEach key (a :: l) :=
    (List.mem_filter.mp (hfilter ▸ List.mem_singleton_self b)).1
  rcases ha with hname | hkey
  · have hmem : a ∈ (firstOfEach key (a :: l)).filter fun b => name b = n :=
      List.mem_filter.mpr ⟨mem_firstOfEach_cons, decide_eq_true hname⟩
    rw [hfilter] at hmem
    rwa [List.mem_singleton.mp hmem]
  · rwa [eq_of_mem_firstOfEach mem_firstOfEach_cons hb (hkey.trans (hR b hrb).2.symm)]

end Named

/-! ## Pairs without an order -/

section SortedPair

variable {α : Type*} [LinearOrder α] {a b a' b' : α}

def sortedPair (a b : α) : α × α := if b < a then (b, a) else (a, b)

theorem sortedPair_eq_iff :
    sortedPair a b = sortedPair a' b' ↔ (a = a' ∧ b = b') ∨ (a = b' ∧ b = a') := by
  unfold sortedPair
  constructor
  · intro h
    split at h <;> split at h
    · exact .inl ⟨(Prod.mk.inj h).2, (Prod.mk.inj h).1⟩
    · exact .inr ⟨(Prod.mk.inj h).2, (Prod.mk.inj h).1⟩
    · exact .inr (Prod.mk.inj h)
    · exact .inl (Prod.mk.inj h)
  · rintro (⟨rfl, rfl⟩ | ⟨rfl, rfl⟩)
    · rfl
    · split
      · next hlt => rw [if_neg hlt.asymm]
      · next hle =>
        split
        · rfl
        · next hle' => rw [le_antisymm (not_lt.mp hle) (not_lt.mp hle')]

end SortedPair

/-! ## Pairs in both orders -/

section Swaps

variable {α β : Type*} {l : List (α × α)} {p : α × α}

def withSwaps (l : List (α × α)) : List (α × α) := l.flatMap fun p => [p, p.swap]

theorem withSwaps_eq (l : List (α × α)) : withSwaps l = l.flatMap fun p => [p, (p.2, p.1)] := rfl

theorem withSwaps_cons : withSwaps (p :: l) = p :: p.swap :: withSwaps l := rfl

theorem mem_withSwaps : p ∈ withSwaps l ↔ p ∈ l ∨ p.swap ∈ l := by
  unfold withSwaps
  rw [List.mem_flatMap]
  constructor
  · rintro ⟨q, hq, hp⟩
    rcases List.mem_cons.mp hp with rfl | hp
    · exact .inl hq
    · rw [List.mem_singleton.mp hp, Prod.swap_swap]
      exact .inr hq
  · rintro (hp | hp)
    · exact ⟨p, hp, List.mem_cons_self ..⟩
    · exact ⟨p.swap, hp, List.mem_cons_of_mem _ (List.mem_singleton.mpr (Prod.swap_swap p).symm)⟩

/-- **The relation is symmetric.** -/
theorem swap_mem_withSwaps : p.swap ∈ withSwaps l ↔ p ∈ withSwaps l := by
  rw [mem_withSwaps, mem_withSwaps, Prod.swap_swap, or_comm]

/-- **No pair occurs twice** exactly when no pair is given twice or in both orders. -/
theorem nodup_withSwaps : (withSwaps l).Nodup ↔ l.Nodup ∧ ∀ p ∈ l, p.swap ∉ l := by
  induction l with
  | nil => exact iff_of_true List.nodup_nil ⟨List.nodup_nil, fun _ hp => by cases hp⟩
  | cons p l ih =>
    rw [withSwaps_cons, List.nodup_cons, List.nodup_cons, List.mem_cons, mem_withSwaps,
      mem_withSwaps, Prod.swap_swap, ih]
    constructor
    · rintro ⟨hfirst, hsecond, hnodup, hswaps⟩
      rw [not_or, not_or] at hfirst
      refine ⟨List.nodup_cons.mpr ⟨hfirst.2.1, hnodup⟩, fun q hq hswap => ?_⟩
      rcases List.mem_cons.mp hq with rfl | hq
      · rcases List.mem_cons.mp hswap with heq | hswap
        · exact hfirst.1 heq.symm
        · exact hfirst.2.2 hswap
      · rcases List.mem_cons.mp hswap with heq | hswap
        · rw [← Prod.swap_swap q, heq] at hq
          exact hfirst.2.2 hq
        · exact hswaps q hq hswap
    · rintro ⟨hnodup, hswaps⟩
      obtain ⟨hnot, hnodup⟩ := List.nodup_cons.mp hnodup
      have hself := hswaps p (List.mem_cons_self ..)
      have hne : p.swap ≠ p := fun heq => hself (List.mem_cons.mpr (.inl heq))
      have hswap : p.swap ∉ l := fun hmem => hself (List.mem_cons_of_mem _ hmem)
      refine ⟨?_, ?_, hnodup, fun q hq hmem => ?_⟩
      · exact not_or.mpr ⟨fun heq => hne heq.symm, not_or.mpr ⟨hnot, hswap⟩⟩
      · exact not_or.mpr ⟨hswap, hnot⟩
      · exact hswaps q (List.mem_cons_of_mem _ hq) (List.mem_cons_of_mem _ hmem)

/-- Mapping both ends alike keeps the two orders together. -/
theorem filterMap_withSwaps {f : α × α → Option (β × β)}
    (hf : ∀ p, f p.swap = (f p).map Prod.swap) :
    (withSwaps l).filterMap f = withSwaps (l.filterMap f) := by
  induction l with
  | nil => rfl
  | cons p l ih =>
    rw [withSwaps_cons]
    cases hp : f p with
    | none =>
      have hswap : f p.swap = none := by rw [hf, hp, Option.map_none]
      rw [List.filterMap_cons_none hp, List.filterMap_cons_none hswap, ih,
        List.filterMap_cons_none hp]
    | some q =>
      have hswap : f p.swap = some q.swap := by rw [hf, hp, Option.map_some]
      rw [List.filterMap_cons_some hp, List.filterMap_cons_some hswap, ih,
        List.filterMap_cons_some hp, withSwaps_cons]

end Swaps

end GnnSandbox.Lib
