import Mathlib.Tactic.Common

/-!
# Stateful computations that may raise

Computations `StateT σ (Except ε) α`. `Runs m s a s'` says that a run of `m` from `s`
returns `a` and ends in `s'`; a run that raises returns nothing. The rules invert runs of
computations that are built by sequencing, branching and loops over lists.
-/

namespace Raise

variable {σ ε α β γ : Type}

/-- A run of `m` from `s` returns `a` and ends in `s'`. -/
def Runs (m : StateT σ (Except ε) α) (s : σ) (a : α) (s' : σ) : Prop := m.run s = .ok (a, s')

variable {s s' : σ}

@[simp] theorem runs_pure {a b : α} :
    Runs (pure a : StateT σ (Except ε) α) s b s' ↔ b = a ∧ s' = s := by
  constructor
  · intro h
    cases h
    exact ⟨rfl, rfl⟩
  · rintro ⟨rfl, rfl⟩
    rfl

@[simp] theorem runs_throw {e : ε} {a : α} :
    Runs (throw e : StateT σ (Except ε) α) s a s' ↔ False :=
  ⟨fun h => (by cases h), False.elim⟩

/-- A run of a sequence is a run of its first part, then one of the rest. -/
@[simp] theorem runs_bind {m : StateT σ (Except ε) α} {f : α → StateT σ (Except ε) β} {b : β} :
    Runs (m >>= f) s b s' ↔ ∃ a t, Runs m s a t ∧ Runs (f a) t b s' := by
  have hrun : (m >>= f).run s = (m.run s).bind fun p => (f p.1).run p.2 := rfl
  unfold Runs
  rw [hrun]
  cases hm : m.run s with
  | error e =>
    constructor
    · intro h
      cases h
    · rintro ⟨a, t, h, -⟩
      cases h
  | ok p =>
    constructor
    · intro h
      exact ⟨p.1, p.2, rfl, h⟩
    · rintro ⟨a, t, h, hf⟩
      cases h
      exact hf

@[simp] theorem runs_modifyGet {f : σ → α × σ} {a : α} :
    Runs (modifyGet f : StateT σ (Except ε) α) s a s' ↔ f s = (a, s') := by
  constructor
  · intro h
    exact Except.ok.inj h
  · intro h
    show Except.ok (f s) = Except.ok (a, s')
    rw [h]

@[simp] theorem runs_modify {f : σ → σ} {a : PUnit} :
    Runs (modify f : StateT σ (Except ε) PUnit) s a s' ↔ s' = f s := by
  constructor
  · intro h
    cases h
    rfl
  · rintro rfl
    rfl

/-- A computation that does not touch the state. -/
@[simp] theorem runs_liftExcept {m : Except ε α} {a : α} :
    Runs (liftM m : StateT σ (Except ε) α) s a s' ↔ m = .ok a ∧ s' = s := by
  have hrun : (liftM m : StateT σ (Except ε) α).run s = m.bind fun a => .ok (a, s) := rfl
  unfold Runs
  rw [hrun]
  cases m with
  | error e =>
    constructor
    · intro h
      cases h
    · rintro ⟨h, -⟩
      cases h
  | ok b =>
    constructor
    · intro h
      cases h
      exact ⟨rfl, rfl⟩
    · rintro ⟨h, rfl⟩
      cases h
      rfl

/-- What follows a computation that does not touch the state runs from the same state. -/
theorem runs_liftExcept_bind {m : Except ε α} {f : α → StateT σ (Except ε) β} {b : β} :
    Runs ((liftM m : StateT σ (Except ε) α) >>= f) s b s' ↔ ∃ a, m = .ok a ∧ Runs (f a) s b s' := by
  rw [runs_bind]
  constructor
  · rintro ⟨a, t, hm, hf⟩
    obtain ⟨ha, ht⟩ := runs_liftExcept.mp hm
    rw [ht] at hf
    exact ⟨a, ha, hf⟩
  · rintro ⟨a, ha, hf⟩
    exact ⟨a, s, runs_liftExcept.mpr ⟨ha, rfl⟩, hf⟩

/-- Runs are deterministic. -/
theorem Runs.unique {m : StateT σ (Except ε) α} {a b : α} {t : σ} (h : Runs m s a s')
    (h' : Runs m s b t) : b = a ∧ t = s' := by
  have heq : Except.ok (b, t) = (Except.ok (a, s') : Except ε (α × σ)) := h'.symm.trans h
  cases heq
  exact ⟨rfl, rfl⟩

theorem runs_forM_nil {f : β → StateT σ (Except ε) PUnit} {a : PUnit} :
    Runs (forM [] f) s a s' ↔ s' = s := by
  constructor
  · intro h
    exact (runs_pure.mp h).2
  · intro h
    exact runs_pure.mpr ⟨rfl, h⟩

theorem runs_forM_cons {f : β → StateT σ (Except ε) PUnit} {b : β} {l : List β} {a : PUnit} :
    Runs (forM (b :: l) f) s a s' ↔ ∃ t, Runs (f b) s ⟨⟩ t ∧ Runs (forM l f) t a s' := by
  have hcons : forM (b :: l) f = (f b >>= fun _ => forM l f) := rfl
  rw [hcons, runs_bind]
  constructor
  · rintro ⟨_, t, h, h'⟩
    exact ⟨t, h, h'⟩
  · rintro ⟨t, h, h'⟩
    exact ⟨⟨⟩, t, h, h'⟩

/-- A loop keeps an invariant that each of its steps keeps. -/
theorem Runs.loop {I : σ → Prop} {f : β → StateT σ (Except ε) PUnit} {l : List β} {a : PUnit}
    (hstep : ∀ b ∈ l, ∀ t t', I t → Runs (f b) t ⟨⟩ t' → I t') (h : Runs (forM l f) s a s')
    (hs : I s) : I s' := by
  induction l generalizing s with
  | nil =>
    rw [runs_forM_nil.mp h]
    exact hs
  | cons b l ih =>
    obtain ⟨t, hb, hl⟩ := runs_forM_cons.mp h
    exact ih (fun b' hb' => hstep b' (List.mem_cons_of_mem _ hb')) hl
      (hstep b (List.mem_cons_self ..) s t hs hb)

/-- A loop of steps that change the state without raising. -/
theorem runs_forM_iff {f : β → StateT σ (Except ε) PUnit} {g : σ → β → σ}
    (hf : ∀ b t t', Runs (f b) t ⟨⟩ t' ↔ t' = g t b) {l : List β} {a : PUnit} :
    Runs (forM l f) s a s' ↔ s' = l.foldl g s := by
  induction l generalizing s with
  | nil => exact runs_forM_nil
  | cons b l ih =>
    rw [runs_forM_cons, List.foldl_cons]
    constructor
    · rintro ⟨t, hb, hl⟩
      rw [(hf b s t).mp hb] at hl
      exact ih.mp hl
    · intro h
      exact ⟨g s b, (hf b s _).mpr rfl, ih.mpr h⟩

/-! ## Collecting results -/

/-- The results for the elements of a list, when none of them raises. -/
def collect (f : α → Except ε β) : List α → Except ε (List β)
  | [] => .ok []
  | a :: l =>
    match f a with
    | .error e => .error e
    | .ok b =>
      match collect f l with
      | .error e => .error e
      | .ok bs => .ok (b :: bs)

/-- What is collected stands for the elements one by one. -/
theorem collect_eq_ok {f : α → Except ε β} {l : List α} {bs : List β} :
    collect f l = .ok bs ↔ List.Forall₂ (fun a b => f a = .ok b) l bs := by
  induction l generalizing bs with
  | nil =>
    constructor
    · intro h
      cases h
      exact .nil
    · intro h
      cases h
      rfl
  | cons a l ih =>
    constructor
    · intro h
      unfold collect at h
      split at h
      · cases h
      · next b hb =>
        split at h
        · cases h
        · next bs' hbs =>
          cases h
          exact .cons hb (ih.mp hbs)
    · intro h
      cases h with
      | cons hb hl =>
        unfold collect
        rw [hb, ih.mpr hl]

/-- A sequence returns when its first step does, and the rest with what that returns. -/
theorem exists_bind_eq_ok {m : Except ε α} {f : α → Except ε β} (h : ∃ a, m = .ok a)
    (hf : ∀ a, m = .ok a → ∃ b, f a = .ok b) : ∃ b, (m >>= f) = .ok b := by
  obtain ⟨a, rfl⟩ := h
  exact hf a rfl

/-- Collecting raises only when an element does. -/
theorem exists_collect_eq_ok {f : α → Except ε β} {l : List α} :
    (∃ bs, collect f l = .ok bs) ↔ ∀ a ∈ l, ∃ b, f a = .ok b := by
  constructor
  · rintro ⟨bs, h⟩
    have hall := collect_eq_ok.mp h
    clear h
    induction hall with
    | nil => exact fun a ha => absurd ha List.not_mem_nil
    | @cons a b l bs hab _ ih =>
      intro a' ha'
      rcases List.mem_cons.mp ha' with rfl | ha'
      · exact ⟨b, hab⟩
      · exact ih a' ha'
  · intro h
    induction l with
    | nil => exact ⟨[], rfl⟩
    | cons a l ih =>
      obtain ⟨b, hb⟩ := h a (List.mem_cons_self ..)
      obtain ⟨bs, hbs⟩ := ih fun a' ha' => h a' (List.mem_cons_of_mem _ ha')
      exact ⟨b :: bs, collect_eq_ok.mpr (.cons hb (collect_eq_ok.mp hbs))⟩

/-- Collecting over the images of a list. -/
theorem collect_map {f : β → Except ε γ} {g : α → β} {l : List α} :
    collect f (l.map g) = collect (fun a => f (g a)) l := by
  induction l with
  | nil => rfl
  | cons a l ih =>
    rw [List.map_cons]
    unfold collect
    rw [ih]

/-- Nothing raises when no element does. -/
theorem collect_ok {f : α → β} {l : List α} :
    collect (fun a => (.ok (f a) : Except ε β)) l = .ok (l.map f) := by
  induction l with
  | nil => rfl
  | cons a l ih =>
    unfold collect
    rw [ih]
    rfl

/-- An element of what is collected is the result for some element. -/
theorem mem_of_collect {f : α → Except ε β} {l : List α} {bs : List β} (h : collect f l = .ok bs)
    {b : β} (hb : b ∈ bs) : ∃ a ∈ l, f a = .ok b := by
  rw [collect_eq_ok] at h
  induction h with
  | nil => cases hb
  | @cons a b' l bs hab _ ih =>
    rcases List.mem_cons.mp hb with rfl | hb
    · exact ⟨a, List.mem_cons_self .., hab⟩
    · obtain ⟨a', ha', hf⟩ := ih hb
      exact ⟨a', List.mem_cons_of_mem _ ha', hf⟩

end Raise
