import Mathlib.Order.Basic
import Mathlib.Tactic.Common

/-!
# Reasoning about stateful computations

Rules for computations `StateM σ α` that are built from a few primitive steps by
sequencing, branching and loops over lists.

1. `Respects R m`: every run of `m` relates its first state to its last by `R`.
   For a preorder `R` the rules follow the structure of `m`.
2. `Triple P m Q`: from a state in `P`, `m` ends in `Q`.
3. `Settles φ H m s o`: a run leaves the view `φ` of the state as `o` says, or alone. A
   loop settles it as the last of its steps that does.
-/

namespace Effect

variable {σ α β γ δ : Type}

/-- The state in which a run from `s` ends. -/
def after (m : StateM σ α) (s : σ) : σ := (StateT.run m s).2

/-- The value a run from `s` returns. -/
def result (m : StateM σ α) (s : σ) : α := (StateT.run m s).1

@[simp] theorem after_pure (a : α) (s : σ) : after (pure a : StateM σ α) s = s := rfl

@[simp] theorem result_pure (a : α) (s : σ) : result (pure a : StateM σ α) s = a := rfl

@[simp] theorem after_bind (m : StateM σ α) (f : α → StateM σ β) (s : σ) :
    after (m >>= f) s = after (f (result m s)) (after m s) := rfl

@[simp] theorem result_bind (m : StateM σ α) (f : α → StateM σ β) (s : σ) :
    result (m >>= f) s = result (f (result m s)) (after m s) := rfl

@[simp] theorem after_forM_cons (f : β → StateM σ PUnit) (b : β) (l : List β) (s : σ) :
    after (forM (b :: l) f) s = after (forM l f) (after (f b) s) := rfl

theorem after_forM_append (f : β → StateM σ PUnit) (l l' : List β) (s : σ) :
    after (forM (l ++ l') f) s = after (forM l' f) (after (forM l f) s) := by
  induction l generalizing s with
  | nil => rfl
  | cons b l ih => exact ih _

/-! ## Relations between the first and the last state -/

/-- Every run of `m` moves along `R`. -/
def Respects (R : σ → σ → Prop) (m : StateM σ α) : Prop := ∀ s, R s (after m s)

namespace Respects

variable {R R' : σ → σ → Prop}

theorem imp {m : StateM σ α} (h : Respects R m) (hR : ∀ s s', R s s' → R' s s') :
    Respects R' m := fun s => hR _ _ (h s)

theorem pure [Std.Refl R] (a : α) : Respects R (pure a : StateM σ α) := fun s => refl_of R s

theorem bind [IsTrans σ R] {m : StateM σ α} {f : α → StateM σ β} (hm : Respects R m)
    (hf : ∀ a, Respects R (f a)) : Respects R (m >>= f) :=
  fun s => trans_of R (hm s) (hf _ _)

theorem ite {c : Prop} [Decidable c] {m m' : StateM σ α} (hm : c → Respects R m)
    (hm' : ¬c → Respects R m') : Respects R (if c then m else m') := by
  by_cases h : c
  · rw [if_pos h]; exact hm h
  · rw [if_neg h]; exact hm' h

theorem loop [IsPreorder σ R] {f : β → StateM σ PUnit} {l : List β}
    (h : ∀ b ∈ l, Respects R (f b)) : Respects R (forM l f) := by
  induction l with
  | nil => exact fun s => refl_of R s
  | cons b l ih =>
    intro s
    exact trans_of R (h b (List.mem_cons_self ..) s)
      (ih (fun b' hb' => h b' (List.mem_cons_of_mem _ hb')) _)

end Respects

/-! ## Pre- and postconditions -/

/-- From every state in `P`, a run of `m` returns a value and ends in a state in `Q`. -/
def Triple (P : σ → Prop) (m : StateM σ α) (Q : α → σ → Prop) : Prop :=
  ∀ s, P s → Q (result m s) (after m s)

namespace Triple

variable {P P' : σ → Prop} {Q Q' : α → σ → Prop}

/-- A loop keeps an invariant that each step keeps. -/
theorem loop {I : σ → Prop} {f : β → StateM σ PUnit} {l : List β}
    (h : ∀ b ∈ l, Triple I (f b) fun _ => I) : Triple I (forM l f) fun _ => I := by
  induction l with
  | nil => exact fun s hs => hs
  | cons b l ih =>
    intro s hs
    exact ih (fun b' hb' => h b' (List.mem_cons_of_mem _ hb')) _ (h b (List.mem_cons_self ..) s hs)

end Triple

/-! ## The last assignment to a view -/

/-- A run of `m` from `s` leaves the view `φ` as `p` says, or as it was when there is no `p`. -/
def Settles {π : Type} (φ : σ → δ) (H : π → δ → Prop) (m : StateM σ α) (s : σ) :
    Option π → Prop
  | some p => H p (φ (after m s))
  | none => φ (after m s) = φ s

namespace Settles

variable {π : Type} {φ : σ → δ} {H : π → δ → Prop} {s : σ}

theorem pure (a : α) : Settles φ H (pure a : StateM σ α) s none := rfl

/-- Settling is a matter of the views before and after. -/
theorem congr {m : StateM σ α} {m' : StateM σ β} {s' : σ} {o : Option π} (h : Settles φ H m s o)
    (hs : φ s' = φ s) (hm : φ (after m' s') = φ (after m s)) : Settles φ H m' s' o := by
  cases o with
  | some p =>
    show H p (φ (after m' s'))
    rw [hm]
    exact h
  | none => exact hm.trans (Eq.trans h hs.symm)

theorem bind {m : StateM σ α} {f : α → StateM σ β} {o o' : Option π} (hm : Settles φ H m s o)
    (hf : Settles φ H (f (result m s)) (after m s) o') : Settles φ H (m >>= f) s (o'.or o) := by
  cases o' with
  | some p => exact hf
  | none =>
    have hf' : φ (after (f (result m s)) (after m s)) = φ (after m s) := hf
    rw [Option.none_or]
    cases o with
    | some p =>
      show H p (φ (after (f (result m s)) (after m s)))
      rw [hf']
      exact hm
    | none => exact hf'.trans hm

/-- A first part that leaves the view alone. -/
theorem bind_left {m : StateM σ α} {f : α → StateM σ β} {o : Option π}
    (hm : φ (after m s) = φ s) (hf : Settles φ H (f (result m s)) (after m s) o) :
    Settles φ H (m >>= f) s o := by
  have h := bind (o := none) hm hf
  rwa [Option.or_none] at h

/-- A second part that leaves the view alone. -/
theorem bind_right {m : StateM σ α} {f : α → StateM σ β} {o : Option π} (hm : Settles φ H m s o)
    (hf : φ (after (f (result m s)) (after m s)) = φ (after m s)) :
    Settles φ H (m >>= f) s o := by
  have h : Settles φ H (m >>= f) s ((none : Option π).or o) := bind hm hf
  rwa [Option.none_or] at h

/-- A loop settles the view as the last of its steps that settles it. -/
theorem loop {I : σ → Prop} {f : β → StateM σ PUnit} {e : β → Option π} {l : List β}
    (hI : ∀ b ∈ l, ∀ s, I s → I (after (f b) s))
    (h : ∀ b ∈ l, ∀ s, I s → Settles φ H (f b) s (e b)) (hs : I s) :
    Settles φ H (forM l f) s (l.reverse.findSome? e) := by
  induction l generalizing s with
  | nil => rfl
  | cons b l ih =>
    rw [List.reverse_cons, List.findSome?_append, List.findSome?_singleton]
    refine bind (m := f b) (f := fun _ => forM l f) (h b (List.mem_cons_self ..) s hs) ?_
    exact ih (fun b' hb' => hI b' (List.mem_cons_of_mem _ hb'))
      (fun b' hb' => h b' (List.mem_cons_of_mem _ hb')) (hI b (List.mem_cons_self ..) s hs)

end Settles

end Effect

/-!
## Errors that are handled

Computations `ExceptT ε (StateM σ) α`: a run that raises keeps the state that it has reached, and
a handler goes on from there. `Triple P m Q E` says where the runs of `m` from a state in `P` end,
those that return a value and those that raise. The rules follow the structure of `m`.
-/

namespace Attempt

variable {σ ε α β : Type}

/-- How a handler goes on. -/
def recover (handler : ε → ExceptT ε (StateM σ) α) : Except ε α → StateM σ (Except ε α)
  | .ok a => pure (.ok a)
  | .error e => (handler e).run

theorem run_tryCatch (m : ExceptT ε (StateM σ) α) (handler : ε → ExceptT ε (StateM σ) α) :
    (tryCatch m handler).run = m.run >>= recover handler := by
  change (ExceptT.tryCatch m handler).run = _
  unfold ExceptT.tryCatch ExceptT.run
  refine congrArg (m.run >>= ·) (funext fun r => ?_)
  cases r <;> rfl

theorem run_bind_of_ok {m : ExceptT ε (StateM σ) α} {f : α → ExceptT ε (StateM σ) β} {s s' : σ}
    {a : α} (h : m.run s = (.ok a, s')) : (m >>= f).run s = (f a).run s' := by
  change ExceptT.bindCont f (m.run s).1 (m.run s).2 = _
  rw [h]
  rfl

theorem run_bind_of_error {m : ExceptT ε (StateM σ) α} {f : α → ExceptT ε (StateM σ) β} {s s' : σ}
    {e : ε} (h : m.run s = (.error e, s')) : (m >>= f).run s = (.error e, s') := by
  change ExceptT.bindCont f (m.run s).1 (m.run s).2 = _
  rw [h]
  rfl

/-- From every state in `P`, a run of `m` returns a value and ends in `Q`, or raises and ends
in `E`. -/
def Triple (P : σ → Prop) (m : ExceptT ε (StateM σ) α) (Q : α → σ → Prop) (E : ε → σ → Prop) :
    Prop :=
  Effect.Triple P m.run fun r s => match r with
    | .ok a => Q a s
    | .error e => E e s

namespace Triple

variable {P P' : σ → Prop} {m : ExceptT ε (StateM σ) α} {Q Q' : α → σ → Prop}
  {E E' : ε → σ → Prop} {T : β → σ → Prop}

theorem conseq (h : Triple P m Q E) (hP : ∀ s, P' s → P s) (hQ : ∀ a s, Q a s → Q' a s)
    (hE : ∀ e s, E e s → E' e s) : Triple P' m Q' E' := by
  intro s hs
  have hrun := h s (hP s hs)
  dsimp only at hrun ⊢
  cases hr : Effect.result m.run s with
  | ok a =>
    rw [hr] at hrun
    exact hQ a _ hrun
  | error e =>
    rw [hr] at hrun
    exact hE e _ hrun

/-- Where every run ends, however it ends. -/
theorem after {T : σ → Prop} (h : Triple P m Q E) (hQ : ∀ a s, Q a s → T s)
    (hE : ∀ e s, E e s → T s) (s : σ) (hs : P s) : T (Effect.after m.run s) := by
  have hrun := h s hs
  dsimp only at hrun
  cases hr : Effect.result m.run s with
  | ok a =>
    rw [hr] at hrun
    exact hQ a _ hrun
  | error e =>
    rw [hr] at hrun
    exact hE e _ hrun

theorem pre (h : Triple P m Q E) (hP : ∀ s, P' s → P s) : Triple P' m Q E :=
  fun s hs => h s (hP s hs)

theorem pure {a : α} (h : ∀ s, P s → Q a s) : Triple P (pure a) Q E := h

theorem throw {e : ε} (h : ∀ s, P s → E e s) :
    Triple P (throw e : ExceptT ε (StateM σ) α) Q E := h

/-- An error of the first part is one of the whole. -/
theorem bind {f : α → ExceptT ε (StateM σ) β} (hm : Triple P m Q E)
    (hf : ∀ a, Triple (Q a) (f a) T E) : Triple P (m >>= f) T E := by
  intro s hs
  have hrun := hm s hs
  have hbind : (m >>= f).run = m.run >>= fun r => (ExceptT.bindCont f r) := rfl
  dsimp only at hrun ⊢
  rw [hbind, Effect.result_bind, Effect.after_bind]
  cases hr : Effect.result m.run s with
  | ok a =>
    rw [hr] at hrun
    exact hf a _ hrun
  | error e =>
    rw [hr] at hrun
    exact hrun

/-- A handler goes on from the state in which the error was raised. -/
theorem tryCatch {handler : ε → ExceptT ε (StateM σ) α} (hm : Triple P m Q E)
    (hh : ∀ e, Triple (E e) (handler e) Q E') : Triple P (tryCatch m handler) Q E' := by
  intro s hs
  have hrun := hm s hs
  dsimp only at hrun ⊢
  rw [run_tryCatch, Effect.result_bind, Effect.after_bind]
  cases hr : Effect.result m.run s with
  | ok a =>
    rw [hr] at hrun
    exact hrun
  | error e =>
    rw [hr] at hrun
    exact hh e _ hrun

theorem ite {c : Prop} [Decidable c] {m' : ExceptT ε (StateM σ) α} (hm : c → Triple P m Q E)
    (hm' : ¬c → Triple P m' Q E) : Triple P (if c then m else m') Q E := by
  by_cases h : c
  · rw [if_pos h]
    exact hm h
  · rw [if_neg h]
    exact hm' h

/-- A loop whose invariant speaks of the elements that are left. -/
theorem loop {I : List β → σ → Prop} {f : β → ExceptT ε (StateM σ) PUnit} {l : List β}
    (h : ∀ b rest, b :: rest <:+ l → Triple (I (b :: rest)) (f b) (fun _ => I rest) E) :
    Triple (I l) (forM l f) (fun _ => I []) E := by
  induction l with
  | nil => exact pure fun s hs => hs
  | cons b l ih =>
    refine bind (h b l (List.suffix_refl _)) fun _ => ih fun b' rest hrest => ?_
    exact h b' rest (hrest.trans (List.suffix_cons b l))

end Triple

end Attempt
