import Mathlib.Logic.Function.Basic
import Mathlib.Tactic.Common

/-!
# Parts of a state

A part of a state can be read, when it is there, and replaced. Parts that are apart are replaced
in any order, and replacing one is not seen by the other.
-/

/-- A part of a state that may be missing. -/
structure StatePart (σ α : Type) where
  get? : σ → Option α
  set : α → σ → σ
  get?_set : ∀ {s a} (b : α), get? s = some a → get? (set b s) = some b
  set_get? : ∀ {s a}, get? s = some a → set a s = s
  set_set : ∀ a b s, set b (set a s) = set b s

namespace StatePart

variable {σ α β : Type} {p : StatePart σ α} {q : StatePart σ β} {s : σ} {a b : α}

/-- A replacement changes nothing exactly when it is the part. -/
theorem set_eq_self_iff (h : p.get? s = some a) : p.set b s = s ↔ b = a := by
  constructor
  · intro heq
    have hget := p.get?_set b h
    rw [heq, h] at hget
    exact (Option.some.inj hget).symm
  · rintro rfl
    exact p.set_get? h

/-- Replacements are told apart by what they leave. -/
theorem set_inj (h : p.get? s = some a) {b' : α} : p.set b s = p.set b' s ↔ b = b' := by
  constructor
  · intro heq
    have hget := p.get?_set b h
    rw [heq, p.get?_set b' h] at hget
    exact (Option.some.inj hget).symm
  · rintro rfl
    rfl

/-- A change of a part, which may fail. -/
def change (p : StatePart σ α) (f : α → Option α) (s : σ) : Option σ :=
  (p.get? s).bind fun a => (f a).map fun b => p.set b s

theorem change_eq_some_iff {f : α → Option α} {s' : σ} :
    p.change f s = some s' ↔ ∃ a b, p.get? s = some a ∧ f a = some b ∧ p.set b s = s' := by
  unfold change
  rw [Option.bind_eq_some_iff]
  refine exists_congr fun a => ?_
  rw [Option.map_eq_some_iff, ← exists_and_left]

theorem change_bind (f g : α → Option α) (s : σ) :
    (p.change f s).bind (p.change g) = p.change (fun a => (f a).bind g) s := by
  unfold change
  cases hget : p.get? s with
  | none => rfl
  | some a =>
    dsimp only [Option.bind_some]
    cases f a with
    | none => rfl
    | some b =>
      dsimp only [Option.map_some, Option.bind_some]
      rw [p.get?_set b hget, Option.bind_some]
      exact congrArg (Option.map · (g b)) (funext fun c => p.set_set b c s)

/-- What undoes a change of a part. -/
theorem change_undoes_iff {f : α → Option α} {s' : σ} (hget : p.get? s = some a)
    (hf : f a = some b) (hchange : p.change f s = some s') (g : α → Option α) :
    p.change g s' = some s ↔ g b = some a := by
  have hboth : p.change g s' = p.change (fun a => (f a).bind g) s := by
    rw [← change_bind, hchange, Option.bind_some]
  rw [hboth, change_eq_some_iff]
  constructor
  · rintro ⟨a', c, hget', hc, hset⟩
    obtain rfl := Option.some.inj (hget.symm.trans hget')
    rw [hf, Option.bind_some] at hc
    rw [hc, (p.set_eq_self_iff hget).mp hset]
  · intro hg
    refine ⟨a, a, hget, ?_, p.set_get? hget⟩
    rw [hf, Option.bind_some, hg]

/-- The entry of a finite map. -/
def entry {κ : Type} [DecidableEq κ] (key : κ) : StatePart (κ → Option α) α where
  get? f := f key
  set a f := Function.update f key (some a)
  get?_set _ _ := Function.update_self ..
  set_get? := by
    intro f a h
    rw [← h, Function.update_eq_self]
  set_set _ _ f := Function.update_idem _ _ f

/-- Neither part sees a replacement of the other. -/
structure Apart (p : StatePart σ α) (q : StatePart σ β) : Prop where
  set_comm : ∀ a b s, q.set b (p.set a s) = p.set a (q.set b s)
  get?_left : ∀ b s, p.get? (q.set b s) = p.get? s
  get?_right : ∀ a s, q.get? (p.set a s) = q.get? s

theorem Apart.symm (h : p.Apart q) : q.Apart p where
  set_comm a b s := (h.set_comm b a s).symm
  get?_left := h.get?_right
  get?_right := h.get?_left

/-- A part of a part. -/
def comp {τ : Type} (p : StatePart σ τ) (q : StatePart τ α) : StatePart σ α where
  get? s := (p.get? s).bind q.get?
  set a s := match p.get? s with
    | none => s
    | some t => p.set (q.set a t) s
  get?_set := by
    intro s a b h
    obtain ⟨t, ht, ha⟩ := Option.bind_eq_some_iff.mp h
    simp only [ht]
    rw [p.get?_set _ ht]
    exact q.get?_set b ha
  set_get? := by
    intro s a h
    obtain ⟨t, ht, ha⟩ := Option.bind_eq_some_iff.mp h
    simp only [ht]
    rw [q.set_get? ha]
    exact p.set_get? ht
  set_set := by
    intro a b s
    cases ht : p.get? s with
    | none => simp only [ht]
    | some t =>
      simp only [p.get?_set _ ht]
      rw [p.set_set, q.set_set]

theorem comp_get? {τ : Type} {p : StatePart σ τ} {q : StatePart τ α} {t : τ} (h : p.get? s = some t) :
    (p.comp q).get? s = q.get? t := congrArg (Option.bind · q.get?) h

theorem comp_set {τ : Type} {p : StatePart σ τ} {q : StatePart τ α} {t : τ} (h : p.get? s = some t) :
    (p.comp q).set a s = p.set (q.set a t) s := by
  show (match p.get? s with
    | none => s
    | some t => p.set (q.set a t) s) = _
  rw [h]

theorem comp_set_of_none {τ : Type} {p : StatePart σ τ} {q : StatePart τ α} (h : p.get? s = none) :
    (p.comp q).set a s = s := by
  show (match p.get? s with
    | none => s
    | some t => p.set (q.set a t) s) = s
  rw [h]

/-- What a replacement of a part keeps is kept by one within that part. -/
theorem comp_set_keeps {τ γ : Type} {p : StatePart σ τ} (q : StatePart τ α) {f : σ → γ}
    (h : ∀ t s, f (p.set t s) = f s) (a : α) (s : σ) : f ((p.comp q).set a s) = f s := by
  cases hp : p.get? s with
  | none => rw [comp_set_of_none hp]
  | some t =>
    rw [comp_set hp]
    exact h _ s

/-- Parts of parts that are apart are apart. -/
theorem Apart.comp {τ υ : Type} {p : StatePart σ τ} {q : StatePart σ υ} (h : p.Apart q) (p' : StatePart τ α)
    (q' : StatePart υ β) : (p.comp p').Apart (q.comp q') := by
  have hleft : ∀ a s, q.get? ((p.comp p').set a s) = q.get? s := comp_set_keeps p' h.get?_right
  have hright : ∀ b s, p.get? ((q.comp q').set b s) = p.get? s := comp_set_keeps q' h.get?_left
  refine ⟨fun a b s => ?_, fun b s => congrArg (Option.bind · p'.get?) (hright b s),
    fun a s => congrArg (Option.bind · q'.get?) (hleft a s)⟩
  cases hp : p.get? s with
  | none => rw [comp_set_of_none hp, comp_set_of_none ((hright b s).trans hp)]
  | some t =>
    cases hq : q.get? s with
    | none => rw [comp_set_of_none hq, comp_set_of_none ((hleft a s).trans hq)]
    | some u =>
      rw [comp_set ((hleft a s).trans hq), comp_set hp, comp_set ((hright b s).trans hp),
        comp_set hq]
      exact h.set_comm _ _ s

end StatePart
