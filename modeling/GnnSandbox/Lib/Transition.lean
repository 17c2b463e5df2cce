import Mathlib.Algebra.GroupWithZero.Nat
import Mathlib.Data.Set.Insert
import Mathlib.Logic.Relation
import Mathlib.Tactic.Common

/-!
# Transition systems

A system is given by what an event does to a state, `none` when the event cannot take place in
it. A run is a list of events. What every event keeps that meets a condition, a run keeps whose
events all meet it. Where the state has a list of processes, an event replaces one of them.
-/

namespace Transition

variable {σ ε : Type*} {step : σ → ε → Option σ} {s s' s'' : σ} {e : ε} {es es' : List ε}

/-- The state after some events, if they can take place one after the other. -/
def run (step : σ → ε → Option σ) : σ → List ε → Option σ
  | s, [] => some s
  | s, e :: es => (step s e).bind fun s' => run step s' es

@[simp] theorem run_nil : run step s [] = some s := rfl

theorem run_cons : run step s (e :: es) = (step s e).bind fun s' => run step s' es := rfl

theorem run_cons_eq_some :
    run step s (e :: es) = some s'' ↔ ∃ s', step s e = some s' ∧ run step s' es = some s'' :=
  Option.bind_eq_some_iff

theorem run_append : run step s (es ++ es') = (run step s es).bind fun s' => run step s' es' := by
  induction es generalizing s with
  | nil => rfl
  | cons e es ih =>
    rw [List.cons_append, run_cons, run_cons, Option.bind_assoc]
    exact Option.bind_congr fun s' _ => ih

/-- A run that ends with an event passes through the state before it. -/
theorem run_concat_eq_some :
    run step s (es ++ [e]) = some s'' ↔ ∃ s', run step s es = some s' ∧ step s' e = some s'' := by
  rw [run_append, Option.bind_eq_some_iff]
  refine exists_congr fun s' => and_congr_right fun _ => ?_
  rw [run_cons]
  cases step s' e <;> simp

/-- Every event of a run meets the condition in the state in which it takes place. -/
def Throughout (step : σ → ε → Option σ) (ok : σ → ε → Prop) : σ → List ε → Prop
  | _, [] => True
  | s, e :: es => ok s e ∧ ∀ s' ∈ step s e, Throughout step ok s' es

variable {ok : σ → ε → Prop}

@[simp] theorem throughout_nil : Throughout step ok s [] := trivial

theorem throughout_cons :
    Throughout step ok s (e :: es) ↔ ok s e ∧ ∀ s' ∈ step s e, Throughout step ok s' es := Iff.rfl

instance decidableThroughout [∀ s e, Decidable (ok s e)] :
    ∀ s es, Decidable (Throughout step ok s es)
  | _, [] => isTrue trivial
  | s, e :: es =>
    have : ∀ s', Decidable (Throughout step ok s' es) := fun s' => decidableThroughout s' es
    inferInstanceAs (Decidable (ok s e ∧ ∀ s' ∈ step s e, Throughout step ok s' es))

/-- A run that begins with an event that takes place. -/
theorem Throughout.of_step (hok : ok s e) (hstep : step s e = some s')
    (h : Throughout step ok s' es) : Throughout step ok s (e :: es) := by
  refine ⟨hok, fun t ht => ?_⟩
  obtain rfl := Option.some.inj (hstep.symm.trans ht)
  exact h

theorem throughout_append (hrun : run step s es = some s') :
    Throughout step ok s (es ++ es') ↔ Throughout step ok s es ∧ Throughout step ok s' es' := by
  induction es generalizing s with
  | nil =>
    obtain rfl := Option.some.inj hrun
    simp
  | cons e es ih =>
    obtain ⟨t, ht, hes⟩ := run_cons_eq_some.mp hrun
    rw [List.cons_append, throughout_cons, throughout_cons, ht]
    simp only [Option.mem_def, Option.some.injEq, forall_eq']
    rw [ih hes, and_assoc]

/-- The condition holds along a run when it holds at each of its events. -/
theorem throughout_iff : Throughout step ok s es ↔
    ∀ before e after s', es = before ++ e :: after → run step s before = some s' → ok s' e := by
  constructor
  · rintro h before e after s' rfl hrun
    exact ((throughout_append hrun).mp h).2.1
  · intro h
    induction es generalizing s with
    | nil => trivial
    | cons e es ih =>
      refine ⟨h [] e es s rfl rfl, fun s' hs' => ih fun before e' after t heq hrun => ?_⟩
      refine h (e :: before) e' after t (by rw [heq]; rfl) ?_
      rw [run_cons, hs']
      exact hrun

/-- A condition that the events meet in every state. -/
theorem throughout_of_forall (h : ∀ e ∈ es, ∀ s, ok s e) : Throughout step ok s es :=
  throughout_iff.mpr fun before e after s' heq _ => h e (by simp [heq]) s'

theorem Throughout.and {ok' : σ → ε → Prop} (h : Throughout step ok s es)
    (h' : Throughout step ok' s es) : Throughout step (fun s e => ok s e ∧ ok' s e) s es :=
  throughout_iff.mpr fun before e after s' heq hrun =>
    ⟨throughout_iff.mp h before e after s' heq hrun,
      throughout_iff.mp h' before e after s' heq hrun⟩

/-- It is enough to show the condition where an invariant holds that the condition keeps. -/
theorem throughout_of_invariant {I : σ → Prop}
    (hstep : ∀ s e s', I s → ok s e → step s e = some s' → I s') (hI : I s)
    (h : ∀ before e after s', es = before ++ e :: after → run step s before = some s' → I s' →
      ok s' e) : Throughout step ok s es := by
  induction es generalizing s with
  | nil => trivial
  | cons e es ih =>
    have hok : ok s e := h [] e es s rfl rfl hI
    refine ⟨hok, fun s' hs' => ih (hstep s e s' hI hok hs') ?_⟩
    intro before e' after t heq hrun ht
    refine h (e :: before) e' after t (by rw [heq]; rfl) ?_ ht
    rw [run_cons, hs']
    exact hrun

/-- A run passes through its events one by one. -/
theorem step_of_run {before after : List ε} (hrun : run step s (before ++ e :: after) = some s'')
    (hbefore : run step s before = some s') : ∃ t, step s' e = some t := by
  rw [run_append, hbefore, Option.bind_some] at hrun
  obtain ⟨t, ht, -⟩ := run_cons_eq_some.mp hrun
  exact ⟨t, ht⟩

/-- A property holds in every state that a run reaches. -/
def Always (step : σ → ε → Option σ) (P : σ → Prop) (s : σ) (es : List ε) : Prop :=
  ∀ before after s', es = before ++ after → run step s before = some s' → P s'

/-- What every event keeps that meets the condition, the run keeps. -/
theorem run_invariant {I : σ → Prop}
    (hstep : ∀ s e s', I s → ok s e → step s e = some s' → I s')
    (hI : I s) (hok : Throughout step ok s es) (hrun : run step s es = some s') : I s' := by
  induction es generalizing s with
  | nil =>
    obtain rfl := Option.some.inj hrun
    exact hI
  | cons e es ih =>
    obtain ⟨t, ht, hes⟩ := run_cons_eq_some.mp hrun
    exact ih (hstep s e t hI hok.1 ht) (hok.2 t ht) hes

/-- Conditions that agree as long as they hold, by an invariant that they keep, agree along a
run. -/
theorem throughout_congr {ok' : σ → ε → Prop} {I : σ → Prop}
    (hiff : ∀ s e, I s → (ok s e ↔ ok' s e))
    (hstep : ∀ s e s', I s → ok s e → step s e = some s' → I s') (hI : I s) :
    Throughout step ok s es ↔ Throughout step ok' s es := by
  induction es generalizing s with
  | nil => exact Iff.rfl
  | cons e es ih =>
    rw [throughout_cons, throughout_cons, ← hiff s e hI]
    refine and_congr_right fun hok => forall₂_congr fun s' hs' => ih ?_
    exact hstep s e s' hI hok hs'

/-- A condition that follows from another one, by an invariant that the other one keeps, follows
along a run. -/
theorem Throughout.imp {ok' : σ → ε → Prop} {I : σ → Prop}
    (himp : ∀ s e, I s → ok s e → ok' s e)
    (hstep : ∀ s e s', I s → ok s e → step s e = some s' → I s') (hI : I s)
    (hok : Throughout step ok s es) : Throughout step ok' s es := by
  induction es generalizing s with
  | nil => trivial
  | cons e es ih =>
    refine ⟨himp s e hI hok.1, fun s' hs' => ih ?_ (hok.2 s' hs')⟩
    exact hstep s e s' hI hok.1 hs'

/-- Conditions that agree at the events that take place, as long as they hold, agree along a run,
by an invariant that they keep. -/
theorem throughout_congr_of_run {ok' given : σ → ε → Prop} {I : σ → Prop}
    (hiff : ∀ s e s', I s → given s e → step s e = some s' → (ok s e ↔ ok' s e))
    (hstep : ∀ s e s', I s → given s e → ok' s e → step s e = some s' → I s') (hI : I s)
    (hgiven : Throughout step given s es) (hrun : run step s es = some s') :
    Throughout step ok s es ↔ Throughout step ok' s es := by
  induction es generalizing s with
  | nil => exact Iff.rfl
  | cons e es ih =>
    obtain ⟨t, ht, hes⟩ := run_cons_eq_some.mp hrun
    rw [throughout_cons, throughout_cons, hiff s e t hI hgiven.1 ht, ht]
    refine and_congr_right fun hok => forall₂_congr fun u hu => ?_
    obtain rfl := Option.some.inj hu
    exact ih (hstep s e t hI hgiven.1 hok ht) (hgiven.2 t ht) hes

/-- What every event keeps, every run keeps. -/
theorem run_always {I : σ → Prop} (hstep : ∀ s e s', I s → step s e = some s' → I s')
    (hI : I s) (hrun : run step s es = some s') : I s' := by
  have htrue : Throughout step (fun _ _ => True) s es := by
    clear hrun hI
    induction es generalizing s with
    | nil => trivial
    | cons e es ih => exact ⟨trivial, fun s' _ => ih⟩
  exact run_invariant (fun s e s' hs _ => hstep s e s' hs) hI htrue hrun

/-- A property that exactly the events keep that meet a condition holds along exactly the runs
whose events all meet it. -/
theorem always_iff_throughout {I P : σ → Prop}
    (hI : ∀ s e s', I s → step s e = some s' → I s')
    (hP : ∀ s e s', I s → P s → step s e = some s' → (P s' ↔ ok s e))
    (hs : I s) (hp : P s) (hrun : run step s es = some s'') :
    Always step P s es ↔ Throughout step ok s es := by
  have hkeep : ∀ s e s', I s ∧ P s → ok s e → step s e = some s' → I s' ∧ P s' :=
    fun s e s' h hok hstep => ⟨hI s e s' h.1 hstep, (hP s e s' h.1 h.2 hstep).mpr hok⟩
  constructor
  · intro h
    refine throughout_of_invariant hkeep ⟨hs, hp⟩ fun before e after t heq hbefore ht => ?_
    subst heq
    obtain ⟨u, hstep⟩ := step_of_run hrun hbefore
    refine (hP t e u ht.1 ht.2 hstep).mp (h (before ++ [e]) after u (by simp) ?_)
    exact run_concat_eq_some.mpr ⟨t, hbefore, hstep⟩
  · rintro hok before after t rfl hbefore
    exact (run_invariant hkeep ⟨hs, hp⟩ ((throughout_append hbefore).mp hok).1 hbefore).2

/-! ## Processes -/

section Processes

variable {α : Type*} {processes : List α} {i : ℕ} {old : α}

/-- The process that goes on leaves its old stage for the new one. -/
theorem countP_set (p : α → Bool) (hold : processes[i]? = some old) (new : α) :
    (processes.set i new).countP p + (if p old then 1 else 0) =
      processes.countP p + (if p new then 1 else 0) := by
  obtain ⟨hlt, rfl⟩ := List.getElem?_eq_some_iff.mp hold
  have hle : (if p processes[i] then 1 else 0) ≤ processes.countP p := by
    split_ifs with hp
    · exact List.countP_pos_iff.mpr ⟨_, List.getElem_mem hlt, hp⟩
    · exact Nat.zero_le _
  rw [List.countP_set hlt]
  omega

/-- So it is for what all of them have ahead. -/
theorem sum_map_set (f : α → ℕ) (hold : processes[i]? = some old) (new : α) :
    ((processes.set i new).map f).sum + f old = (processes.map f).sum + f new := by
  induction processes generalizing i with
  | nil => cases hold
  | cons process processes ih =>
    cases i with
    | zero =>
      obtain rfl := Option.some.inj hold
      rw [List.set_cons_zero, List.map_cons, List.map_cons, List.sum_cons, List.sum_cons]
      omega
    | succ i =>
      have hrest := @ih i hold
      rw [List.set_cons_succ, List.map_cons, List.map_cons, List.sum_cons, List.sum_cons]
      omega

end Processes

end Transition

/-!
# Things built on one another

A set is grounded if it contains whatever its members are built on. It stays grounded as long as
only things leave it on which nothing in it is built, and in a grounded set nothing is built on a
thing unless something is built on it directly.
-/

namespace Dependency

open Relation

variable {α : Type*} {on : α → α → Prop} {S : Set α} {x y z : α}

def Grounded (on : α → α → Prop) (S : Set α) : Prop :=
  ∀ ⦃x y⦄, on x y → x ∈ S → y ∈ S

theorem Grounded.remove (h : Grounded on S) (hleaf : ∀ z ∈ S, ¬on z x) :
    Grounded on (S \ {x}) := by
  rintro z y hzy ⟨hz, -⟩
  refine ⟨h hzy hz, ?_⟩
  rintro rfl
  exact hleaf z hz hzy

theorem Grounded.insert (h : Grounded on S) (hnew : ∀ y, ¬on x y) : Grounded on (insert x S) := by
  intro z y hzy hz
  rcases Set.mem_insert_iff.mp hz with rfl | hz
  · exact absurd hzy (hnew y)
  · exact Set.mem_insert_of_mem x (h hzy hz)

/-- A chain of things that ends at `y` has a last link, whose upper end is grounded as well. -/
theorem Grounded.not_transGen (h : Grounded on S) (hfree : ∀ x ∈ S, ¬on x y) (hz : z ∈ S) :
    ¬TransGen on z y := by
  intro hchain
  induction hchain using TransGen.head_induction_on with
  | single hlast => exact hfree _ hz hlast
  | head hfirst _ ih => exact ih (h hfirst hz)

end Dependency
