import Mathlib.Algebra.Order.Group.Multiset
import Mathlib.Tactic.Common

/-!
# Exchanges

A change of several bags takes some items out of each and puts others in. As long as what it takes
is there, the change can be replayed from what it was before, and undone from what it is after.
-/

/-- What leaves each bag, and what comes. -/
structure Exchange (ι α : Type*) where
  removed : ι → Multiset α
  added : ι → Multiset α

namespace Exchange

variable {ι α : Type*} {e : Exchange ι α} {es : List (Exchange ι α)} {c c' c'' : ι → Multiset α}

/-- The bags before and after the change. -/
def Turns (e : Exchange ι α) (c c' : ι → Multiset α) : Prop :=
  ∀ i, ∃ rest, c i = rest + e.removed i ∧ c' i = rest + e.added i

variable [DecidableEq α]

def redo (e : Exchange ι α) (c : ι → Multiset α) : ι → Multiset α :=
  fun i => c i - e.removed i + e.added i

def undo (e : Exchange ι α) (c : ι → Multiset α) : ι → Multiset α :=
  fun i => c i - e.added i + e.removed i

theorem Turns.redo_eq (h : e.Turns c c') : e.redo c = c' := by
  funext i
  obtain ⟨rest, hc, hc'⟩ := h i
  show c i - e.removed i + e.added i = c' i
  rw [hc, hc', add_tsub_cancel_right]

theorem Turns.undo_eq (h : e.Turns c c') : e.undo c' = c := by
  funext i
  obtain ⟨rest, hc, hc'⟩ := h i
  show c' i - e.added i + e.removed i = c i
  rw [hc, hc', add_tsub_cancel_right]

/-- Replay the changes from the first to the last. -/
def redoAll (es : List (Exchange ι α)) (c : ι → Multiset α) : ι → Multiset α :=
  es.foldl (fun c e => e.redo c) c

/-- Undo the changes from the last to the first. -/
def undoAll (es : List (Exchange ι α)) (c : ι → Multiset α) : ι → Multiset α :=
  es.foldr (fun e c => e.undo c) c

/-- The changes lead from the first bags to the last, either way. -/
structure Leads (es : List (Exchange ι α)) (c c' : ι → Multiset α) : Prop where
  redoAll_eq : redoAll es c = c'
  undoAll_eq : undoAll es c' = c

theorem Leads.nil : Leads [] c c := ⟨rfl, rfl⟩

theorem Leads.append (h : Leads es c c') (hnext : e.Turns c' c'') : Leads (es ++ [e]) c c'' where
  redoAll_eq := by
    have hes : es.foldl (fun c e => e.redo c) c = c' := h.redoAll_eq
    rw [redoAll, List.foldl_append, hes]
    exact hnext.redo_eq
  undoAll_eq := by
    have hes : es.foldr (fun e c => e.undo c) c' = c := h.undoAll_eq
    rw [undoAll, List.foldr_append, List.foldr_cons, List.foldr_nil, hnext.undo_eq, hes]

end Exchange
