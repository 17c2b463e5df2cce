import Mathlib.Tactic.Common

/-!
# Handlers

What the handlers of the custom resources have in common: how they end when they do not succeed,
and what becomes of a status update, whose outcome depends on the API server.
-/

namespace GnnSandbox.Operator

/-- How a handler ends that does not succeed. It is called again unless the error is permanent. -/
inductive Raised where
  | temporaryError (message : String) (delay : ℕ)
  | permanentError (message : String)
  | exception (message : String)

/-- The answer of `get_ip`. -/
inductive IpAnswer where
  | found (address : String)
  | missing
  | raises (message : String)

/-- What becomes of a status update: errors of the API are logged, but finding the API may
raise. -/
inductive Write where
  | done (now : String)
  | lost
  | raises (message : String)

namespace Write

variable {σ : Type} {w : Write} {update : String → σ → σ} {s s' : σ}

def isRaise : Write → Bool
  | raises _ => true
  | _ => false

/-- The status after an update that happens at some time. -/
def apply (w : Write) (update : String → σ → σ) (s : σ) : Except String σ :=
  match w with
  | done now => .ok (update now s)
  | lost => .ok s
  | raises message => .error message

/-- An update goes through or leaves the status alone. -/
theorem apply_ok (h : w.apply update s = .ok s') :
    (∃ now, w = done now ∧ s' = update now s) ∨ (w = lost ∧ s' = s) := by
  cases w with
  | done now => exact .inl ⟨now, rfl, (Except.ok.inj h).symm⟩
  | lost => exact .inr ⟨rfl, (Except.ok.inj h).symm⟩
  | raises message => cases h

theorem isRaise_of_error {message : String} (h : w.apply update s = .error message) :
    w.isRaise = true := by
  cases w with
  | done now => cases h
  | lost => cases h
  | raises message => rfl

theorem isRaise_of_ok (h : w.apply update s = .ok s') : w.isRaise = false := by
  cases w with
  | done now => rfl
  | lost => rfl
  | raises message => cases h

end Write

end GnnSandbox.Operator
