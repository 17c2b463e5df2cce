import GnnSandbox.Operator.Restore

/-!
# Two faults at once

A fault is injected while another one is there. Each must be restorable as if it were alone. Where
the two change different things, that is the case when each is restorable by itself; where they
change the same, what the second injection saves and what a restoration writes back is the work of
the other fault.
-/

namespace GnnSandbox.Operator

open Cluster

/-! ## No interference -/

/-- Restoring the faults in either order ends where it began, and restoring one of them leaves what
the other would have done alone. -/
def NoInterference (A B : NetworkFailure) (c cA cAB : Cluster) (savedA savedB : OriginalState) :
    Prop :=
  ∃ saved cB, injectFailureOperator B c = .ok (saved, cB) ∧
    restoreFailureOperator A savedA cAB = .ok cB ∧ restoreFailureOperator B savedB cB = .ok c ∧
    restoreFailureOperator B savedB cAB = .ok cA ∧ restoreFailureOperator A savedA cA = .ok c

section

variable {A B : NetworkFailure} {c cA cAB cB : Cluster} {savedA savedB saved : OriginalState}

theorem noInterference_iff_restores (hB' : injectFailureOperator B c = .ok (saved, cB)) :
    NoInterference A B c cA cAB savedA savedB ↔
      restoreFailureOperator A savedA cAB = .ok cB ∧ restoreFailureOperator B savedB cB = .ok c ∧
      restoreFailureOperator B savedB cAB = .ok cA ∧ restoreFailureOperator A savedA cA = .ok c := by
  constructor
  · rintro ⟨saved', cB', hinject, hrestores⟩
    rw [hB'] at hinject
    cases hinject
    exact hrestores
  · intro hrestores
    exact ⟨saved, cB, hB', hrestores⟩

/-- Without interference each fault is restorable by itself. -/
theorem NoInterference.restorable (h : NoInterference A B c cA cAB savedA savedB)
    (hA : injectFailureOperator A c = .ok (savedA, cA)) : Restorable A c := by
  obtain ⟨_, _, -, -, -, -, hrestore⟩ := h
  exact (restore_undoes_inject_iff hA).mp hrestore

/-- The injections can be swapped, and neither sees that the other is there. -/
structure Swaps (A B : NetworkFailure) (c cA cAB cB : Cluster) (savedA savedB : OriginalState) :
    Prop where
  injectB : injectFailureOperator B c = .ok (savedB, cB)
  injectA : injectFailureOperator A cB = .ok (savedA, cAB)
  restorableA : Restorable A cB ↔ Restorable A c
  restorableB : Restorable B cA ↔ Restorable B c

/-- Faults whose injections can be swapped do not interfere if each is restorable. -/
theorem noInterference_iff_of_swaps (hA : injectFailureOperator A c = .ok (savedA, cA))
    (hB : injectFailureOperator B cA = .ok (savedB, cAB))
    (hswaps : Restorable A c → ∃ cB, Swaps A B c cA cAB cB savedA savedB) :
    NoInterference A B c cA cAB savedA savedB ↔ Restorable A c ∧ Restorable B c := by
  constructor
  · intro h
    have hrestorable := h.restorable hA
    obtain ⟨cB, hswap⟩ := hswaps hrestorable
    obtain ⟨saved, cB', hB', -, hrestore, -, -⟩ := h
    rw [hswap.injectB] at hB'
    cases hB'
    exact ⟨hrestorable, (restore_undoes_inject_iff hswap.injectB).mp hrestore⟩
  · rintro ⟨hrestA, hrestB⟩
    obtain ⟨cB, hswap⟩ := hswaps hrestA
    exact ⟨savedB, cB, hswap.injectB,
      (restore_undoes_inject_iff hswap.injectA).mpr (hswap.restorableA.mpr hrestA),
      (restore_undoes_inject_iff hswap.injectB).mpr hrestB,
      (restore_undoes_inject_iff hB).mpr (hswap.restorableB.mpr hrestB),
      (restore_undoes_inject_iff hA).mpr hrestA⟩

/-- Faults that change nothing do not interfere if each is restorable. -/
theorem noInterference_of_unchanged (hA : injectFailureOperator A c = .ok (savedA, c))
    (hB : injectFailureOperator B c = .ok (savedB, c)) (hrestA : Restorable A c)
    (hrestB : Restorable B c) : NoInterference A B c c c savedA savedB := by
  have hundoA := (restore_undoes_inject_iff hA).mpr hrestA
  have hundoB := (restore_undoes_inject_iff hB).mpr hrestB
  exact (noInterference_iff_restores hB).mpr ⟨hundoA, hundoB, hundoB, hundoA⟩

/-- Faults whose restorations overwrite each other do not interfere only if they change nothing. -/
theorem noInterference_iff_of_overwrites (hA : injectFailureOperator A c = .ok (savedA, cA))
    (hB : injectFailureOperator B cA = .ok (savedB, cAB))
    (hB' : injectFailureOperator B c = .ok (saved, cB))
    (hoverA : restoreFailureOperator A savedA cAB = restoreFailureOperator A savedA cA)
    (hoverB : restoreFailureOperator B savedB cAB = restoreFailureOperator B savedB cB) :
    NoInterference A B c cA cAB savedA savedB ↔
      (cA = c ∧ cB = c) ∧ Restorable A c ∧ Restorable B c := by
  constructor
  · intro h
    obtain ⟨hr₁, hr₂, hr₃, hr₄⟩ := (noInterference_iff_restores hB').mp h
    have hrestorable := h.restorable hA
    rw [hoverA, hr₄] at hr₁
    obtain rfl := Except.ok.inj hr₁
    rw [hoverB, hr₂] at hr₃
    obtain rfl := Except.ok.inj hr₃
    rw [hB] at hB'
    cases hB'
    exact ⟨⟨rfl, rfl⟩, hrestorable, (restore_undoes_inject_iff hB).mp hr₂⟩
  · rintro ⟨⟨rfl, rfl⟩, hrestA, hrestB⟩
    rw [hB'] at hB
    cases hB
    exact noInterference_of_unchanged hA hB' hrestA hrestB

end

end GnnSandbox.Operator
