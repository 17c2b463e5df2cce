import GnnSandbox.Agent.Manager

/-!
# Final phases

A phase of a flow is final when the flow is stopped or completed or has failed. The phase is set by
stop requests and by the goroutine of the flow, and neither of them looks at the phase that it
replaces.
-/

namespace GnnSandbox.Agent

open Transition

variable {m m' : Manager} {e : Event} {i : ℕ}

def Phase.final : Phase → Bool
  | completed | failed | stopped => true
  | starting | running => false

/-- A flow that has reached a final phase keeps it for the rest of the run. -/
def FinalKept (events : List Event) : Prop :=
  ∀ before during after m₁ m₂, events = before ++ during ++ after →
    run step .initial before = some m₁ → run step m₁ during = some m₂ →
      ∀ (i : ℕ) (f₁ f₂ : Flow), m₁.objects[i]? = some f₁ → m₂.objects[i]? = some f₂ →
        f₁.phase.final = true → f₂.phase = f₁.phase

/-- A stop request sets the phase of a flow that is neither completed nor has failed, and a
goroutine sets the phase of a flow that is not stopped. -/
def Undisturbed (m : Manager) : Event → Prop
  | .markStopped call => ∀ (i : ℕ) (f : Flow), m.stops call = some ⟨i, true⟩ →
      m.objects[i]? = some f → f.phase ≠ .completed ∧ f.phase ≠ .failed
  | .setRunning i | .setFinal i => ∀ f : Flow, m.objects[i]? = some f → f.phase ≠ .stopped
  | _ => True

theorem final_iff {phase : Phase} :
    phase.final = true ↔ phase = .completed ∨ phase = .failed ∨ phase = .stopped := by
  cases phase <;> simp [Phase.final]

/-- One step. -/
theorem Move.phase_kept {f f' : Flow} (h : Move m i f e f') (hi : m.objects[i]? = some f)
    (hsound : f.Sound) (hok : Undisturbed m e) (hfinal : f.phase.final = true) :
    f'.phase = f.phase := by
  have hended : f.phase ≠ .stopped → f.runner ≠ .ended → False := by
    intro hstopped hrunner
    obtain ⟨hcompleted, hfailed⟩ := hsound.1 hrunner
    rcases final_iff.mp hfinal with h | h | h
    · exact hcompleted h
    · exact hfailed h
    · exact hstopped h
  cases h with
  | kept => rfl
  | cancelled call => rfl
  | stopped call hcall =>
    obtain ⟨hcompleted, hfailed⟩ := hok i f hcall hi
    rcases final_iff.mp hfinal with h | h | h
    · exact absurd h hcompleted
    · exact absurd h hfailed
    · exact h.symm
  | running hrunner => exact (hended (hok f hi) (by rw [hrunner]; simp)).elim
  | ending => rfl
  | ended hrunner => exact (hended (hok f hi) (by rw [hrunner]; simp)).elim

/-- A run. -/
theorem phase_kept {events : List Event} {f f' : Flow} (hsound : m.Sound)
    (hrun : run step m events = some m') (hok : Throughout step Undisturbed m events)
    (hi : m.objects[i]? = some f) (hi' : m'.objects[i]? = some f') (hfinal : f.phase.final = true) :
    f'.phase = f.phase := by
  induction events generalizing m f with
  | nil =>
    obtain rfl := Option.some.inj hrun
    rw [Option.some.inj (hi'.symm.trans hi)]
  | cons e events ih =>
    obtain ⟨t, hstep, hrest⟩ := run_cons_eq_some.mp hrun
    obtain ⟨g, hg, hmove⟩ := (step_cases hstep).1 i f hi
    have hphase := hmove.phase_kept hi (hsound i f hi) hok.1 hfinal
    rw [ih (sound_step hsound hstep) hrest (hok.2 t hstep) hg (hphase ▸ hfinal), hphase]

theorem objects_setPhase {f : Flow} (hi : m.objects[i]? = some f) {phase : Phase} {errMsg : String}
    {runner : Runner} : (m.setPhase i phase errMsg runner).objects[i]? =
      some { f with phase := phase, errMsg := errMsg, runner := runner } := by
  rw [Manager.setPhase, List.getElem?_modify, hi]
  simp

/-- A step that is disturbed changes a final phase. -/
theorem exists_changed (hsound : m.Sound) (hstep : step m e = some m') (hnot : ¬Undisturbed m e) :
    ∃ (i : ℕ) (f f' : Flow), m.objects[i]? = some f ∧ m'.objects[i]? = some f' ∧
      f.phase.final = true ∧ f'.phase ≠ f.phase := by
  cases e with
  | markStopped call =>
    simp only [Undisturbed, not_forall] at hnot
    obtain ⟨i, f, hcall, hi, hphase⟩ := hnot
    have hfinal : f.phase = .completed ∨ f.phase = .failed := by tauto
    change m.markStopped call = some m' at hstep
    unfold Manager.markStopped at hstep
    rw [hcall] at hstep
    obtain rfl := Option.some.inj hstep
    refine ⟨i, f, { f with phase := .stopped }, hi, ?_, ?_, ?_⟩
    · dsimp only
      rw [List.getElem?_modify, hi]
      simp
    · exact final_iff.mpr (hfinal.imp_right .inl)
    · rcases hfinal with hphase | hphase <;> rw [hphase] <;> simp
  | setRunning i =>
    simp only [Undisturbed, not_forall, not_not] at hnot
    obtain ⟨f, hi, hphase⟩ := hnot
    change m.setRunning i = some m' at hstep
    unfold Manager.setRunning at hstep
    rw [hi] at hstep
    dsimp only at hstep
    split_ifs at hstep with hrunner
    obtain rfl := Option.some.inj hstep
    refine ⟨i, f, { f with phase := .running, errMsg := "", runner := .running }, hi, ?_, ?_, ?_⟩
    · exact objects_setPhase hi
    · rw [hphase]
      rfl
    · rw [hphase]
      simp
  | setFinal i =>
    simp only [Undisturbed, not_forall, not_not] at hnot
    obtain ⟨f, hi, hphase⟩ := hnot
    change m.setFinal i = some m' at hstep
    unfold Manager.setFinal at hstep
    rw [hi] at hstep
    dsimp only at hstep
    split at hstep
    · rename_i phase errMsg hrunner
      obtain rfl := Option.some.inj hstep
      refine ⟨i, f, { f with phase := phase, errMsg := errMsg, runner := .ended }, hi, ?_, ?_, ?_⟩
      · exact objects_setPhase hi
      · rw [hphase]
        rfl
      · rw [hphase]
        rcases (hsound i f hi).2 phase errMsg hrunner with rfl | rfl <;> simp
    · cases hstep
  | _ => exact absurd trivial hnot

/-- **Final phases are kept** in exactly the runs in which no stop request sets the phase of a flow
that has ended and no goroutine that of a flow that is stopped. -/
theorem finalKept_iff {events : List Event} {m : Manager}
    (hrun : run step .initial events = some m) :
    FinalKept events ↔ Throughout step Undisturbed .initial events := by
  constructor
  · intro h
    refine throughout_iff.mpr fun before e after m₁ heq hbefore => ?_
    subst heq
    obtain ⟨m₂, hstep⟩ := step_of_run hrun hbefore
    by_contra hnot
    obtain ⟨i, f, f', hi, hi', hfinal, hne⟩ := exists_changed (sound_run hbefore) hstep hnot
    have hsingle : run step m₁ [e] = some m₂ := by
      rw [run_cons, hstep]
      rfl
    exact hne (h before [e] after m₁ m₂ (by simp) hbefore hsingle i f f' hi hi' hfinal)
  · intro hok before during after m₁ m₂ heq hbefore hduring i f₁ f₂ hi hi' hfinal
    rw [heq, List.append_assoc, throughout_append hbefore, throughout_append hduring] at hok
    exact phase_kept (sound_run hbefore) hduring hok.2.1 hi hi' hfinal

/-- A flow that receives. -/
def FlowRequest.sample : FlowRequest := ⟨"blue-test_blue-1", "destination", "UDP", 5200, 60⟩

/-- What a run makes of an agent without flows. -/
def Manager.after (events : List Event) : Manager := (run step .initial events).getD .initial

theorem run_after (events : List Event) (h : (run step .initial events).isSome = true) :
    run step .initial events = some (.after events) := by
  obtain ⟨m, hm⟩ := Option.isSome_iff_exists.mp h
  rw [Manager.after, hm]
  rfl

theorem step_after (events : List Event) (h : (run step .initial (events ++ [e])).isSome = true) :
    step (.after events) e = some (.after (events ++ [e])) := by
  obtain ⟨m, hm, hstep⟩ := run_concat_eq_some.mp (run_after _ h)
  rw [Manager.after, hm]
  exact hstep

/-- The flow starts and its body ends by itself. -/
def completedRun : List Event :=
  [.startFlow .sample, .setRunning 0, .bodyReturns 0 none, .setFinal 0]

theorem finalKept_completed : FinalKept completedRun := by
  refine (finalKept_iff (run_after _ (by decide +kernel))).mpr ?_
  refine .of_step trivial (step_after (e := .startFlow .sample) [] (by decide +kernel)) ?_
  refine .of_step ?_ (step_after (completedRun.take 1) (by decide +kernel)) ?_
  · intro f hf
    obtain rfl := Option.some.inj hf
    decide
  refine .of_step trivial (step_after (completedRun.take 2) (by decide +kernel)) ?_
  refine .of_step ?_ (step_after (completedRun.take 3) (by decide +kernel)) throughout_nil
  intro f hf
  obtain rfl := Option.some.inj hf
  decide

/-- The flow is stopped while it runs, and then its body ends. -/
def stoppedRun : List Event :=
  [.startFlow .sample, .setRunning 0, .findFlow 0 "blue-test_blue-1", .cancel 0, .markStopped 0,
    .bodyReturns 0 none, .setFinal 0]

/-- The flow that was stopped shows that it completed. -/
theorem stopped_flow_completes : ¬FinalKept stoppedRun := by
  intro h
  obtain ⟨m, hbefore, hduring⟩ := Option.bind_eq_some_iff.mp
    (run_append.symm.trans (run_after (stoppedRun.take 5 ++ stoppedRun.drop 5)
      (by decide +kernel)))
  have hm : m = .after (stoppedRun.take 5) := by rw [Manager.after, hbefore]; rfl
  have hkept := h (stoppedRun.take 5) (stoppedRun.drop 5) [] m (.after stoppedRun) (by rfl) hbefore
    hduring 0 ⟨.sample, .stopped, "", true, .running⟩ ⟨.sample, .completed, "", true, .ended⟩
    (by rw [hm]; decide +kernel) (by decide +kernel) rfl
  exact absurd hkept (by decide)

end GnnSandbox.Agent
