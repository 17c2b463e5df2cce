import GnnSandbox.Agent.Phases

/-!
# Live runs

The goroutine of a flow is live from the `go` statement of `StartFlow` until `runFlow` has set the
last phase. `StartFlow` reads the phase of the flow that has the id, and a flow that is stopped may
still have its goroutine.
-/

namespace GnnSandbox.Agent

open Transition

variable {m m' : Manager} {e : Event} {i : ℕ} {f f' : Flow}

def Flow.Live (f : Flow) : Prop := f.runner ≠ .ended

instance : Decidable f.Live := inferInstanceAs (Decidable (f.runner ≠ .ended))

/-- At most one goroutine for each id. -/
def OneLive (m : Manager) : Prop :=
  ∀ (i j : ℕ) (f g : Flow), m.objects[i]? = some f → m.objects[j]? = some g →
    f.req.flowID = g.req.flowID → f.Live → g.Live → i = j

/-- In every state of a run. -/
def AlwaysOneLive (events : List Event) : Prop := Always step OneLive .initial events

/-- A flow is started under the id of a flow that is stopped only when the goroutine of that flow
has ended. -/
def Waits (m : Manager) : Event → Prop
  | .startFlow req => ∀ f, m.registered req.flowID = some f → f.phase = .stopped → ¬f.Live
  | _ => True

/-! ## The registry -/

/-- A flow is registered under its own id, and one that is live is the one that is registered. -/
structure Manager.Indexed (m : Manager) : Prop where
  flowID : ∀ (id : String) (i : ℕ), m.flows id = some i →
    ∃ f : Flow, m.objects[i]? = some f ∧ f.req.flowID = id
  live : ∀ (i : ℕ) (f : Flow), m.objects[i]? = some f → f.Live → m.flows f.req.flowID = some i

theorem Manager.Indexed.oneLive (h : m.Indexed) : OneLive m := by
  intro i j f g hi hj hid hf hg
  have hfi := h.live i f hi hf
  rw [hid, h.live j g hj hg] at hfi
  exact (Option.some.inj hfi).symm

theorem Manager.Indexed.registered (h : m.Indexed) (hi : m.objects[i]? = some f) (hf : f.Live) :
    m.registered f.req.flowID = some f := by
  rw [Manager.registered, h.live i f hi hf]
  exact hi

theorem Move.req_eq (h : Move m i f e f') : f'.req = f.req := by
  cases h <;> rfl

theorem Move.live (h : Move m i f e f') (hlive : f'.Live) : f.Live := by
  cases h with
  | kept => exact hlive
  | cancelled call => exact hlive
  | stopped call hcall => exact hlive
  | running hrunner => rw [Flow.Live, hrunner]; simp
  | ending _ hrunner hphase => rw [Flow.Live, hrunner]; simp
  | ended hrunner => exact absurd rfl hlive

theorem indexed_initial : Manager.initial.Indexed where
  flowID _ _ h := nomatch h
  live i f h _ := by
    rw [Manager.initial, List.getElem?_nil] at h
    cases h

/-- A flow of the state after a step comes from one of the state before, or is the new one. -/
theorem exists_before (hstep : step m e = some m') (hi : m'.objects[i]? = some f')
    (hlt : i < m.objects.length) : ∃ f, m.objects[i]? = some f ∧ Move m i f e f' := by
  refine ⟨m.objects[i], List.getElem?_eq_getElem hlt, ?_⟩
  obtain ⟨f₁, hf₁, hmove⟩ := (step_cases hstep).1 i _ (List.getElem?_eq_getElem hlt)
  obtain rfl := Option.some.inj (hi.symm.trans hf₁)
  exact hmove

/-- A flow is registered under its own id. -/
def Manager.Named (m : Manager) : Prop :=
  ∀ (id : String) (i : ℕ), m.flows id = some i →
    ∃ f : Flow, m.objects[i]? = some f ∧ f.req.flowID = id

theorem named_step (h : m.Named) (hstep : step m e = some m') : m'.Named := by
  intro id i hid
  obtain ⟨hmoves, hregistry⟩ := step_cases hstep
  have hold : m.flows id = some i → ∃ f : Flow, m'.objects[i]? = some f ∧ f.req.flowID = id := by
    intro hid
    obtain ⟨f, hf, hreq⟩ := h id i hid
    obtain ⟨f', hf', hmove⟩ := hmoves i f hf
    exact ⟨f', hf', by rw [hmove.req_eq, hreq]⟩
  cases hregistry with
  | kept _ hflows _ => exact hold (hflows ▸ hid)
  | started req hfree hflows hobjects =>
    rw [hflows] at hid
    by_cases hreq : id = req.flowID
    · subst hreq
      rw [Function.update_self] at hid
      obtain rfl := Option.some.inj hid
      exact ⟨⟨req, .starting, "", false, .spawned⟩, by rw [hobjects]; simp, rfl⟩
    · rw [Function.update_of_ne hreq] at hid
      exact hold hid

/-- No live flow has the id of a flow that starts. -/
theorem not_live_of_free (h : m.Indexed) (hsound : m.Sound) {req : FlowRequest}
    (hfree : ∀ f, m.registered req.flowID = some f → f.phase ≠ .running ∧ f.phase ≠ .starting)
    (hok : Waits m (.startFlow req)) (hi : m.objects[i]? = some f)
    (hreq : f.req.flowID = req.flowID) : ¬f.Live := by
  intro hlive
  have hregistered := h.registered hi hlive
  rw [hreq] at hregistered
  obtain ⟨hrunning, hstarting⟩ := hfree f hregistered
  obtain ⟨hcompleted, hfailed⟩ := (hsound i f hi).1 hlive
  cases hphase : f.phase with
  | starting => exact hstarting hphase
  | running => exact hrunning hphase
  | completed => exact hcompleted hphase
  | failed => exact hfailed hphase
  | stopped => exact hok f hregistered hphase hlive

theorem live_step (h : m.Indexed) (hsound : m.Sound) (hok : Waits m e)
    (hstep : step m e = some m') (i : ℕ) (f' : Flow) (hi : m'.objects[i]? = some f')
    (hlive : f'.Live) : m'.flows f'.req.flowID = some i := by
  have hlt := (List.getElem?_eq_some_iff.mp hi).1
  cases (step_cases hstep).2 with
  | kept _ hflows hlength =>
    obtain ⟨f, hf, hmove⟩ := exists_before hstep hi (hlength ▸ hlt)
    rw [hflows, hmove.req_eq]
    exact h.live i f hf (hmove.live hlive)
  | started req hfree hflows hobjects =>
    rcases Nat.lt_or_ge i m.objects.length with hold | hnew
    · obtain ⟨f, hf, hmove⟩ := exists_before hstep hi hold
      have hne : f.req.flowID ≠ req.flowID := fun hreq =>
        not_live_of_free h hsound hfree hok hf hreq (hmove.live hlive)
      rw [hflows, hmove.req_eq, Function.update_of_ne hne]
      exact h.live i f hf (hmove.live hlive)
    · rw [hobjects, List.length_append, List.length_singleton] at hlt
      obtain rfl : i = m.objects.length := by omega
      rw [hobjects, List.getElem?_concat_length] at hi
      obtain rfl := Option.some.inj hi
      rw [hflows, Function.update_self]

/-- One step. -/
theorem indexed_step (h : m.Indexed ∧ m.Sound) (hok : Waits m e) (hstep : step m e = some m') :
    m'.Indexed ∧ m'.Sound :=
  ⟨⟨named_step h.1.flowID hstep, live_step h.1 h.2 hok hstep⟩, sound_step h.2 hstep⟩

/-- A flow that starts beside a live one with its id. -/
theorem not_oneLive (h : m.Indexed) (hstep : step m e = some m') (hnot : ¬Waits m e) :
    ¬OneLive m' := by
  cases e with
  | startFlow req =>
    simp only [Waits, not_forall, not_not] at hnot
    obtain ⟨f, hregistered, hphase, hlive⟩ := hnot
    obtain ⟨i, hflows, hi⟩ := Option.bind_eq_some_iff.mp hregistered
    obtain ⟨g, hg, hreq⟩ := h.flowID req.flowID i hflows
    obtain rfl := Option.some.inj (hi.symm.trans hg)
    have hstart : m' = { m with
        flows := Function.update m.flows req.flowID (some m.objects.length)
        objects := m.objects ++ [⟨req, .starting, "", false, .spawned⟩] } := by
      dsimp only [step] at hstep
      unfold Manager.startFlow at hstep
      rw [hregistered] at hstep
      dsimp only at hstep
      rw [hphase, if_neg (by decide), if_neg (by decide)] at hstep
      exact (Option.some.inj hstep).symm
    have hlt := (List.getElem?_eq_some_iff.mp hi).1
    intro hone
    have heq := hone i m.objects.length f ⟨req, .starting, "", false, .spawned⟩
      (by rw [hstart]; exact List.getElem?_append_left hlt ▸ hi)
      (by rw [hstart]; exact List.getElem?_concat_length) hreq hlive (by simp [Flow.Live])
    omega
  | _ => exact absurd trivial hnot

/-- **One live run for each id** in exactly the runs in which no flow starts under the id of a
stopped flow whose goroutine has not ended. -/
theorem alwaysOneLive_iff {events : List Event} {m : Manager}
    (hrun : run step .initial events = some m) :
    AlwaysOneLive events ↔ Throughout step Waits .initial events := by
  have hkeep : ∀ m e m', m.Indexed ∧ m.Sound → Waits m e → step m e = some m' →
      m'.Indexed ∧ m'.Sound := fun _ _ _ => indexed_step
  constructor
  · intro h
    refine throughout_of_invariant hkeep ⟨indexed_initial, sound_initial⟩ ?_
    intro before e after m₁ heq hbefore hm₁
    subst heq
    obtain ⟨m₂, hstep⟩ := step_of_run hrun hbefore
    by_contra hnot
    refine not_oneLive hm₁.1 hstep hnot (h (before ++ [e]) after m₂ (by simp) ?_)
    exact run_concat_eq_some.mpr ⟨m₁, hbefore, hstep⟩
  · rintro hok before after m₁ rfl hbefore
    have hok₁ := ((throughout_append hbefore).mp hok).1
    exact (run_invariant hkeep ⟨indexed_initial, sound_initial⟩ hok₁ hbefore).1.oneLive

/-- A flow starts again after it has ended. -/
def restartedRun : List Event := completedRun ++ [.startFlow .sample]

theorem alwaysOneLive_restarted : AlwaysOneLive restartedRun := by
  refine (alwaysOneLive_iff (run_after _ (by decide +kernel))).mpr ?_
  refine .of_step (fun f hf => ?_) (step_after (e := .startFlow .sample) [] (by decide +kernel)) ?_
  · cases hf
  refine .of_step trivial (step_after (completedRun.take 1) (by decide +kernel)) ?_
  refine .of_step trivial (step_after (completedRun.take 2) (by decide +kernel)) ?_
  refine .of_step trivial (step_after (completedRun.take 3) (by decide +kernel)) ?_
  refine .of_step (fun f hf hphase => ?_) (step_after completedRun (by decide +kernel)) throughout_nil
  obtain rfl := Option.some.inj ((show (Manager.after completedRun).registered _ =
    some ⟨.sample, .completed, "", false, .ended⟩ by decide +kernel).symm.trans hf)
  cases hphase

/-- The flow starts again after a stop request, while its body still runs. -/
def overlappingRun : List Event :=
  [.startFlow .sample, .setRunning 0, .findFlow 0 "blue-test_blue-1", .cancel 0, .markStopped 0,
    .startFlow .sample]

/-- Two goroutines of one flow id are live. -/
theorem stopped_flow_is_live : ¬AlwaysOneLive overlappingRun := by
  intro h
  have hone := h overlappingRun [] (.after overlappingRun) (by simp) (run_after _ (by decide +kernel))
  have heq := hone 0 1 ⟨.sample, .stopped, "", true, .running⟩ ⟨.sample, .starting, "", false, .spawned⟩
    (by decide +kernel) (by decide +kernel) rfl (by decide) (by decide)
  cases heq

end GnnSandbox.Agent
