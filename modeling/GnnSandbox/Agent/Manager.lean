import GnnSandbox.Lib.Transition

/-!
# The flow manager of the traffic agent

The registry of the flows, the goroutines that run them and the requests that stop them. A step is
what happens at once: a critical section of the manager's mutex, the cancellation of a context, or
the return of a flow's body. Stop requests and goroutines interleave in any order.
-/

namespace GnnSandbox.Agent

inductive Phase where
  | starting
  | running
  | completed
  | failed
  | stopped
deriving DecidableEq, Repr

/-- The fields of a request that the manager reads. -/
structure FlowRequest where
  flowID : String
  role : String
  protocol : String
  port : ℕ
  durationSec : ℕ
deriving DecidableEq

/-- Where the goroutine of a flow is in `runFlow`. -/
inductive Runner where
  | spawned
  | running
  /-- The body has returned, and this is the phase that will be set. -/
  | ending (phase : Phase) (errMsg : String)
  | ended
deriving DecidableEq

/-- A flow with its request, its context and its goroutine. -/
structure Flow where
  req : FlowRequest
  phase : Phase
  errMsg : String
  cancelled : Bool
  runner : Runner
deriving DecidableEq

/-- A call of `StopFlow` between its critical sections. -/
structure StopCall where
  flow : ℕ
  cancelled : Bool
deriving DecidableEq

/-- The registry, all flows in the order in which they were made, and the pending calls of
`StopFlow`. -/
structure Manager where
  flows : String → Option ℕ
  objects : List Flow
  stops : ℕ → Option StopCall

namespace Manager

/-- `New` -/
def initial : Manager := ⟨fun _ => none, [], fun _ => none⟩

/-- The flow that is registered under an id. -/
def registered (m : Manager) (flowID : String) : Option Flow :=
  (m.flows flowID).bind fun i => m.objects[i]?

/-- `StartFlow`; an error leaves the registry as it is. -/
def startFlow (m : Manager) (req : FlowRequest) : Except String Manager :=
  let register : Manager :=
    { m with
      flows := Function.update m.flows req.flowID (some m.objects.length)
      objects := m.objects ++ [⟨req, .starting, "", false, .spawned⟩] }
  match m.registered req.flowID with
  | some f =>
    if f.phase = .running then .error ("flow \"" ++ req.flowID ++ "\" is already running")
    else if f.phase = .starting then .error ("flow \"" ++ req.flowID ++ "\" is already starting")
    else .ok register
  | none => .ok register

/-- `setPhase` -/
def setPhase (m : Manager) (i : ℕ) (phase : Phase) (errMsg : String) (runner : Runner) : Manager :=
  { m with
    objects := m.objects.modify i fun f =>
      { f with phase := phase, errMsg := errMsg, runner := runner } }

/-- The look-up of `StopFlow`; a call that finds no flow ends with an error. -/
def findFlow (m : Manager) (call : ℕ) (flowID : String) : Option Manager :=
  match m.stops call, m.flows flowID with
  | none, some i => some { m with stops := Function.update m.stops call (some ⟨i, false⟩) }
  | none, none => some m
  | some _, _ => none

/-- `f.cancel()` -/
def cancel (m : Manager) (call : ℕ) : Option Manager :=
  match m.stops call with
  | some ⟨i, false⟩ => some
      { m with
        objects := m.objects.modify i fun f => { f with cancelled := true }
        stops := Function.update m.stops call (some ⟨i, true⟩) }
  | _ => none

/-- The last critical section of `StopFlow`. -/
def markStopped (m : Manager) (call : ℕ) : Option Manager :=
  match m.stops call with
  | some ⟨i, true⟩ => some
      { m with
        objects := m.objects.modify i fun f => { f with phase := .stopped }
        stops := Function.update m.stops call none }
  | _ => none

/-- `m.setPhase(f, PhaseRunning, "")` -/
def setRunning (m : Manager) (i : ℕ) : Option Manager :=
  match m.objects[i]? with
  | some f => if f.runner = .spawned then some (m.setPhase i .running "" .running) else none
  | none => none

/-- The error of a flow's body, with what the server or the sessions return. -/
def bodyError (req : FlowRequest) (err : Option String) : Option String :=
  match req.role with
  | "destination" =>
    match req.protocol.toLower with
    | "tcp" | "udp" => err
    | protocol => some ("unsupported protocol \"" ++ protocol ++ "\"")
  | "source" => err
  | role => some ("unknown role \"" ++ role ++ "\" (must be 'source' or 'destination')")

/-- The phase that `runFlow` sets at its end. -/
def finalPhase (err : Option String) (cancelled : Bool) : Runner :=
  match err, cancelled with
  | some errMsg, false => .ending .failed errMsg
  | _, _ => .ending .completed ""

def setRunner (m : Manager) (i : ℕ) (runner : Runner) : Manager :=
  { m with objects := m.objects.modify i fun f => { f with runner := runner } }

/-- The body returns, and the context is asked for its error. -/
def bodyReturns (m : Manager) (i : ℕ) (err : Option String) : Option Manager :=
  match m.objects[i]? with
  | some f =>
    if f.runner = .running then
      some (m.setRunner i (finalPhase (bodyError f.req err) f.cancelled))
    else none
  | none => none

/-- The body panics, which the goroutine recovers from. -/
def bodyPanics (m : Manager) (i : ℕ) (text : String) : Option Manager :=
  match m.objects[i]? with
  | some f =>
    if f.runner = .running then some (m.setRunner i (.ending .failed ("panic: " ++ text)))
    else none
  | none => none

/-- The last `setPhase` of `runFlow`. -/
def setFinal (m : Manager) (i : ℕ) : Option Manager :=
  match m.objects[i]? with
  | some f =>
    match f.runner with
    | .ending phase errMsg => some (m.setPhase i phase errMsg .ended)
    | _ => none
  | none => none

end Manager

inductive Event where
  | startFlow (req : FlowRequest)
  | findFlow (call : ℕ) (flowID : String)
  | cancel (call : ℕ)
  | markStopped (call : ℕ)
  | setRunning (i : ℕ)
  | bodyReturns (i : ℕ) (err : Option String)
  | bodyPanics (i : ℕ) (text : String)
  | setFinal (i : ℕ)
deriving DecidableEq

/-- What an event does to the manager. -/
def step (m : Manager) : Event → Option Manager
  | .startFlow req =>
    match m.startFlow req with
    | .ok m' => some m'
    | .error _ => some m
  | .findFlow call flowID => m.findFlow call flowID
  | .cancel call => m.cancel call
  | .markStopped call => m.markStopped call
  | .setRunning i => m.setRunning i
  | .bodyReturns i err => m.bodyReturns i err
  | .bodyPanics i text => m.bodyPanics i text
  | .setFinal i => m.setFinal i

/-! ## What a step does to a flow -/

/-- What an event makes of the flow with an index. -/
inductive Move (m : Manager) (i : ℕ) (f : Flow) : Event → Flow → Prop
  | kept (e : Event) : Move m i f e f
  | cancelled (call : ℕ) : Move m i f (.cancel call) { f with cancelled := true }
  | stopped (call : ℕ) (hcall : m.stops call = some ⟨i, true⟩) :
      Move m i f (.markStopped call) { f with phase := .stopped }
  | running (hrunner : f.runner = .spawned) :
      Move m i f (.setRunning i) { f with phase := .running, errMsg := "", runner := .running }
  | ending (e : Event) (hrunner : f.runner = .running) {phase : Phase} {errMsg : String}
      (hphase : phase = .completed ∨ phase = .failed) :
      Move m i f e { f with runner := .ending phase errMsg }
  | ended {phase : Phase} {errMsg : String} (hrunner : f.runner = .ending phase errMsg) :
      Move m i f (.setFinal i) { f with phase := phase, errMsg := errMsg, runner := .ended }

/-- The events that leave the registry as it is, and the request that is accepted. -/
inductive Registry (m m' : Manager) : Event → Prop
  | kept (e : Event) (hflows : m'.flows = m.flows) (hlength : m'.objects.length = m.objects.length) :
      Registry m m' e
  | started (req : FlowRequest)
      (hfree : ∀ f, m.registered req.flowID = some f → f.phase ≠ .running ∧ f.phase ≠ .starting)
      (hflows : m'.flows = Function.update m.flows req.flowID (some m.objects.length))
      (hobjects : m'.objects = m.objects ++ [⟨req, .starting, "", false, .spawned⟩]) :
      Registry m m' (.startFlow req)

variable {m m' : Manager} {e : Event} {i : ℕ}

/-- A change of one flow. -/
theorem moves_of_modify {change : Flow → Flow} (hobjects : m'.objects = m.objects.modify i change)
    (hmove : ∀ f, m.objects[i]? = some f → Move m i f e (change f)) :
    m'.objects.length = m.objects.length ∧
      ∀ j f, m.objects[j]? = some f → ∃ f', m'.objects[j]? = some f' ∧ Move m j f e f' := by
  refine ⟨by rw [hobjects, List.length_modify], fun j f hj => ?_⟩
  rw [hobjects, List.getElem?_modify, hj]
  by_cases h : i = j
  · subst h
    exact ⟨change f, by simp, hmove f hj⟩
  · exact ⟨f, by simp [h], .kept e⟩

theorem moves_of_objects (hobjects : m'.objects = m.objects) :
    m'.objects.length = m.objects.length ∧
      ∀ j f, m.objects[j]? = some f → ∃ f', m'.objects[j]? = some f' ∧ Move m j f e f' :=
  ⟨by rw [hobjects], fun _ f hj => ⟨f, hobjects ▸ hj, .kept e⟩⟩

theorem startFlow_ok {req : FlowRequest} (h : m.startFlow req = .ok m') :
    (∀ f, m.registered req.flowID = some f → f.phase ≠ .running ∧ f.phase ≠ .starting) ∧
      m' = { m with
        flows := Function.update m.flows req.flowID (some m.objects.length)
        objects := m.objects ++ [⟨req, .starting, "", false, .spawned⟩] } := by
  unfold Manager.startFlow at h
  dsimp only at h
  cases hreg : m.registered req.flowID with
  | none =>
    rw [hreg] at h
    exact ⟨fun f hf => (nomatch hf), (Except.ok.inj h).symm⟩
  | some f =>
    rw [hreg] at h
    dsimp only at h
    split_ifs at h with hrunning hstarting
    refine ⟨fun g hg => ?_, (Except.ok.inj h).symm⟩
    obtain rfl := Option.some.inj hg
    exact ⟨hrunning, hstarting⟩

theorem finalPhase_eq (err : Option String) (cancelled : Bool) :
    ∃ phase errMsg, Manager.finalPhase err cancelled = .ending phase errMsg ∧
      (phase = .completed ∨ phase = .failed) := by
  unfold Manager.finalPhase
  split
  · exact ⟨_, _, rfl, .inr rfl⟩
  · exact ⟨_, _, rfl, .inl rfl⟩

/-- **Steps.** -/
theorem step_cases (h : step m e = some m') :
    (∀ j f, m.objects[j]? = some f → ∃ f', m'.objects[j]? = some f' ∧ Move m j f e f') ∧
      Registry m m' e := by
  have hmodify : ∀ {i : ℕ} {change : Flow → Flow}, m'.flows = m.flows →
      m'.objects = m.objects.modify i change →
        (∀ f, m.objects[i]? = some f → Move m i f e (change f)) →
          (∀ j f, m.objects[j]? = some f → ∃ f', m'.objects[j]? = some f' ∧ Move m j f e f') ∧
            Registry m m' e := by
    intro i change hflows hobjects hmove
    obtain ⟨hlength, hmoves⟩ := moves_of_modify hobjects hmove
    exact ⟨hmoves, .kept e hflows hlength⟩
  cases e with
  | startFlow req =>
    change (match m.startFlow req with
      | .ok m' => some m'
      | .error _ => some m) = some m' at h
    cases hstart : m.startFlow req with
    | error text =>
      rw [hstart] at h
      obtain rfl := Option.some.inj h
      exact ⟨(moves_of_objects rfl).2, .kept _ rfl rfl⟩
    | ok started =>
      rw [hstart] at h
      obtain rfl := Option.some.inj h
      obtain ⟨hfree, rfl⟩ := startFlow_ok hstart
      refine ⟨fun j f hj => ⟨f, ?_, .kept _⟩, .started req hfree rfl rfl⟩
      exact List.getElem?_append_left (List.getElem?_eq_some_iff.mp hj).1 ▸ hj
  | findFlow call flowID =>
    change m.findFlow call flowID = some m' at h
    unfold Manager.findFlow at h
    split at h
    · obtain rfl := Option.some.inj h
      exact ⟨(moves_of_objects rfl).2, .kept _ rfl rfl⟩
    · obtain rfl := Option.some.inj h
      exact ⟨(moves_of_objects rfl).2, .kept _ rfl rfl⟩
    · cases h
  | cancel call =>
    change m.cancel call = some m' at h
    unfold Manager.cancel at h
    split at h
    · obtain rfl := Option.some.inj h
      exact hmodify rfl rfl fun f _ => .cancelled call
    · cases h
  | markStopped call =>
    change m.markStopped call = some m' at h
    unfold Manager.markStopped at h
    split at h
    · rename_i i hcall
      obtain rfl := Option.some.inj h
      exact hmodify rfl rfl fun f _ => .stopped call hcall
    · cases h
  | setRunning i =>
    change m.setRunning i = some m' at h
    unfold Manager.setRunning at h
    split at h
    · rename_i f hf
      split_ifs at h with hrunner
      obtain rfl := Option.some.inj h
      refine hmodify rfl rfl fun g hg => .running ?_
      rw [Option.some.inj (hg.symm.trans hf), hrunner]
    · cases h
  | bodyReturns i err =>
    change m.bodyReturns i err = some m' at h
    unfold Manager.bodyReturns at h
    split at h
    · rename_i f hf
      split_ifs at h with hrunner
      obtain rfl := Option.some.inj h
      obtain ⟨phase, errMsg, hfinal, hphase⟩ := finalPhase_eq (Manager.bodyError f.req err) f.cancelled
      refine hmodify rfl rfl fun g hg => ?_
      rw [hfinal]
      exact .ending _ (Option.some.inj (hg.symm.trans hf) ▸ hrunner) hphase
    · cases h
  | bodyPanics i text =>
    change m.bodyPanics i text = some m' at h
    unfold Manager.bodyPanics at h
    split at h
    · rename_i f hf
      split_ifs at h with hrunner
      obtain rfl := Option.some.inj h
      exact hmodify rfl rfl fun g hg =>
        .ending _ (Option.some.inj (hg.symm.trans hf) ▸ hrunner) (.inr rfl)
    · cases h
  | setFinal i =>
    change m.setFinal i = some m' at h
    unfold Manager.setFinal at h
    split at h
    · rename_i f hf
      split at h
      · rename_i phase errMsg hrunner
        obtain rfl := Option.some.inj h
        exact hmodify rfl rfl fun g hg => .ended (Option.some.inj (hg.symm.trans hf) ▸ hrunner)
      · cases h
    · cases h

/-! ## What the phase says about the goroutine -/

/-- A flow that is completed or has failed has no goroutine, unless a stop request changed its
phase. -/
def Flow.Sound (f : Flow) : Prop :=
  (f.runner ≠ .ended → f.phase ≠ .completed ∧ f.phase ≠ .failed) ∧
    ∀ phase errMsg, f.runner = .ending phase errMsg → phase = .completed ∨ phase = .failed

def Manager.Sound (m : Manager) : Prop := ∀ (i : ℕ) (f : Flow), m.objects[i]? = some f → f.Sound

theorem Move.sound {f f' : Flow} (h : Move m i f e f') (hf : f.Sound) : f'.Sound := by
  cases h with
  | kept => exact hf
  | cancelled call => exact hf
  | stopped call hcall => exact ⟨fun _ => by simp, hf.2⟩
  | running hrunner => exact ⟨fun _ => by simp, fun _ _ h => nomatch h⟩
  | ending _ hrunner hphase =>
    refine ⟨fun _ => hf.1 (by rw [hrunner]; simp), fun phase errMsg h => ?_⟩
    obtain ⟨rfl, rfl⟩ := Runner.ending.inj h
    exact hphase
  | ended hrunner => exact ⟨fun h => absurd rfl h, fun _ _ h => nomatch h⟩

theorem sound_initial : Manager.initial.Sound := fun i f h => by
  rw [Manager.initial, List.getElem?_nil] at h
  cases h

theorem sound_step (h : m.Sound) (hstep : step m e = some m') : m'.Sound := by
  obtain ⟨hmoves, hregistry⟩ := step_cases hstep
  intro i f hf
  have hold : i < m.objects.length → f.Sound := by
    intro hi
    obtain ⟨f', hf', hmove⟩ := hmoves i m.objects[i] (List.getElem?_eq_getElem hi)
    obtain rfl := Option.some.inj (hf.symm.trans hf')
    exact hmove.sound (h i _ (List.getElem?_eq_getElem hi))
  have hlt := (List.getElem?_eq_some_iff.mp hf).1
  cases hregistry with
  | kept _ _ hlength => exact hold (hlength ▸ hlt)
  | started req hfree hflows hobjects =>
    rcases Nat.lt_or_ge i m.objects.length with hi | hi
    · exact hold hi
    · rw [hobjects, List.getElem?_append_right hi] at hf
      have hzero : i - m.objects.length = 0 := by
        rw [hobjects, List.length_append, List.length_singleton] at hlt
        omega
      rw [hzero] at hf
      obtain rfl := Option.some.inj hf
      exact ⟨fun _ => by simp, fun _ _ h => nomatch h⟩

theorem sound_run {events : List Event} (hrun : Transition.run step .initial events = some m) :
    m.Sound :=
  Transition.run_always (fun _ _ _ h hstep => sound_step h hstep) sound_initial hrun

end GnnSandbox.Agent
