import GnnSandbox.Graph.Outcome
import GnnSandbox.Lib.Transition
import GnnSandbox.Operator.FaultHandlers

/-!
# Fault events and faults

The store shows a fault as active through an open row of `FaultEvent` in phase Active. The create
handler opens such rows and closes the row before; nothing closes the last one, because the delete
handler does not turn to the store.

1. `createHandler_spec`, `deleteHandler_spec`: what a handler does, by the fate of its attempt.
2. `right_iff_clean`: a step leaves the right history exactly when it is clean.
3. `fault_history_iff`: the history is right throughout a run exactly when all steps are clean.
-/

namespace GnnSandbox.Operator.Fault

open Graph Transition Scd Effect

variable {env : Graph.Env} {name : Graph.ResourceName} {spec : Spec} {scene : Scene}
  {w : Graph.World}

/-! ## Fault events -/

/-- The store has an open row of the fault in this phase. -/
def Open (name : Graph.ResourceName) (phase : String) (w : Graph.World) : Prop :=
  ∃ v ∈ w.db.active .faultEvent (.id (FaultEventSync.eventId name)), v.data.phase = phase

instance (name : Graph.ResourceName) (phase : String) (w : Graph.World) :
    Decidable (Open name phase w) := by
  unfold Open
  infer_instance

/-- A written event is the open row of its fault. -/
theorem open_sync (hrel : env.Reliable) (hw : Graph.WellFormed env w) {phase phase' : String}
    {injectedAt : Option String} :
    Open name phase' (sync env name spec phase injectedAt w) ↔ phase' = phase := by
  obtain ⟨v, hv, hdata⟩ := runInTransaction_upsert_holds .faultEvent
    (FaultEventSync.faultRow name spec.toGraph phase injectedAt)
    (fun row : FaultEvent => row.phase = phase) (hrel _) (hw.one _ _)
  have hphase : v.data.phase = phase := by
    rcases hdata with hdata | hdata
    · rw [hdata]
      rfl
    · simpa using hdata
  unfold Open
  constructor
  · rintro ⟨u, hu, rfl⟩
    obtain rfl := List.mem_singleton.mp (hv ▸ hu)
    exact hphase
  · rintro rfl
    exact ⟨v, hv ▸ List.mem_singleton_self v, hphase⟩

theorem wellFormed_sync (hw : Graph.WellFormed env w) (phase : String)
    (injectedAt : Option String) : Graph.WellFormed env (sync env name spec phase injectedAt w) :=
  hw.respects (respects_syncFaultEvent env name spec.toGraph phase injectedAt)

/-! ## What an attempt does -/

/-- What becomes of an attempt to inject a fault. -/
inductive Fate where
  | refused
  | fails
  | stops (tookEffect : Bool)
  | unmarked
  | succeeds
deriving DecidableEq

/-- The create handler turns to the fault. -/
def CreateAnswers.Injects (spec : Spec) (ans : CreateAnswers) : Prop :=
  validateSpec spec = none ∧ (∃ address, ans.ip = .found address) ∧ spec.unsupported = false ∧
    (ans.write 0).isRaise = false

/-- The fate of an attempt that turns to the fault. -/
def CreateAnswers.injectFate (spec : Spec) (ans : CreateAnswers) : Fate :=
  match derivedBridge spec ans.infrastructure with
  | .error _ => .fails
  | .ok bridge =>
    match ans.inject bridge with
    | .raises _ | .failure _ => .fails
    | .stopped tookEffect => .stops tookEffect
    | .success _ => if (ans.write 1).isRaise then .unmarked else .succeeds

/-- What a fate leaves of the scene and of the end of the handler. -/
def Fate.Left (env : Graph.Env) (name : Graph.ResourceName) (spec : Spec) (injectedAt : String)
    (scene : Scene) (result : CreateEnd × Scene) : Fate → Prop
  | .refused => (∃ raised, result.1 = .refused raised) ∧
      result.2.injected = scene.injected ∧ result.2.world = scene.world
  | .fails => (∃ raised, result.1 = .failed raised) ∧ result.2.injected = scene.injected ∧
      result.2.world = sync env name spec "Injecting" none scene.world
  | .stops tookEffect => result.1 = .stopped ∧
      result.2.injected = (scene.injected || tookEffect) ∧
      result.2.world = sync env name spec "Injecting" none scene.world
  | .unmarked => (∃ raised, result.1 = .unmarked raised) ∧ result.2.injected = true ∧
      result.2.world = sync env name spec "Injecting" none scene.world
  | .succeeds => result.1 = .active ∧ result.2.injected = true ∧
      result.2.world = sync env name spec "Active" (some injectedAt)
        (sync env name spec "Injecting" none scene.world)

variable {ans : CreateAnswers}

theorem injectFault_spec (env : Graph.Env) (name : Graph.ResourceName) (spec : Spec)
    (ans : CreateAnswers) (scene : Scene) :
    (ans.injectFate spec).Left env name spec ans.injectedAt scene
      (injectFault env name spec ans scene) := by
  unfold injectFault CreateAnswers.injectFate
  dsimp only
  cases derivedBridge spec ans.infrastructure with
  | error message => exact ⟨⟨_, rfl⟩, rfl, rfl⟩
  | ok bridge =>
    dsimp only
    cases ans.inject bridge with
    | raises message => exact ⟨⟨_, rfl⟩, rfl, rfl⟩
    | failure error => exact ⟨⟨_, rfl⟩, rfl, rfl⟩
    | stopped tookEffect => exact ⟨rfl, rfl, rfl⟩
    | success originalState =>
      dsimp only
      split
      · rename_i happly
        rw [if_pos (Write.isRaise_of_error happly)]
        exact ⟨⟨_, rfl⟩, rfl, rfl⟩
      · rename_i happly
        rw [if_neg (by rw [Write.isRaise_of_ok happly]; decide)]
        exact ⟨rfl, rfl, rfl⟩

/-- The handler gives up before the fault, or it leaves what the fate of its attempt says. -/
theorem createHandler_spec (env : Graph.Env) (name : Graph.ResourceName) (spec : Spec)
    (ans : CreateAnswers) (scene : Scene) :
    (¬ans.Injects spec ∧ Fate.refused.Left env name spec ans.injectedAt scene
        (createHandler env name spec ans scene)) ∨
      (ans.Injects spec ∧ (ans.injectFate spec).Left env name spec ans.injectedAt scene
        (createHandler env name spec ans scene)) := by
  unfold createHandler CreateAnswers.Injects
  cases hvalid : validateSpec spec with
  | some error => exact .inl ⟨fun h => absurd h.1 (by simp), ⟨_, rfl⟩, rfl, rfl⟩
  | none =>
    dsimp only
    cases hip : ans.ip with
    | raises message => exact .inl ⟨by simp, ⟨_, rfl⟩, rfl, rfl⟩
    | missing => exact .inl ⟨by simp, ⟨_, rfl⟩, rfl, rfl⟩
    | found address =>
      dsimp only
      split_ifs with hmode
      · exact .inl ⟨fun h => absurd h.2.2.1 (by simp [hmode]), ⟨_, rfl⟩, rfl, rfl⟩
      · split
        · rename_i happly
          have hraise := Write.isRaise_of_error happly
          exact .inl ⟨fun h => absurd h.2.2.2 (by simp [hraise]), ⟨_, rfl⟩, rfl, rfl⟩
        · rename_i status happly
          exact .inr ⟨⟨rfl, ⟨address, rfl⟩, by simpa using hmode, Write.isRaise_of_ok happly⟩,
            injectFault_spec env name spec ans { scene with status := status }⟩

/-! ## What a deletion does -/

/-- The delete handler restores the router. -/
def DeleteAnswers.Restores (spec : Spec) (status : Status) (ans : DeleteAnswers) : Prop :=
  (∃ address, ans.ip = .found address) ∧ (ans.write 0).isRaise = false ∧
    (ans.restore (originalState spec status ans) = .success ∨
      ans.restore (originalState spec status ans) = .stopped true)

/-- The handler gets to its end after the restoration. -/
def DeleteAnswers.Completes (spec : Spec) (status : Status) (ans : DeleteAnswers) : Prop :=
  ans.restore (originalState spec status ans) = .success ∧ (ans.write 1).isRaise = false

theorem deleteHandler_spec (spec : Spec) (ans : DeleteAnswers) (scene : Scene) :
    (deleteHandler spec ans scene).2.world = scene.world ∧
      ((¬ans.Restores spec scene.status ∧
          (deleteHandler spec ans scene).2.injected = scene.injected ∧
          (deleteHandler spec ans scene).1 ≠ .removed true) ∨
        (ans.Restores spec scene.status ∧ (deleteHandler spec ans scene).2.injected = false ∧
          ((deleteHandler spec ans scene).1 = .removed true ↔
            ans.Completes spec scene.status))) := by
  unfold deleteHandler DeleteAnswers.Restores DeleteAnswers.Completes
  cases hip : ans.ip with
  | raises message => simp
  | missing => simp
  | found address =>
    dsimp only
    split
    · rename_i happly
      have hraise := Write.isRaise_of_error happly
      simp [hraise]
    · rename_i status happly
      have hraise := Write.isRaise_of_ok happly
      cases hrestore : ans.restore (originalState spec scene.status ans) with
      | raises message =>
        dsimp only
        split <;> simp
      | failure error => simp
      | stopped tookEffect => cases tookEffect <;> simp [hraise]
      | success =>
        dsimp only
        split
        · rename_i happly'
          simp [hraise, Write.isRaise_of_error happly']
        · rename_i happly'
          simp [hraise, Write.isRaise_of_ok happly']

/-! ## The handlers of one resource -/

/-- The resource, if it exists, and its fault. -/
structure State where
  spec : Option Spec
  scene : Scene

def State.initial : State := ⟨none, {}, false, .empty⟩

inductive Event where
  | create (spec : Spec)
  | createHandler (ans : CreateAnswers)
  | resumeHandler (write : Write)
  | deleteHandler (ans : DeleteAnswers)

/-- The resource after its delete handler. -/
def DeleteEnd.resource (spec : Spec) : DeleteEnd → Option Spec
  | .removed _ => none
  | .raised _ | .stopped => some spec

def State.create (s : State) (spec : Spec) : Option State :=
  if s.spec.isNone then some ⟨some spec, { s.scene with status := {} }⟩ else none

/-- What an event does. The handlers run one after the other, and again after an error; the
resource is gone when its delete handler has succeeded. -/
def step (env : Graph.Env) (name : Graph.ResourceName) (s : State) : Event → Option State
  | .create spec => s.create spec
  | .createHandler ans => s.spec.map fun spec =>
    ⟨some spec, (Fault.createHandler env name spec ans s.scene).2⟩
  | .resumeHandler write => s.spec.map fun spec =>
    ⟨some spec, { s.scene with status := (Fault.resumeHandler write s.scene.status).2 }⟩
  | .deleteHandler ans => s.spec.map fun spec =>
    let (ending, scene) := Fault.deleteHandler spec ans s.scene
    ⟨ending.resource spec, scene⟩

/-- The fault shows as active while it is injected. -/
def Matches (name : Graph.ResourceName) (scene : Scene) : Prop :=
  Open name "Active" scene.world ↔ scene.injected = true

/-- No open row shows the fault as active or as being injected. -/
def Clear (name : Graph.ResourceName) (scene : Scene) : Prop :=
  ¬Open name "Injecting" scene.world ∧ ¬Open name "Active" scene.world

/-- The event ends with a failed injection, or with the resource deleted and the fault restored. -/
def Settled (env : Graph.Env) (name : Graph.ResourceName) (s : State) : Event → Prop
  | .createHandler ans => ∃ spec raised, s.spec = some spec ∧
      (Fault.createHandler env name spec ans s.scene).1 = .failed raised
  | .deleteHandler ans => ∃ spec, s.spec = some spec ∧
      (Fault.deleteHandler spec ans s.scene).1 = .removed true
  | _ => False

/-- The history is right after an event. -/
def Right (env : Graph.Env) (name : Graph.ResourceName) (s : State) (e : Event) : Prop :=
  ∀ s' ∈ step env name s e, Matches name s'.scene ∧ (Settled env name s e → Clear name s'.scene)

/-- The fates that leave the history right. -/
def Fate.Keeps (injected : Bool) : Fate → Prop
  | .refused | .succeeds => True
  | .fails | .unmarked => False
  | .stops tookEffect => tookEffect = false ∧ injected = false

/-- The events that leave the history right: no injection fails or is cut short after it took
effect, and a router is only restored when its fault is not injected and has no open row. -/
def Clean (name : Graph.ResourceName) (s : State) : Event → Prop
  | .createHandler ans => ∀ spec ∈ s.spec, ans.Injects spec →
      (ans.injectFate spec).Keeps s.scene.injected
  | .deleteHandler ans => ∀ spec ∈ s.spec, ans.Restores spec s.scene.status →
      s.scene.injected = false ∧
        (ans.Completes spec s.scene.status → ¬Open name "Injecting" s.scene.world)
  | .create _ | .resumeHandler _ => True

theorem create_eq_some {s s' : State} (h : s.create spec = some s') :
    s.spec = none ∧ s' = ⟨some spec, { s.scene with status := {} }⟩ := by
  unfold State.create at h
  split_ifs at h with hnone
  exact ⟨Option.isNone_iff_eq_none.mp hnone, (Option.some.inj h).symm⟩

/-- What every event keeps, the right ones and the others. -/
theorem wellFormed_step {s s' : State} {e : Event} (hw : Graph.WellFormed env s.scene.world)
    (hstep : step env name s e = some s') : Graph.WellFormed env s'.scene.world := by
  cases e with
  | create spec =>
    obtain ⟨-, rfl⟩ := create_eq_some hstep
    exact hw
  | createHandler ans =>
    obtain ⟨spec, -, rfl⟩ := Option.map_eq_some_iff.mp hstep
    have hinject : Graph.WellFormed env (sync env name spec "Injecting" none s.scene.world) :=
      wellFormed_sync hw _ _
    rcases createHandler_spec env name spec ans s.scene with ⟨-, -, -, hworld⟩ | ⟨-, hleft⟩
    · exact hworld ▸ hw
    · cases hfate : ans.injectFate spec with
      | refused => exact (hfate ▸ hleft).2.2 ▸ hw
      | fails => exact (hfate ▸ hleft).2.2 ▸ hinject
      | stops tookEffect => exact (hfate ▸ hleft).2.2 ▸ hinject
      | unmarked => exact (hfate ▸ hleft).2.2 ▸ hinject
      | succeeds => exact (hfate ▸ hleft).2.2 ▸ wellFormed_sync hinject _ _
  | resumeHandler write =>
    obtain ⟨spec, -, rfl⟩ := Option.map_eq_some_iff.mp hstep
    exact hw
  | deleteHandler ans =>
    obtain ⟨spec, -, rfl⟩ := Option.map_eq_some_iff.mp hstep
    exact (deleteHandler_spec spec ans s.scene).1 ▸ hw

theorem matches_of_eq {scene scene' : Scene} (h : Matches name scene)
    (hinjected : scene'.injected = scene.injected) (hworld : scene'.world = scene.world) :
    Matches name scene' := by
  unfold Matches
  rw [hinjected, hworld]
  exact h

/-- An attempt leaves the history right exactly if its fate does. -/
theorem fate_right_iff {fate : Fate} {injectedAt : String} {result : CreateEnd × Scene}
    (hrel : env.Reliable) (hw : Graph.WellFormed env scene.world) (hmatches : Matches name scene)
    (hleft : fate.Left env name spec injectedAt scene result) :
    (Matches name result.2 ∧ ((∃ raised, result.1 = .failed raised) → Clear name result.2)) ↔
      fate.Keeps scene.injected := by
  have hinject : ∀ phase, Open name phase (sync env name spec "Injecting" none scene.world) ↔
      phase = "Injecting" := fun phase => open_sync hrel hw
  cases fate with
  | refused =>
    obtain ⟨⟨raised, hend⟩, hinjected, hworld⟩ := hleft
    simp [hend, Fate.Keeps, matches_of_eq hmatches hinjected hworld]
  | fails =>
    obtain ⟨⟨raised, hend⟩, hinjected, hworld⟩ := hleft
    simp [hend, Fate.Keeps, Clear, hworld, hinject]
  | stops tookEffect =>
    obtain ⟨hend, hinjected, hworld⟩ := hleft
    simp [hend, Fate.Keeps, Matches, hworld, hinject, hinjected, and_comm]
  | unmarked =>
    obtain ⟨⟨raised, hend⟩, hinjected, hworld⟩ := hleft
    simp [hend, Fate.Keeps, Matches, hworld, hinject, hinjected]
  | succeeds =>
    obtain ⟨hend, hinjected, hworld⟩ := hleft
    have hactive : Open name "Active" result.2.world := by
      rw [hworld]
      exact (open_sync hrel (wellFormed_sync hw _ _)).mpr rfl
    simp [hend, Fate.Keeps, Matches, hactive, hinjected]

/-- A step leaves the history right exactly when it is clean. -/
theorem right_iff_clean (hrel : env.Reliable) {s : State} {e : Event}
    (hw : Graph.WellFormed env s.scene.world) (hmatches : Matches name s.scene) :
    Right env name s e ↔ Clean name s e := by
  unfold Right
  cases e with
  | create spec =>
    refine iff_of_true (fun s' hs' => ?_) trivial
    obtain ⟨-, rfl⟩ := create_eq_some hs'
    exact ⟨hmatches, False.elim⟩
  | resumeHandler write =>
    refine iff_of_true (fun s' hs' => ?_) trivial
    obtain ⟨spec, -, rfl⟩ := Option.map_eq_some_iff.mp hs'
    exact ⟨hmatches, False.elim⟩
  | createHandler ans =>
    cases hspec : s.spec with
    | none => simp [step, Clean, hspec]
    | some spec =>
      have hfate : ∀ fate : Fate, fate.Left env name spec ans.injectedAt s.scene
          (Fault.createHandler env name spec ans s.scene) →
          ((∀ s' ∈ step env name s (.createHandler ans), Matches name s'.scene ∧
            (Settled env name s (.createHandler ans) → Clear name s'.scene)) ↔
              fate.Keeps s.scene.injected) := by
        intro fate hleft
        rw [← fate_right_iff hrel hw hmatches hleft]
        simp [step, Settled, hspec]
      rcases createHandler_spec env name spec ans s.scene with ⟨hno, hleft⟩ | ⟨hinjects, hleft⟩
      · rw [hfate _ hleft]
        simp [Clean, hspec, hno, Fate.Keeps]
      · rw [hfate _ hleft]
        simp [Clean, hspec, hinjects]
  | deleteHandler ans =>
    cases hspec : s.spec with
    | none => simp [step, Clean, hspec]
    | some spec =>
      obtain ⟨hworld, hcases⟩ := deleteHandler_spec spec ans s.scene
      have hright : (∀ s' ∈ step env name s (.deleteHandler ans), Matches name s'.scene ∧
          (Settled env name s (.deleteHandler ans) → Clear name s'.scene)) ↔
          Matches name (Fault.deleteHandler spec ans s.scene).2 ∧
            ((Fault.deleteHandler spec ans s.scene).1 = .removed true →
              Clear name (Fault.deleteHandler spec ans s.scene).2) := by
        simp [step, Settled, hspec]
      rw [hright]
      rcases hcases with ⟨hno, hinjected, hend⟩ | ⟨hrestores, hinjected, hend⟩
      · have hkept := matches_of_eq hmatches hinjected hworld
        simp [Clean, hspec, hno, hend, hkept]
      · rw [hend]
        simp only [Clean, hspec, Option.mem_some_iff, forall_eq', hrestores, forall_const, Matches,
          Clear, hworld, hinjected, Bool.false_eq_true, iff_false]
        -- by the history so far, no row is open in phase Active exactly if nothing is injected
        have hactive : Open name "Active" s.scene.world ↔ s.scene.injected = true := hmatches
        rw [hactive, Bool.not_eq_true]
        tauto

/-- The history is right so far, in a well-formed store. -/
structure Sound (env : Graph.Env) (name : Graph.ResourceName) (s : State) : Prop where
  wellFormed : Graph.WellFormed env s.scene.world
  matches' : Matches name s.scene

theorem sound_initial (env : Graph.Env) (name : Graph.ResourceName) : Sound env name .initial where
  wellFormed := wellFormed_empty env
  matches' := by
    unfold Matches Open
    exact iff_of_false (fun ⟨v, hv, _⟩ => absurd hv List.not_mem_nil) Bool.false_ne_true

/-- **Fault events match faults.** If no transaction fails, the history is right after every event
of a run exactly when all of its events are clean. -/
theorem fault_history_iff (hrel : env.Reliable) (name : Graph.ResourceName) (events : List Event) :
    Throughout (step env name) (Right env name) .initial events ↔
      Throughout (step env name) (Clean name) .initial events := by
  refine throughout_congr (I := Sound env name) (fun s e hs => ?_) (fun s e s' hs hright hstep => ?_)
    (sound_initial env name)
  · exact right_iff_clean hrel hs.wellFormed hs.matches'
  · exact ⟨wellFormed_step hs.wellFormed hstep, (hright s' hstep).1⟩

/-! ### A fault that is restored -/

def sampleSpec : Spec where
  failureType := .known .mtuMismatch
  target := { router := some "pe1", interface := some "eth1" }
  parameters := { mtu := some 1400 }

def sampleInjection : CreateAnswers where
  ip := .found "10.0.0.2"
  infrastructure := .ok []
  inject _ := .success [("mtu", .num 1500)]
  injectedAt := "2025-01-01T00:00:00+00:00"
  write _ := .done "2025-01-01T00:00:00+00:00"

def sampleRestoration : DeleteAnswers where
  refetched := .ok []
  infrastructure := .ok []
  ip := .found "10.0.0.2"
  restore _ := .success
  restoredAt := "2025-01-01T01:00:00+00:00"
  write _ := .done "2025-01-01T01:00:00+00:00"

def sampleName : Graph.ResourceName := ⟨"mtu-pe1", by decide⟩

theorem fault_history_sample :
    Throughout (step .plain sampleName) (Right .plain sampleName) .initial
      [.create sampleSpec, .createHandler sampleInjection, .resumeHandler (.done "")] := by
  refine (fault_history_iff (fun _ => rfl) sampleName _).mpr ?_
  have hcreate : step .plain sampleName .initial (.create sampleSpec) = some _ := rfl
  have hinject : step .plain sampleName ⟨some sampleSpec, { State.initial.scene with status := {} }⟩
      (.createHandler sampleInjection) = some _ := rfl
  refine Throughout.of_step trivial hcreate (Throughout.of_step ?_ hinject ?_)
  · rintro spec ⟨⟩ -
    trivial
  · exact Throughout.of_step trivial rfl trivial

/-- The history is wrong after a restoration: nothing closes the row in phase Active. -/
theorem restored_fault_stays_active : ¬∀ (env : Graph.Env) (name : Graph.ResourceName)
    (events : List Event), env.Reliable →
      Throughout (step env name) (Right env name) .initial events := by
  intro h
  obtain ⟨-, hafter⟩ := h .plain sampleName [.create sampleSpec, .createHandler sampleInjection,
    .deleteHandler sampleRestoration] fun _ => rfl
  obtain ⟨-, hafter⟩ := hafter _ rfl
  obtain ⟨hdelete, -⟩ := hafter _ rfl
  obtain ⟨hmatches, -⟩ := hdelete _ rfl
  have hopen : Open sampleName "Active" (run (step .plain sampleName) .initial
      [.create sampleSpec, .createHandler sampleInjection, .deleteHandler sampleRestoration]
      |>.elim .empty fun s => s.scene.world) := by
    decide +kernel
  exact absurd (hmatches.mp hopen) Bool.false_ne_true

end GnnSandbox.Operator.Fault
