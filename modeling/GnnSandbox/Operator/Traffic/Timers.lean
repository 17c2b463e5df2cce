import GnnSandbox.Operator.PortsOnRecord

/-!
# Completion timers

The create handler and `initial_setup` arm a timer that marks a test Completed once its duration
has passed. A timer knows the name of the test only, and nothing stops it.

1. `Moves`: what a status may become without a timer (`moves_step`).
2. `Timed`: the system with its clock and its timers.
3. `earned_of_current`: as long as no timer outlives the test it was armed for, Completed is
   written only to a test whose flows have had their time.
-/

namespace GnnSandbox.Operator.Traffic

open Transition Write

variable {s s' : State} {ref ref' : Ref} {test test' : TrafficTest} {tests tests' : Tests}
  {u : Update} {status status' status'' : Status} {w : Write}

/-! ## Handlers complete no test -/

/-- The status stays, or takes a phase other than Completed. -/
def Moves (status status' : Status) : Prop :=
  status' = status ∨ ∃ phase, status'.phase = some phase ∧ phase ≠ .completed

theorem Moves.refl (status : Status) : Moves status status := .inl rfl

theorem Moves.trans (h : Moves status status') (h' : Moves status' status'') :
    Moves status status'' := by
  rcases h' with rfl | h'
  · exact h
  · exact .inr h'

theorem moves_of_apply (hu : u.phase ≠ .completed)
    (h : w.apply (updateStatus u) status = .ok status') : Moves status status' := by
  rcases apply_ok h with ⟨now, -, rfl⟩ | ⟨-, rfl⟩
  · exact .inr ⟨u.phase, rfl, hu⟩
  · exact .refl _

theorem moves_unexpected (message : String) (w : Write) (ports : List ℤ) (a : PortAllocator)
    (status : Status) : Moves status (unexpected message w ports a status).2.2 := by
  unfold unexpected
  split
  · exact .refl _
  · rename_i happly
    exact moves_of_apply (by nofun) happly

theorem moves_raiseAfter (hu : u.phase ≠ .completed) (raised : Raised) (write : ℕ → Write)
    (ports : List ℤ) (a : PortAllocator) (status : Status) :
    Moves status (raiseAfter u raised write ports a status).2.2 := by
  unfold raiseAfter
  split
  · exact moves_unexpected ..
  · rename_i happly
    exact moves_of_apply hu happly

theorem moves_createAllocated (spec : Spec) (ans : StartAnswers) (ports : List ℤ)
    (a : PortAllocator) (status : Status) :
    Moves status (createAllocated spec ans ports a status).2.2 := by
  unfold createAllocated
  dsimp only
  split_ifs
  · exact moves_raiseAfter (by nofun) ..
  · split
    · exact moves_unexpected ..
    · rename_i happly
      exact moves_of_apply (by nofun) happly

theorem moves_createStart (spec : Spec) (ans : StartAnswers) (a : PortAllocator)
    (status : Status) : Moves status (createStart spec ans a status).2.2 := by
  unfold createStart
  split
  · exact .refl _
  · exact .refl _
  · split
    · exact moves_unexpected ..
    · exact .refl _
    · exact moves_raiseAfter (by nofun) ..
    · split_ifs
      · exact moves_raiseAfter (by nofun) ..
      · split
        · exact moves_createAllocated ..
        · split
          · exact moves_raiseAfter (by nofun) ..
          · exact .refl _

theorem moves_createFinish (spec : Spec) (ports : List ℤ) (result : CreateResult)
    (write : ℕ → Write) (a : PortAllocator) (status : Status) :
    Moves status (createFinish spec ports result write a status).2.2 := by
  unfold createFinish
  cases result with
  | raises message => exact moves_unexpected ..
  | failure error =>
    dsimp only
    split
    · exact moves_unexpected ..
    · rename_i happly
      exact moves_of_apply (by nofun) happly
  | success startTime =>
    dsimp only
    split
    · exact moves_unexpected ..
    · rename_i happly
      exact moves_of_apply (by nofun) happly

/-- Ports come on record together with a phase. -/
def TrafficTest.Phased (test : TrafficTest) : Prop :=
  test.status.recorded ≠ [] → test.status.phase.isSome = true

theorem Moves.phased (h : Moves test.status test'.status) (hphased : test.Phased) :
    test'.Phased := by
  intro hports
  rcases h with h | ⟨phase, hphase, -⟩
  · rw [h] at hports ⊢
    exact hphased hports
  · rw [hphase]
    rfl

/-- The tests stay, with their specs, or go. -/
def MovesTests (tests tests' : Tests) : Prop :=
  ∀ ref test', tests'.lookup ref = some test' → ∃ test, tests.lookup ref = some test ∧
    test'.spec = test.spec ∧ Moves test.status test'.status

theorem MovesTests.refl (tests : Tests) : MovesTests tests tests :=
  fun _ test' h => ⟨test', h, rfl, .refl _⟩

theorem MovesTests.trans {tests'' : Tests} (h : MovesTests tests tests')
    (h' : MovesTests tests' tests'') : MovesTests tests tests'' := by
  intro ref test'' htest''
  obtain ⟨test', htest', hspec', hmoves'⟩ := h' ref test'' htest''
  obtain ⟨test, htest, hspec, hmoves⟩ := h ref test' htest'
  exact ⟨test, htest, hspec'.trans hspec, hmoves.trans hmoves'⟩

theorem movesTests_insert (hlookup : tests.lookup ref = some test)
    (hmoves : Moves test.status status') :
    MovesTests tests (tests.insert ref { test with status := status' }) := by
  intro r test' htest'
  rcases lookup_insert_cases htest' with ⟨rfl, rfl⟩ | ⟨-, htest'⟩
  · exact ⟨test, hlookup, rfl, hmoves⟩
  · exact ⟨test', htest', rfl, .refl _⟩

theorem movesTests_erase (tests : Tests) (ref : Ref) : MovesTests tests (tests.erase ref) := by
  intro r test' htest'
  have hne : r ≠ ref := by
    rintro rfl
    rw [AList.lookup_erase] at htest'
    cases htest'
  rw [AList.lookup_erase_ne hne] at htest'
  exact ⟨test', htest', rfl, .refl _⟩

/-- A restart never finds ports on record without a phase, so that it completes nothing. -/
theorem setupTest_phase {setup : SetupAnswers} {a : PortAllocator} (hphased : test.Phased)
    (hu : u ∈ (setupTest setup ref test a).2) : u.phase ≠ .completed := by
  unfold setupTest at hu
  dsimp only at hu
  split_ifs at hu with hphase hports
  · cases hu
  · exact absurd (hphased hports) hphase
  · exact absurd (hphased hports) hphase
  · cases hu
    nofun
  · cases hu

theorem movesTests_setupLoop (setup : SetupAnswers) (a : PortAllocator) {items : List Item}
    (hphased : ∀ item ∈ items, item.2.Phased)
    (hlookup : ∀ item ∈ items, tests.lookup item.1 = some item.2)
    (hnodup : (items.map Sigma.fst).Nodup) :
    MovesTests tests (setupLoop setup items (a, tests)).2 := by
  induction items generalizing a tests with
  | nil => exact .refl tests
  | cons item items ih =>
    obtain ⟨ref, test⟩ := item
    rw [List.forall_mem_cons] at hphased hlookup
    obtain ⟨hfresh, hnodup⟩ := List.nodup_cons.mp hnodup
    unfold setupLoop
    split
    · exact ih _ hphased.2 hlookup.2 hnodup
    · rename_i a' u hresult
      split
      · exact .refl tests
      · rename_i status' happly
        have hu : u.phase ≠ .completed := setupTest_phase hphased.1 (by rw [hresult]; rfl)
        refine (movesTests_insert hlookup.1 (moves_of_apply hu happly)).trans
          (ih _ hphased.2 (fun item hitem => ?_) hnodup)
        have hne : item.1 ≠ ref := fun heq => hfresh (List.mem_map.mpr ⟨item, hitem, heq⟩)
        rw [AList.lookup_insert_ne hne]
        exact hlookup.2 item hitem

/-- Every test has a phase that has ports on record. -/
def State.Phased (s : State) : Prop := ∀ ref test, s.tests.lookup ref = some test → test.Phased

theorem movesTests_restart (h : s.Phased) (listed : Bool) (setup : SetupAnswers) :
    MovesTests s.tests (s.restart listed setup).tests := by
  show MovesTests s.tests (initialSetup listed setup s.tests).2
  unfold initialSetup
  split_ifs
  · have hlookup : ∀ item ∈ s.tests.entries, s.tests.lookup item.1 = some item.2 :=
      fun item hitem => AList.mem_lookup_iff.mpr hitem
    exact movesTests_setupLoop setup .empty (fun item hitem => h _ _ (hlookup item hitem)) hlookup
      s.tests.nodupKeys
  · exact .refl s.tests

/-- The event can take place: a restart reads the clock, and only timers complete a test. -/
def Event.Timely (now : ℤ) : Event → Prop
  | .markCompleted .. => False
  | .restart _ ans => ans.now = now
  | _ => True

instance (now : ℤ) : ∀ e : Event, Decidable (e.Timely now)
  | .markCompleted .. => isFalse id
  | .restart _ ans => inferInstanceAs (Decidable (ans.now = now))
  | .create .. | .createStart .. | .createFinish .. | .deleteStart .. | .deleteFinish .. =>
    isTrue trivial

/-- What a handler makes of the tests: it creates one, or moves those that there are. -/
theorem moves_step (h : s.Phased) {e : Event} {now : ℤ} (he : e.Timely now)
    (hstep : step s e = some s') :
    MovesTests s.tests s'.tests ∨ ∃ ref spec, s.tests.lookup ref = none ∧
      s'.tests = s.tests.insert ref { spec := spec } := by
  cases e with
  | create ref spec =>
    change s.create ref spec = some s' at hstep
    unfold State.create at hstep
    split at hstep
    · rename_i hlookup
      obtain rfl := Option.some.inj hstep
      exact .inr ⟨ref, spec, hlookup, rfl⟩
    · cases hstep
  | createStart ref ans =>
    change s.createStart ref ans = some s' at hstep
    unfold State.createStart at hstep
    split at hstep
    · rename_i test hlookup _
      obtain rfl := Option.some.inj hstep
      exact .inl (movesTests_insert hlookup (moves_createStart ..))
    · cases hstep
  | createFinish ref result write =>
    change s.createFinish ref result write = some s' at hstep
    unfold State.createFinish at hstep
    split at hstep
    · rename_i test ports hlookup _
      obtain rfl := Option.some.inj hstep
      exact .inl (movesTests_insert hlookup (moves_createFinish ..))
    · cases hstep
  | deleteStart ref ans =>
    change s.deleteStart ref ans = some s' at hstep
    unfold State.deleteStart at hstep
    split at hstep
    · split at hstep
      · obtain rfl := Option.some.inj hstep
        exact .inl (.refl _)
      · obtain rfl := Option.some.inj hstep
        exact .inl (movesTests_erase _ _)
      · obtain rfl := Option.some.inj hstep
        exact .inl (.refl _)
    · cases hstep
  | deleteFinish ref result =>
    change s.deleteFinish ref result = some s' at hstep
    unfold State.deleteFinish at hstep
    split at hstep
    · obtain rfl := Option.some.inj hstep
      dsimp only
      split_ifs
      · exact .inl (.refl _)
      · exact .inl (movesTests_erase _ _)
    · cases hstep
  | markCompleted ref endTime write => exact he.elim
  | restart listed ans =>
    obtain rfl := Option.some.inj hstep
    exact .inl (movesTests_restart h listed ans)

/-! ## Timers -/

/-- A `mark_completed_after` that sleeps. It was armed for the `epoch`-th test of its name. -/
structure Timer where
  ref : Ref
  due : ℤ
  epoch : ℕ

/-- The system with its clock, in microseconds, and with the timers of the process. For each name
it is known how often a test began anew, by its creation or by being marked Failed, and when flows
were first started since. -/
structure Timed where
  state : State
  now : ℤ
  timers : List Timer
  epoch : Ref → ℕ
  started : Ref → Option ℤ

def Timed.initial : Timed where
  state := .initial
  now := 0
  timers := []
  epoch _ := 0
  started _ := none

inductive TimedEvent where
  | elapse (microseconds : ℕ)
  | handle (event : Event)
  | fire (timer : ℕ) (endTime : String) (write : Write)

def Spec.microseconds (spec : Spec) : ℤ := spec.duration.getD 60 * 1000000

/-- The name got a new test, or its test was marked Failed. -/
def Renewed (tests tests' : Tests) (ref : Ref) : Prop :=
  match tests.lookup ref, tests'.lookup ref with
  | none, some _ => True
  | some test, some test' => test'.status.phase = some .failed ∧ test'.status ≠ test.status
  | _, none => False

instance (tests tests' : Tests) (ref : Ref) : Decidable (Renewed tests tests' ref) := by
  unfold Renewed
  split <;> infer_instance

/-- The timer that `initial_setup` arms for a test, with the seconds that are left. -/
def rearmed (ans : SetupAnswers) (item : Item) : Option (Ref × ℤ) :=
  let creation := (ans.creationTimestamp item.1).getD ans.now
  let expectedEnd := creation + item.2.spec.microseconds
  if item.2.status.phase = none ∧ item.2.status.recorded ≠ [] ∧ ans.now < expectedEnd then
    some (item.1, (expectedEnd - ans.now) / 1000000 * 1000000)
  else none

/-- The timer that the create handler arms when it succeeds. -/
def armedByCreate (s : State) (ref : Ref) (result : CreateResult) (write : ℕ → Write) :
    List (Ref × ℤ) :=
  match s.tests.lookup ref, s.handlers ref with
  | some test, some (.creating ports) =>
    if (createFinish test.spec ports result write s.allocator test.status).1.isNone then
      [(ref, test.spec.microseconds)]
    else []
  | _, _ => []

/-- The timers that `initial_setup` arms. -/
def armedByRestart (s : State) (listed : Bool) (ans : SetupAnswers) : List (Ref × ℤ) :=
  if listed then (setupVisited ans s.tests.entries).filterMap (rearmed ans) else []

/-- The timers that an event arms, with the time for which they sleep. -/
def armed (s : State) : Event → List (Ref × ℤ)
  | .createFinish ref result write => armedByCreate s ref result write
  | .restart listed ans => armedByRestart s listed ans
  | _ => []

/-- The event ends a call of `create_traffic_test` that has started the flows. -/
def Event.Starts (ref : Ref) : Event → Prop
  | .createFinish ref' (.success _) _ => ref' = ref
  | _ => False

instance Event.decidableStarts (ref : Ref) : ∀ e : Event, Decidable (e.Starts ref)
  | .createFinish ref' (.success _) _ => inferInstanceAs (Decidable (ref' = ref))
  | .createFinish _ (.failure _) _ | .createFinish _ (.raises _) _ | .create .. | .createStart ..
  | .deleteStart .. | .deleteFinish .. | .markCompleted .. | .restart .. => isFalse id

/-- The timers of a process end with it. -/
def Event.keepsTimers : Event → Bool
  | .restart .. => false
  | _ => true

namespace Timed

/-- The system after an event of a handler that has led to the state. -/
def after (s : Timed) (e : Event) (state : State) : Timed :=
  let epoch := fun ref =>
    if Renewed s.state.tests state.tests ref then s.epoch ref + 1 else s.epoch ref
  { state := state
    now := s.now
    timers := (if e.keepsTimers then s.timers else []) ++
      (armed s.state e).map fun timer => ⟨timer.1, s.now + timer.2, epoch timer.1⟩
    epoch := epoch
    started := fun ref =>
      if Renewed s.state.tests state.tests ref then none
      else if e.Starts ref then s.started ref <|> some s.now
      else s.started ref }

def handle (s : Timed) (e : Event) : Option Timed :=
  if e.Timely s.now then (Traffic.step s.state e).map (s.after e) else none

/-- A timer that is due writes to whatever test has the name, if there is one. -/
def fire (s : Timed) (i : ℕ) (endTime : String) (write : Write) : Option Timed :=
  match s.timers[i]? with
  | some timer =>
    if timer.due ≤ s.now then
      some { s with
        state := (s.state.markCompleted timer.ref endTime write).getD s.state
        timers := s.timers.eraseIdx i }
    else none
  | none => none

def step (s : Timed) : TimedEvent → Option Timed
  | .elapse microseconds => some { s with now := s.now + microseconds }
  | .handle e => s.handle e
  | .fire i endTime write => s.fire i endTime write

end Timed

/-- Completed is written to a test of this name. -/
def Timed.Completes (s : Timed) (ref : Ref) : TimedEvent → Prop
  | .elapse _ => False
  | .handle e => e.Timely s.now ∧ ∃ state test', Traffic.step s.state e = some state ∧
      state.tests.lookup ref = some test' ∧ s.state.tests.lookup ref ≠ some test' ∧
      test'.status.phase = some .completed
  | .fire i _ write => ∃ timer now, s.timers[i]? = some timer ∧ timer.due ≤ s.now ∧
      timer.ref = ref ∧ write = .done now ∧ (s.state.tests.lookup ref).isSome = true

/-- The flows of the test were started at least its duration earlier, and it has not been marked
Failed since. -/
def Timed.Earned (s : Timed) (ref : Ref) : Prop :=
  ∃ test t, s.state.tests.lookup ref = some test ∧ s.started ref = some t ∧
    t + test.spec.microseconds ≤ s.now

/-- Completed is written only where it is earned. -/
def CompletesEarned (s : Timed) (e : TimedEvent) : Prop := ∀ ref, s.Completes ref e → s.Earned ref

/-- No timer writes to another test than the one that it was armed for, nor to that one when it
has been marked Failed since. -/
def Current (s : Timed) : TimedEvent → Prop
  | .fire i _ (.done _) => ∀ timer ∈ s.timers[i]?,
      (s.state.tests.lookup timer.ref).isSome = true → timer.epoch = s.epoch timer.ref
  | _ => True

/-! ## What timers wait for -/

section Timers

variable {e : Event} {timer : Ref × ℤ} {now : ℤ}

theorem renewed_of_insert {status' : Status} (hlookup : tests.lookup ref = some test) :
    Renewed tests (tests.insert ref { test with status := status' }) ref ↔
      status'.phase = some .failed ∧ status' ≠ test.status := by
  unfold Renewed
  rw [hlookup, AList.lookup_insert]

/-- Where the create handler succeeds, the test runs. -/
theorem createFinish_none {spec : Spec} {ports : List ℤ} {result : CreateResult}
    {write : ℕ → Write} {a : PortAllocator}
    (h : (createFinish spec ports result write a status).1 = none) :
    (∃ startTime, result = .success startTime) ∧
      ((createFinish spec ports result write a status).2.2 = status ∨
        (createFinish spec ports result write a status).2.2.phase = some .running) := by
  unfold createFinish at h ⊢
  cases result with
  | raises message => cases h
  | failure error =>
    dsimp only at h
    split at h <;> cases h
  | success startTime =>
    refine ⟨⟨startTime, rfl⟩, ?_⟩
    dsimp only at h ⊢
    split at h
    · cases h
    · rename_i happly
      rcases apply_ok happly with ⟨now, -, rfl⟩ | ⟨-, rfl⟩
      · exact .inr rfl
      · exact .inl rfl

theorem rearmed_eq_none {setup : SetupAnswers} {item : Item} (h : item.2.Phased) :
    rearmed setup item = none := by
  unfold rearmed
  rw [if_neg]
  rintro ⟨hphase, hports, -⟩
  have hsome := h hports
  rw [hphase] at hsome
  cases hsome

/-- A timer is armed when the flows of its test have been started, for the duration of the test. -/
theorem armed_spec (h : s.Phased) (harmed : timer ∈ armed s e) (hstep : step s e = some s') :
    e.Starts timer.1 ∧ ¬Renewed s.tests s'.tests timer.1 ∧
      ∀ test', s'.tests.lookup timer.1 = some test' → test'.spec.microseconds = timer.2 := by
  cases e with
  | createFinish ref result write =>
    change timer ∈ armedByCreate s ref result write at harmed
    unfold armedByCreate at harmed
    split at harmed
    · rename_i test ports hlookup hcreating
      split_ifs at harmed with hnone
      · obtain rfl := List.mem_singleton.mp harmed
        obtain ⟨⟨startTime, rfl⟩, hstatus⟩ := createFinish_none (Option.isNone_iff_eq_none.mp hnone)
        change s.createFinish ref (.success startTime) write = some s' at hstep
        unfold State.createFinish at hstep
        rw [hlookup, hcreating] at hstep
        obtain rfl := Option.some.inj hstep
        refine ⟨rfl, fun hrenewed => ?_, fun test' htest' => ?_⟩
        · obtain ⟨hfailed, hne⟩ := (renewed_of_insert hlookup).mp hrenewed
          rcases hstatus with hsame | hrunning
          · exact hne hsame
          · exact absurd (hrunning.symm.trans hfailed) (by nofun)
        · rw [AList.lookup_insert] at htest'
          obtain rfl := Option.some.inj htest'
          rfl
      · cases harmed
    · cases harmed
  | restart listed ans =>
    change timer ∈ armedByRestart s listed ans at harmed
    unfold armedByRestart at harmed
    split_ifs at harmed
    · obtain ⟨item, hitem, hsome⟩ := List.mem_filterMap.mp harmed
      have hlookup : s.tests.lookup item.1 = some item.2 :=
        AList.mem_lookup_iff.mpr (setupVisited_subset ans _ hitem)
      rw [rearmed_eq_none (h _ _ hlookup)] at hsome
      cases hsome
    · cases harmed
  | create ref spec => cases harmed
  | createStart ref ans => cases harmed
  | deleteStart ref ans => cases harmed
  | deleteFinish ref result => cases harmed
  | markCompleted ref endTime write => cases harmed

/-- A test that is not renewed was there, with its spec. -/
theorem spec_of_not_renewed (h : s.Phased) (he : e.Timely now) (hstep : step s e = some s')
    (hrenewed : ¬Renewed s.tests s'.tests ref) (htest' : s'.tests.lookup ref = some test') :
    ∃ test, s.tests.lookup ref = some test ∧ test'.spec = test.spec := by
  rcases moves_step h he hstep with hmoves | ⟨ref', spec, hnone, hinsert⟩
  · obtain ⟨test, htest, hspec, -⟩ := hmoves ref test' htest'
    exact ⟨test, htest, hspec⟩
  · rw [hinsert] at htest'
    rcases lookup_insert_cases htest' with ⟨rfl, -⟩ | ⟨-, htest'⟩
    · refine absurd ?_ hrenewed
      unfold Renewed
      rw [hnone, hinsert, AList.lookup_insert]
      trivial
    · exact ⟨test', htest', rfl⟩

end Timers

/-! ## The invariant -/

/-- A timer of the present epoch of its name is due when the flows have had their time. -/
structure Timed.Backed (s : Timed) : Prop where
  phased : s.state.Phased
  started_le : ∀ ref t, s.started ref = some t → t ≤ s.now
  epoch_le : ∀ timer ∈ s.timers, timer.epoch ≤ s.epoch timer.ref
  due : ∀ timer ∈ s.timers, timer.epoch = s.epoch timer.ref →
    ∃ t, s.started timer.ref = some t ∧ ∀ test, s.state.tests.lookup timer.ref = some test →
      t + test.spec.microseconds ≤ timer.due

theorem backed_initial : Timed.initial.Backed where
  phased _ _ h := by cases h
  started_le _ _ h := by cases h
  epoch_le _ h := by cases h
  due _ h := by cases h

section Steps

variable {t t' : Timed} {e : Event} {now : ℤ}

theorem phased_step (h : s.Phased) (he : e.Timely now) (hstep : step s e = some s') :
    s'.Phased := by
  intro ref test' htest'
  rcases moves_step h he hstep with hmoves | ⟨ref', spec, -, hinsert⟩
  · obtain ⟨test, htest, -, hmoves⟩ := hmoves ref test' htest'
    exact hmoves.phased (h ref test htest)
  · rw [hinsert] at htest'
    rcases lookup_insert_cases htest' with ⟨-, rfl⟩ | ⟨-, htest'⟩
    · exact fun hports => absurd rfl hports
    · exact h ref test' htest'

theorem backed_elapse (h : t.Backed) (microseconds : ℕ) :
    Timed.Backed { t with now := t.now + microseconds } where
  phased := h.phased
  started_le ref t₀ ht₀ := (h.started_le ref t₀ ht₀).trans
    (Int.le_add_of_nonneg_right (Int.natCast_nonneg microseconds))
  epoch_le := h.epoch_le
  due := h.due

theorem epoch_le_after (ref : Ref) (state : State) : t.epoch ref ≤ (t.after e state).epoch ref := by
  show _ ≤ if _ then _ else _
  split_ifs
  · exact Nat.le_succ _
  · exact le_rfl

theorem mem_timers_after {state : State} {timer : Timer} (h : timer ∈ (t.after e state).timers) :
    timer ∈ t.timers ∨ ∃ new ∈ armed t.state e,
      timer = ⟨new.1, t.now + new.2, (t.after e state).epoch new.1⟩ := by
  rcases List.mem_append.mp h with hold | hnew
  · split_ifs at hold
    · exact .inl hold
    · cases hold
  · obtain ⟨new, harmed, rfl⟩ := List.mem_map.mp hnew
    exact .inr ⟨new, harmed, rfl⟩

theorem not_renewed_of_epoch {state : State} (h : (t.after e state).epoch ref ≤ t.epoch ref) :
    ¬Renewed t.state.tests state.tests ref := by
  intro hrenewed
  change (if _ then _ else _) ≤ _ at h
  rw [if_pos hrenewed] at h
  omega

/-- Flows that have been started stay so unless the test begins anew. -/
theorem started_after {state : State} {t₀ : ℤ} (hrenewed : ¬Renewed t.state.tests state.tests ref)
    (h : t.started ref = some t₀) : (t.after e state).started ref = some t₀ := by
  show (if _ then _ else _) = _
  rw [if_neg hrenewed, h]
  split_ifs <;> rfl

theorem backed_handle (h : t.Backed) (he : e.Timely t.now) (hstep : step t.state e = some s') :
    (t.after e s').Backed := by
  have hphased := h.phased
  refine ⟨phased_step hphased he hstep, fun ref t₀ ht₀ => ?_, fun timer htimer => ?_,
    fun timer htimer hepoch => ?_⟩
  · change (if _ then _ else _) = _ at ht₀
    split_ifs at ht₀
    · cases hstarted : t.started ref with
      | none =>
        rw [hstarted] at ht₀
        exact (Option.some.inj ht₀).ge
      | some t₁ =>
        rw [hstarted] at ht₀
        obtain rfl := Option.some.inj ht₀
        exact h.started_le ref t₁ hstarted
    · exact h.started_le ref t₀ ht₀
  · rcases mem_timers_after htimer with hold | ⟨new, -, rfl⟩
    · exact (h.epoch_le timer hold).trans (epoch_le_after timer.ref s')
    · exact le_rfl
  · rcases mem_timers_after htimer with hold | ⟨new, harmed, rfl⟩
    · have hle := h.epoch_le timer hold
      have hrenewed := not_renewed_of_epoch (hepoch ▸ hle)
      have hsame : timer.epoch = t.epoch timer.ref :=
        le_antisymm hle (hepoch ▸ epoch_le_after timer.ref s')
      obtain ⟨t₀, hstarted, hdue⟩ := h.due timer hold hsame
      refine ⟨t₀, started_after hrenewed hstarted, fun test' htest' => ?_⟩
      obtain ⟨test, htest, hspec⟩ := spec_of_not_renewed hphased he hstep hrenewed htest'
      rw [hspec]
      exact hdue test htest
    · obtain ⟨hstarts, hrenewed, hspec⟩ := armed_spec hphased harmed hstep
      obtain ⟨t₀, hstarted, hle⟩ : ∃ t₀, (t.after e s').started new.1 = some t₀ ∧ t₀ ≤ t.now := by
        cases hstarted : t.started new.1 with
        | none =>
          refine ⟨t.now, ?_, le_rfl⟩
          show (if _ then _ else _) = _
          rw [if_neg hrenewed, if_pos hstarts, hstarted]
          rfl
        | some t₁ => exact ⟨t₁, started_after hrenewed hstarted, h.started_le _ t₁ hstarted⟩
      refine ⟨t₀, hstarted, fun test' htest' => ?_⟩
      show t₀ + _ ≤ t.now + new.2
      rw [hspec test' htest']
      omega

/-- What a timer makes of the tests. -/
theorem markCompleted_spec {endTime : String} (h : s.Phased)
    (hlookup : ((s.markCompleted ref endTime w).getD s).tests.lookup ref' = some test') :
    test'.Phased ∧ ∃ test, s.tests.lookup ref' = some test ∧ test'.spec = test.spec := by
  have hkept : ∀ test', s.tests.lookup ref' = some test' →
      test'.Phased ∧ ∃ test, s.tests.lookup ref' = some test ∧ test'.spec = test.spec :=
    fun test' htest' => ⟨h ref' test' htest', test', htest', rfl⟩
  unfold State.markCompleted at hlookup
  split at hlookup
  · rename_i test htest
    split at hlookup
    · rename_i status happly
      rcases lookup_insert_cases hlookup with ⟨rfl, rfl⟩ | ⟨-, hlookup⟩
      · refine ⟨?_, test, htest, rfl⟩
        rcases apply_ok happly with ⟨now, -, rfl⟩ | ⟨-, rfl⟩
        · exact fun _ => rfl
        · exact h ref' test htest
      · exact hkept test' hlookup
    · exact hkept test' hlookup
  · exact hkept test' hlookup

theorem backed_fire {i : ℕ} {endTime : String} (h : t.Backed)
    (hstep : t.fire i endTime w = some t') : t'.Backed := by
  unfold Timed.fire at hstep
  split at hstep
  · split_ifs at hstep
    obtain rfl := Option.some.inj hstep
    refine ⟨fun ref' test' htest' => (markCompleted_spec h.phased htest').1, h.started_le,
      fun timer htimer => h.epoch_le timer (List.mem_of_mem_eraseIdx htimer),
      fun timer htimer hepoch => ?_⟩
    obtain ⟨t₀, hstarted, hdue⟩ := h.due timer (List.mem_of_mem_eraseIdx htimer) hepoch
    refine ⟨t₀, hstarted, fun test' htest' => ?_⟩
    obtain ⟨-, test, htest, hspec⟩ := markCompleted_spec h.phased htest'
    rw [hspec]
    exact hdue test htest
  · cases hstep

theorem backed_step (t : Timed) (e : TimedEvent) (t' : Timed) (h : t.Backed)
    (hstep : t.step e = some t') : t'.Backed := by
  cases e with
  | elapse microseconds =>
    obtain rfl := Option.some.inj hstep
    exact backed_elapse h microseconds
  | handle e =>
    change t.handle e = some t' at hstep
    unfold Timed.handle at hstep
    split_ifs at hstep with htimely
    obtain ⟨state, hstate, rfl⟩ := Option.map_eq_some_iff.mp hstep
    exact backed_handle h htimely hstate
  | fire i endTime write => exact backed_fire h hstep

/-- The handlers write Completed to no test, and a timer of the present epoch to one whose flows
have had their time. -/
theorem earned_step {e : TimedEvent} (h : t.Backed) (hcurrent : Current t e) :
    CompletesEarned t e := by
  intro ref hcompletes
  cases e with
  | elapse microseconds => exact hcompletes.elim
  | handle e =>
    obtain ⟨htimely, state, test', hstep, htest', hne, hphase⟩ := hcompletes
    rcases moves_step h.phased htimely hstep with hmoves | ⟨ref', spec, -, hinsert⟩
    · obtain ⟨test, htest, hspec, hmoves⟩ := hmoves ref test' htest'
      rcases hmoves with hsame | ⟨phase, hphase', hother⟩
      · obtain ⟨spec', status'⟩ := test'
        obtain rfl : spec' = _ := hspec
        obtain rfl : status' = _ := hsame
        exact absurd htest hne
      · rw [hphase'] at hphase
        exact absurd (Option.some.inj hphase) hother
    · rw [hinsert] at htest'
      rcases lookup_insert_cases htest' with ⟨-, rfl⟩ | ⟨-, htest'⟩
      · cases hphase
      · exact absurd htest' hne
  | fire i endTime write =>
    obtain ⟨timer, now, htimer, hle, rfl, rfl, hsome⟩ := hcompletes
    obtain ⟨test, htest⟩ := Option.isSome_iff_exists.mp hsome
    obtain ⟨t₀, hstarted, hdue⟩ := h.due timer (List.mem_of_getElem? htimer)
      (hcurrent timer htimer hsome)
    exact ⟨test, t₀, htest, hstarted, (hdue test htest).trans hle⟩

end Steps

/-- **Completed means completed.** In a run in which no timer outlives the test that it was armed
for, Completed is written only to a test whose flows were started at least its duration earlier
and that has not been marked Failed since. -/
theorem earned_of_current {events : List TimedEvent}
    (hcurrent : Throughout Timed.step Current .initial events) :
    Throughout Timed.step CompletesEarned .initial events :=
  hcurrent.imp (fun _ _ h hcurrent => earned_step h hcurrent)
    (fun t e t' h _ hstep => backed_step t e t' h hstep) backed_initial

/-! ### A test that is completed, and one that is not -/

/-- The test of `sampleTest` when its duration has passed. -/
def sampleTimed : List TimedEvent := sampleTest.map .handle ++
  [.elapse 60000000, .fire 0 "2025-01-01T00:01:10+00:00" (.done "2025-01-01T00:01:10+00:00")]

theorem sample_earned : Throughout Timed.step CompletesEarned .initial sampleTimed := by
  refine earned_of_current ?_
  refine .of_step trivial rfl (.of_step trivial rfl (.of_step trivial rfl (.of_step trivial rfl
    (.of_step (fun timer htimer _ => ?_) rfl throughout_nil))))
  obtain rfl := Option.some.inj htimer
  rfl

/-- The test is deleted, created again under its name, and started again 50 seconds later. -/
def recreated : List TimedEvent := sampleTest.map .handle ++
  [.handle (.deleteStart sampleRef ⟨.found "10.0.0.2", (sampleAnswers true).source,
      (sampleAnswers true).destination⟩),
    .handle (.deleteFinish sampleRef .success), .elapse 50000000] ++
  sampleTest.map .handle ++ [.elapse 10000000]

/-- The timer of the first test completes the second one 10 seconds after its start. -/
theorem recreated_not_earned : ¬∀ events : List TimedEvent,
    Throughout Timed.step CompletesEarned .initial events := by
  intro hall
  have hrun : run Timed.step .initial recreated = some _ := rfl
  have hearned := throughout_iff.mp (hall _) recreated
    (.fire 0 "2025-01-01T00:01:10+00:00" (.done "2025-01-01T00:01:10+00:00")) [] _ rfl hrun
    sampleRef ⟨_, _, rfl, by decide, rfl, rfl, rfl⟩
  obtain ⟨test, t, htest, hstarted, hle⟩ := hearned
  obtain rfl := Option.some.inj htest
  obtain rfl := Option.some.inj hstarted
  exact absurd hle (by decide)

end GnnSandbox.Operator.Traffic
