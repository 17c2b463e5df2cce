import GnnSandbox.Operator.PortsOnRecord

/-!
# Ports of different tests

The flows of a test start on the ports of its attempt while the create handler waits for the
agents, and they end by themselves or with the deletion. The allocator does not know them: a port
is shared when it is freed, or forgotten by a restart, while a flow still runs on it.
-/

namespace GnnSandbox.Operator.Traffic

open PortAllocator Transition

/-- The operator with the ports of the flows that have started and not stopped. -/
structure Deployment where
  state : State
  flows : Ref → List ℤ

inductive FlowEvent where
  | handler (e : Event)
  | startFlow (ref : Ref) (port : ℤ)
  | stopFlow (ref : Ref) (port : ℤ)

namespace Deployment

def initial : Deployment := ⟨.initial, fun _ => []⟩

/-- The flows of tests that exist after a step of the operator. -/
def after (m : Deployment) (s : State) : Deployment where
  state := s
  flows ref := if (s.tests.lookup ref).isSome then m.flows ref else []

/-- A flow starts on a port of the attempt that waits for the agents. -/
def startFlow (m : Deployment) (ref : Ref) (port : ℤ) : Option Deployment :=
  match m.state.handlers ref with
  | some (.creating ports) =>
    if port ∈ ports then
      some { m with flows := Function.update m.flows ref (port :: m.flows ref) }
    else none
  | _ => none

def stopFlow (m : Deployment) (ref : Ref) (port : ℤ) : Deployment :=
  { m with flows := Function.update m.flows ref ((m.flows ref).erase port) }

def step (m : Deployment) : FlowEvent → Option Deployment
  | .handler e => (Traffic.step m.state e).map m.after
  | .startFlow ref port => m.startFlow ref port
  | .stopFlow ref port => some (m.stopFlow ref port)

/-- No two tests have flows on a common port. -/
def Apart (m : Deployment) : Prop :=
  ∀ ref ref' port, port ∈ m.flows ref → port ∈ m.flows ref' → ref = ref'

/-- A port that becomes free is not allocated to a test, on record or for an attempt. -/
def FreesOwn (m : Deployment) (e : FlowEvent) : Prop :=
  ∀ m', m.step e = some m' → ∀ port ∈ m.state.allocator.busyPorts,
    port ∉ m'.state.allocator.busyPorts →
      ∀ ref, port ∉ m'.state.recorded ref ∧ port ∉ m'.state.attempted ref

/-- An attempt frees its ports when no flow of its test runs on them, and a restart marks every
record and finds no flow outside of the records. -/
def Quiet (m : Deployment) : FlowEvent → Prop
  | .handler (.createFinish ref result write) =>
    result.Frees write → ∀ port ∈ m.state.attempted ref, port ∉ m.flows ref
  | .handler (.restart listed ans) =>
    m.state.MarksAll listed ans ∧ ∀ ref, ∀ port ∈ m.flows ref, port ∈ m.state.recorded ref
  | _ => True

/-! ## What a test owns -/

/-- The ports on record for a test, those of its attempt and those of its flows. -/
def owned (m : Deployment) (ref : Ref) : Set ℤ :=
  {port | port ∈ m.state.recorded ref ∨ port ∈ m.state.attempted ref ∨ port ∈ m.flows ref}

/-- Ports that a test owns are busy, and no other test owns them. -/
structure Owned (m : Deployment) : Prop where
  covered : Covered m.state.allocator.busyPorts m.owned
  apart : ∀ ref, ∀ port ∈ m.state.recorded ref, port ∉ m.state.attempted ref
  valid : ∀ port ∈ m.state.allocator.busyPorts, isValidIdx (getIdx port) = true
  sound : ∀ ref test, m.state.tests.lookup ref = some test → test.Sound
  creating : ∀ ref ports, m.state.handlers ref = some (.creating ports) →
    ∃ test, m.state.tests.lookup ref = some test ∧ test.spec.sourceDevices ≠ []
  deleting : ∀ ref ports, m.state.handlers ref = some (.deleting ports) →
    ports = m.state.recorded ref

variable {m m' : Deployment} {s : State} {ref : Ref} {test : TrafficTest} {tests : Tests}
  {ports : List ℤ} {a : PortAllocator} {e : FlowEvent}

theorem flows_after (m : Deployment) (s : State) (ref : Ref) :
    (m.after s).flows ref ⊆ m.flows ref := by
  unfold after
  dsimp only
  split_ifs
  · exact fun _ h => h
  · exact List.nil_subset _

theorem Owned.valid_recorded (h : m.Owned) (ref : Ref) : Valid (m.state.recorded ref) :=
  fun port hport => h.valid port (h.covered.held_subset ref (.inl hport))

theorem Owned.valid_attempted (h : m.Owned) (ref : Ref) : Valid (m.state.attempted ref) :=
  fun port hport => h.valid port (h.covered.held_subset ref (.inr (.inl hport)))

theorem Owned.apart_of_owned (h : m.Owned) : m.Apart :=
  fun _ _ _ hport hport' => h.covered.unique (.inr (.inr hport)) (.inr (.inr hport'))

/-- Ports that are owned after a step are not free after it. -/
theorem Owned.freesOwn (h : ∀ m', m.step e = some m' → m'.Owned) : m.FreesOwn e := by
  intro m' hstep port _ hfree ref
  have hcovered := (h m' hstep).covered.held_subset ref
  exact ⟨fun hport => hfree (hcovered (.inl hport)), fun hport => hfree (hcovered (.inr (.inl hport)))⟩

theorem owned_initial : initial.Owned where
  covered := by
    refine ⟨fun ref port hport => ?_, fun {port ref ref'} hport => ?_⟩ <;>
      rcases hport with hport | hport | hport <;> cases hport
  apart ref port hport := by cases hport
  valid port hport := by cases hport
  sound ref test h := by cases h
  creating ref ports h := by cases h
  deleting ref ports h := by cases h

/-! ## Steps of the operator that keep the records -/

theorem attempted_update_of_ne {handler : Option Handler} {r : Ref} (hne : r ≠ ref) :
    Handler.attempted (Function.update m.state.handlers ref handler r) = m.state.attempted r := by
  rw [Function.update_of_ne hne]
  rfl

theorem owned_keepsTests {tests' : Tests} {handler : Option Handler} {r : Ref}
    (hkeeps : KeepsTests m.state.tests tests') (hne : r ≠ ref) :
    (m.after ⟨tests', a, Function.update m.state.handlers ref handler⟩).owned r ⊆ m.owned r := by
  rintro port (hport | hport | hport)
  · change port ∈ recordedOf tests' r at hport
    rw [hkeeps.recorded] at hport
    exact .inl hport
  · change port ∈ Handler.attempted (Function.update m.state.handlers ref handler r) at hport
    rw [attempted_update_of_ne hne] at hport
    exact .inr (.inl hport)
  · exact .inr (.inr (flows_after m _ r hport))

theorem owned_keepsTests_self {tests' : Tests} {handler : Option Handler}
    (hkeeps : KeepsTests m.state.tests tests') :
    (m.after ⟨tests', a, Function.update m.state.handlers ref handler⟩).owned ref ⊆
      m.owned ref ∪ {port | port ∈ Handler.attempted handler} := by
  rintro port (hport | hport | hport)
  · change port ∈ recordedOf tests' ref at hport
    rw [hkeeps.recorded] at hport
    exact .inl (.inl hport)
  · change port ∈ Handler.attempted (Function.update m.state.handlers ref handler ref) at hport
    rw [Function.update_self] at hport
    exact .inr hport
  · exact .inl (.inr (.inr (flows_after m _ ref hport)))

/-- A step that keeps the records and changes one handler. -/
theorem Owned.of_keepsTests {tests' : Tests} (h : m.Owned) (ref : Ref) (handler : Option Handler)
    (hkeeps : KeepsTests m.state.tests tests')
    (hcovered : Covered a.busyPorts
      (m.after ⟨tests', a, Function.update m.state.handlers ref handler⟩).owned)
    (hvalid : ∀ port ∈ a.busyPorts, isValidIdx (getIdx port) = true)
    (hapart : ∀ port ∈ m.state.recorded ref, port ∉ Handler.attempted handler)
    (hcreating : ∀ ports, handler = some (.creating ports) →
      ∃ test, m.state.tests.lookup ref = some test ∧ test.spec.sourceDevices ≠ [])
    (hdeleting : ∀ ports, handler = some (.deleting ports) → ports = m.state.recorded ref) :
    (m.after ⟨tests', a, Function.update m.state.handlers ref handler⟩).Owned where
  covered := hcovered
  apart r port hport := by
    change port ∈ recordedOf tests' r at hport
    rw [hkeeps.recorded] at hport
    change port ∉ Handler.attempted (Function.update m.state.handlers ref handler r)
    rcases eq_or_ne r ref with rfl | hne
    · rw [Function.update_self]
      exact hapart port hport
    · rw [attempted_update_of_ne hne]
      exact h.apart r port hport
  valid := hvalid
  sound := hkeeps.sound h.sound
  creating r ports hr := by
    have hold : ∃ test, m.state.tests.lookup r = some test ∧ test.spec.sourceDevices ≠ [] := by
      rcases eq_or_ne r ref with rfl | hne
      · exact hcreating ports (by simpa [after] using hr)
      · exact h.creating r ports (by simpa [after, hne] using hr)
    obtain ⟨test, hlookup, hsources⟩ := hold
    obtain ⟨test', hlookup', hspec⟩ := hkeeps.spec r test hlookup
    exact ⟨test', hlookup', hspec ▸ hsources⟩
  deleting r ports hr := by
    change ports = recordedOf tests' r
    rw [hkeeps.recorded]
    rcases eq_or_ne r ref with rfl | hne
    · exact hdeleting ports (by simpa [after] using hr)
    · exact h.deleting r ports (by simpa [after, hne] using hr)

/-- A step that keeps the records, the busy ports and the attempts, but for one that it may end. -/
theorem Owned.of_idle {tests' : Tests} (h : m.Owned) (ref : Ref)
    (hkeeps : KeepsTests m.state.tests tests')
    (hbusy : m.state.allocator.busyPorts ⊆ a.busyPorts)
    (hvalid : ∀ port ∈ a.busyPorts, isValidIdx (getIdx port) = true) :
    (m.after ⟨tests', a, Function.update m.state.handlers ref none⟩).Owned := by
  refine h.of_keepsTests ref none hkeeps (h.covered.mono hbusy fun r => ?_) hvalid
    (fun _ _ => List.not_mem_nil) (fun _ hc => nomatch hc) (fun _ hc => nomatch hc)
  rcases eq_or_ne r ref with rfl | hne
  · refine (owned_keepsTests_self hkeeps).trans (Set.union_subset subset_rfl fun port hport => ?_)
    exact absurd hport List.not_mem_nil
  · exact owned_keepsTests hkeeps hne

theorem owned_createStart {ans : StartAnswers} (h : m.Owned)
    (hstep : m.state.createStart ref ans = some s) : (m.after s).Owned := by
  obtain ⟨test, hlookup, hidle⟩ : ∃ test,
      m.state.tests.lookup ref = some test ∧ m.state.handlers ref = none := by
    unfold State.createStart at hstep
    split at hstep
    · exact ⟨_, ‹_›, ‹_›⟩
    · cases hstep
  obtain ⟨hleaves, hkeeps⟩ := createStart_cases test.spec ans m.state.allocator test.status
  unfold State.createStart at hstep
  rw [hlookup, hidle] at hstep
  dsimp only at hstep
  obtain rfl := Option.some.inj hstep
  have htests := keepsTests_insert hlookup hkeeps
  generalize Traffic.createStart test.spec ans m.state.allocator test.status = result at *
  cases hleaves with
  | untouched raised status => exact h.of_idle ref htests subset_rfl h.valid
  | @waiting ports a' devices status halloc hsources =>
    have hgrants := grants_of_alloc halloc
    have hvalid : ∀ port ∈ a'.busyPorts, isValidIdx (getIdx port) = true := by
      rw [hgrants.busy]
      rintro port (hport | hport)
      · exact h.valid port hport
      · exact hgrants.valid port hport
    refine h.of_keepsTests ref _ htests ?_ hvalid (fun port hport hnew => ?_)
      (fun _ _ => ⟨test, hlookup, hsources⟩) (fun _ hc => nomatch hc)
    · rw [hgrants.busy]
      exact h.covered.take hgrants.free (owned_keepsTests_self htests)
        fun r hne => owned_keepsTests htests hne
    · exact Set.disjoint_left.mp hgrants.free hnew (h.covered.held_subset ref (.inl hport))
  | @freed ports a' raised status halloc =>
    have hbusy := busyPorts_free_grants (grants_of_alloc halloc)
    exact h.of_idle ref htests hbusy.ge (hbusy ▸ h.valid)
  | @leaked ports a' raised status halloc hgets hsettles =>
    have hgrants := grants_of_alloc halloc
    refine h.of_idle ref htests (hgrants.busy ▸ Set.subset_union_left) ?_
    rw [hgrants.busy]
    rintro port (hport | hport)
    · exact h.valid port hport
    · exact hgrants.valid port hport

/-- The start of a test goes on record. -/
theorem Owned.of_recorded {status' : Status} (h : m.Owned)
    (hlookup : m.state.tests.lookup ref = some test)
    (hcreating : m.state.handlers ref = some (.creating ports))
    (hrecorded : status'.recorded = ports) (hphase : status'.phase.isSome = true) :
    (m.after ⟨m.state.tests.insert ref { test with status := status' }, m.state.allocator,
      Function.update m.state.handlers ref none⟩).Owned := by
  obtain ⟨test', hlookup', hsources⟩ := h.creating ref ports hcreating
  obtain rfl := Option.some.inj (hlookup.symm.trans hlookup')
  have hports := State.attempted_of_creating hcreating
  have hrec : recordedOf (m.state.tests.insert ref { test with status := status' }) =
      Function.update m.state.recorded ref ports := by
    rw [recordedOf_insert]
    exact congrArg (Function.update _ ref) hrecorded
  have hattempted : ∀ r, Handler.attempted (Function.update m.state.handlers ref none r) =
      if r = ref then [] else m.state.attempted r := by
    intro r
    split_ifs with hr
    · rw [hr, Function.update_self]
      rfl
    · exact attempted_update_of_ne hr
  constructor
  · refine h.covered.mono subset_rfl fun r port hport => ?_
    rcases hport with hport | hport | hport
    · change port ∈ recordedOf (m.state.tests.insert ref _) r at hport
      rw [hrec] at hport
      rcases eq_or_ne r ref with rfl | hne
      · rw [Function.update_self, ← hports] at hport
        exact .inr (.inl hport)
      · rw [Function.update_of_ne hne] at hport
        exact .inl hport
    · change port ∈ Handler.attempted (Function.update m.state.handlers ref none r) at hport
      rw [hattempted] at hport
      split_ifs at hport
      · cases hport
      · exact .inr (.inl hport)
    · exact .inr (.inr (flows_after m _ r hport))
  · intro r port hport hattempt
    change port ∈ recordedOf (m.state.tests.insert ref _) r at hport
    change port ∈ Handler.attempted (Function.update m.state.handlers ref none r) at hattempt
    rw [hattempted] at hattempt
    split_ifs at hattempt with hr
    · cases hattempt
    · rw [hrec, Function.update_of_ne hr] at hport
      exact h.apart r port hport hattempt
  · exact h.valid
  · intro r t ht
    rcases lookup_insert_cases ht with ⟨-, rfl⟩ | ⟨-, ht⟩
    · exact fun _ => ⟨hphase, hsources⟩
    · exact h.sound r t ht
  · intro r ports' hr
    obtain ⟨hne, hr⟩ := handlers_update_none hr
    obtain ⟨t, ht, hsources'⟩ := h.creating r ports' hr
    exact ⟨t, by
      change (m.state.tests.insert ref _).lookup r = some t
      rw [AList.lookup_insert_ne hne, ht], hsources'⟩
  · intro r ports' hr
    obtain ⟨hne, hr⟩ := handlers_update_none hr
    change ports' = recordedOf (m.state.tests.insert ref _) r
    rw [hrec, Function.update_of_ne hne]
    exact h.deleting r ports' hr

theorem owned_createFinish {result : CreateResult} {write : ℕ → Write} (h : m.Owned)
    (hquiet : result.Frees write → ∀ port ∈ m.state.attempted ref, port ∉ m.flows ref)
    (hstep : m.state.createFinish ref result write = some s) : (m.after s).Owned := by
  obtain ⟨test, ports, hlookup, hcreating⟩ : ∃ test ports,
      m.state.tests.lookup ref = some test ∧ m.state.handlers ref = some (.creating ports) := by
    unfold State.createFinish at hstep
    split at hstep
    · exact ⟨_, _, ‹_›, ‹_›⟩
    · cases hstep
  have hends := createFinish_cases test.spec ports result write m.state.allocator test.status
  have hallocator := createFinish_allocator test.spec ports result write m.state.allocator test.status
  unfold State.createFinish at hstep
  rw [hlookup, hcreating] at hstep
  dsimp only at hstep
  obtain rfl := Option.some.inj hstep
  have hports := State.attempted_of_creating hcreating
  generalize Traffic.createFinish test.spec ports result write m.state.allocator test.status = left at *
  obtain ⟨raised, a, status⟩ := left
  dsimp only at hends hallocator ⊢
  -- what becomes of the ports when the record is kept
  have hkept : Keeps test.status status →
      (m.after ⟨m.state.tests.insert ref { test with status := status }, a,
        Function.update m.state.handlers ref none⟩).Owned := by
    intro hkeeps
    have htests := keepsTests_insert hlookup hkeeps
    split_ifs at hallocator with hfrees
    · have hbusy : a.busyPorts = m.state.allocator.busyPorts \ {port | port ∈ ports} := by
        rw [hallocator, busyPorts_free (hports ▸ h.valid_attempted ref)]
      refine h.of_keepsTests ref none htests ?_ (fun port hport => ?_) (fun _ _ => List.not_mem_nil)
        (fun _ hc => nomatch hc) (fun _ hc => nomatch hc)
      · rw [hbusy]
        refine h.covered.giveBack (i := ref) (fun port hport => ?_) (fun port hport => ?_)
          fun r hne => owned_keepsTests htests hne
        · exact .inr (.inl (hports ▸ hport))
        · rcases hport with hport | hport | hport
          · change port ∈ recordedOf (m.state.tests.insert ref _) ref at hport
            rw [htests.recorded] at hport
            exact ⟨.inl hport, fun hp => h.apart ref port hport (hports ▸ hp)⟩
          · change port ∈ Handler.attempted (Function.update m.state.handlers ref none ref) at hport
            rw [Function.update_self] at hport
            cases hport
          · have hport := flows_after m _ ref hport
            exact ⟨.inr (.inr hport), fun hp => hquiet hfrees port (hports ▸ hp) hport⟩
      · rw [hbusy] at hport
        exact h.valid port hport.1
    · subst hallocator
      exact h.of_idle ref htests subset_rfl h.valid
  cases hends with
  | freed hkeeps => exact hkept hkeeps
  | leaked hkeeps hsettles => exact hkept hkeeps
  | recorded hrecords hrecorded hphase =>
    exact h.of_recorded hlookup hcreating hrecorded hphase

/-! ## Steps that remove a test -/

/-- A test is gone, and its ports are no longer busy or stay so. -/
theorem Owned.of_erase (h : m.Owned) (ref : Ref)
    (hcreating : ∀ ports, m.state.handlers ref ≠ some (.creating ports)) (gone : Set ℤ) (hgone : gone ⊆ m.owned ref)
    (hbusy : a.busyPorts = m.state.allocator.busyPorts \ gone) :
    (m.after ⟨m.state.tests.erase ref, a, Function.update m.state.handlers ref none⟩).Owned := by
  have hrec : recordedOf (m.state.tests.erase ref) = Function.update m.state.recorded ref [] :=
    recordedOf_erase
  have hattempted : ∀ {r port},
      port ∈ Handler.attempted (Function.update m.state.handlers ref none r) →
        r ≠ ref ∧ port ∈ m.state.attempted r := by
    intro r port hport
    rcases eq_or_ne r ref with rfl | hne
    · rw [Function.update_self] at hport
      cases hport
    · rw [attempted_update_of_ne hne] at hport
      exact ⟨hne, hport⟩
  have hrecorded : ∀ {r port}, port ∈ recordedOf (m.state.tests.erase ref) r →
      r ≠ ref ∧ port ∈ m.state.recorded r := by
    intro r port hport
    rw [hrec] at hport
    rcases eq_or_ne r ref with rfl | hne
    · rw [Function.update_self] at hport
      cases hport
    · rw [Function.update_of_ne hne] at hport
      exact ⟨hne, hport⟩
  have hflows : ∀ {r port}, port ∈
      (m.after ⟨m.state.tests.erase ref, a, Function.update m.state.handlers ref none⟩).flows r →
        r ≠ ref ∧ port ∈ m.flows r := by
    intro r port hport
    refine ⟨?_, flows_after m _ r hport⟩
    rintro rfl
    unfold after at hport
    dsimp only at hport
    rw [AList.lookup_erase] at hport
    cases hport
  have howned : ∀ {r port}, port ∈
      (m.after ⟨m.state.tests.erase ref, a, Function.update m.state.handlers ref none⟩).owned r →
        r ≠ ref ∧ port ∈ m.owned r := by
    rintro r port (hport | hport | hport)
    · exact (hrecorded hport).imp_right .inl
    · exact (hattempted hport).imp_right fun h => .inr (.inl h)
    · exact (hflows hport).imp_right fun h => .inr (.inr h)
  constructor
  · change Covered a.busyPorts _
    rw [hbusy]
    exact h.covered.giveBack hgone (fun port hport => absurd rfl (howned hport).1)
      fun r _ port hport => (howned hport).2
  · intro r port hport hattempt
    exact h.apart r port (hrecorded hport).2 (hattempted hattempt).2
  · intro port hport
    change port ∈ a.busyPorts at hport
    rw [hbusy] at hport
    exact h.valid port hport.1
  · intro r t ht
    change (m.state.tests.erase ref).lookup r = some t at ht
    rcases eq_or_ne r ref with rfl | hne
    · rw [AList.lookup_erase] at ht
      cases ht
    · rw [AList.lookup_erase_ne hne] at ht
      exact h.sound r t ht
  · intro r ports hr
    obtain ⟨hne, hr⟩ := handlers_update_none hr
    obtain ⟨t, ht, hsources⟩ := h.creating r ports hr
    exact ⟨t, by
      change (m.state.tests.erase ref).lookup r = some t
      rw [AList.lookup_erase_ne hne, ht], hsources⟩
  · intro r ports hr
    obtain ⟨hne, hr⟩ := handlers_update_none hr
    change ports = recordedOf (m.state.tests.erase ref) r
    rw [hrec, Function.update_of_ne hne]
    exact h.deleting r ports hr

theorem owned_deleteStart {ans : DeleteAnswers} (h : m.Owned)
    (hstep : m.state.deleteStart ref ans = some s) : (m.after s).Owned := by
  obtain ⟨test, hlookup, hidle⟩ : ∃ test,
      m.state.tests.lookup ref = some test ∧ m.state.handlers ref = none := by
    unfold State.deleteStart at hstep
    split at hstep
    · exact ⟨_, ‹_›, ‹_›⟩
    · cases hstep
  have hself : Function.update m.state.handlers ref none = m.state.handlers := by
    rw [← hidle, Function.update_eq_self]
  have hremoved : (m.after { m.state with tests := m.state.tests.erase ref }).Owned := by
    have herase := h.of_erase (a := m.state.allocator) ref (by simp [hidle]) ∅
      (Set.empty_subset _) Set.sdiff_empty.symm
    rw [hself] at herase
    exact herase
  unfold State.deleteStart at hstep
  rw [hlookup, hidle] at hstep
  dsimp only at hstep
  split at hstep
  · obtain rfl := Option.some.inj hstep
    have hidle' := h.of_idle (a := m.state.allocator) ref (.refl m.state.tests) subset_rfl h.valid
    rw [hself] at hidle'
    exact hidle'
  · obtain rfl := Option.some.inj hstep
    exact hremoved
  · rename_i ports devices hcalling
    obtain rfl := Option.some.inj hstep
    have hports : ports = m.state.recorded ref := by
      unfold Traffic.deleteStart at hcalling
      rw [State.recorded, recordedOf_lookup hlookup]
      split at hcalling
      · cases hcalling
      · cases hcalling
      · dsimp only at hcalling
        split_ifs at hcalling
        exact (DeleteStarted.calling.inj hcalling).1.symm
    refine h.of_keepsTests ref _ (.refl m.state.tests) (h.covered.mono subset_rfl fun r => ?_) h.valid
      (fun _ _ => List.not_mem_nil) (fun _ hc => by cases hc) fun ports' hc => ?_
    · rcases eq_or_ne r ref with rfl | hne
      · refine (owned_keepsTests_self (.refl _)).trans (Set.union_subset subset_rfl ?_)
        exact fun port hport => absurd hport List.not_mem_nil
      · exact owned_keepsTests (.refl _) hne
    · cases hc
      exact hports

theorem owned_deleteFinish {result : DeleteResult} (h : m.Owned)
    (hstep : m.state.deleteFinish ref result = some s) : (m.after s).Owned := by
  obtain ⟨ports, hdeleting⟩ : ∃ ports, m.state.handlers ref = some (.deleting ports) := by
    unfold State.deleteFinish at hstep
    split at hstep
    · exact ⟨_, ‹_›⟩
    · cases hstep
  have hports := h.deleting ref ports hdeleting
  unfold State.deleteFinish at hstep
  rw [hdeleting] at hstep
  cases result with
  | success =>
    obtain rfl := Option.some.inj hstep
    refine h.of_erase ref (by simp [hdeleting]) {port | port ∈ ports} (fun port hport => ?_) ?_
    · exact .inl (hports ▸ hport)
    · exact busyPorts_free (hports ▸ h.valid_recorded ref)
  | failure error =>
    obtain rfl := Option.some.inj hstep
    exact h.of_erase ref (by simp [hdeleting]) ∅ (Set.empty_subset _) Set.sdiff_empty.symm
  | raises message =>
    obtain rfl := Option.some.inj hstep
    exact h.of_idle ref (.refl m.state.tests) subset_rfl h.valid

/-! ## The other steps -/

theorem owned_create {spec : Spec} (h : m.Owned) (hstep : m.state.create ref spec = some s) :
    (m.after s).Owned := by
  unfold State.create at hstep
  split at hstep
  · rename_i hlookup
    obtain rfl := Option.some.inj hstep
    have hrec : recordedOf (m.state.tests.insert ref { spec := spec }) = m.state.recorded := by
      have hnone : m.state.recorded ref = [] := by
        unfold State.recorded recordedOf
        rw [hlookup]
      rw [recordedOf_insert]
      change Function.update m.state.recorded ref [] = m.state.recorded
      rw [← hnone, Function.update_eq_self]
    constructor
    · refine h.covered.mono subset_rfl fun r port hport => ?_
      rcases hport with hport | hport | hport
      · change port ∈ recordedOf (m.state.tests.insert ref _) r at hport
        rw [hrec] at hport
        exact .inl hport
      · exact .inr (.inl hport)
      · exact .inr (.inr (flows_after m _ r hport))
    · intro r port hport
      change port ∈ recordedOf (m.state.tests.insert ref _) r at hport
      rw [hrec] at hport
      exact h.apart r port hport
    · exact h.valid
    · intro r t ht
      rcases lookup_insert_cases ht with ⟨-, rfl⟩ | ⟨-, ht⟩
      · exact fun hne => absurd rfl hne
      · exact h.sound r t ht
    · intro r ports hr
      obtain ⟨t, ht, hsources⟩ := h.creating r ports hr
      have hne : r ≠ ref := by
        rintro rfl
        rw [hlookup] at ht
        cases ht
      exact ⟨t, by
        change (m.state.tests.insert ref _).lookup r = some t
        rw [AList.lookup_insert_ne hne, ht], hsources⟩
    · intro r ports hr
      change ports = recordedOf (m.state.tests.insert ref _) r
      rw [hrec]
      exact h.deleting r ports hr
  · cases hstep

theorem owned_markCompleted {endTime : String} {w : Write} (h : m.Owned)
    (hstep : m.state.markCompleted ref endTime w = some s) : (m.after s).Owned := by
  -- the step keeps the records and all handlers
  have hkept : ∀ {tests' : Tests}, KeepsTests m.state.tests tests' →
      (m.after { m.state with tests := tests' }).Owned := by
    intro tests' hkeeps
    have hsame : Function.update m.state.handlers ref (m.state.handlers ref) = m.state.handlers :=
      Function.update_eq_self ..
    have howned := h.of_keepsTests (a := m.state.allocator) ref (m.state.handlers ref)
      hkeeps (h.covered.mono subset_rfl fun r => ?_) h.valid (h.apart ref) (h.creating ref)
      (h.deleting ref)
    · rw [hsame] at howned
      exact howned
    · rcases eq_or_ne r ref with rfl | hne
      · refine (owned_keepsTests_self hkeeps).trans (Set.union_subset subset_rfl ?_)
        exact fun port hport => .inr (.inl hport)
      · exact owned_keepsTests hkeeps hne
  unfold State.markCompleted at hstep
  split at hstep
  · rename_i test hlookup
    split at hstep
    · rename_i status happly
      obtain rfl := Option.some.inj hstep
      exact hkept (keepsTests_insert hlookup (keeps_of_apply rfl happly))
    · obtain rfl := Option.some.inj hstep
      exact hkept (.refl _)
  · cases hstep

theorem owned_restart {listed : Bool} {ans : SetupAnswers} (h : m.Owned)
    (hmarks : m.state.MarksAll listed ans)
    (hflows : ∀ ref, ∀ port ∈ m.flows ref, port ∈ m.state.recorded ref) :
    (m.after (m.state.restart listed ans)).Owned := by
  obtain ⟨hbusy, hkeeps⟩ := initialSetup_spec h.valid_recorded h.sound hmarks
  have howned : ∀ r port, port ∈ (m.after (m.state.restart listed ans)).owned r →
      port ∈ m.state.recorded r := by
    rintro r port (hport | hport | hport)
    · change port ∈ recordedOf (initialSetup listed ans m.state.tests).2 r at hport
      rw [hkeeps.recorded] at hport
      exact hport
    · cases hport
    · exact hflows r port (flows_after m _ r hport)
  refine ⟨⟨fun r port hport => ?_, fun hi hj => ?_⟩, fun _ _ _ => List.not_mem_nil,
    fun port hport => ?_, hkeeps.sound h.sound, fun _ _ hc => (nomatch hc),
    fun _ _ hc => (nomatch hc)⟩
  · change port ∈ (initialSetup listed ans m.state.tests).1.busyPorts
    rw [hbusy]
    exact ⟨r, howned r port hport⟩
  · exact h.covered.unique (.inl (howned _ _ hi)) (.inl (howned _ _ hj))
  · change port ∈ (initialSetup listed ans m.state.tests).1.busyPorts at hport
    rw [hbusy] at hport
    obtain ⟨r, hport⟩ := hport
    exact h.valid_recorded r port hport

/-- A change of the flows of one test. -/
theorem Owned.with_flows {flows : Ref → List ℤ} (h : m.Owned)
    (hflows : ∀ r, ∀ port ∈ flows r, port ∈ m.owned r) : Owned { m with flows := flows } where
  covered := h.covered.mono subset_rfl fun r port hport => by
    rcases hport with hport | hport | hport
    · exact .inl hport
    · exact .inr (.inl hport)
    · exact hflows r port hport
  apart := h.apart
  valid := h.valid
  sound := h.sound
  creating := h.creating
  deleting := h.deleting

theorem owned_startFlow {port : ℤ} (h : m.Owned) (hstep : m.startFlow ref port = some m') :
    m'.Owned := by
  unfold startFlow at hstep
  split at hstep
  · rename_i ports hcreating
    split_ifs at hstep with hport
    obtain rfl := Option.some.inj hstep
    refine h.with_flows fun r port' hport' => ?_
    rcases eq_or_ne r ref with rfl | hne
    · rw [Function.update_self] at hport'
      rcases List.mem_cons.mp hport' with rfl | hport'
      · exact .inr (.inl (State.attempted_of_creating hcreating ▸ hport))
      · exact .inr (.inr hport')
    · rw [Function.update_of_ne hne] at hport'
      exact .inr (.inr hport')
  · cases hstep

theorem owned_stopFlow {port : ℤ} (h : m.Owned) : (m.stopFlow ref port).Owned := by
  refine h.with_flows fun r port' hport' => .inr (.inr ?_)
  rcases eq_or_ne r ref with rfl | hne
  · rw [Function.update_self] at hport'
    exact List.mem_of_mem_erase hport'
  · rwa [Function.update_of_ne hne] at hport'

/-- One event. -/
theorem owned_step (h : m.Owned) (hquiet : m.Quiet e) (hstep : m.step e = some m') : m'.Owned := by
  cases e with
  | handler e =>
    obtain ⟨s, hs, rfl⟩ := Option.map_eq_some_iff.mp hstep
    cases e with
    | create ref spec => exact owned_create h hs
    | createStart ref ans => exact owned_createStart h hs
    | createFinish ref result write => exact owned_createFinish h hquiet hs
    | deleteStart ref ans => exact owned_deleteStart h hs
    | deleteFinish ref result => exact owned_deleteFinish h hs
    | markCompleted ref endTime write => exact owned_markCompleted h hs
    | restart listed ans =>
      obtain rfl := Option.some.inj hs
      exact owned_restart h hquiet.1 hquiet.2
  | startFlow ref port => exact owned_startFlow h hstep
  | stopFlow ref port =>
    obtain rfl := Option.some.inj hstep
    exact owned_stopFlow h

/-- **No port is shared** and none of another test is freed, in every run in which ports are freed
or forgotten only when no flow of their test runs on them. -/
theorem ports_apart {events : List FlowEvent} (hquiet : Throughout step Quiet initial events) :
    Always step Apart initial events ∧ Throughout step FreesOwn initial events := by
  have hstep : ∀ (m : Deployment) (e : FlowEvent) (m' : Deployment),
      m.Owned → m.Quiet e → m.step e = some m' → m'.Owned := fun _ _ _ => owned_step
  constructor
  · rintro before after m rfl hrun
    exact (run_invariant hstep owned_initial ((throughout_append hrun).mp hquiet).1
      hrun).apart_of_owned
  · exact hquiet.imp (fun m e h hquiet => Owned.freesOwn fun _ => owned_step h hquiet) hstep
      owned_initial

/-- A flow starts before the create handler ends, and it ends before the deletion does. -/
def sampleFlows : List FlowEvent :=
  [.handler (.create sampleRef sampleSpec),
    .handler (.createStart sampleRef (sampleAnswers true)), .startFlow sampleRef 5200,
    .handler (.createFinish sampleRef (.success "2025-01-01T00:00:10+00:00") fun _ =>
      .done "2025-01-01T00:00:10+00:00"), .stopFlow sampleRef 5200]

theorem ports_apart_sample :
    Always step Apart initial sampleFlows ∧ Throughout step FreesOwn initial sampleFlows := by
  refine ports_apart ?_
  refine .of_step trivial rfl (.of_step trivial rfl (.of_step trivial rfl
    (.of_step (fun hfrees => ?_) rfl (.of_step trivial rfl throughout_nil))))
  exact absurd hfrees (by decide)

/-- The destination of a test starts and its source does not; the next test gets its port. -/
def failedFlows : List FlowEvent :=
  [.handler (.create sampleRef sampleSpec),
    .handler (.createStart sampleRef (sampleAnswers true)), .startFlow sampleRef 5200,
    .handler (.createFinish sampleRef (.failure "All source devices failed to start: blue-1") fun _ =>
      .done "2025-01-01T00:00:10+00:00"),
    .handler (.create ("default", "red-test") sampleSpec),
    .handler (.createStart ("default", "red-test") (sampleAnswers true)),
    .startFlow ("default", "red-test") 5200]

/-- Both tests exist and have a flow on the port. -/
theorem failed_test_shares_port : ¬Always step Apart initial failedFlows := by
  intro h
  obtain ⟨m, hrun⟩ := Option.isSome_iff_exists.mp
    (show (run step initial failedFlows).isSome = true by decide +kernel)
  have hm : m = (run step initial failedFlows).getD initial := by rw [hrun]; rfl
  have hapart := h failedFlows [] m (by simp) hrun sampleRef ("default", "red-test") 5200
    (by rw [hm]; decide +kernel) (by rw [hm]; decide +kernel)
  exact absurd hapart (by decide)

end Deployment

end GnnSandbox.Operator.Traffic
