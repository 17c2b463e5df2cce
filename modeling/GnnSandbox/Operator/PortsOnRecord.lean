import GnnSandbox.Operator.Traffic.Books

/-!
# Ports in use and ports on record

The books of the allocator balance as long as no attempt keeps its ports without starting the
test, no record is lost or overwritten, no test is removed with its ports, and no restart misses a
record.

1. `initialSetup_spec`: what a restart marks again.
2. `Clean`: the events that keep the books (`books_step`).
3. `ports_on_record`: in a run of such events the busy ports are those on record whenever no
   handler is running.
-/

namespace GnnSandbox.Operator.Traffic

open PortAllocator Transition Write

variable {s : State} {ref : Ref} {test : TrafficTest} {tests : Tests}

/-! ## Restarts -/

/-- A test as `initial_setup` gets it. -/
abbrev Item := Sigma fun _ : Ref => TrafficTest

/-- `initial_setup` ends with this test, because its status update raises. -/
def setupStops (ans : SetupAnswers) (item : Item) : Bool :=
  (setupTest ans item.1 item.2 .empty).2.isSome && (ans.write item.1).isRaise

/-- The tests that `initial_setup` gets to. -/
def setupVisited (ans : SetupAnswers) : List Item → List Item
  | [] => []
  | item :: items => item :: if setupStops ans item then [] else setupVisited ans items

theorem setupVisited_subset (ans : SetupAnswers) (items : List Item) :
    setupVisited ans items ⊆ items := by
  induction items with
  | nil => exact fun _ h => h
  | cons item items ih =>
    unfold setupVisited
    refine List.cons_subset_cons item ?_
    split_ifs
    · exact List.nil_subset items
    · exact ih

variable {setup : SetupAnswers}

/-- A test with ports on record has a phase, so that its ports are marked and not freed. -/
theorem setupTest_spec (setup : SetupAnswers) (ref : Ref) (a : PortAllocator)
    (hsound : test.Sound) :
    (setupTest setup ref test a).1 = a.markBusy test.status.recorded ∧
      (setupTest setup ref test a).2 = (setupTest setup ref test .empty).2 ∧
      ∀ u ∈ (setupTest setup ref test a).2, u.allocatedPorts = none := by
  unfold setupTest
  dsimp only
  split_ifs with hphase hports
  · exact ⟨rfl, rfl, fun u hu => by cases hu⟩
  · exact absurd (hsound hports).1 hphase
  · exact absurd (hsound hports).1 hphase
  · exact ⟨rfl, rfl, fun u hu => by cases hu; rfl⟩
  · exact ⟨rfl, rfl, fun u hu => by cases hu⟩

theorem setupLoop_spec (setup : SetupAnswers) (a : PortAllocator) {items : List Item}
    (hsound : ∀ item ∈ items, item.2.Sound)
    (hvalid : ∀ item ∈ items, Valid item.2.status.recorded)
    (hlookup : ∀ item ∈ items, tests.lookup item.1 = some item.2)
    (hnodup : (items.map Sigma.fst).Nodup) :
    (setupLoop setup items (a, tests)).1.busyPorts = a.busyPorts ∪
        {port | ∃ item ∈ setupVisited setup items, port ∈ item.2.status.recorded} ∧
      KeepsTests tests (setupLoop setup items (a, tests)).2 := by
  induction items generalizing a tests with
  | nil => simp [setupLoop, setupVisited, KeepsTests.refl]
  | cons item items ih =>
    obtain ⟨ref, test⟩ := item
    obtain ⟨hmark, hsame, hnone⟩ := setupTest_spec setup ref a (hsound ⟨ref, test⟩ List.mem_cons_self)
    have hbusy := busyPorts_markBusy (a := a) (hvalid ⟨ref, test⟩ List.mem_cons_self)
    have hsound' := fun item hi => hsound item (List.mem_cons_of_mem _ hi)
    have hvalid' := fun item hi => hvalid item (List.mem_cons_of_mem _ hi)
    have hnodup' := List.nodup_cons.mp hnodup
    -- the pass goes on with the allocator that has the ports of this test marked
    have hgoes : ∀ tests', KeepsTests tests tests' →
        (∀ item ∈ items, tests'.lookup item.1 = some item.2) → setupStops setup ⟨ref, test⟩ = false →
        (setupLoop setup items (a.markBusy test.status.recorded, tests')).1.busyPorts =
            a.busyPorts ∪ {port | ∃ item ∈ setupVisited setup (⟨ref, test⟩ :: items),
              port ∈ item.2.status.recorded} ∧
          KeepsTests tests (setupLoop setup items (a.markBusy test.status.recorded, tests')).2 := by
      intro tests' hkeeps hlookup' hstops
      obtain ⟨hbusy', hkeeps'⟩ := ih (a.markBusy test.status.recorded) hsound' hvalid' hlookup'
        hnodup'.2
      refine ⟨?_, hkeeps.trans hkeeps'⟩
      rw [hbusy', hbusy, setupVisited, hstops]
      ext port
      simp [or_assoc]
    unfold setupLoop
    generalize hresult : setupTest setup ref test a = result at *
    obtain ⟨a', update⟩ := result
    obtain rfl : a' = _ := hmark
    cases update with
    | none =>
      have hstops : setupStops setup ⟨ref, test⟩ = false := by
        unfold setupStops
        rw [← hsame]
        rfl
      exact hgoes tests (.refl tests) (fun item hi => hlookup item (List.mem_cons_of_mem _ hi)) hstops
    | some u =>
      have hu := hnone u rfl
      dsimp only
      split
      · rename_i happly
        have hstops : setupStops setup ⟨ref, test⟩ = true := by
          unfold setupStops
          rw [← hsame, isRaise_of_error happly]
          rfl
        refine ⟨?_, .refl tests⟩
        rw [setupVisited, hstops, hbusy]
        ext port
        simp
      · rename_i status happly
        have hstops : setupStops setup ⟨ref, test⟩ = false := by
          unfold setupStops
          rw [isRaise_of_ok happly, Bool.and_false]
        refine hgoes _ (keepsTests_insert (hlookup ⟨ref, test⟩ List.mem_cons_self)
          (keeps_of_apply hu happly)) (fun item hi => ?_) hstops
        have hne : item.1 ≠ ref := fun heq =>
          hnodup'.1 (List.mem_map.mpr ⟨item, hi, heq⟩)
        rw [AList.lookup_insert_ne hne]
        exact hlookup item (List.mem_cons_of_mem _ hi)

/-- Every port on record is marked again by `initial_setup`. -/
def State.MarksAll (s : State) (listed : Bool) (ans : SetupAnswers) : Prop :=
  ∀ item ∈ s.tests.entries, item.2.status.recorded ≠ [] →
    listed = true ∧ item ∈ setupVisited ans s.tests.entries

theorem mem_recorded_iff {port : ℤ} : port ∈ s.recorded ref ↔
    ∃ test, s.tests.lookup ref = some test ∧ port ∈ test.status.recorded := by
  unfold State.recorded recordedOf
  cases s.tests.lookup ref <;> simp

theorem initialSetup_spec (hrecorded : ∀ ref, Valid (s.recorded ref))
    (hsound : ∀ ref test, s.tests.lookup ref = some test → test.Sound) {listed : Bool}
    (hclean : s.MarksAll listed setup) :
    (initialSetup listed setup s.tests).1.busyPorts = {port | ∃ ref, port ∈ s.recorded ref} ∧
      KeepsTests s.tests (initialSetup listed setup s.tests).2 := by
  have hlookup : ∀ item ∈ s.tests.entries, s.tests.lookup item.1 = some item.2 := fun item hi =>
    AList.mem_lookup_iff.mpr hi
  have hvalid : ∀ item ∈ s.tests.entries, Valid item.2.status.recorded := fun item hi => by
    have hrec := hrecorded item.1
    rw [State.recorded, recordedOf_lookup (hlookup item hi)] at hrec
    exact hrec
  obtain ⟨hbusy, hkeeps⟩ := setupLoop_spec setup .empty
    (fun item hi => hsound item.1 item.2 (hlookup item hi)) hvalid hlookup s.tests.nodupKeys
  have hmem : ∀ port, (∃ ref, port ∈ s.recorded ref) →
      ∃ item ∈ s.tests.entries, port ∈ item.2.status.recorded := by
    rintro port ⟨ref, hport⟩
    obtain ⟨test, htest, hport⟩ := mem_recorded_iff.mp hport
    exact ⟨⟨ref, test⟩, AList.mem_lookup_iff.mp htest, hport⟩
  unfold initialSetup
  split_ifs with hlisted
  · refine ⟨?_, hkeeps⟩
    rw [hbusy, busyPorts_empty, Set.empty_union]
    ext port
    constructor
    · rintro ⟨item, hi, hport⟩
      have hi := setupVisited_subset setup _ hi
      exact ⟨item.1, mem_recorded_iff.mpr ⟨item.2, hlookup item hi, hport⟩⟩
    · intro hport
      obtain ⟨item, hi, hport⟩ := hmem port hport
      exact ⟨item, (hclean item hi (List.ne_nil_of_mem hport)).2, hport⟩
  · refine ⟨?_, .refl s.tests⟩
    rw [busyPorts_empty]
    refine (Set.eq_empty_of_forall_notMem fun port hport => ?_).symm
    obtain ⟨item, hi, hport⟩ := hmem port hport
    exact hlisted (hclean item hi (List.ne_nil_of_mem hport)).1

theorem books_restart {listed : Bool} (h : Books s) (hclean : s.MarksAll listed setup) :
    Books (s.restart listed setup) := by
  obtain ⟨hbusy, hkeeps⟩ := initialSetup_spec h.valid_recorded h.sound hclean
  have hrec : (s.restart listed setup).recorded = s.recorded := hkeeps.recorded
  have hattempted : (s.restart listed setup).attempted = fun _ => [] := rfl
  have hbalanced : BalancedHoldings (s.restart listed setup).allocator.busyPorts
      (held (s.restart listed setup).recorded (s.restart listed setup).attempted) := by
    rw [hrec, hattempted]
    constructor
    · intro port
      show port ∈ (initialSetup listed setup s.tests).1.busyPorts ↔ _
      rw [hbusy]
      constructor
      · rintro ⟨ref, hport⟩
        exact ⟨.record ref, hport⟩
      · rintro ⟨owner, hport⟩
        cases owner with
        | record ref => exact ⟨ref, hport⟩
        | attempt ref => exact absurd hport List.not_mem_nil
    · intro port owner owner' hport hport'
      have hold : ∀ owner, port ∈ held s.recorded (fun _ => []) owner →
          port ∈ held s.recorded s.attempted owner := by
        intro owner hport
        cases owner with
        | record ref => exact hport
        | attempt ref => exact absurd hport List.not_mem_nil
      exact h.balanced.unique (hold owner hport) (hold owner' hport')
  refine ⟨hbalanced, fun port hport => ?_, hkeeps.sound h.sound,
    fun _ _ hc => (nomatch hc), fun _ _ hc => (nomatch hc)⟩
  have hport : port ∈ (initialSetup listed setup s.tests).1.busyPorts := hport
  rw [hbusy] at hport
  obtain ⟨ref, hport⟩ := hport
  exact h.valid_recorded ref port hport

/-! ## Runs -/

/-- The events that keep the books balanced. -/
def Clean (s : State) : Event → Prop
  | .createStart ref ans => ∀ test, s.tests.lookup ref = some test →
      ans.GetsPorts test.spec s.allocator → ans.Settles test.spec
  | .createFinish ref result write =>
    result.Settles write ∧ (result.Records write → s.recorded ref = [])
  | .deleteStart ref ans => ans.ip = .missing → s.recorded ref = []
  | .deleteFinish _ result => ∀ error, result ≠ .failure error
  | .restart listed ans => s.MarksAll listed ans
  | .create .. | .markCompleted .. => True

theorem books_step (s : State) (e : Event) (s' : State) (h : Books s) (hclean : Clean s e)
    (hstep : step s e = some s') : Books s' := by
  cases e with
  | create ref spec => exact books_create h hstep
  | createStart ref ans => exact books_createStart h hclean hstep
  | createFinish ref result write => exact books_createFinish h hclean hstep
  | deleteStart ref ans => exact books_deleteStart h hclean hstep
  | deleteFinish ref result => exact books_deleteFinish h hclean hstep
  | markCompleted ref endTime write => exact books_markCompleted h hstep
  | restart listed ans =>
    obtain rfl := Option.some.inj hstep
    exact books_restart h hclean

/-- **Ports in use are ports on record.** In a run of clean events the busy ports are those that an
existing test has on record, whenever no handler is running. -/
theorem ports_on_record {events : List Event} {s : State}
    (hrun : run step .initial events = some s) (hclean : Throughout step Clean .initial events)
    (hidle : s.Idle) (port : ℤ) :
    port ∈ s.allocator.busyPorts ↔
      ∃ ref test, s.tests.lookup ref = some test ∧ port ∈ test.status.recorded := by
  have hbooks : Books s := run_invariant books_step books_initial hclean hrun
  rw [hbooks.balanced.mem_taken_iff]
  constructor
  · rintro ⟨owner, hport⟩
    cases owner with
    | record ref => exact ⟨ref, mem_recorded_iff.mp hport⟩
    | attempt ref =>
      have hnone : s.attempted ref = [] := State.attempted_of_none (hidle ref)
      have hport : port ∈ s.attempted ref := hport
      rw [hnone] at hport
      exact absurd hport List.not_mem_nil
  · rintro ⟨ref, hport⟩
    exact ⟨.record ref, mem_recorded_iff.mpr hport⟩

/-! ### Two runs of one test -/

theorem idle_update {handlers : Ref → Option Handler} (h : ∀ r, r ≠ ref → handlers r = none)
    (r : Ref) : Function.update handlers ref none r = none := by
  rcases eq_or_ne r ref with rfl | hne
  · rw [Function.update_self]
  · rw [Function.update_of_ne hne, h r hne]

theorem idle_update_of_ne {handlers : Ref → Option Handler} {handler : Option Handler}
    (h : ∀ r, handlers r = none) (r : Ref) (hne : r ≠ ref) :
    Function.update handlers ref handler r = none := by
  rw [Function.update_of_ne hne, h r]

def sampleSpec : Spec where
  vpnRef := "l3vpn-blue-service"
  sourceDevices := ["blue-1"]
  destinationDevice := "blue-2"

def sampleRef : Ref := ("default", "blue-test")

/-- Devices that are ready, or not. -/
def sampleAnswers (ready : Bool) : StartAnswers where
  ip := .found "10.0.0.2"
  vpn := .ready
  source _ := ⟨ready, some "192.168.1.2", some "172.16.0.2"⟩
  destination := ⟨true, some "192.168.2.2", some "172.16.0.3"⟩
  write _ := .done "2025-01-01T00:00:00+00:00"

def sampleTest : List Event :=
  [.create sampleRef sampleSpec, .createStart sampleRef (sampleAnswers true),
    .createFinish sampleRef (.success "2025-01-01T00:00:10+00:00") fun _ =>
      .done "2025-01-01T00:00:10+00:00"]

theorem ports_on_record_sample : ∃ s : State,
    run step .initial sampleTest = some s ∧ ∀ port, port ∈ s.allocator.busyPorts ↔
      ∃ ref test, s.tests.lookup ref = some test ∧ port ∈ test.status.recorded := by
  have hrun : run step .initial sampleTest = some _ := rfl
  refine ⟨_, hrun, ports_on_record hrun ?_ (idle_update (idle_update_of_ne fun _ => rfl))⟩
  refine .of_step trivial rfl (.of_step (fun test htest _ => ?_) rfl
    (.of_step ⟨trivial, fun _ => rfl⟩ rfl throughout_nil))
  obtain rfl := Option.some.inj htest
  decide

/-- An attempt that finds a device not ready keeps its port, which no test has on record. -/
theorem not_ready_leaks_ports : ¬∀ (events : List Event) (s : State),
    run step .initial events = some s → s.Idle → ∀ port, port ∈ s.allocator.busyPorts ↔
      ∃ ref test, s.tests.lookup ref = some test ∧ port ∈ test.status.recorded := by
  intro hall
  have hrun : run step .initial [.create sampleRef sampleSpec,
      .createStart sampleRef (sampleAnswers false)] = some _ := rfl
  have hbusy := hall _ _ hrun (idle_update fun _ _ => rfl) 5200
  obtain ⟨ref, test, hlookup, hport⟩ := hbusy.mp rfl
  rcases lookup_insert_cases hlookup with ⟨-, rfl⟩ | ⟨hne, hlookup⟩
  · exact absurd hport (by decide)
  · rcases lookup_insert_cases hlookup with ⟨heq, -⟩ | ⟨-, hlookup⟩
    · exact hne heq
    · cases hlookup

end GnnSandbox.Operator.Traffic
