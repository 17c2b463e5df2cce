import GnnSandbox.Operator.TrafficTest

/-!
# Attempts to start a traffic test

What the two parts of the create handler do to the ports and to the record: an attempt holds no
ports at its end, or it waits for the agents with the ports it was granted, or the start of the
test goes on record. Where it does neither, its ports leak.
-/

namespace GnnSandbox.Operator.Traffic

open PortAllocator Write

variable {test : TrafficTest} {ports : List ℤ} {spec : Spec} {status status' : Status} {u : Update}
  {w : Write} {a a' : PortAllocator}

/-! ## Status updates -/

/-- A test with ports on record has a phase and sources. -/
def TrafficTest.Sound (test : TrafficTest) : Prop :=
  test.status.recorded ≠ [] → test.status.phase.isSome = true ∧ test.spec.sourceDevices ≠ []

/-- The status keeps its record, and its phase if it has one. -/
structure Keeps (status status' : Status) : Prop where
  recorded : status'.recorded = status.recorded
  phase : status.phase.isSome = true → status'.phase.isSome = true

theorem Keeps.refl (status : Status) : Keeps status status := ⟨rfl, id⟩

theorem keeps_of_apply (hu : u.allocatedPorts = none) (h : w.apply (updateStatus u) status = .ok status') :
    Keeps status status' := by
  rcases apply_ok h with ⟨now, -, rfl⟩ | ⟨-, rfl⟩
  · refine ⟨?_, fun _ => rfl⟩
    unfold Status.recorded updateStatus
    rw [hu]
    rfl
  · exact .refl _

theorem Keeps.sound (h : Keeps test.status status') (hsound : test.Sound) :
    TrafficTest.Sound { test with status := status' } := by
  intro hne
  have hne : test.status.recorded ≠ [] := h.recorded ▸ hne
  exact ⟨h.phase (hsound hne).1, (hsound hne).2⟩

/-! ## The create handler -/

theorem free_nil : a.free [] = a := rfl

/-- The `except` clause keeps the record; the ports stay busy only if its update raises. -/
theorem unexpected_spec (message : String) (w : Write) (ports : List ℤ) (a : PortAllocator)
    (status : Status) :
    Keeps status (unexpected message w ports a status).2.2 ∧
      (unexpected message w ports a status).2.1 = if w.isRaise then a else a.free ports := by
  unfold unexpected
  split
  · rename_i happly
    rw [isRaise_of_error happly]
    exact ⟨.refl _, rfl⟩
  · rename_i happly
    rw [isRaise_of_ok happly]
    exact ⟨keeps_of_apply rfl happly, rfl⟩

theorem raiseAfter_spec (hu : u.allocatedPorts = none) (raised : Raised) (write : ℕ → Write)
    (ports : List ℤ) (a : PortAllocator) (status : Status) :
    Keeps status (raiseAfter u raised write ports a status).2.2 ∧
      (raiseAfter u raised write ports a status).2.1 =
        if (write 0).isRaise ∧ ¬(write 1).isRaise then a.free ports else a := by
  unfold raiseAfter
  split
  · rename_i happly
    rw [isRaise_of_error happly, (unexpected_spec ..).2]
    refine ⟨(unexpected_spec ..).1, ?_⟩
    cases (write 1).isRaise <;> simp
  · rename_i happly
    rw [isRaise_of_ok happly]
    exact ⟨keeps_of_apply hu happly, by simp⟩

/-- The attempt gets as far as to hold ports. -/
def StartAnswers.GetsPorts (ans : StartAnswers) (spec : Spec) (a : PortAllocator) : Prop :=
  (∃ address, ans.ip = .found address) ∧ ans.vpn = .ready ∧ spec.sourceDevices ≠ [] ∧
    spec.destinationDevice ≠ "" ∧ (a.alloc spec.portsNeeded spec.basePort).1.isSome = true

/-- An attempt that holds ports starts the test, or frees them. -/
def StartAnswers.Settles (ans : StartAnswers) (spec : Spec) : Prop :=
  if notReadyDevices spec ans = [] then ¬((ans.write 0).isRaise ∧ (ans.write 1).isRaise)
  else (ans.write 0).isRaise ∧ ¬(ans.write 1).isRaise

instance (ans : StartAnswers) (spec : Spec) : Decidable (ans.Settles spec) := by
  unfold StartAnswers.Settles
  infer_instance

/-- How the first part of the create handler leaves the ports. -/
inductive Leaves (ans : StartAnswers) (spec : Spec) (a : PortAllocator) :
    Started × PortAllocator × Status → Prop where
  | untouched (raised : Raised) (status : Status) : Leaves ans spec a (.ended raised, a, status)
  | waiting {ports : List ℤ} {a' : PortAllocator} (devices : DevicesInfo) (status : Status)
      (halloc : a.alloc spec.portsNeeded spec.basePort = (some ports, a'))
      (hsources : spec.sourceDevices ≠ []) :
      Leaves ans spec a (.calling ports devices, a', status)
  | freed {ports : List ℤ} {a' : PortAllocator} (raised : Raised) (status : Status)
      (halloc : a.alloc spec.portsNeeded spec.basePort = (some ports, a')) :
      Leaves ans spec a (.ended raised, a'.free ports, status)
  | leaked {ports : List ℤ} {a' : PortAllocator} (raised : Raised) (status : Status)
      (halloc : a.alloc spec.portsNeeded spec.basePort = (some ports, a'))
      (hgets : ans.GetsPorts spec a) (hsettles : ¬ans.Settles spec) :
      Leaves ans spec a (.ended raised, a', status)

variable {ans : StartAnswers}

theorem leaves_untouched {result : Raised × PortAllocator × Status} (h : result.2.1 = a) :
    Leaves ans spec a (ended result) := by
  obtain ⟨raised, a', status⟩ := result
  obtain rfl : a' = a := h
  exact .untouched raised status

theorem leaves_allocated (halloc : a.alloc spec.portsNeeded spec.basePort = (some ports, a'))
    (hsources : spec.sourceDevices ≠ []) (hgets : ans.GetsPorts spec a) :
    Leaves ans spec a (createAllocated spec ans ports a' status) ∧
      Keeps status (createAllocated spec ans ports a' status).2.2 := by
  have hended : ∀ result : Raised × PortAllocator × Status,
      result.2.1 = a'.free ports ∨ (result.2.1 = a' ∧ ¬ans.Settles spec) →
        Leaves ans spec a (ended result) := by
    rintro ⟨raised, a'', status'⟩ (h | ⟨h, hsettles⟩)
    · obtain rfl : a'' = _ := h
      exact .freed raised status' halloc
    · obtain rfl : a'' = _ := h
      exact .leaked raised status' halloc hgets hsettles
  unfold createAllocated
  dsimp only
  split_ifs with hready
  · refine ⟨hended _ ?_, (raiseAfter_spec rfl ..).1⟩
    rw [(raiseAfter_spec rfl ..).2]
    split_ifs with hraise
    · exact .inl rfl
    · refine .inr ⟨rfl, ?_⟩
      unfold StartAnswers.Settles
      rw [if_neg hready]
      exact hraise
  · rw [not_not] at hready
    split
    · rename_i happly
      refine ⟨hended _ ?_, (unexpected_spec ..).1⟩
      rw [(unexpected_spec ..).2]
      split_ifs with hraise
      · refine .inr ⟨rfl, ?_⟩
        unfold StartAnswers.Settles
        rw [if_pos hready, not_not]
        exact ⟨isRaise_of_error happly, hraise⟩
      · exact .inl rfl
    · rename_i happly
      exact ⟨.waiting _ _ halloc hsources, keeps_of_apply rfl happly⟩

/-- What the first part of the create handler does to the ports and to the record. -/
theorem createStart_cases (spec : Spec) (ans : StartAnswers) (a : PortAllocator) (status : Status) :
    Leaves ans spec a (createStart spec ans a status) ∧
      Keeps status (createStart spec ans a status).2.2 := by
  have hraise : ∀ (u : Update) (raised : Raised), u.allocatedPorts = none →
      Leaves ans spec a (ended (raiseAfter u raised ans.write [] a status)) ∧
        Keeps status (ended (raiseAfter u raised ans.write [] a status)).2.2 := by
    intro u raised hu
    refine ⟨leaves_untouched ?_, (raiseAfter_spec hu ..).1⟩
    rw [(raiseAfter_spec hu ..).2, free_nil, ite_self]
  unfold createStart
  split
  · exact ⟨.untouched _ _, .refl _⟩
  · exact ⟨.untouched _ _, .refl _⟩
  · rename_i address hip
    split
    · refine ⟨leaves_untouched ?_, (unexpected_spec ..).1⟩
      rw [(unexpected_spec ..).2, free_nil, ite_self]
    · exact ⟨.untouched _ _, .refl _⟩
    · exact hraise _ _ rfl
    · rename_i hvpn
      split_ifs with hempty
      · exact hraise _ _ rfl
      · rw [not_or] at hempty
        split
        · rename_i ports a' halloc
          exact leaves_allocated halloc hempty.1
            ⟨⟨address, hip⟩, hvpn, hempty.1, hempty.2, by rw [halloc]; rfl⟩
        · rename_i a' halloc
          obtain rfl := alloc_none halloc
          split
          · exact hraise _ _ rfl
          · exact ⟨.untouched _ _, .refl _⟩

/-- The start of the test goes on record. -/
def CreateResult.Records (result : CreateResult) (write : ℕ → Write) : Prop :=
  (∃ startTime, result = .success startTime) ∧ ∃ now, write 0 = .done now

/-- An attempt that ends goes on record or frees its ports. -/
def CreateResult.Settles (write : ℕ → Write) : CreateResult → Prop
  | .raises _ => ¬(write 0).isRaise
  | .failure _ => ¬((write 0).isRaise ∧ (write 1).isRaise)
  | .success _ =>
    match write 0 with
    | .done _ => True
    | .lost => False
    | .raises _ => ¬(write 1).isRaise

/-- How the second part of the create handler leaves the ports. -/
inductive Ends (spec : Spec) (ports : List ℤ) (result : CreateResult) (write : ℕ → Write)
    (a : PortAllocator) (status : Status) : PortAllocator × Status → Prop where
  | freed {status' : Status} (hkeeps : Keeps status status') :
      Ends spec ports result write a status (a.free ports, status')
  | recorded {status' : Status} (hrecords : result.Records write)
      (hrecorded : status'.recorded = ports) (hphase : status'.phase.isSome = true) :
      Ends spec ports result write a status (a, status')
  | leaked {status' : Status} (hkeeps : Keeps status status') (hsettles : ¬result.Settles write) :
      Ends spec ports result write a status (a, status')

/-- What the second part of the create handler does to the ports and to the record. -/
theorem createFinish_cases (spec : Spec) (ports : List ℤ) (result : CreateResult)
    (write : ℕ → Write) (a : PortAllocator) (status : Status) :
    Ends spec ports result write a status (createFinish spec ports result write a status).2 := by
  have hunexpected : ∀ (message : String) (w : Write), (w.isRaise = true → ¬result.Settles write) →
      Ends spec ports result write a status (unexpected message w ports a status).2 := by
    intro message w hraise
    obtain ⟨hkeeps, hfree⟩ := unexpected_spec message w ports a status
    generalize (unexpected message w ports a status).2 = left at *
    obtain ⟨a', status'⟩ := left
    obtain rfl : a' = _ := hfree
    split_ifs with hw
    · exact .leaked hkeeps (hraise hw)
    · exact .freed hkeeps
  unfold createFinish
  cases result with
  | raises message =>
    exact hunexpected message (write 0) fun hw hsettles => hsettles hw
  | failure error =>
    dsimp only
    split
    · rename_i happly
      exact hunexpected _ (write 1) fun hw hsettles => hsettles ⟨isRaise_of_error happly, hw⟩
    · rename_i happly
      exact .freed (keeps_of_apply rfl happly)
  | success startTime =>
    dsimp only
    split
    · rename_i message happly
      refine hunexpected message (write 1) fun hw hsettles => ?_
      cases hwrite : write 0 with
      | raises message' =>
        simp only [CreateResult.Settles, hwrite] at hsettles
        exact hsettles hw
      | done now =>
        rw [hwrite] at happly
        cases happly
      | lost =>
        rw [hwrite] at happly
        cases happly
    · rename_i happly
      rcases apply_ok happly with ⟨now, hwrite, rfl⟩ | ⟨hwrite, rfl⟩
      · exact .recorded ⟨⟨startTime, rfl⟩, now, hwrite⟩ rfl rfl
      · refine .leaked (.refl _) fun hsettles => ?_
        simp only [CreateResult.Settles, hwrite] at hsettles

/-- The ports of the attempt are freed at its end. -/
def CreateResult.Frees (write : ℕ → Write) : CreateResult → Prop
  | .raises _ => ¬(write 0).isRaise
  | .failure _ => ¬((write 0).isRaise ∧ (write 1).isRaise)
  | .success _ => (write 0).isRaise ∧ ¬(write 1).isRaise

instance (write : ℕ → Write) : ∀ result : CreateResult, Decidable (result.Frees write)
  | .raises _ => inferInstanceAs (Decidable ¬(write 0).isRaise)
  | .failure _ => inferInstanceAs (Decidable ¬((write 0).isRaise ∧ (write 1).isRaise))
  | .success _ => inferInstanceAs (Decidable ((write 0).isRaise ∧ ¬(write 1).isRaise))

/-- What the second part of the create handler does to the busy ports. -/
theorem createFinish_allocator (spec : Spec) (ports : List ℤ) (result : CreateResult)
    (write : ℕ → Write) (a : PortAllocator) (status : Status) :
    (createFinish spec ports result write a status).2.1 =
      if result.Frees write then a.free ports else a := by
  have hunexpected : ∀ (message : String) (w : Write), (result.Frees write ↔ ¬w.isRaise) →
      (unexpected message w ports a status).2.1 =
        if result.Frees write then a.free ports else a := by
    intro message w hiff
    rw [(unexpected_spec ..).2]
    by_cases hraise : w.isRaise
    · rw [if_pos hraise, if_neg fun hfrees => hiff.mp hfrees hraise]
    · rw [if_neg hraise, if_pos (hiff.mpr hraise)]
  unfold createFinish
  cases result with
  | raises message => exact hunexpected message (write 0) Iff.rfl
  | failure error =>
    dsimp only
    split
    · rename_i happly
      refine hunexpected _ (write 1) ?_
      simp [CreateResult.Frees, isRaise_of_error happly]
    · rename_i happly
      refine (if_pos ?_).symm
      simp [CreateResult.Frees, isRaise_of_ok happly]
  | success startTime =>
    dsimp only
    split
    · rename_i happly
      refine hunexpected _ (write 1) ?_
      simp [CreateResult.Frees, isRaise_of_error happly]
    · rename_i happly
      refine (if_neg ?_).symm
      simp [CreateResult.Frees, isRaise_of_ok happly]

end GnnSandbox.Operator.Traffic
