import GnnSandbox.Lib.Holdings
import GnnSandbox.Operator.Traffic.Attempts

/-!
# The books of the port allocator

Every busy port is held by a test that has it on record, or by an attempt that waits for the
agents. Each step of a handler that settles its ports keeps these books.
-/

namespace GnnSandbox.Operator.Traffic

open PortAllocator

variable {s s' : State} {ref : Ref} {test : TrafficTest} {tests : Tests} {ports : List ℤ}
  {spec : Spec} {status' : Status} {w : Write} {write : ℕ → Write} {a a' : PortAllocator}
  {ans : StartAnswers}

/-! ## The books -/

/-- Who may hold ports: the record of a test, and an attempt to start one. -/
inductive Owner where
  | record (ref : Ref)
  | attempt (ref : Ref)
deriving DecidableEq

/-- The ports on record for a test, none if it does not exist. -/
def recordedOf (tests : Tests) (ref : Ref) : List ℤ :=
  match tests.lookup ref with
  | some test => test.status.recorded
  | none => []

/-- The ports of an attempt. -/
def Handler.attempted : Option Handler → List ℤ
  | some (.creating ports) => ports
  | _ => []

def held (recorded attempted : Ref → List ℤ) : Owner → Set ℤ
  | .record ref => {port | port ∈ recorded ref}
  | .attempt ref => {port | port ∈ attempted ref}

/-- The ports that each test has on record. -/
def State.recorded (s : State) : Ref → List ℤ := recordedOf s.tests

/-- The ports that each running attempt holds. -/
def State.attempted (s : State) (ref : Ref) : List ℤ := Handler.attempted (s.handlers ref)

/-- The busy ports are those on record and those of running attempts. -/
structure Books (s : State) : Prop where
  balanced : BalancedHoldings s.allocator.busyPorts (held s.recorded s.attempted)
  valid : ∀ port ∈ s.allocator.busyPorts, isValidIdx (getIdx port) = true
  sound : ∀ ref test, s.tests.lookup ref = some test → test.Sound
  creating : ∀ ref ports, s.handlers ref = some (.creating ports) →
    ∃ test, s.tests.lookup ref = some test ∧ test.spec.sourceDevices ≠ []
  deleting : ∀ ref ports, s.handlers ref = some (.deleting ports) → ports = s.recorded ref

theorem books_initial : Books .initial where
  balanced := by
    have hheld : held State.initial.recorded State.initial.attempted = fun _ => ∅ := by
      funext owner
      cases owner <;> exact Set.eq_empty_of_forall_notMem fun _ => List.not_mem_nil
    rw [hheld]
    show BalancedHoldings PortAllocator.empty.busyPorts _
    rw [busyPorts_empty]
    exact BalancedHoldings.empty
  valid port hport := by cases hport
  sound ref test h := by cases h
  creating ref ports h := by cases h
  deleting ref ports h := by cases h

theorem recordedOf_insert :
    recordedOf (tests.insert ref test) = Function.update (recordedOf tests) ref test.status.recorded := by
  funext r
  unfold recordedOf
  rcases eq_or_ne r ref with rfl | hne
  · rw [AList.lookup_insert, Function.update_self]
  · rw [AList.lookup_insert_ne hne, Function.update_of_ne hne]

theorem recordedOf_erase : recordedOf (tests.erase ref) = Function.update (recordedOf tests) ref [] := by
  funext r
  unfold recordedOf
  rcases eq_or_ne r ref with rfl | hne
  · rw [AList.lookup_erase, Function.update_self]
  · rw [AList.lookup_erase_ne hne, Function.update_of_ne hne]

theorem recordedOf_lookup (h : tests.lookup ref = some test) :
    recordedOf tests ref = test.status.recorded := by
  unfold recordedOf
  rw [h]

theorem attempted_update {handlers : Ref → Option Handler} {handler : Option Handler} :
    (fun r => Handler.attempted (Function.update handlers ref handler r)) =
      Function.update (fun r => Handler.attempted (handlers r)) ref (Handler.attempted handler) := by
  funext r
  rcases eq_or_ne r ref with rfl | hne
  · simp
  · simp [hne]

variable {recorded attempted : Ref → List ℤ}

theorem held_update_record : held (Function.update recorded ref ports) attempted =
    Function.update (held recorded attempted) (.record ref) {port | port ∈ ports} := by
  funext owner
  cases owner with
  | record r =>
    rcases eq_or_ne r ref with rfl | hne
    · simp [held]
    · simp [held, hne]
  | attempt r => simp [held]

theorem held_update_attempt : held recorded (Function.update attempted ref ports) =
    Function.update (held recorded attempted) (.attempt ref) {port | port ∈ ports} := by
  funext owner
  cases owner with
  | record r => simp [held]
  | attempt r =>
    rcases eq_or_ne r ref with rfl | hne
    · simp [held]
    · simp [held, hne]

theorem Books.valid_held (h : Books s) (owner : Owner) :
    ∀ port ∈ held s.recorded s.attempted owner, isValidIdx (getIdx port) = true := fun port hport =>
  h.valid port (h.balanced.held_subset owner hport)

theorem Books.valid_recorded (h : Books s) (ref : Ref) : Valid (s.recorded ref) :=
  h.valid_held (.record ref)

theorem Books.valid_attempted (h : Books s) (ref : Ref) : Valid (s.attempted ref) :=
  h.valid_held (.attempt ref)

/-! ## Steps that keep the records -/

theorem lookup_insert_cases {r : Ref} {t : TrafficTest}
    (h : (tests.insert ref test).lookup r = some t) :
    (r = ref ∧ t = test) ∨ (r ≠ ref ∧ tests.lookup r = some t) := by
  rcases eq_or_ne r ref with rfl | hne
  · rw [AList.lookup_insert] at h
    exact .inl ⟨rfl, (Option.some.inj h).symm⟩
  · rw [AList.lookup_insert_ne hne] at h
    exact .inr ⟨hne, h⟩

/-- The tests after a status update that keeps the record. -/
structure KeepsTests (tests tests' : Tests) : Prop where
  recorded : recordedOf tests' = recordedOf tests
  sound : (∀ ref test, tests.lookup ref = some test → test.Sound) →
    ∀ ref test, tests'.lookup ref = some test → test.Sound
  spec : ∀ ref test, tests.lookup ref = some test →
    ∃ test', tests'.lookup ref = some test' ∧ test'.spec = test.spec

theorem KeepsTests.refl (tests : Tests) : KeepsTests tests tests :=
  ⟨rfl, id, fun _ test h => ⟨test, h, rfl⟩⟩

theorem KeepsTests.trans {tests' tests'' : Tests} (h : KeepsTests tests tests')
    (h' : KeepsTests tests' tests'') : KeepsTests tests tests'' where
  recorded := h'.recorded.trans h.recorded
  sound hsound := h'.sound (h.sound hsound)
  spec ref test hlookup := by
    obtain ⟨test', hlookup', hspec⟩ := h.spec ref test hlookup
    obtain ⟨test'', hlookup'', hspec'⟩ := h'.spec ref test' hlookup'
    exact ⟨test'', hlookup'', hspec'.trans hspec⟩

theorem keepsTests_insert (hlookup : tests.lookup ref = some test)
    (hkeeps : Keeps test.status status') :
    KeepsTests tests (tests.insert ref { test with status := status' }) where
  recorded := by
    rw [recordedOf_insert, hkeeps.recorded, ← recordedOf_lookup hlookup, Function.update_eq_self]
  sound hsound r t ht := by
    rcases lookup_insert_cases ht with ⟨-, rfl⟩ | ⟨-, ht⟩
    · exact hkeeps.sound (hsound ref test hlookup)
    · exact hsound r t ht
  spec r t ht := by
    rcases eq_or_ne r ref with rfl | hne
    · obtain rfl := Option.some.inj (hlookup.symm.trans ht)
      exact ⟨_, AList.lookup_insert _, rfl⟩
    · exact ⟨t, by rw [AList.lookup_insert_ne hne, ht], rfl⟩

/-- The books after a step that keeps the records and changes one handler. -/
theorem Books.of_keepsTests {tests' : Tests} {handler : Option Handler} (h : Books s)
    (hkeeps : KeepsTests s.tests tests')
    (hbalanced : BalancedHoldings a'.busyPorts
      (held s.recorded (Function.update s.attempted ref (Handler.attempted handler))))
    (hvalid : ∀ port ∈ a'.busyPorts, isValidIdx (getIdx port) = true)
    (hcreating : ∀ ports, handler = some (.creating ports) →
      ∃ test, s.tests.lookup ref = some test ∧ test.spec.sourceDevices ≠ [])
    (hdeleting : ∀ ports, handler = some (.deleting ports) → ports = s.recorded ref) :
    Books ⟨tests', a', Function.update s.handlers ref handler⟩ where
  balanced := by
    show BalancedHoldings a'.busyPorts (held (recordedOf tests')
      (fun r => Handler.attempted (Function.update s.handlers ref handler r)))
    rw [hkeeps.recorded, attempted_update]
    exact hbalanced
  valid := hvalid
  sound := hkeeps.sound h.sound
  creating r ports hr := by
    have hold : ∃ test, s.tests.lookup r = some test ∧ test.spec.sourceDevices ≠ [] := by
      rcases eq_or_ne r ref with rfl | hne
      · exact hcreating ports (by simpa using hr)
      · exact h.creating r ports (by simpa [hne] using hr)
    obtain ⟨test, hlookup, hsources⟩ := hold
    obtain ⟨test', hlookup', hspec⟩ := hkeeps.spec r test hlookup
    exact ⟨test', hlookup', hspec ▸ hsources⟩
  deleting r ports hr := by
    show ports = recordedOf tests' r
    rw [hkeeps.recorded]
    rcases eq_or_ne r ref with rfl | hne
    · exact hdeleting ports (by simpa using hr)
    · exact h.deleting r ports (by simpa [hne] using hr)

theorem Books.valid_sdiff (h : Books s) (ports : Set ℤ) :
    ∀ port ∈ s.allocator.busyPorts \ ports, isValidIdx (getIdx port) = true := fun port hport =>
  h.valid port hport.1

theorem Books.valid_union (h : Books s) (hports : Valid ports) :
    ∀ port ∈ s.allocator.busyPorts ∪ {port | port ∈ ports}, isValidIdx (getIdx port) = true := by
  rintro port (hport | hport)
  · exact h.valid port hport
  · exact hports port hport

theorem handlers_update_none {r : Ref} {handler : Handler}
    (h : Function.update s.handlers ref none r = some handler) :
    r ≠ ref ∧ s.handlers r = some handler := by
  rcases eq_or_ne r ref with rfl | hne
  · rw [Function.update_self] at h
    cases h
  · rw [Function.update_of_ne hne] at h
    exact ⟨hne, h⟩

theorem State.attempted_of_none (h : s.handlers ref = none) : s.attempted ref = [] := by
  unfold State.attempted
  rw [h]
  rfl

theorem State.attempted_of_creating (h : s.handlers ref = some (.creating ports)) :
    s.attempted ref = ports := by
  unfold State.attempted
  rw [h]
  rfl

/-- A running attempt that takes ports. -/
theorem Books.take (h : Books s) (hidle : s.attempted ref = []) {n : ℕ}
    (hgrants : s.allocator.Grants n ports a') :
    BalancedHoldings a'.busyPorts (held s.recorded (Function.update s.attempted ref ports)) := by
  have hnone : held s.recorded s.attempted (.attempt ref) = ∅ := by
    show {port | port ∈ s.attempted ref} = ∅
    rw [hidle]
    exact Set.eq_empty_of_forall_notMem fun _ => List.not_mem_nil
  rw [hgrants.busy, held_update_attempt]
  exact h.balanced.take hnone hgrants.free

/-- An attempt that frees its ports. -/
theorem Books.giveBack (h : Books s) (hports : s.attempted ref = ports) :
    BalancedHoldings (s.allocator.free ports).busyPorts
      (held s.recorded (Function.update s.attempted ref [])) := by
  subst hports
  have hnil : {port : ℤ | port ∈ ([] : List ℤ)} = ∅ :=
    Set.eq_empty_of_forall_notMem fun _ => List.not_mem_nil
  rw [busyPorts_free (h.valid_attempted ref), held_update_attempt, hnil]
  exact h.balanced.giveBack (.attempt ref)

theorem busyPorts_free_grants {n : ℕ} (h : a.Grants n ports a') :
    (a'.free ports).busyPorts = a.busyPorts := by
  rw [busyPorts_free h.valid, h.busy, Set.union_sdiff_right]
  exact h.free.symm.sdiff_eq_left

theorem books_createStart (h : Books s)
    (hclean : ∀ test, s.tests.lookup ref = some test →
      ans.GetsPorts test.spec s.allocator → ans.Settles test.spec)
    (hstep : s.createStart ref ans = some s') : Books s' := by
  obtain ⟨test, hlookup, hidle⟩ : ∃ test, s.tests.lookup ref = some test ∧ s.handlers ref = none := by
    unfold State.createStart at hstep
    split at hstep
    · exact ⟨_, ‹_›, ‹_›⟩
    · cases hstep
  have hclean := hclean test hlookup
  obtain ⟨hleaves, hkeeps⟩ := createStart_cases test.spec ans s.allocator test.status
  unfold State.createStart at hstep
  rw [hlookup, hidle] at hstep
  dsimp only at hstep
  obtain rfl := Option.some.inj hstep
  have htests := keepsTests_insert hlookup hkeeps
  have hnone := State.attempted_of_none hidle
  have hself : Function.update s.attempted ref [] = s.attempted := by
    rw [← hnone, Function.update_eq_self]
  generalize Traffic.createStart test.spec ans s.allocator test.status = result at *
  cases hleaves with
  | untouched raised status =>
    refine h.of_keepsTests htests ?_ h.valid (fun _ hc => by cases hc) (fun _ hc => by cases hc)
    show BalancedHoldings _ (held _ (Function.update _ _ []))
    rw [hself]
    exact h.balanced
  | @waiting ports a' devices status halloc hsources =>
    have hgrants := grants_of_alloc halloc
    refine h.of_keepsTests htests (h.take hnone hgrants) ?_ (fun _ _ => ⟨test, hlookup, hsources⟩)
      (fun _ hc => by cases hc)
    rw [hgrants.busy]
    exact h.valid_union hgrants.valid
  | @freed ports a' raised status halloc =>
    have hbusy := busyPorts_free_grants (grants_of_alloc halloc)
    refine h.of_keepsTests htests ?_ (hbusy ▸ h.valid) (fun _ hc => by cases hc)
      (fun _ hc => by cases hc)
    show BalancedHoldings _ (held _ (Function.update _ _ []))
    rw [hself, hbusy]
    exact h.balanced
  | leaked raised status halloc hgets hsettles => exact absurd (hclean hgets) hsettles

theorem books_createFinish {result : CreateResult} (h : Books s)
    (hclean : result.Settles write ∧ (result.Records write → s.recorded ref = []))
    (hstep : s.createFinish ref result write = some s') : Books s' := by
  obtain ⟨test, ports, hlookup, hcreating⟩ : ∃ test ports,
      s.tests.lookup ref = some test ∧ s.handlers ref = some (.creating ports) := by
    unfold State.createFinish at hstep
    split at hstep
    · exact ⟨_, _, ‹_›, ‹_›⟩
    · cases hstep
  have hends := createFinish_cases test.spec ports result write s.allocator test.status
  unfold State.createFinish at hstep
  rw [hlookup, hcreating] at hstep
  dsimp only at hstep
  obtain rfl := Option.some.inj hstep
  have hports := State.attempted_of_creating hcreating
  generalize Traffic.createFinish test.spec ports result write s.allocator test.status = left at *
  obtain ⟨raised, left⟩ := left
  dsimp only at hends ⊢
  cases hends with
  | freed hkeeps =>
    refine h.of_keepsTests (keepsTests_insert hlookup hkeeps) (h.giveBack hports) ?_
      (fun _ hc => by cases hc) (fun _ hc => by cases hc)
    rw [busyPorts_free (hports ▸ h.valid_attempted ref)]
    exact h.valid_sdiff _
  | leaked hkeeps hsettles => exact absurd hclean.1 hsettles
  | @recorded status' hrecords hrecorded hphase =>
    have hempty := hclean.2 hrecords
    obtain ⟨test', hlookup', hsources⟩ := h.creating ref ports hcreating
    obtain rfl := Option.some.inj (hlookup.symm.trans hlookup')
    have hnil : {port : ℤ | port ∈ ([] : List ℤ)} = ∅ :=
      Set.eq_empty_of_forall_notMem fun _ => List.not_mem_nil
    have hrec : recordedOf (s.tests.insert ref { test with status := status' }) =
        Function.update s.recorded ref ports := by
      rw [recordedOf_insert]
      exact congrArg (Function.update _ ref) hrecorded
    exact {
      balanced := by
        show BalancedHoldings s.allocator.busyPorts (held (recordedOf (s.tests.insert ref _))
          (fun r => Handler.attempted (Function.update s.handlers ref none r)))
        rw [hrec, attempted_update, held_update_record, held_update_attempt]
        have hover := h.balanced.handOver (i := .attempt ref) (j := .record ref) (by simp) (by
          show {port | port ∈ s.recorded ref} = ∅
          rw [hempty, hnil])
        have hheld : held s.recorded s.attempted (.attempt ref) = {port | port ∈ ports} := by
          show {port | port ∈ s.attempted ref} = _
          rw [hports]
        rw [hheld] at hover
        show BalancedHoldings _ (Function.update (Function.update _ _ {port | port ∈ ([] : List ℤ)}) _ _)
        rw [hnil]
        exact hover
      valid := h.valid
      sound := by
        intro r t ht
        rcases lookup_insert_cases ht with ⟨-, rfl⟩ | ⟨-, ht⟩
        · exact fun _ => ⟨hphase, hsources⟩
        · exact h.sound r t ht
      creating := by
        intro r ports' hr
        obtain ⟨hne, hr⟩ := handlers_update_none hr
        obtain ⟨t, ht, hsources'⟩ := h.creating r ports' hr
        exact ⟨t, by rw [AList.lookup_insert_ne hne, ht], hsources'⟩
      deleting := by
        intro r ports' hr
        obtain ⟨hne, hr⟩ := handlers_update_none hr
        show ports' = recordedOf _ r
        rw [hrec, Function.update_of_ne hne]
        exact h.deleting r ports' hr }

/-! ## Steps that remove a test -/

/-- The books after a test is gone whose ports are no longer busy. -/
theorem Books.of_erase (h : Books s) (hidle : s.attempted ref = [])
    (hcreating : ∀ ports, s.handlers ref ≠ some (.creating ports))
    (hbalanced : BalancedHoldings a'.busyPorts (held (Function.update s.recorded ref []) s.attempted))
    (hvalid : ∀ port ∈ a'.busyPorts, isValidIdx (getIdx port) = true) :
    Books ⟨s.tests.erase ref, a', Function.update s.handlers ref none⟩ where
  balanced := by
    show BalancedHoldings a'.busyPorts (held (recordedOf (s.tests.erase ref))
      (fun r => Handler.attempted (Function.update s.handlers ref none r)))
    have hself : Function.update s.attempted ref [] = s.attempted := by
      rw [← hidle, Function.update_eq_self]
    rw [recordedOf_erase, attempted_update]
    show BalancedHoldings _ (held _ (Function.update s.attempted ref []))
    rw [hself]
    exact hbalanced
  valid := hvalid
  sound r test hr := by
    rcases eq_or_ne r ref with rfl | hne
    · rw [AList.lookup_erase] at hr
      cases hr
    · rw [AList.lookup_erase_ne hne] at hr
      exact h.sound r test hr
  creating r ports hr := by
    obtain ⟨hne, hr⟩ := handlers_update_none hr
    obtain ⟨test, hlookup, hsources⟩ := h.creating r ports hr
    exact ⟨test, by rw [AList.lookup_erase_ne hne, hlookup], hsources⟩
  deleting r ports hr := by
    obtain ⟨hne, hr⟩ := handlers_update_none hr
    show ports = recordedOf (s.tests.erase ref) r
    rw [recordedOf_erase, Function.update_of_ne hne]
    exact h.deleting r ports hr

theorem books_deleteStart {ans : DeleteAnswers} (h : Books s)
    (hclean : ans.ip = .missing → s.recorded ref = [])
    (hstep : s.deleteStart ref ans = some s') : Books s' := by
  obtain ⟨test, hlookup, hidle⟩ : ∃ test, s.tests.lookup ref = some test ∧ s.handlers ref = none := by
    unfold State.deleteStart at hstep
    split at hstep
    · exact ⟨_, ‹_›, ‹_›⟩
    · cases hstep
  have hrecorded : s.recorded ref = test.status.recorded := recordedOf_lookup hlookup
  have hnone := State.attempted_of_none hidle
  have hremoved : s.recorded ref = [] → Books { s with tests := s.tests.erase ref } := by
    intro hempty
    have hupdate : Function.update s.recorded ref [] = s.recorded := by
      rw [← hempty, Function.update_eq_self]
    have hhandlers : Function.update s.handlers ref none = s.handlers := by
      rw [← hidle, Function.update_eq_self]
    have herase := h.of_erase hnone (by simp [hidle]) (hupdate.symm ▸ h.balanced) h.valid
    rw [hhandlers] at herase
    exact herase
  unfold State.deleteStart at hstep
  rw [hlookup, hidle] at hstep
  dsimp only [Traffic.deleteStart] at hstep
  cases hip : ans.ip with
  | raises message =>
    rw [hip] at hstep
    obtain rfl := Option.some.inj hstep
    exact h
  | missing =>
    rw [hip] at hstep
    obtain rfl := Option.some.inj hstep
    exact hremoved (hclean hip)
  | found address =>
    rw [hip] at hstep
    dsimp only at hstep
    split_ifs at hstep with hports
    · obtain rfl := Option.some.inj hstep
      refine h.of_keepsTests (.refl s.tests) ?_ h.valid (fun _ hc => by cases hc) fun ports hc => ?_
      · show BalancedHoldings _ (held _ (Function.update _ _ []))
        rw [← hnone, Function.update_eq_self]
        exact h.balanced
      · cases hc
        exact hrecorded.symm
    · obtain rfl := Option.some.inj hstep
      refine hremoved ?_
      rw [hrecorded]
      by_contra hne
      exact hports ⟨hne, (h.sound ref test hlookup hne).2⟩

theorem books_deleteFinish {result : DeleteResult} (h : Books s)
    (hclean : ∀ error, result ≠ .failure error)
    (hstep : s.deleteFinish ref result = some s') : Books s' := by
  obtain ⟨ports, hdeleting⟩ : ∃ ports, s.handlers ref = some (.deleting ports) := by
    unfold State.deleteFinish at hstep
    split at hstep
    · exact ⟨_, ‹_›⟩
    · cases hstep
  have hports := h.deleting ref ports hdeleting
  have hnone : s.attempted ref = [] := by
    unfold State.attempted
    rw [hdeleting]
    rfl
  have hnil : {port : ℤ | port ∈ ([] : List ℤ)} = ∅ :=
    Set.eq_empty_of_forall_notMem fun _ => List.not_mem_nil
  unfold State.deleteFinish at hstep
  rw [hdeleting] at hstep
  cases result with
  | failure error => exact absurd rfl (hclean error)
  | success =>
    obtain rfl := Option.some.inj hstep
    have hvalid : Valid ports := hports ▸ h.valid_recorded ref
    have hbusy := busyPorts_free (a := s.allocator) hvalid
    refine h.of_erase hnone (by simp [hdeleting]) ?_ ?_
    · show BalancedHoldings (s.allocator.free ports).busyPorts _
      rw [hbusy, held_update_record, hnil, hports]
      exact h.balanced.giveBack (.record ref)
    · show ∀ port ∈ (s.allocator.free ports).busyPorts, _
      rw [hbusy]
      exact h.valid_sdiff _
  | raises message =>
    obtain rfl := Option.some.inj hstep
    refine h.of_keepsTests (.refl s.tests) ?_ h.valid (fun _ hc => by cases hc)
      (fun _ hc => by cases hc)
    show BalancedHoldings _ (held _ (Function.update _ _ []))
    rw [← hnone, Function.update_eq_self]
    exact h.balanced

/-! ## The other steps -/

theorem books_create (h : Books s) (hstep : s.create ref spec = some s') : Books s' := by
  unfold State.create at hstep
  split at hstep
  · rename_i hlookup
    obtain rfl := Option.some.inj hstep
    have hrec : recordedOf (s.tests.insert ref { spec := spec }) = s.recorded := by
      have hnone : s.recorded ref = [] := by
        unfold State.recorded recordedOf
        rw [hlookup]
      rw [recordedOf_insert]
      show Function.update s.recorded ref [] = s.recorded
      rw [← hnone, Function.update_eq_self]
    exact {
      balanced := by
        show BalancedHoldings s.allocator.busyPorts (held (recordedOf _) s.attempted)
        rw [hrec]
        exact h.balanced
      valid := h.valid
      sound := by
        intro r t ht
        rcases lookup_insert_cases ht with ⟨-, rfl⟩ | ⟨-, ht⟩
        · exact fun hne => absurd rfl hne
        · exact h.sound r t ht
      creating := by
        intro r ports hr
        obtain ⟨t, ht, hsources⟩ := h.creating r ports hr
        have hne : r ≠ ref := by
          rintro rfl
          rw [hlookup] at ht
          cases ht
        exact ⟨t, by rw [AList.lookup_insert_ne hne, ht], hsources⟩
      deleting := by
        intro r ports hr
        show ports = recordedOf _ r
        rw [hrec]
        exact h.deleting r ports hr }
  · cases hstep

theorem books_markCompleted {endTime : String} (h : Books s)
    (hstep : s.markCompleted ref endTime w = some s') : Books s' := by
  unfold State.markCompleted at hstep
  split at hstep
  · rename_i test hlookup
    split at hstep
    · rename_i status happly
      obtain rfl := Option.some.inj hstep
      have hbalanced : BalancedHoldings s.allocator.busyPorts (held s.recorded
          (Function.update s.attempted ref (Handler.attempted (s.handlers ref)))) := by
        show BalancedHoldings _ (held _ (Function.update s.attempted ref (s.attempted ref)))
        rw [Function.update_eq_self]
        exact h.balanced
      have hbooks := h.of_keepsTests (keepsTests_insert hlookup (keeps_of_apply rfl happly))
        hbalanced h.valid (h.creating ref) (h.deleting ref)
      rw [Function.update_eq_self] at hbooks
      exact hbooks
    · obtain rfl := Option.some.inj hstep
      exact h
  · cases hstep

end GnnSandbox.Operator.Traffic
