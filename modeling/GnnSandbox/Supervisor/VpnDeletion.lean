import GnnSandbox.Supervisor.Cluster

/-!
# Deleting a VPN after its tests

`delete_vpn_with_tests_background` deletes the traffic tests of a VPN one after the other, waits
for each of them to disappear and then deletes the VPN. When anything goes wrong with the tests it
goes on to the VPN all the same.
-/

namespace GnnSandbox.Supervisor.Cluster

section Deletion

variable (env : Env)

/-- The body of the loop over the linked tests. -/
def deleteTest (name : String) : Program Unit Unit :=
  tryCatch (do
    deleteCr env .trafficTest name
    emit (.deleting .trafficTest name)
    if ← waitForCrGone env .trafficTest name then emit (.deleted .trafficTest name)
    else pure ()) fun
    | .notFound => emit (.skipped .trafficTest name)
    | .failed (.api _) => pure ()
    | .failed (.other text) => throw (.failed (.other text))

/-- Step 1: the tests whose `vpnRef` is the VPN. -/
def deleteLinkedTests (vpnName : String) : Program Unit Unit :=
  tryCatch (do
    resources env .trafficTest
    let crs ← listCrs env .trafficTest
    forM (crs.filter (·.vpnRef = some vpnName)) fun cr => deleteTest env cr.name)
    fun _ => pure ()

/-- Step 2, and whether the task goes on after it. -/
def deleteVpn (vpnName : String) : Program Unit Bool :=
  tryCatch (do
    resources env .vyosL3vpn
    deleteCr env .vyosL3vpn vpnName
    emit (.deleting .vyosL3vpn vpnName)
    if ← waitForCrGone env .vyosL3vpn vpnName then
      emit (.deleted .vyosL3vpn vpnName)
      pure true
    else
      emit .failed
      pure false) fun
    | .notFound => do
      emit (.deleted .vyosL3vpn vpnName)
      pure true
    | .failed (.api _) => do
      emit .failed
      pure false
    | .failed (.other text) => throw (.failed (.other text))

/-- `delete_vpn_with_tests_background` -/
def deleteVpnWithTests (vpnName : String) : Program Unit Unit :=
  tryCatch (do
    client env
    emit .deletingTests
    deleteLinkedTests env vpnName
    emit .deletingVpn
    if ← deleteVpn env vpnName then emit .complete else pure ()) fun _ => emit .failed

/-- The world after the deletion of a VPN. -/
def vpnDeleted (vpnName : String) (scene : Scene) (clock : ℕ) : World Unit :=
  Effect.after (deleteVpnWithTests env vpnName).run (.initial scene clock ())

end Deletion

/-! ## Order -/

/-- A test that runs over a VPN. -/
def Resource.Tests (vpnName : String) (r : Resource) : Prop :=
  r.kind = .trafficTest ∧ r.vpnRef = some vpnName

instance {vpnName : String} : DecidablePred (Resource.Tests vpnName) := fun r => by
  unfold Resource.Tests
  infer_instance

def Untested (vpnName : String) (s : Scene) : Prop := ∀ r ∈ s.present, ¬r.Tests vpnName

/-- A delete is issued for the VPN only when no test of it exists. -/
def AfterTests (vpnName : String) (e : Entry) : Prop :=
  ∀ failure, e.event = .call (.delete .vyosL3vpn vpnName) failure → Untested vpnName e.scene

/-- The stage `complete` is emitted only when the VPN is gone. -/
def WhenGone (vpnName : String) (e : Entry) : Prop :=
  e.event = .emitted .complete → Absent .vyosL3vpn vpnName e.scene

/-- A call about tests that fails, or a wait for a test that times out, comes when no test of the
VPN is left. -/
def TestsUntroubled (vpnName : String) (e : Entry) : Prop :=
  e.event.troubled = true → e.event.kind? = some .trafficTest → Untested vpnName e.scene

/-- What is judged along a deletion: `T` holds from the first delete of the VPN on. -/
structure Judged (vpnName : String) (ok good : Entry → Prop) (T : World Unit → Prop) : Prop where
  fading : Fading T
  untested : ∀ w : World Unit, Untested vpnName w.scene → T w
  trouble : ∀ event (w : World Unit), event.kind? = some .trafficTest → event.troubled = true →
    ok ⟨event, w.scene⟩ → T w
  other : ∀ event s, (∀ failure, event ≠ .call (.delete .vyosL3vpn vpnName) failure) →
    event ≠ .emitted .complete → good ⟨event, s⟩
  delete : ∀ failure (w : World Unit), T w → good ⟨.call (.delete .vyosL3vpn vpnName) failure, w.scene⟩
  complete : ∀ s, Absent .vyosL3vpn vpnName s → good ⟨.emitted .complete, s⟩

theorem judged_afterTests (vpnName : String) :
    Judged vpnName (TestsUntroubled vpnName) (AfterTests vpnName)
      fun w => Untested vpnName w.scene where
  fading := Fading.present
  untested _ h := h
  trouble _ _ hkind htroubled hok := hok htroubled hkind
  other _ _ hdelete _ failure hevent := absurd hevent (hdelete failure)
  delete _ _ h _ _ := h
  complete _ _ _ hevent := by cases hevent

theorem judged_whenGone (vpnName : String) :
    Judged vpnName (fun _ => True) (WhenGone vpnName) fun _ => True where
  fading _ _ _ _ _ h := h
  untested _ _ := trivial
  trouble _ _ _ _ _ := trivial
  other _ _ _ hcomplete hevent := absurd hevent hcomplete
  delete _ _ _ hevent := by cases hevent
  complete _ h _ := h

section Proofs

variable {env : Env} {vpnName name : String} {ok good : Entry → Prop} {T F : World Unit → Prop}
  {names : List String} {w : World Unit}

/-- Every test of the VPN has one of some names, unless `T` holds already. -/
def Pending (vpnName : String) (T : World Unit → Prop) (names : List String) (w : World Unit) :
    Prop :=
  (∀ r ∈ w.scene.present, r.Tests vpnName → r.name ∈ names) ∨ T w

theorem Pending.of_absent (h : Pending vpnName T (name :: names) w)
    (habsent : Absent .trafficTest name w.scene) : Pending vpnName T names w := by
  refine h.imp_left fun hnamed r hr htests => ?_
  refine (List.mem_cons.mp (hnamed r hr htests)).resolve_left fun hname => ?_
  have his := habsent r hr
  unfold Resource.is at his
  rw [htests.1, hname] at his
  simp at his

variable (h : Judged vpnName ok good T)
include h

theorem Judged.pending_fading (names : List String) : Fading (Pending vpnName T names) :=
  fun w w' hpresent hearlier hlocals => Or.imp (fun hnamed r hr => hnamed r (hpresent hr))
    (h.fading w w' hpresent hearlier hlocals)

theorem Judged.watch (kind : Kind) (hF : Fading F) :
    Watch ok good kind F (fun w => kind = .trafficTest → T w) fun w =>
      kind = .trafficTest → T w where
  fading := hF
  good event w hkind hdelete _ := by
    refine h.other event w.scene (fun failure hevent => ?_) fun hevent => ?_
    · rw [hevent] at hkind
      obtain rfl := Option.some.inj hkind
      exact hdelete vpnName failure hevent
    · rw [hevent] at hkind
      cases hkind
  trouble event w hkind htroubled _ hok := by
    have htrouble : kind = .trafficTest → T w := by
      rintro rfl
      exact h.trouble event w hkind htroubled hok
    split_ifs <;> exact htrouble

theorem Judged.emit_spec {stage : Stage} {E : Raised → World Unit → Prop} (hF : Fading F)
    (hstage : stage ≠ .complete) :
    Attempt.Triple (Keeps ok good F) (emit stage) (fun _ => Keeps ok good F) E := by
  refine Cluster.emit_spec hF fun w _ => h.other _ _ (fun failure heq => by cases heq) ?_
  exact fun heq => hstage (Event.emitted.inj heq)

theorem Judged.of_pending (hw : Pending vpnName T [] w) : T w :=
  hw.elim (fun hnamed => h.untested w fun r hr htests => List.not_mem_nil (hnamed r hr htests)) id

/-- **One test.** However its deletion ends, it is gone or `T` holds. -/
theorem deleteTest_spec :
    Attempt.Triple (Keeps ok good (Pending vpnName T (name :: names))) (deleteTest env name)
      (fun _ => Keeps ok good (Pending vpnName T names)) fun _ => Keeps ok good T := by
  have hfading := h.pending_fading (name :: names)
  have hwatch := h.watch .trafficTest hfading
  have hdelete : Attempt.Triple (Keeps ok good (Pending vpnName T (name :: names)))
      (deleteCr env .trafficTest name)
      (fun _ => Keeps ok good (Pending vpnName T (name :: names)))
      fun e => Keeps ok good fun w => (e = .notFound → Pending vpnName T names w) ∧
        (e ≠ .notFound → T w) := by
    refine (deleteCr_spec hwatch fun failure w _ => h.other _ _ (fun _ heq => by cases heq)
      fun heq => by cases heq).conseq (fun _ hw => hw) (fun _ _ hw => hw) fun e w hw =>
      hw.imp fun w hw => ⟨fun heq => hw.1.of_absent (hw.2.1 heq), fun hne => ?_⟩
    cases e with
    | notFound => exact absurd rfl hne
    | failed failure =>
      cases failure with
      | api reason => exact hw.2.2.1 reason rfl rfl
      | other text => exact hw.2.2.2 text rfl rfl
  have hwait : Attempt.Triple (Keeps ok good (Pending vpnName T (name :: names)))
      (waitForCrGone env .trafficTest name)
      (fun _ => Keeps ok good (Pending vpnName T names))
      fun e => Keeps ok good fun w => (e = .notFound → Pending vpnName T names w) ∧
        (e ≠ .notFound → T w) := by
    refine (waitForCrGone_spec hwatch).conseq (fun _ hw => hw)
      (fun gone w hw => hw.imp fun w hw => ?_) fun e w hw =>
      hw.imp fun w hw => ⟨fun _ => Or.inr (hw.2.1 rfl), fun _ => hw.2.1 rfl⟩
    cases gone with
    | true => exact hw.1.of_absent (hw.2.1 rfl)
    | false => exact Or.inr (hw.2.2 rfl rfl)
  refine .tryCatch (.bind hdelete fun _ => .bind (h.emit_spec hfading (by simp)) fun _ =>
    .bind hwait fun gone => .ite (fun _ => h.emit_spec (h.pending_fading names) (by simp))
      fun _ => .pure fun w hw => hw) fun e => ?_
  cases e with
  | notFound =>
    exact (h.emit_spec (h.pending_fading names) (by simp)).pre fun w hw =>
      hw.imp fun w hw => hw.1 rfl
  | failed failure =>
    have hleft : ∀ w : World Unit, Keeps ok good (fun w =>
        (Raised.failed failure = .notFound → Pending vpnName T names w) ∧
          (Raised.failed failure ≠ .notFound → T w)) w → Keeps ok good T w :=
      fun w hw => hw.imp fun w hw => hw.2 fun heq => by cases heq
    cases failure with
    | api reason => exact .pure fun w hw => (hleft w hw).imp fun w hw => Or.inr hw
    | other text => exact .throw hleft

/-- **All tests.** However the first step ends, `T` holds. -/
theorem deleteLinkedTests_spec {E : Raised → World Unit → Prop} :
    Attempt.Triple (Keeps ok good fun _ => True) (deleteLinkedTests env vpnName)
      (fun _ => Keeps ok good T) E := by
  have hwatch := h.watch (F := fun _ => True) .trafficTest fun _ _ _ _ _ hw => hw
  have herror : ∀ (e : Raised) (w : World Unit), Keeps ok good
      (fun w => True ∧ (Kind.trafficTest = .trafficTest → T w) ∧ e ≠ .notFound) w →
      Keeps ok good T w := fun e w hw => hw.imp fun w hw => hw.2.1 rfl
  have hloop : ∀ crs : List Resource, Attempt.Triple
      (Keeps ok good (Pending vpnName T (crs.map Resource.name)))
      (forM crs fun cr => deleteTest env cr.name) (fun _ => Keeps ok good (Pending vpnName T []))
      fun _ => Keeps ok good T :=
    fun crs => Attempt.Triple.loop
      (I := fun crs => Keeps ok good (Pending vpnName T (crs.map Resource.name)))
      fun cr rest _ => deleteTest_spec h
  refine .tryCatch (.bind ((resources_spec hwatch).conseq (fun _ hw => hw) (fun _ _ hw => hw) herror)
    fun _ => .bind ((listCrs_spec hwatch).conseq (fun _ hw => hw) (fun _ _ hw => hw) herror)
    fun crs => ?_) fun e => .pure fun w hw => hw
  refine (hloop _).conseq (fun w hw => hw.imp fun w hw => Or.inl fun r hr htests => ?_)
    (fun _ w hw => hw.imp fun w hw => h.of_pending hw) fun _ _ hw => hw
  refine List.mem_map_of_mem (List.mem_filter.mpr ⟨hw.2.2 r hr htests.1, ?_⟩)
  exact decide_eq_true htests.2

/-- **The VPN.** It goes on only when the VPN is gone. -/
theorem deleteVpn_spec :
    Attempt.Triple (Keeps ok good T) (deleteVpn env vpnName)
      (fun done => Keeps ok good fun w => done = true → Absent .vyosL3vpn vpnName w.scene)
      fun _ => Keeps ok good fun _ => True := by
  have hwatch := h.watch .vyosL3vpn h.fading
  have habsent : Fading fun w : World Unit => Absent .vyosL3vpn vpnName w.scene := Fading.present
  have htrue : Fading fun _ : World Unit => True := fun _ _ _ _ _ hw => hw
  have hdone : ∀ {E}, Attempt.Triple
      (Keeps ok good fun w : World Unit => Absent .vyosL3vpn vpnName w.scene)
      (do emit (.deleted .vyosL3vpn vpnName); pure true)
      (fun done => Keeps ok good fun w => done = true → Absent .vyosL3vpn vpnName w.scene) E :=
    fun {E} => .bind (h.emit_spec habsent (by simp)) fun _ => .pure fun w hw =>
      hw.imp fun w hw _ => hw
  have hfailed : ∀ {E}, Attempt.Triple (Keeps ok good fun _ : World Unit => True)
      (do emit .failed; pure false)
      (fun done => Keeps ok good fun w => done = true → Absent .vyosL3vpn vpnName w.scene) E :=
    fun {E} => .bind (h.emit_spec htrue (by simp)) fun _ => .pure fun w hw =>
      hw.imp fun w _ heq => by cases heq
  have hraised : ∀ (e : Raised) (w : World Unit), Keeps ok good
      (fun w => T w ∧ (Kind.vyosL3vpn = .trafficTest → T w) ∧ e ≠ .notFound) w →
      Keeps ok good (fun w => e = .notFound → Absent .vyosL3vpn vpnName w.scene) w :=
    fun e w hw => hw.imp fun w hw heq => absurd heq hw.2.2
  refine .tryCatch (E := fun e => Keeps ok good fun w =>
    e = .notFound → Absent .vyosL3vpn vpnName w.scene) ?_ fun e => ?_
  · refine .bind ((resources_spec hwatch).conseq (fun _ hw => hw) (fun _ _ hw => hw) hraised)
      fun _ => .bind ((deleteCr_spec hwatch fun failure w hw => h.delete failure w hw).conseq
      (fun _ hw => hw) (fun _ _ hw => hw) fun e w hw => hw.imp fun w hw => hw.2.1) fun _ => ?_
    refine .bind (h.emit_spec h.fading (by simp)) fun _ => .bind ((waitForCrGone_spec hwatch).conseq
      (fun _ hw => hw) (fun _ _ hw => hw) hraised) fun gone => .ite (fun hgone => ?_) fun _ => ?_
    · exact hdone.pre fun w hw => hw.imp fun w hw => hw.2.1 hgone
    · exact hfailed.pre fun w hw => hw.imp fun w _ => trivial
  · cases e with
    | notFound => exact hdone.pre fun w hw => hw.imp fun w hw => hw rfl
    | failed failure =>
      cases failure with
      | api reason => exact hfailed.pre fun w hw => hw.imp fun w _ => trivial
      | other text => exact .throw fun w hw => hw.imp fun w _ => trivial

/-- **The deletion.** Whatever is judged is good in every entry. -/
theorem vpnDeleted_good (env : Env) (scene : Scene) (clock : ℕ)
    (hok : ∀ e ∈ (vpnDeleted env vpnName scene clock).log, ok e) :
    ∀ e ∈ (vpnDeleted env vpnName scene clock).log, good e := by
  have htrue : Fading fun _ : World Unit => True := fun _ _ _ _ _ hw => hw
  have hclient : Attempt.Triple (Keeps ok good fun _ => True) (client env)
      (fun _ => Keeps ok good fun _ => True) fun _ => Keeps ok good fun _ : World Unit => True :=
    ask_spec htrue (fun f w _ _ => h.other _ _ (fun _ heq => by cases heq) fun heq => by cases heq)
      (fun _ _ _ _ => trivial) (fun _ _ _ _ => trivial) fun _ _ _ _ => trivial
  have hrun : Attempt.Triple (Keeps ok good fun _ => True) (deleteVpnWithTests env vpnName)
      (fun _ => Keeps ok good fun _ => True) fun _ => Keeps ok good fun _ => True := by
    refine .tryCatch (.bind hclient fun _ => .bind (h.emit_spec htrue (by simp)) fun _ =>
      .bind (deleteLinkedTests_spec h) fun _ => .bind (h.emit_spec h.fading (by simp)) fun _ =>
      .bind (deleteVpn_spec h) fun done => .ite (fun hdone => ?_) fun _ => ?_)
      fun e => h.emit_spec htrue (by simp)
    · have habsent : Fading fun w : World Unit => Absent .vyosL3vpn vpnName w.scene :=
        Fading.present
      exact (Cluster.emit_spec habsent fun w hw => h.complete _ hw).conseq
        (fun w hw => hw.imp fun w hw => hw hdone) (fun _ w hw => hw.imp fun _ _ => trivial)
        fun _ _ hw => hw
    · exact .pure fun w hw => hw.imp fun _ _ => trivial
  have hend := hrun.after (fun _ _ hw => hw) (fun _ _ hw => hw) (.initial scene clock ())
    fun _ => ⟨fun _ he => (by cases he), trivial⟩
  exact (hend hok).1

end Proofs

/-- The stage `complete` is emitted only when the VPN is gone. -/
theorem complete_when_gone (env : Env) (vpnName : String) (scene : Scene) (clock : ℕ) :
    ∀ e ∈ (vpnDeleted env vpnName scene clock).log, WhenGone vpnName e :=
  vpnDeleted_good (judged_whenGone vpnName) env scene clock fun _ _ => trivial

/-- **After its tests.** When there is no trouble with the tests as long as tests of the VPN exist,
the VPN is deleted only after them, and in every run `complete` is emitted only when the VPN is
gone. -/
theorem deleted_after_tests (env : Env) (vpnName : String) (scene : Scene) (clock : ℕ)
    (h : ∀ e ∈ (vpnDeleted env vpnName scene clock).log, TestsUntroubled vpnName e) :
    ∀ e ∈ (vpnDeleted env vpnName scene clock).log, AfterTests vpnName e ∧ WhenGone vpnName e :=
  fun e he => ⟨vpnDeleted_good (judged_afterTests vpnName) env scene clock h e he,
    complete_when_gone env vpnName scene clock e he⟩

instance {vpnName : String} : DecidablePred (TestsUntroubled vpnName) := fun e => by
  unfold TestsUntroubled Untested
  infer_instance

theorem deleted_after_tests_blue :
    (∀ e ∈ (vpnDeleted (failingAt none) "blue" testedVpn 0).log, TestsUntroubled "blue" e) ∧
      ∀ e ∈ (vpnDeleted (failingAt none) "blue" testedVpn 0).log,
        AfterTests "blue" e ∧ WhenGone "blue" e := by
  have htests : ∀ e ∈ (vpnDeleted (failingAt none) "blue" testedVpn 0).log,
      TestsUntroubled "blue" e := by
    decide +kernel
  exact ⟨htests, deleted_after_tests (failingAt none) "blue" testedVpn 0 htests⟩

/-- The list of the tests fails, and the VPN is deleted under its test. -/
theorem deleted_under_test :
    (∃ e ∈ (vpnDeleted (failingAt (some 2)) "blue" testedVpn 0).log,
      e.event = .call (.delete .vyosL3vpn "blue") none ∧ http ∈ e.scene.present) ∧
    (∃ e ∈ (vpnDeleted (failingAt (some 2)) "blue" testedVpn 0).log,
      e.event = .emitted .complete ∧ e.scene.present = [http]) ∧
    ¬∀ e ∈ (vpnDeleted (failingAt (some 2)) "blue" testedVpn 0).log, AfterTests "blue" e := by
  have hdeleted : ∃ e ∈ (vpnDeleted (failingAt (some 2)) "blue" testedVpn 0).log,
      e.event = .call (.delete .vyosL3vpn "blue") none ∧ http ∈ e.scene.present := by
    decide +kernel
  refine ⟨hdeleted, by decide +kernel, fun hafter => ?_⟩
  obtain ⟨e, he, hevent, hpresent⟩ := hdeleted
  exact hafter e he none hevent http hpresent ⟨rfl, rfl⟩

end GnnSandbox.Supervisor.Cluster
