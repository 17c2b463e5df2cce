import GnnSandbox.Supervisor.Cluster

/-!
# Tearing down a network

`teardown_existing_crds` deletes the resources of a network kind by kind, so that what depends on
a resource goes before it, and waits after each kind until all of it has disappeared. When a call
fails, or a wait times out, it goes on to the next kind all the same.
-/

namespace GnnSandbox.Supervisor.Cluster

/-- `_TEARDOWN_KINDS` -/
def teardownKinds : List Kind := [.trafficTest, .vyosL3vpn, .vyosUnderlay, .vyosInfrastructure]

/-- What `teardown_existing_crds` returns. -/
structure Report where
  deleted : List String
  failed : List String
deriving DecidableEq

def addDeleted (text : String) : Program Report Unit :=
  update fun w => { w with locals := { w.locals with deleted := w.locals.deleted ++ [text] } }

def addFailed (text : String) : Program Report Unit :=
  update fun w => { w with locals := { w.locals with failed := w.locals.failed ++ [text] } }

section Teardown

variable (env : Env)

/-- The delete request for a resource, and whether to wait for it. -/
def requestDeletion (kind : Kind) (name : String) : Program Report Bool :=
  tryCatch (do deleteCr env kind name; pure true) fun
    | .notFound => pure false
    | .failed (.api reason) => do
      addFailed (kind.text ++ "/" ++ name ++ ": " ++ reason)
      pure false
    | .failed (.other text) => throw (.failed (.other text))

/-- Step 1, which returns `names_to_watch`. -/
def requestDeletions (kind : Kind) : List Resource → Program Report (List String)
  | [] => pure []
  | cr :: rest => do
    let watched ← requestDeletion env kind cr.name
    let names ← requestDeletions kind rest
    pure (if watched then cr.name :: names else names)

/-- Step 2 for a resource. -/
def confirmGone (kind : Kind) (name : String) : Program Report Unit := do
  if ← waitForCrGone env kind name then addDeleted (kind.text ++ "/" ++ name)
  else addFailed (kind.text ++ "/" ++ name ++ ": deletion timed out")

/-- The body of the loop over the kinds. -/
def teardownKind (kind : Kind) : Program Report Unit :=
  tryCatch (do
    resources env kind
    let crs ← listCrs env kind
    if crs = [] then pure ()
    else do
      let names ← requestDeletions env kind crs
      forM names (confirmGone env kind)) fun _ => pure ()

/-- `teardown_existing_crds` -/
def teardownExistingCrds : Program Report Unit :=
  tryCatch (do
    client env
    forM teardownKinds (teardownKind env)) fun _ => pure ()

/-- The world after a teardown. -/
def torndown (scene : Scene) (clock : ℕ) : World Report :=
  Effect.after (teardownExistingCrds env).run (.initial scene clock ⟨[], []⟩)

end Teardown

/-! ## Order -/

/-- The kinds that are torn down before a kind. -/
def earlierKinds (kind : Kind) : List Kind := teardownKinds.takeWhile (· ≠ kind)

/-- A delete is issued for a resource only when no resource of an earlier kind exists. -/
def Ordered (e : Entry) : Prop :=
  ∀ kind name failure, e.event = .call (.delete kind name) failure →
    ∀ r ∈ e.scene.present, r.kind ∉ earlierKinds kind

/-- Deletes are ordered, and without a failure on the list no resource is left. -/
def Dependable (w : World Report) : Prop :=
  (∀ e ∈ w.log, Ordered e) ∧ (w.locals.failed = [] → w.scene.present = [])

/-- A call that fails or a wait that times out is about a kind of which no resource is left. When
it puts the resource on the list of failures, it can also be that none of a later kind is left. -/
def Harmless (e : Entry) : Prop :=
  e.event.troubled = true →
    (∀ r ∈ e.scene.present, e.event.kind? ≠ none ∧ e.event.kind? ≠ some r.kind) ∨
      (e.event.minor = true ∧
        ∀ r ∈ e.scene.present, ∀ kind ∈ e.event.kind?, kind ∉ earlierKinds r.kind)

/-- Only resources of some kinds exist. -/
def Among (kinds : List Kind) (s : Scene) : Prop := ∀ r ∈ s.present, r.kind ∈ kinds

/-- No resource of some kinds exists. -/
def Without (kinds : List Kind) (s : Scene) : Prop := ∀ r ∈ s.present, r.kind ∉ kinds

/-- Something has failed, and there is nothing else to delete. -/
def Noted (kinds : List Kind) (w : World Report) : Prop :=
  w.locals.failed ≠ [] ∧ Without kinds w.scene

/-- Before some kinds are torn down, only they are left, or there is nothing to tear down. -/
def Settled (kinds : List Kind) (w : World Report) : Prop :=
  Among kinds w.scene ∨ Noted kinds w

section Proofs

variable {env : Env} {kind : Kind} {rest : List Kind} {s : Scene} {names kept : List String}
  {name : String} {w : World Report} {F : World Report → Prop}

theorem Among.of_gone (h : Among (kind :: rest) s) (hgone : Gone kind s) : Among rest s :=
  fun r hr => (List.mem_cons.mp (h r hr)).resolve_left (hgone r hr)

theorem Without.of_cons (h : Without (kind :: rest) s) : Without rest s :=
  fun r hr hmem => h r hr (List.mem_cons_of_mem _ hmem)

theorem Noted.fading (kinds : List Kind) : Fading (Noted kinds) := by
  intro w w' hpresent _ hlocals h
  refine ⟨?_, fun r hr => h.2 r (hpresent hr)⟩
  rw [hlocals]
  exact h.1

theorem Settled.fading (kinds : List Kind) : Fading (Settled kinds) := by
  intro w w' hpresent hearlier hlocals h
  rcases h with h | h
  · exact Or.inl fun r hr => h r (hpresent hr)
  · exact Or.inr (Noted.fading kinds w w' hpresent hearlier hlocals h)

theorem Settled.of_gone (h : Settled (kind :: rest) w) (hgone : Gone kind w.scene) :
    Settled rest w := by
  rcases h with h | h
  · exact Or.inl (h.of_gone hgone)
  · exact Or.inr ⟨h.1, h.2.of_cons⟩

/-- The kinds from one on are not earlier than it, and it is earlier than those that follow. -/
theorem mem_earlierKinds (h : kind :: rest <:+ teardownKinds) :
    (∀ k ∈ kind :: rest, k ∉ earlierKinds kind) ∧ ∀ k ∈ rest, kind ∈ earlierKinds k := by
  obtain ⟨before, hbefore⟩ := h
  have hnodup : (before ++ kind :: rest).Nodup := by
    rw [hbefore]
    decide
  obtain ⟨-, hrest, hdisjoint⟩ := List.nodup_append.mp hnodup
  unfold earlierKinds
  rw [← hbefore]
  constructor
  · intro k hk
    rw [List.takeWhile_append_of_pos fun k hk' =>
      decide_eq_true (hdisjoint k hk' kind List.mem_cons_self)]
    simp only [List.takeWhile_cons, ne_eq, not_true_eq_false, decide_false, Bool.false_eq_true,
      if_false, List.append_nil]
    exact fun hmem => hdisjoint k hmem k hk rfl
  · intro k hk
    have hne : kind ≠ k := fun heq => (List.nodup_cons.mp hrest).1 (heq ▸ hk)
    rw [List.takeWhile_append_of_pos fun k' hk' =>
      decide_eq_true (hdisjoint k' hk' k (List.mem_cons_of_mem _ hk))]
    refine List.mem_append_right _ ?_
    simp only [List.takeWhile_cons, ne_eq, hne, not_false_eq_true, decide_true, if_true,
      List.mem_cons_self]

theorem watch_kind (h : kind :: rest <:+ teardownKinds) (hF : Fading F) :
    Watch Harmless Ordered kind F (fun w => Gone kind w.scene)
      fun w => Gone kind w.scene ∨ Without rest w.scene where
  fading := hF
  good := by
    intro event w hkind hdelete _ kind' name failure hevent
    dsimp only at hevent
    rw [hevent] at hkind
    obtain rfl := Option.some.inj hkind
    exact absurd hevent (hdelete name failure)
  trouble := by
    intro event w hkind htrouble _ hok
    have hgone : (∀ r ∈ w.scene.present, event.kind? ≠ none ∧ event.kind? ≠ some r.kind) →
        Gone kind w.scene := fun hnone r hr heq => (hnone r hr).2 (heq ▸ hkind)
    rcases hok htrouble with hnone | ⟨hminor, hlater⟩
    · split_ifs
      · exact Or.inl (hgone hnone)
      · exact hgone hnone
    · dsimp only at hminor hlater
      rw [if_pos hminor]
      exact Or.inr fun r hr hmem => hlater r hr kind hkind ((mem_earlierKinds h).2 _ hmem)

/-- A delete for a resource of a kind when only it and later kinds are left. -/
theorem ordered_delete (h : kind :: rest <:+ teardownKinds) {failure : Option Failure}
    (hamong : Among (kind :: rest) w.scene) :
    Ordered ⟨.call (.delete kind name) failure, w.scene⟩ := by
  rintro kind' name' failure' ⟨⟩ r hr
  exact (mem_earlierKinds h).1 _ (hamong r hr)

/-- While a kind is torn down, what is left of it is watched, or there is nothing else to delete. -/
def Watched (kind : Kind) (rest : List Kind) (names : List String) (w : World Report) : Prop :=
  Among (kind :: rest) w.scene ∧ (Named kind names w.scene ∨ Noted rest w)

theorem Watched.fading (kind : Kind) (rest : List Kind) (names : List String) :
    Fading (Watched kind rest names) := by
  intro w w' hpresent hearlier hlocals h
  refine ⟨fun r hr => h.1 r (hpresent hr), h.2.imp (fun hnamed r hr => hnamed r (hpresent hr)) ?_⟩
  exact Noted.fading rest w w' hpresent hearlier hlocals

theorem Watched.of_absent (kept : List String) (h : Watched kind rest (kept ++ name :: names) w)
    (habsent : Absent kind name w.scene) : Watched kind rest (kept ++ names) w :=
  ⟨h.1, h.2.imp_left (·.of_absent kept habsent)⟩

theorem Watched.settled (h : Watched kind rest [] w) : Settled rest w :=
  h.2.imp (fun hnamed => h.1.of_gone hnamed.gone) id

theorem addDeleted_spec {text : String} {E : Raised → World Report → Prop} :
    Attempt.Triple (Keeps Harmless Ordered (Watched kind rest names)) (addDeleted text)
      (fun _ => Keeps Harmless Ordered (Watched kind rest names)) E :=
  update_spec (fun _ => rfl) fun _ hw => hw

/-- What has failed is noted. -/
theorem addFailed_spec {text : String} {E : Raised → World Report → Prop} :
    Attempt.Triple (Keeps Harmless Ordered fun w => Among (kind :: rest) w.scene ∧
        (Gone kind w.scene ∨ Without rest w.scene)) (addFailed text)
      (fun _ => Keeps Harmless Ordered (Watched kind rest names)) E := by
  refine update_spec (fun _ => rfl) fun w hw => ⟨hw.1, ?_⟩
  refine hw.2.imp Gone.named fun hwithout => ⟨?_, hwithout⟩
  exact List.append_ne_nil_of_right_ne_nil _ (List.cons_ne_nil _ _)

variable (h : kind :: rest <:+ teardownKinds)
include h

/-- A request that raises leaves nothing of the kind. -/
theorem requestDeletion_spec :
    Attempt.Triple (Keeps Harmless Ordered (Watched kind rest (kept ++ name :: names)))
      (requestDeletion env kind name)
      (fun watched => Keeps Harmless Ordered
        (Watched kind rest (kept ++ if watched then name :: names else names)))
      fun _ => Keeps Harmless Ordered fun w =>
        Among (kind :: rest) w.scene ∧ Gone kind w.scene := by
  have hwatch := watch_kind h (Watched.fading kind rest (kept ++ name :: names))
  refine .tryCatch (.bind (deleteCr_spec hwatch fun _ w hw => ordered_delete h hw.1) fun _ =>
    .pure fun w hw => hw) fun e => ?_
  cases e with
  | notFound =>
    exact .pure fun w hw => hw.imp fun w hw => hw.1.of_absent kept (hw.2.1 rfl)
  | failed failure =>
    cases failure with
    | api reason =>
      refine .bind (addFailed_spec.pre fun w hw => hw.imp fun w hw => ?_) fun _ =>
        .pure fun w hw => hw
      exact ⟨hw.1.1, hw.2.2.1 reason rfl⟩
    | other text =>
      exact .throw fun w hw => hw.imp fun w hw => ⟨hw.1.1, hw.2.2.2 text rfl⟩

/-- After the requests the names to watch are those of all resources that are left. -/
theorem requestDeletions_spec (kept : List String) {crs : List Resource} :
    Attempt.Triple (Keeps Harmless Ordered (Watched kind rest (kept ++ crs.map Resource.name)))
      (requestDeletions env kind crs)
      (fun names => Keeps Harmless Ordered (Watched kind rest (kept ++ names)))
      fun _ => Keeps Harmless Ordered fun w =>
        Among (kind :: rest) w.scene ∧ Gone kind w.scene := by
  induction crs generalizing kept with
  | nil => exact .pure fun w hw => hw
  | cons cr crs ih =>
    refine .bind (requestDeletion_spec h) fun watched => ?_
    cases watched with
    | true =>
      refine .bind ((ih (kept ++ [cr.name])).pre fun w hw => ?_) fun names => .pure fun w hw => ?_
      · rw [List.append_assoc]
        exact hw
      · rw [List.append_assoc] at hw
        exact hw
    | false => exact .bind (ih kept) fun names => .pure fun w hw => hw

theorem confirmGone_spec :
    Attempt.Triple (Keeps Harmless Ordered (Watched kind rest (name :: names)))
      (confirmGone env kind name) (fun _ => Keeps Harmless Ordered (Watched kind rest names))
      fun _ => Keeps Harmless Ordered fun w =>
        Among (kind :: rest) w.scene ∧ Gone kind w.scene := by
  have hwatch := watch_kind h (Watched.fading kind rest (name :: names))
  refine .bind ((waitForCrGone_spec hwatch).conseq (fun _ hw => hw) (fun _ _ hw => hw)
    fun _ w hw => hw.imp fun w hw => ⟨hw.1.1, hw.2.1⟩) fun gone => .ite ?_ ?_
  · rintro rfl
    exact addDeleted_spec.pre fun w hw => hw.imp fun w hw =>
      Watched.of_absent [] hw.1 (hw.2.1 rfl)
  · intro hgone
    rw [Bool.not_eq_true] at hgone
    exact addFailed_spec.pre fun w hw => hw.imp fun w hw => ⟨hw.1.1, hw.2.2 hgone⟩

/-- **One kind.** However its part of the teardown ends, no resource of the kind is left, or there
is nothing else to tear down. -/
theorem teardownKind_spec {E : Raised → World Report → Prop} :
    Attempt.Triple (Keeps Harmless Ordered (Settled (kind :: rest))) (teardownKind env kind)
      (fun _ => Keeps Harmless Ordered (Settled rest)) E := by
  have hwatch := watch_kind h (Settled.fading (kind :: rest))
  have hcalls : ∀ (e : Raised) (w : World Report), Keeps Harmless Ordered
      (fun w => Settled (kind :: rest) w ∧ Gone kind w.scene ∧ e ≠ .notFound) w →
      Keeps Harmless Ordered (fun w => Settled (kind :: rest) w ∧ Gone kind w.scene) w :=
    fun e w hw => hw.imp fun w hw => ⟨hw.1, hw.2.1⟩
  refine .tryCatch (.bind ((resources_spec hwatch).conseq (fun _ hw => hw) (fun _ _ hw => hw) hcalls)
    fun _ => .bind ((listCrs_spec hwatch).conseq (fun _ hw => hw) (fun _ _ hw => hw) hcalls)
    fun crs => .ite (fun hnil => ?_) fun hcrs => ?_)
    fun e => .pure fun w hw => hw.imp fun w hw => hw.1.of_gone hw.2
  · subst hnil
    refine .pure fun w hw => hw.imp fun w hw => hw.1.of_gone fun r hr hkind => ?_
    exact List.not_mem_nil (hw.2.2 r hr hkind)
  · have hbegin : ∀ w : World Report, (Settled (kind :: rest) w ∧
        (∀ r ∈ crs, r ∈ w.scene.present ∧ r.kind = kind) ∧
          ∀ r ∈ w.scene.present, r.kind = kind → r ∈ crs) →
        Watched kind rest ([] ++ crs.map Resource.name) w := by
      rintro w ⟨hsettled | hnoted, hlisted, hall⟩
      · exact ⟨hsettled, Or.inl fun r hr hkind => List.mem_map_of_mem (hall r hr hkind)⟩
      · obtain ⟨r, hr⟩ := List.exists_mem_of_ne_nil crs hcrs
        obtain ⟨hpresent, hkind⟩ := hlisted r hr
        exact absurd (hkind ▸ List.mem_cons_self) (hnoted.2 r hpresent)
    have herrors : ∀ (e : Raised) (w : World Report), Keeps Harmless Ordered
        (fun w => Among (kind :: rest) w.scene ∧ Gone kind w.scene) w →
        Keeps Harmless Ordered (fun w => Settled (kind :: rest) w ∧ Gone kind w.scene) w :=
      fun e w hw => hw.imp fun w hw => ⟨Or.inl hw.1, hw.2⟩
    refine .bind ((requestDeletions_spec h []).conseq (fun w hw => hw.imp hbegin) (fun _ _ hw => hw)
      herrors) fun names => ?_
    refine (Attempt.Triple.loop (I := fun names => Keeps Harmless Ordered (Watched kind rest names))
      fun name names _ => confirmGone_spec h).conseq (fun _ hw => hw)
      (fun _ w hw => hw.imp fun w hw => hw.settled) herrors

end Proofs

/-- **Teardown.** When trouble is harmless, every delete is ordered, and no resource is left unless
something has failed. -/
theorem torndown_dependable (env : Env) (scene : Scene) (clock : ℕ)
    (h : ∀ e ∈ (torndown env scene clock).log, Harmless e) :
    Dependable (torndown env scene clock) := by
  have hclient : Attempt.Triple (Keeps Harmless Ordered (Settled teardownKinds))
      (client (ρ := Report) env) (fun _ => Keeps Harmless Ordered (Settled teardownKinds))
      fun _ => Keeps Harmless Ordered (Settled []) := by
    refine ask_spec (Settled.fading _) (fun f w _ _ kind name failure hevent => by cases hevent)
      (fun w a hw _ => hw) (fun w e _ herror => by cases herror) fun f w _ hok => Or.inl ?_
    intro r hr
    rcases hok rfl with hnone | ⟨hminor, -⟩
    · exact absurd rfl (hnone r hr).1
    · cases hminor
  have hrun : Attempt.Triple (Keeps Harmless Ordered (Settled teardownKinds))
      (teardownExistingCrds env) (fun _ => Keeps Harmless Ordered (Settled []))
      fun _ => Keeps Harmless Ordered (Settled []) := by
    refine .tryCatch (.bind hclient fun _ => ?_) fun e => .pure fun w hw => hw
    exact Attempt.Triple.loop (I := fun kinds => Keeps Harmless Ordered (Settled kinds))
      fun kind rest hsuffix => teardownKind_spec hsuffix
  have hall : Among teardownKinds scene := by
    intro r _
    cases r.kind <;> decide
  have hend := hrun.after (fun _ _ hw => hw) (fun _ _ hw => hw)
    (.initial scene clock ⟨[], []⟩) fun _ => ⟨fun _ he => (by cases he), Or.inl hall⟩
  obtain ⟨hordered, hsettled⟩ := hend h
  refine ⟨hordered, fun hnone => ?_⟩
  rcases hsettled with hnothing | ⟨hfailed, -⟩
  · exact List.eq_nil_iff_forall_not_mem.mpr fun r hr => List.not_mem_nil (hnothing r hr)
  · exact absurd hnone hfailed

instance : DecidablePred Harmless := fun e => by unfold Harmless; infer_instance

theorem torndown_testedVpn : Dependable (torndown (failingAt none) testedVpn 0) :=
  torndown_dependable (failingAt none) testedVpn 0 (by decide +kernel)

/-- The list of the tests fails. The VPN is deleted under its test, and nothing has failed. -/
theorem vpn_goes_first :
    (∃ e ∈ (torndown (failingAt (some 2)) testedVpn 0).log,
      e.event = .call (.delete .vyosL3vpn "blue") none ∧ http ∈ e.scene.present) ∧
    (torndown (failingAt (some 2)) testedVpn 0).locals = ⟨["VyOSL3VPN/blue"], []⟩ ∧
    (torndown (failingAt (some 2)) testedVpn 0).scene.present = [http] ∧
    ¬(∀ e ∈ (torndown (failingAt (some 2)) testedVpn 0).log, Ordered e) ∧
    ¬((torndown (failingAt (some 2)) testedVpn 0).locals.failed = [] →
      (torndown (failingAt (some 2)) testedVpn 0).scene.present = []) := by
  have hdeleted : ∃ e ∈ (torndown (failingAt (some 2)) testedVpn 0).log,
      e.event = .call (.delete .vyosL3vpn "blue") none ∧ http ∈ e.scene.present := by
    decide +kernel
  refine ⟨hdeleted, by decide +kernel, by decide +kernel, fun hordered => ?_, by decide +kernel⟩
  obtain ⟨e, he, hevent, hpresent⟩ := hdeleted
  exact hordered e he _ _ _ hevent http hpresent (by decide)

end GnnSandbox.Supervisor.Cluster
