import GnnSandbox.Vyos.Reconcile

/-!
# Routers that are Running

A handler reports a router as Running when the router has committed the script that the call was
made for, and is then done. What a router holds that is Running follows from that, as long as the
operator does not stop between the report and its record.

1. `Handler.Sound`: what a handler may do at each level, and `inv_step`: a step keeps the invariant.
2. `settled_router`: a router that is Running and has nothing left to do.
3. `reconfigured`: a router that has left Running after a change, and is back.
4. `stuck_router`: a router whose creation was given up.
-/

namespace GnnSandbox.Vyos.Reconcile

open Operator (Raised IpAnswer Write)
open Transition Handler

/-! ## Handlers report the truth -/

/-- The last script that the container has committed is one for the spec. -/
def Holds (container : Option (List Commit)) (spec : Spec) : Prop :=
  ∃ commits commit, container = some (commits ++ [commit]) ∧ commit.spec = spec

/-- How far a call is. -/
inductive Level where
  | untouched
  | atWork
  | committed
  | reported
deriving DecidableEq

/-- What is known of the resource and the container: a router that is Running holds what was handled
last, until the call takes it out of Running, and what the call was made for after the report. -/
def Level.Describes (o : Object) (container : Option (List Commit)) (seen : Essence) : Level → Prop
  | .untouched => o.phase = some .running → ∃ handled ∈ o.handled, Holds container handled.spec
  | .atWork => o.phase ≠ some .running
  | .committed => o.phase ≠ some .running ∧ Holds container seen.spec
  | .reported => o.phase = some .running → Holds container seen.spec

/-- The level after a playbook. -/
def Task.level (task : Task) (outcome : Outcome) : Level :=
  match task, outcome with
  | .script _, .success => .committed
  | _, _ => .atWork

/-- The handler runs playbooks when the router is not Running, reports it as Running when it has
committed, and is then done. -/
def Handler.Sound : Level → Handler → Prop
  | level, .ends raised =>
    if isFinal raised then level ≠ .untouched else level ≠ .reported
  | level, .getIp next => level ≠ .reported ∧ ∀ answer, (next answer).Sound level
  | level, .readNetworks next => level ≠ .reported ∧ ∀ answer, (next answer).Sound level
  | level, .updateStatus phase _ next =>
    level ≠ .reported ∧ (phase = .running → level = .committed) ∧
      (∀ message, (next (.error message)).Sound level) ∧
      (next (.ok ())).Sound (if phase = .running then .reported else .atWork)
  | level, .play task next =>
    level = .atWork ∧ ∀ outcome, (next outcome).Sound (task.level outcome)

section

variable {level : Level} {phase : Phase} {message : String} {rescue : String → Handler}
  {next : Handler} {lower : String → String} {name : String} {spec : Spec}

theorem atWork_ne_reported : Level.atWork ≠ .reported := by decide

theorem sound_raise (h : level ≠ .reported) (message : String) : (raise message).Sound level := h

theorem sound_temporary (h : level ≠ .reported) (message : String) (delay : ℕ) :
    (Handler.ends (some (.temporaryError message delay))).Sound level := h

theorem sound_write (hlevel : level ≠ .reported) (hphase : phase ≠ .running)
    (hrescue : ∀ message, (rescue message).Sound level) (hnext : next.Sound .atWork) :
    (write phase message rescue next).Sound level := by
  refine ⟨hlevel, fun h => absurd h hphase, hrescue, ?_⟩
  rw [if_neg hphase]
  exact hnext

theorem sound_report (hrescue : ∀ message, (rescue message).Sound .committed) :
    (write .running message rescue (.ends none)).Sound .committed :=
  ⟨by decide, fun _ => rfl, hrescue, by simp [Handler.Sound, isFinal]⟩

theorem sound_withIp (hlevel : level ≠ .reported) (hnext : next.Sound level) :
    (withIp next).Sound level := by
  refine ⟨hlevel, fun answer => ?_⟩
  cases answer with
  | found address => exact hnext
  | missing => exact sound_temporary hlevel _ _
  | raises message => exact sound_raise hlevel message

theorem sound_rescueCreate (h : level ≠ .reported) (error : String) :
    (rescueCreate lower error).Sound level := by
  unfold rescueCreate
  split
  · exact sound_write h (by decide) (sound_raise h) (sound_temporary (by decide) _ _)
  · exact sound_write h (by decide) (sound_raise h) (sound_raise (by decide) _)

theorem sound_configureRouter : (configureRouter lower name).Sound .atWork := by
  refine ⟨rfl, fun outcome => ?_⟩
  cases outcome with
  | success => exact sound_report (sound_rescueCreate (by decide))
  | raises message => exact sound_rescueCreate atWork_ne_reported message
  | failure error =>
    dsimp only
    split <;>
      exact sound_write atWork_ne_reported (by decide) (sound_rescueCreate atWork_ne_reported)
        (by simp [Handler.Sound, isFinal])

theorem sound_createRouter : (createRouter lower name).Sound .atWork := by
  refine sound_write (by decide) (by decide) (sound_rescueCreate (by decide))
    ⟨rfl, fun outcome => ?_⟩
  cases outcome with
  | success =>
    exact sound_write (by decide) (by decide) (sound_rescueCreate (by decide)) sound_configureRouter
  | raises message => exact sound_rescueCreate atWork_ne_reported message
  | failure error =>
    dsimp only
    split <;>
      exact sound_write atWork_ne_reported (by decide) (sound_rescueCreate atWork_ne_reported)
        (by simp [Handler.Sound, isFinal])

theorem sound_createWhenReady (notReady : List NotReady) :
    (createWhenReady lower name notReady).Sound .atWork := by
  unfold createWhenReady
  split
  · exact sound_createRouter
  · refine sound_write (by decide) (by decide) (sound_raise (by decide)) ?_
    split <;> simp [Handler.Sound, isFinal]

/-- A call that does not find the router Running. -/
theorem sound_createHandler {phase : Option Phase} (h : phase ≠ some .running) :
    (createHandler lower name spec phase).Sound .atWork := by
  unfold createHandler
  rw [if_neg h]
  refine sound_withIp (by decide) (sound_write (by decide) (by decide) (sound_raise (by decide)) ?_)
  split
  · exact sound_createRouter
  · refine ⟨by decide, fun answer => ?_⟩
    cases answer with
    | error message => exact sound_raise (by decide) message
    | ok answer => exact sound_createWhenReady _

theorem sound_rescueUpdate (h : level ≠ .reported) (error : String) :
    (rescueUpdate lower error).Sound level :=
  sound_write h (by decide) (sound_raise h) (sound_temporary (by decide) _ _)

theorem sound_updateHandler : (updateHandler lower true).Sound .untouched := by
  refine sound_withIp (by decide) (sound_write (by decide) (by decide)
    (sound_rescueUpdate (by decide)) ⟨rfl, fun outcome => ?_⟩)
  cases outcome with
  | success => exact sound_report (sound_rescueUpdate (by decide))
  | raises message => exact sound_rescueUpdate atWork_ne_reported message
  | failure error =>
    exact sound_write atWork_ne_reported (by decide) (sound_rescueUpdate atWork_ne_reported)
      (sound_temporary atWork_ne_reported _ _)

end

/-! ## Runs without a gap -/

/-- The call is over, and its end is not on record yet. -/
def Attempt.Done (a : Attempt) : Prop := ∃ raised, a.rest = .ends raised ∧ isFinal raised = true

/-- The update of the status that takes a router out of Running is not lost, and the operator does
not stop between reporting a router as Running and recording what it was called for. -/
def Careful (s : State) : Event → Prop
  | .status w => w = .lost → ∀ o ∈ s.object, o.phase ≠ some .running
  | .stop => ∀ o ∈ s.object, o.phase = some .running → ∀ a ∈ s.attempt, a.Done →
      o.handled.map Essence.spec = some a.seen.spec
  | _ => True

/-- No status update is lost, and the operator does not stop. -/
def Event.Sure : Event → Prop
  | .status .lost | .stop => False
  | _ => True

/-- While the resource is not to go, a call is sound at a level, and what its level says holds. -/
structure State.Inv (s : State) : Prop where
  object : s.attempt.isSome = true → s.object.isSome = true
  idle : ∀ o ∈ s.object, o.deleting = false → s.attempt = none →
    Level.untouched.Describes o s.container o.essence
  underway : ∀ o ∈ s.object, o.deleting = false → ∀ a ∈ s.attempt,
    a.isDelete = false ∧ ∃ level, a.rest.Sound level ∧ level.Describes o s.container a.seen

section

variable {lower : String → String} {name : String} {s s' : State} {o : Object} {a : Attempt}

theorem careful_of_sure {e : Event} (h : e.Sure) (s : State) : Careful s e := by
  cases e with
  | status w => exact fun hlost => (hlost ▸ h : Event.Sure (.status .lost)).elim
  | stop => exact h.elim
  | change | delete | start | ip | networks | played | finish => exact trivial

theorem throughout_careful {es : List Event} (h : ∀ e ∈ es, e.Sure) :
    Throughout (step lower name) Careful s es :=
  throughout_of_forall fun e he => careful_of_sure (h e he)

theorem inv_initial : State.initial.Inv := ⟨by simp [State.initial], by simp [State.initial],
  by simp [State.initial]⟩

theorem describes_essence {level : Level} {container : Option (List Commit)}
    {essence seen : Essence} (h : level.Describes o container seen) :
    level.Describes { o with essence } container seen := by
  cases level <;> exact h

/-- A router that is Running holds what is on record when a call ends. -/
theorem describes_untouched {level : Level} {container : Option (List Commit)} {seen : Essence}
    (h : level.Describes o container seen) (hlevel : level ≠ .reported) (essence : Essence) :
    Level.untouched.Describes o container essence := by
  cases level with
  | untouched => exact h
  | atWork => exact fun hphase => absurd hphase h
  | committed => exact fun hphase => absurd hphase h.1
  | reported => exact absurd rfl hlevel

theorem describes_recorded {level : Level} {container : Option (List Commit)} {seen : Essence}
    (h : level.Describes o container seen) (hlevel : level ≠ .untouched) (essence : Essence) :
    Level.untouched.Describes { o with handled := some seen } container essence := by
  intro hphase
  refine ⟨seen, rfl, ?_⟩
  cases level with
  | untouched => exact absurd rfl hlevel
  | atWork => exact absurd hphase h
  | committed => exact h.2
  | reported => exact h hphase

/-- The handler that is called, and what is known then. -/
theorem sound_handler {listed : Bool} {rest : Handler} {container : Option (List Commit)}
    (hrest : o.handler lower name listed = some rest) (hdeleting : o.deleting = false)
    (hidle : Level.untouched.Describes o container o.essence) :
    ∃ level, rest.Sound level ∧ level.Describes o container o.essence := by
  unfold Object.handler at hrest
  rw [if_neg (by simp [hdeleting])] at hrest
  cases hhandled : o.handled with
  | none =>
    rw [hhandled] at hrest
    obtain rfl := Option.some.inj hrest
    have hphase : o.phase ≠ some .running := by
      intro hphase
      obtain ⟨_, hmem, -⟩ := hidle hphase
      rw [hhandled] at hmem
      cases hmem
    exact ⟨.atWork, sound_createHandler hphase, hphase⟩
  | some handled =>
    rw [hhandled] at hrest
    obtain ⟨-, hrest⟩ := Option.ite_none_left_eq_some.mp hrest
    obtain rfl := Option.some.inj hrest
    cases hrelevant : handled.relevant o.essence listed with
    | true => exact ⟨.untouched, sound_updateHandler, hidle⟩
    | false =>
      refine ⟨.reported, by simp [updateHandler, Handler.Sound, isFinal], fun hphase => ?_⟩
      obtain ⟨_, hmem, hholds⟩ := hidle hphase
      obtain rfl := Option.some.inj (hhandled.symm.trans hmem)
      have hspec : handled.spec = o.essence.spec := by
        simp only [Essence.relevant, Bool.or_eq_false_iff, decide_eq_false_iff_not] at hrelevant
        exact not_not.mp hrelevant.1
      exact hspec ▸ hholds

theorem done_of_reported (hsound : a.rest.Sound .reported) : a.Done := by
  cases hrest : a.rest with
  | ends raised =>
    rw [hrest] at hsound
    refine ⟨raised, hrest, by_contra fun hfinal => ?_⟩
    simp [Handler.Sound, hfinal] at hsound
  | getIp next => exact absurd rfl (hrest ▸ hsound).1
  | readNetworks next => exact absurd rfl (hrest ▸ hsound).1
  | updateStatus phase message next => exact absurd rfl (hrest ▸ hsound).1
  | play task next => cases (hrest ▸ hsound).1

theorem finish_eq {raised : Option Raised} {o' : Object} (h : o.finish a raised = some o') :
    o' = { o with handled := o'.handled } ∧
      (o'.handled = some a.seen ∨ o'.handled = o.handled) := by
  unfold Object.finish at h
  split at h
  · obtain ⟨-, h⟩ := Option.ite_none_left_eq_some.mp h
    obtain rfl := Option.some.inj h
    exact ⟨rfl, .inl rfl⟩
  · obtain rfl := Option.some.inj h
    exact ⟨rfl, .inr rfl⟩

theorem deleting_finish {raised : Option Raised} {o' : Object} (h : o.finish a raised = some o') :
    o'.deleting = o.deleting := by
  rw [(finish_eq h).1]

theorem inv_changed (h : s.Inv) (hobject : s.object = some o) (essence : Essence) :
    ({ s with object := some { o with essence } } : State).Inv := by
  refine ⟨fun _ => rfl, ?_, ?_⟩
  · rintro _ ⟨⟩ hdeleting hidle
    exact h.idle o hobject hdeleting hidle
  · rintro _ ⟨⟩ hdeleting a ha
    obtain ⟨hdelete, level, hsound, hdescribes⟩ := h.underway o hobject hdeleting a ha
    exact ⟨hdelete, level, hsound, describes_essence hdescribes⟩

theorem inv_stop (h : s.Inv) (hok : Careful s .stop) :
    ({ s with attempt := none } : State).Inv := by
  refine ⟨by simp, fun o ho hdeleting _ => ?_, by simp⟩
  cases hattempt : s.attempt with
  | none => exact h.idle o ho hdeleting hattempt
  | some a =>
    obtain ⟨-, level, hsound, hdescribes⟩ := h.underway o ho hdeleting a hattempt
    by_cases hlevel : level = .reported
    · subst hlevel
      intro hphase
      obtain ⟨handled, hhandled, hspec⟩ :=
        Option.map_eq_some_iff.mp (hok o ho hphase a hattempt (done_of_reported hsound))
      exact ⟨handled, hhandled, hspec ▸ hdescribes hphase⟩
    · exact describes_untouched hdescribes hlevel _

/-- The call learns something that the resource and the container do not depend on. -/
theorem inv_learn (h : s.Inv) (ha : s.attempt = some a) {rest : Handler}
    (hrest : ∀ level, a.rest.Sound level → rest.Sound level) :
    ({ s with attempt := some { a with rest } } : State).Inv := by
  refine ⟨fun _ => h.object (by simp [ha]), by simp, ?_⟩
  rintro o ho hdeleting _ ⟨⟩
  obtain ⟨hdelete, level, hsound, hdescribes⟩ := h.underway o ho hdeleting a ha
  exact ⟨hdelete, level, hrest level hsound, hdescribes⟩

/-- What a status update leaves. -/
theorem describes_status {w : Write} {phase : Phase} {message : String}
    {next : Except String Unit → Handler} {level : Level} {container : Option (List Commit)}
    {seen : Essence} (hsound : (Handler.updateStatus phase message next).Sound level)
    (hlost : w = .lost → o.phase ≠ some .running)
    (hdescribes : level.Describes o container seen) :
    ∃ level', (next (w.apply (fun _ _ => ()) ())).Sound level' ∧ level'.Describes
      { o with phase := (w.apply (fun _ _ => some phase) o.phase).toOption.getD o.phase }
      container seen := by
  obtain ⟨hlevel, hrunning, herror, hnext⟩ := hsound
  cases w with
  | raises message => exact ⟨level, herror message, hdescribes⟩
  | lost =>
    refine ⟨_, hnext, ?_⟩
    split
    · exact fun hphase => absurd hphase (hlost rfl)
    · exact hlost rfl
  | done now =>
    refine ⟨_, hnext, ?_⟩
    split
    · rename_i hphase
      rw [hrunning hphase] at hdescribes
      exact fun _ => hdescribes.2
    · rename_i hphase
      exact fun heq => hphase (Option.some.inj heq)

/-- What a playbook leaves: after a script that succeeds, the container holds it. -/
theorem describes_played {task : Task} {outcome : Outcome} {tookEffect : Bool} {seen : Essence}
    {container container' : Option (List Commit)} (hphase : o.phase ≠ some .running)
    (h : task.played seen.spec container outcome tookEffect = some container') :
    (task.level outcome).Describes o container' seen := by
  cases hlevel : task.level outcome with
  | atWork => exact hphase
  | untouched => exact fun hp => absurd hp hphase
  | reported => exact fun hp => absurd hp hphase
  | committed =>
    refine ⟨hphase, ?_⟩
    cases task with
    | create => cases hlevel
    | delete => cases hlevel
    | script mode =>
      cases outcome with
      | failure error => cases hlevel
      | raises message => cases hlevel
      | success =>
        obtain ⟨-, heffect⟩ | ⟨-, hnone⟩ := ite_eq_iff.mp h
        · obtain ⟨-, heffect⟩ := Option.ite_none_right_eq_some.mp heffect
          obtain ⟨commits, -, rfl⟩ := Option.map_eq_some_iff.mp heffect
          exact ⟨commits, ⟨mode, seen.spec⟩, rfl, rfl⟩
        · cases hnone

/-- What the end of a call leaves. -/
theorem describes_finish {raised : Option Raised} {level : Level} {o' : Object}
    {container : Option (List Commit)} (hsound : (Handler.ends raised).Sound level)
    (hdescribes : level.Describes o container a.seen) (hdelete : a.isDelete = false)
    (hfinish : o.finish a raised = some o') :
    Level.untouched.Describes o' container o'.essence := by
  unfold Object.finish at hfinish
  cases hfinal : isFinal raised with
  | true =>
    rw [if_pos hfinal, hdelete] at hfinish
    obtain rfl := Option.some.inj hfinish
    simp only [Handler.Sound, hfinal, if_true] at hsound
    exact describes_recorded hdescribes hsound _
  | false =>
    rw [if_neg (by simp [hfinal])] at hfinish
    obtain rfl := Option.some.inj hfinish
    simp only [Handler.Sound, hfinal, Bool.false_eq_true, if_false] at hsound
    exact describes_untouched hdescribes hsound _

theorem inv_step {e : Event} (h : s.Inv) (hok : Careful s e)
    (hstep : step lower name s e = some s') : s'.Inv := by
  cases does_of_step hstep with
  | created hobject hidle =>
    refine ⟨fun _ => rfl, ?_, by simp [hidle]⟩
    rintro _ ⟨⟩ - - hphase
    cases hphase
  | changed hobject => exact inv_changed h hobject _
  | delete hobject => refine ⟨fun _ => rfl, ?_, ?_⟩ <;> rintro _ ⟨⟩ hdeleting <;> cases hdeleting
  | start hobject hidle hrest =>
    refine ⟨fun _ => by simp [hobject], by simp, ?_⟩
    rintro o ho hdeleting _ ⟨⟩
    obtain rfl := Option.some.inj (hobject.symm.trans ho)
    exact ⟨hdeleting, sound_handler hrest hdeleting (h.idle _ ho hdeleting hidle)⟩
  | stop => exact inv_stop h hok
  | ip ha hrest => exact inv_learn h ha fun level hsound => (hrest ▸ hsound).2 _
  | networks ha hrest => exact inv_learn h ha fun level hsound => (hrest ▸ hsound).2 _
  | status ha hrest =>
    refine ⟨fun _ => by simpa using h.object (by simp [ha]), by simp, ?_⟩
    rintro _ hnew hdeleting _ ⟨⟩
    obtain ⟨o, ho, rfl⟩ := Option.map_eq_some_iff.mp hnew
    obtain ⟨hdelete, level, hsound, hdescribes⟩ := h.underway o ho hdeleting _ ha
    exact ⟨hdelete, describes_status (hrest ▸ hsound) (fun hw => hok hw o ho) hdescribes⟩
  | played ha hrest hplayed =>
    refine ⟨fun _ => h.object (by simp [ha]), by simp, ?_⟩
    rintro o ho hdeleting _ ⟨⟩
    obtain ⟨hdelete, level, hsound, hdescribes⟩ := h.underway o ho hdeleting _ ha
    obtain ⟨rfl, hnext⟩ := hrest ▸ hsound
    exact ⟨hdelete, _, hnext _, describes_played hdescribes hplayed⟩
  | finish ha hrest =>
    refine ⟨by simp, fun o' ho' hdeleting _ => ?_, by simp⟩
    obtain ⟨o, ho, hfinish⟩ := Option.bind_eq_some_iff.mp ho'
    have hstays : o.deleting = false := (deleting_finish hfinish).symm.trans hdeleting
    obtain ⟨hdelete, level, hsound, hdescribes⟩ := h.underway o ho hstays _ ha
    exact describes_finish (hrest ▸ hsound) hdescribes hdelete hfinish

theorem rendered_played {task : Task} {outcome : Outcome} {tookEffect : Bool}
    {container : Option (List Commit)} (h : Rendered s)
    (hplayed : task.played a.seen.spec s.container outcome tookEffect = some container) :
    ∀ commits ∈ container, ∀ commit ∈ commits, commit.spec.extravars.Complete := by
  unfold Task.played at hplayed
  split at hplayed
  · cases task with
    | create =>
      obtain rfl := Option.some.inj hplayed
      rintro _ ⟨⟩
      cases hcontainer : s.container with
      | none => simp
      | some commits => exact h commits hcontainer
    | delete =>
      obtain rfl := Option.some.inj hplayed
      rintro _ ⟨⟩
    | script mode =>
      obtain ⟨hscript, hplayed⟩ := Option.ite_none_right_eq_some.mp hplayed
      obtain ⟨commits, hcontainer, rfl⟩ := Option.map_eq_some_iff.mp hplayed
      rintro _ ⟨⟩ commit hcommit
      rcases List.mem_append.mp hcommit with hcommit | hcommit
      · exact h commits hcontainer commit hcommit
      · obtain rfl := List.mem_singleton.mp hcommit
        obtain ⟨script, hscript⟩ := Option.isSome_iff_exists.mp hscript
        exact (Option.ite_none_right_eq_some.mp hscript).1
  · split at hplayed
    · cases hplayed
    · obtain rfl := Option.some.inj hplayed
      exact h

/-- The scripts that are committed are defined. -/
theorem rendered_step {e : Event} (h : Rendered s) (hstep : step lower name s e = some s') :
    Rendered s' := by
  cases does_of_step hstep with
  | played ha hrest hplayed => exact rendered_played h hplayed
  | created | changed | delete | start | ip | networks | status | finish | stop => exact h

end

/-! ## Routers with nothing left to do -/

/-- There is nothing left to do for the resource. -/
structure State.Settled (s : State) (o : Object) : Prop where
  object : s.object = some o
  stays : o.deleting = false
  idle : s.attempt = none
  handled : o.handled.map Essence.spec = some o.essence.spec

section

variable {lower : String → String} {name : String} {s s' : State} {o : Object} {a : Attempt}
  {es : List Event} {spec : Spec}

theorem inv_run (hrun : run (step lower name) .initial es = some s)
    (hok : Throughout (step lower name) Careful .initial es) : s.Inv :=
  run_invariant (fun _ _ _ => inv_step) inv_initial hok hrun

theorem rendered_run (hrun : run (step lower name) .initial es = some s) : Rendered s :=
  run_always (fun _ _ _ => rendered_step) (by simp [Rendered, State.initial]) hrun

/-- The settings of the last script are there. -/
theorem gives_of_holds (hrendered : Rendered s) (h : Holds s.container spec)
    {commits : List Commit} (hcommits : commits ∈ s.container) {q : Path} (hq : spec.Gives q) :
    q ∈ config commits := by
  obtain ⟨earlier, commit, hcontainer, rfl⟩ := h
  obtain rfl := Option.some.inj (hcontainer.symm.trans hcommits)
  exact (mem_config (hrendered _ hcommits)).mpr ⟨earlier, commit, [], rfl, hq, by simp⟩

/-- **A settled router**: when a router is Running and there is nothing left to do, the last script
that it has committed is one for its spec, and each of its settings stems from a script that it has
committed and after which none touched the setting. -/
theorem settled_router (hrun : run (step lower name) .initial es = some s)
    (hok : Throughout (step lower name) Careful .initial es) (hsettled : s.Settled o)
    (hphase : o.phase = some .running) :
    Holds s.container o.essence.spec ∧ ∀ commits ∈ s.container, ∀ q, q ∈ config commits ↔
      ∃ before giver after, commits = before ++ giver :: after ∧ giver.spec.Gives q ∧
        ∀ later ∈ after, ¬later.Touches q := by
  obtain ⟨handled, hmem, hholds⟩ :=
    (inv_run hrun hok).idle o hsettled.object hsettled.stays hsettled.idle hphase
  have hspec : handled.spec = o.essence.spec := by
    have h := hsettled.handled
    rw [Option.mem_def.mp hmem] at h
    exact Option.some.inj h
  exact ⟨hspec ▸ hholds, fun commits hcommits q => mem_config (rendered_run hrun commits hcommits)⟩

/-! ## Routers that come back -/

/-- Others have a hand in it. -/
def Event.Foreign : Event → Prop
  | .change _ | .delete => True
  | _ => False

/-- All calls are for the resource as it is. -/
structure State.For (essence : Essence) (s : State) : Prop where
  inv : s.Inv
  object : ∀ o ∈ s.object, o.essence = essence ∧ o.deleting = false
  attempt : ∀ a ∈ s.attempt, a.seen = essence

/-- A router that is Running holds a script for the spec. -/
def State.Current (spec : Spec) (s : State) : Prop :=
  ∀ o ∈ s.object, o.phase = some .running → Holds s.container spec

variable {essence : Essence}

theorem State.For.seen_eq (h : s.For essence) (ha : s.attempt = some a) : a.seen = essence :=
  h.attempt a ha

theorem for_step {e : Event} (h : s.For essence) (hok : Careful s e) (howned : ¬e.Foreign)
    (hstep : step lower name s e = some s') : s'.For essence := by
  have hinv := inv_step h.inv hok hstep
  cases does_of_step hstep with
  | created | changed | delete => exact absurd trivial howned
  | start hobject hidle hrest =>
    refine ⟨hinv, h.object, ?_⟩
    rintro _ ⟨⟩
    exact (h.object _ hobject).1
  | stop => exact ⟨hinv, h.object, by simp⟩
  | ip ha | networks ha | played ha =>
    refine ⟨hinv, h.object, ?_⟩
    rintro _ ⟨⟩
    exact (h.seen_eq ha :)
  | status ha =>
    refine ⟨hinv, fun o' ho' => ?_, ?_⟩
    · obtain ⟨o, ho, rfl⟩ := Option.map_eq_some_iff.mp ho'
      exact h.object o ho
    · rintro _ ⟨⟩
      exact (h.seen_eq ha :)
  | finish ha =>
    refine ⟨hinv, fun o' ho' => ?_, by simp⟩
    obtain ⟨o, ho, hfinish⟩ := Option.bind_eq_some_iff.mp ho'
    rw [(finish_eq hfinish).1]
    exact h.object o ho

/-- A router is reported as Running when it has committed a script for the spec. -/
theorem current_step {e : Event} (h : s.For essence) (hcurrent : s.Current essence.spec)
    (howned : ¬e.Foreign) (hstep : step lower name s e = some s') : s'.Current essence.spec := by
  cases does_of_step hstep with
  | created | changed | delete => exact absurd trivial howned
  | start | stop | ip | networks => exact hcurrent
  | finish =>
    rintro o' ho' hphase
    obtain ⟨o, ho, hfinish⟩ := Option.bind_eq_some_iff.mp ho'
    rw [(finish_eq hfinish).1] at hphase
    exact hcurrent o ho hphase
  | played ha hrest =>
    rintro o ho hphase
    obtain ⟨-, level, hsound, hdescribes⟩ := h.inv.underway o ho (h.object o ho).2 _ ha
    obtain ⟨rfl, -⟩ := hrest ▸ hsound
    exact absurd hphase hdescribes
  | @status w a phase message next ha hrest =>
    rintro _ hnew hphase
    obtain ⟨o, ho, rfl⟩ := Option.map_eq_some_iff.mp hnew
    cases w with
    | lost => exact hcurrent o ho hphase
    | raises message => exact hcurrent o ho hphase
    | done now =>
      obtain ⟨-, level, hsound, hdescribes⟩ := h.inv.underway o ho (h.object o ho).2 _ ha
      obtain ⟨-, hrunning, -⟩ := hrest ▸ hsound
      rw [hrunning (Option.some.inj hphase)] at hdescribes
      rw [← h.seen_eq ha]
      exact hdescribes.2

/-- The resource is changed while no call is in progress. -/
theorem for_change (h : s.Inv) (hidle : s.attempt = none)
    (hstays : ∀ o ∈ s.object, o.deleting = false)
    (hstep : step lower name s (.change essence) = some s') : s'.For essence := by
  have hinv : s'.Inv := inv_step h (by trivial) hstep
  cases does_of_step hstep with
  | created =>
    refine ⟨hinv, ?_, by simp [hidle]⟩
    rintro _ ⟨⟩
    exact ⟨rfl, rfl⟩
  | changed hobject =>
    refine ⟨hinv, ?_, by simp [hidle]⟩
    rintro _ ⟨⟩
    exact ⟨rfl, (hstays _ hobject :)⟩

/-- Nobody else has a hand in it. -/
theorem throughout_owned (hok : Throughout (step lower name) Careful s es)
    (howned : ∀ e ∈ es, ¬e.Foreign) :
    Throughout (step lower name) (fun s e => Careful s e ∧ ¬e.Foreign) s es :=
  hok.and (throughout_of_forall fun e he _ => howned e he)

end

/-- The framework creates the router, and all goes well. -/
def creation (spec : Spec) : List Event :=
  [.change { spec }, .start true, .ip (.found "10.0.0.2"), .status (.done ""),
    .networks (.ok fun _ => .found (some "Ready") none), .status (.done ""), .played .success true,
    .status (.done ""), .played .success true, .status (.done ""), .finish]

def edge : Spec := edgeRouter "10.0.1.1/24" 1500

theorem settled_router_sample : ∃ s o, run (step id "edge") .initial (creation edge) = some s ∧
    s.object = some o ∧ Holds s.container o.essence.spec := by
  have hrun : run (step id "edge") .initial (creation edge) = some _ := rfl
  refine ⟨_, _, hrun, rfl, (settled_router hrun (throughout_careful ?_) ⟨rfl, rfl, rfl, rfl⟩ rfl).1⟩
  simp [creation, Event.Sure]

/-- The router is given another address, and the first attempt to update it fails after it has
committed. -/
def readdressing : List Event :=
  [.start true, .ip (.found "10.0.0.2"), .status (.done ""),
    .played (.failure "exit code 124") true, .status (.done ""), .finish]

def secondAttempt : List Event :=
  [.start true, .ip (.found "10.0.0.2"), .status (.done ""), .played .success true,
    .status (.done ""), .finish]

/-- The handler does not create a container, and reports the router as Running only after a script
that succeeds. -/
def Handler.Blocked : Handler → Prop
  | .ends _ => True
  | .getIp next => ∀ answer, (next answer).Blocked
  | .readNetworks next => ∀ answer, (next answer).Blocked
  | .updateStatus phase _ next => phase ≠ .running ∧ ∀ answer, (next answer).Blocked
  | .play task next => (∃ mode, task = .script mode) ∧
      (∀ error, (next (.failure error)).Blocked) ∧ ∀ message, (next (.raises message)).Blocked

/-- The creation was given up before there was a container. -/
structure State.Stuck (s : State) : Prop where
  container : s.container = none
  object : ∃ o, s.object = some o ∧ o.handled.isSome = true ∧ o.deleting = false ∧
    o.phase ≠ some .running
  attempt : ∀ a ∈ s.attempt, a.isDelete = false ∧ a.rest.Blocked

section

variable {lower : String → String} {name : String} {s s' : State} {es : List Event}

theorem blocked_write {phase : Phase} {message : String} {rescue : String → Handler}
    {next : Handler} (hphase : phase ≠ .running) (hrescue : ∀ message, (rescue message).Blocked)
    (hnext : next.Blocked) : (write phase message rescue next).Blocked := by
  refine ⟨hphase, fun answer => ?_⟩
  cases answer with
  | error message => exact hrescue message
  | ok _ => exact hnext

theorem blocked_rescueUpdate (error : String) : (rescueUpdate lower error).Blocked :=
  blocked_write (by decide) (fun _ => trivial) trivial

theorem blocked_updateHandler (relevant : Bool) : (updateHandler lower relevant).Blocked := by
  cases relevant with
  | false => exact trivial
  | true =>
    intro answer
    cases answer with
    | missing => exact trivial
    | raises message => exact trivial
    | found address =>
      refine blocked_write (by decide) blocked_rescueUpdate ⟨⟨_, rfl⟩, fun error => ?_,
        blocked_rescueUpdate⟩
      exact blocked_write (by decide) blocked_rescueUpdate trivial

/-- Without a container no script succeeds. -/
theorem blocked_played {task : Task} {next : Outcome → Handler} {outcome : Outcome}
    {tookEffect : Bool} {spec : Spec} {container : Option (List Commit)}
    (h : (Handler.play task next).Blocked)
    (hplayed : task.played spec none outcome tookEffect = some container) :
    container = none ∧ (next outcome).Blocked := by
  obtain ⟨⟨mode, rfl⟩, hfailure, hraises⟩ := h
  unfold Task.played at hplayed
  split at hplayed
  · obtain ⟨-, hplayed⟩ := Option.ite_none_right_eq_some.mp hplayed
    cases hplayed
  · cases outcome with
    | success => cases hplayed
    | failure error => exact ⟨(Option.some.inj hplayed).symm, hfailure error⟩
    | raises message => exact ⟨(Option.some.inj hplayed).symm, hraises message⟩

theorem stuck_step {e : Event} (h : s.Stuck) (hstays : e ≠ .delete)
    (hstep : step lower name s e = some s') : s'.Stuck := by
  obtain ⟨hcontainer, ⟨o, hobject, hhandled, hdeleting, hphase⟩, hattempt⟩ := h
  cases does_of_step hstep with
  | created hnone => cases hobject.symm.trans hnone
  | changed hsome =>
    obtain rfl := Option.some.inj (hobject.symm.trans hsome)
    exact ⟨hcontainer, ⟨_, rfl, hhandled, hdeleting, hphase⟩, hattempt⟩
  | delete => exact absurd rfl hstays
  | start hsome hidle hrest =>
    obtain rfl := Option.some.inj (hobject.symm.trans hsome)
    refine ⟨hcontainer, ⟨_, hobject, hhandled, hdeleting, hphase⟩, ?_⟩
    rintro _ ⟨⟩
    refine ⟨hdeleting, ?_⟩
    obtain ⟨handled, hhandled⟩ := Option.isSome_iff_exists.mp hhandled
    simp only [Object.handler, hdeleting, hhandled, Bool.false_eq_true, if_false] at hrest
    obtain ⟨-, hrest⟩ := Option.ite_none_left_eq_some.mp hrest
    obtain rfl := Option.some.inj hrest
    exact blocked_updateHandler _
  | stop => exact ⟨hcontainer, ⟨o, hobject, hhandled, hdeleting, hphase⟩, by simp⟩
  | ip ha hrest | networks ha hrest =>
    obtain ⟨hdelete, hblocked⟩ := hattempt _ ha
    refine ⟨hcontainer, ⟨o, hobject, hhandled, hdeleting, hphase⟩, ?_⟩
    rintro _ ⟨⟩
    exact ⟨hdelete, (hrest ▸ hblocked) _⟩
  | @status w a phase message next ha hrest =>
    obtain ⟨hdelete, hblocked⟩ := hattempt _ ha
    obtain ⟨hrunning, hnext⟩ := hrest ▸ hblocked
    refine ⟨hcontainer, ⟨_, Option.map_eq_some_iff.mpr ⟨o, hobject, rfl⟩, hhandled, hdeleting, ?_⟩,
      ?_⟩
    · cases w with
      | lost => exact hphase
      | raises message => exact hphase
      | done now => exact fun heq => hrunning (Option.some.inj heq)
    · rintro _ ⟨⟩
      exact ⟨hdelete, hnext _⟩
  | played ha hrest hplayed =>
    obtain ⟨hdelete, hblocked⟩ := hattempt _ ha
    rw [hcontainer] at hplayed
    obtain ⟨rfl, hnext⟩ := blocked_played (hrest ▸ hblocked) hplayed
    refine ⟨rfl, ⟨o, hobject, hhandled, hdeleting, hphase⟩, ?_⟩
    rintro _ ⟨⟩
    exact ⟨hdelete, hnext⟩
  | @finish a raised ha hrest =>
    obtain ⟨hdelete, -⟩ := hattempt _ ha
    refine ⟨hcontainer, ?_, by simp⟩
    show ∃ o', (s.object.bind fun o => o.finish a raised) = some o' ∧ _
    rw [hobject, Option.bind_some]
    unfold Object.finish
    split
    · rw [hdelete, if_neg (by decide)]
      exact ⟨_, rfl, rfl, hdeleting, hphase⟩
    · exact ⟨o, rfl, hhandled, hdeleting, hphase⟩

/-- **A router whose creation was given up** before there was a container is never Running, whatever
is changed and however often its handlers are called, as long as it is not deleted. -/
theorem stuck_router (h : s.Stuck) (hstays : Event.delete ∉ es)
    (hrun : run (step lower name) s es = some s') : ∀ o ∈ s'.object, o.phase ≠ some .running := by
  have hstuck : s'.Stuck :=
    run_invariant (fun _ _ _ => stuck_step) h
      (throughout_of_forall fun e he _ => ne_of_mem_of_not_mem he hstays) hrun
  obtain ⟨o, hobject, -, -, hphase⟩ := hstuck.object
  intro o' ho'
  obtain rfl := Option.some.inj (hobject.symm.trans ho')
  exact hphase

end

/-- A network of the router has failed. -/
def givenUp : List Event :=
  [.change { spec := { edge with
      interfaces := some [{ name := "eth1", address := "10.0.1.1/24", linuxNetwork := some "n1" }] } },
    .start true, .ip (.found "10.0.0.2"), .status (.done ""),
    .networks (.ok fun _ => .found (some "Failed") none), .status (.done ""), .finish]

/-- The network does not matter any more, and the annotation is set. -/
def triggered : List Event :=
  [.change { spec := edge, trigger := some "1750000000" }, .start true, .ip (.found "10.0.0.2"),
    .status (.done ""), .played (.failure "No such container: edge") false, .status (.done ""),
    .finish]

theorem stuck_router_sample : ∃ s, run (step id "edge") .initial givenUp = some s ∧
    ∀ s', run (step id "edge") s triggered = some s' → ∀ o ∈ s'.object, o.phase ≠ some .running := by
  refine ⟨_, rfl, fun s' hrun => stuck_router ⟨rfl, ⟨_, rfl, rfl, rfl, ?_⟩, ?_⟩ ?_ hrun⟩
  · rintro ⟨⟩
  · rintro _ ⟨⟩
  · simp [triggered]

end GnnSandbox.Vyos.Reconcile
