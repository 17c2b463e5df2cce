import GnnSandbox.Lib.Effect
import Mathlib.Data.List.Basic

/-!
# The supervisor's calls

The background tasks of the supervisor call the API server of Kubernetes and the repository in
Gitea, and wait for resources to disappear. Any call can fail, every resource takes its time to
go, and nothing is created. A run records its calls, the waits that time out and the stages that
it emits, each with what Kubernetes and Gitea hold at that moment.
-/

namespace GnnSandbox.Supervisor.Cluster

/-! ## What Kubernetes and Gitea hold -/

inductive Kind
  | trafficTest
  | vyosL3vpn
  | vyosUnderlay
  | vyosInfrastructure
deriving DecidableEq

def Kind.text : Kind → String
  | .trafficTest => "TrafficTest"
  | .vyosL3vpn => "VyOSL3VPN"
  | .vyosUnderlay => "VyOSUnderlay"
  | .vyosInfrastructure => "VyOSInfrastructure"

/-- A custom resource of the namespace. A `TrafficTest` refers to its VPN. -/
structure Resource where
  kind : Kind
  name : String
  vpnRef : Option String
deriving DecidableEq

def Resource.is (r : Resource) (kind : Kind) (name : String) : Bool :=
  r.kind = kind && r.name = name

/-- The resources that exist, those of them that are being deleted, the files of earlier
deployments in the repository and the files that the present deployment has committed. -/
structure Scene where
  present : List Resource
  deleting : List Resource
  earlier : List String
  committed : List String
deriving DecidableEq

/-! ## Calls -/

inductive Call
  | client
  | resources (kind : Kind)
  | list (kind : Kind)
  | get (kind : Kind) (name : String)
  | delete (kind : Kind) (name : String)
  | openRepo
  | listRepo
  | deleteFile (name : String)
  | writeFile (name : String)
deriving DecidableEq

/-- How a call fails: with an `ApiException` whose status is not 404, or with any other
exception. -/
inductive Failure
  | api (reason : String)
  | other (text : String)
deriving DecidableEq

/-- An exception. `notFound` is the `ApiException` with the status 404. -/
inductive Raised
  | notFound
  | failed (failure : Failure)
deriving DecidableEq

/-- The stages of `vpn_delete_progress`. -/
inductive Stage
  | deletingTests
  | deletingVpn
  | deleting (kind : Kind) (name : String)
  | deleted (kind : Kind) (name : String)
  | skipped (kind : Kind) (name : String)
  | complete
  | failed
deriving DecidableEq

inductive Event
  | call (c : Call) (failure : Option Failure)
  | expired (kind : Kind) (name : String)
  | emitted (stage : Stage)
deriving DecidableEq

def Call.kind? : Call → Option Kind
  | .resources kind => some kind
  | .list kind => some kind
  | .get kind _ => some kind
  | .delete kind _ => some kind
  | _ => none

/-- The kind of resources that an event is about. -/
def Event.kind? : Event → Option Kind
  | .call c _ => c.kind?
  | .expired kind _ => some kind
  | .emitted _ => none

/-- A call that fails or a wait that times out. -/
def Event.troubled : Event → Bool
  | .call _ failure => failure.isSome
  | .expired _ _ => true
  | .emitted _ => false

/-- Trouble after which a task goes on with the next resource of the kind. -/
def Event.minor : Event → Bool
  | .call (.delete _ _) (some (.api _)) => true
  | .expired _ _ => true
  | _ => false

structure Entry where
  event : Event
  scene : Scene
deriving DecidableEq

/-- How calls and time-outs go, by their number: whether the call fails, which resources somebody
else has asked to delete before it, which deletions have come to their end, and the milliseconds
that it takes. -/
structure Env where
  failure : ℕ → Option Failure
  others : ℕ → Resource → Bool
  finished : ℕ → Resource → Bool
  latency : ℕ → ℕ

/-- The state of a run, with the milliseconds of the clock and the task's own variables. -/
structure World (ρ : Type) where
  scene : Scene
  clock : ℕ
  calls : ℕ
  log : List Entry
  locals : ρ

/-- The world in which a task begins. -/
def World.initial {ρ : Type} (scene : Scene) (clock : ℕ) (locals : ρ) : World ρ :=
  ⟨scene, clock, 0, [], locals⟩

/-- What happens until the call with a number. -/
def Env.pass (env : Env) (n : ℕ) (s : Scene) : Scene :=
  let deleting := s.deleting ++ s.present.filter (env.others n)
  { s with
    present := s.present.filter fun r => !(deleting.contains r && env.finished n r)
    deleting }

abbrev Program (ρ : Type) := ExceptT Raised (StateM (World ρ))

section Programs

variable {ρ α : Type} (env : Env)

/-- The world in which a call, or a wait that times out, takes place. -/
def World.enter (w : World ρ) (event : Event) : World ρ :=
  let scene := env.pass w.calls w.scene
  { w with
    scene
    clock := w.clock + env.latency w.calls
    calls := w.calls + 1
    log := w.log ++ [⟨event, scene⟩] }

/-- A call with the answer that it gets unless it fails. -/
def ask (c : Call) (answer : Scene → Except Raised α × Scene) : Program ρ α :=
  ExceptT.mk fun w =>
    let w' := w.enter env (.call c (env.failure w.calls))
    match env.failure w.calls with
    | some failure => (.error (.failed failure), w')
    | none => ((answer w'.scene).1, { w' with scene := (answer w'.scene).2 })

def update (f : World ρ → World ρ) : Program ρ Unit := ExceptT.mk fun w => (.ok (), f w)

def now : Program ρ ℕ := ExceptT.mk fun w => (.ok w.clock, w)

def sleep (milliseconds : ℕ) : Program ρ Unit :=
  update fun w => { w with clock := w.clock + milliseconds }

/-- `_emit` -/
def emit (stage : Stage) : Program ρ Unit :=
  update fun w => { w with log := w.log ++ [⟨.emitted stage, w.scene⟩] }

/-- `DynamicClient(get_k8s_client())` -/
def client : Program ρ Unit := ask env .client fun s => (.ok (), s)

/-- `dyn_client.resources.get` -/
def resources (kind : Kind) : Program ρ Unit := ask env (.resources kind) fun s => (.ok (), s)

/-- `resource_api.get(namespace=…)` -/
def listCrs (kind : Kind) : Program ρ (List Resource) :=
  ask env (.list kind) fun s => (.ok (s.present.filter (·.kind = kind)), s)

/-- `resource_api.get(name=…, namespace=…)` -/
def getCr (kind : Kind) (name : String) : Program ρ Unit :=
  ask env (.get kind name) fun s =>
    (if s.present.any (·.is kind name) then .ok () else .error .notFound, s)

/-- `resource_api.delete` -/
def deleteCr (kind : Kind) (name : String) : Program ρ Unit :=
  ask env (.delete kind name) fun s =>
    if s.present.any (·.is kind name) then
      (.ok (), { s with deleting := s.deleting ++ s.present.filter (·.is kind name) })
    else (.error .notFound, s)

/-! ## Waiting -/

/-- 120 seconds. -/
def timeout : ℕ := 120000

/-- Two seconds. -/
def pollInterval : ℕ := 2000

/-- A poll: whether the resource is still there. -/
def stillThere (kind : Kind) (name : String) : Program ρ Bool :=
  tryCatch (do getCr env kind name; pure true) fun
    | .notFound => pure false
    | .failed failure => throw (.failed failure)

/-- The wait has timed out. -/
def expire (kind : Kind) (name : String) : Program ρ Bool := do
  update (·.enter env (.expired kind name))
  pure false

/-- The loop of `_wait_for_cr_gone`, for a number of polls at most. -/
def pollUntilGone (kind : Kind) (name : String) (deadline : ℕ) : ℕ → Program ρ Bool
  | 0 => expire env kind name
  | n + 1 => do
    if (← now) < deadline then
      if ← stillThere env kind name then
        sleep pollInterval
        pollUntilGone kind name deadline n
      else pure true
    else expire env kind name

/-- `_wait_for_cr_gone` -/
def waitForCrGone (kind : Kind) (name : String) : Program ρ Bool := do
  pollUntilGone env kind name ((← now) + timeout) (timeout / pollInterval)

end Programs

section Rules

variable {ρ α : Type} {env : Env}

/-- A call fails in the world that it enters, or changes the scene as its answer does. -/
theorem ask_rule {c : Call} {answer : Scene → Except Raised α × Scene} {P : World ρ → Prop}
    {Q : α → World ρ → Prop} {E : Raised → World ρ → Prop}
    (hfails : ∀ w failure, P w → env.failure w.calls = some failure →
      E (.failed failure) (w.enter env (.call c (some failure))))
    (hreturns : ∀ (w w' : World ρ) a, P w → w' = w.enter env (.call c none) →
      (answer w'.scene).1 = .ok a → Q a { w' with scene := (answer w'.scene).2 })
    (hraises : ∀ (w w' : World ρ) e, P w → w' = w.enter env (.call c none) →
      (answer w'.scene).1 = .error e → E e { w' with scene := (answer w'.scene).2 }) :
    Attempt.Triple P (ask env c answer) Q E := by
  intro w hw
  unfold Effect.result Effect.after StateT.run
  cases hfailure : env.failure w.calls with
  | some failure =>
    have hrun : (ask env c answer).run w =
        (.error (.failed failure), w.enter env (.call c (some failure))) := by
      simp only [ask, ExceptT.run, ExceptT.mk, hfailure]
    rw [hrun]
    exact hfails w failure hw hfailure
  | none =>
    obtain ⟨w', hw'⟩ : ∃ w', w' = w.enter env (.call c none) := ⟨_, rfl⟩
    have hrun : (ask env c answer).run w =
        ((answer w'.scene).1, { w' with scene := (answer w'.scene).2 }) := by
      simp only [ask, ExceptT.run, ExceptT.mk, hfailure, hw']
    rw [hrun]
    cases hanswer : (answer w'.scene).1 with
    | ok a => exact hreturns w w' a hw hw' hanswer
    | error e => exact hraises w w' e hw hw' hanswer

end Rules

/-! ## What runs keep -/

section Keeps

variable {ρ α : Type} {env : Env} {ok good : Entry → Prop} {F G X Y : World ρ → Prop} {kind : Kind}
  {name : String}

/-- Unless an entry of the log is not `ok`, every entry is `good` and the world meets `F`. -/
def Keeps (ok good : Entry → Prop) (F : World ρ → Prop) (w : World ρ) : Prop :=
  (∀ e ∈ w.log, ok e) → (∀ e ∈ w.log, good e) ∧ F w

theorem Keeps.imp (h : ∀ w, F w → G w) {w : World ρ} (hw : Keeps ok good F w) :
    Keeps ok good G w := fun hok => ⟨(hw hok).1, h _ (hw hok).2⟩

/-- Resources and files of earlier deployments disappear, and none come. -/
def Fading (F : World ρ → Prop) : Prop :=
  ∀ w w' : World ρ, w'.scene.present ⊆ w.scene.present → w'.scene.earlier ⊆ w.scene.earlier →
    w'.locals = w.locals → F w → F w'

theorem Fading.and (hF : Fading F) (hG : Fading G) : Fading fun w => F w ∧ G w :=
  fun w w' hp he hl h => ⟨hF w w' hp he hl h.1, hG w w' hp he hl h.2⟩

theorem Fading.present {p : Resource → Prop} :
    Fading fun w : World ρ => ∀ r ∈ w.scene.present, p r :=
  fun _ _ hpresent _ _ h r hr => h r (hpresent hr)

theorem Fading.enter (hF : Fading F) {event : Event} {w : World ρ} (h : F w) :
    F (w.enter env event) :=
  hF w _ (List.filter_subset_self _) (List.Subset.refl _) rfl h

/-- One more entry keeps what it is good for. -/
theorem Keeps.enter (hF : Fading F) {event : Event}
    (hgood : ∀ w, F w → ok ⟨event, w.scene⟩ → good ⟨event, w.scene⟩) {w : World ρ}
    (hw : Keeps ok good F w) :
    Keeps ok good (fun w => F w ∧ ok ⟨event, w.scene⟩) (w.enter env event) := by
  intro hok
  obtain ⟨hlog, hlast⟩ := List.forall_mem_append.mp hok
  obtain ⟨hentries, hF'⟩ := hw hlog
  have hlast' : ok ⟨event, (w.enter env event).scene⟩ := hlast _ (List.mem_singleton_self _)
  have henter : F (w.enter env event) := hF.enter hF'
  refine ⟨List.forall_mem_append.mpr ⟨hentries, ?_⟩, henter, hlast'⟩
  rw [List.forall_mem_singleton]
  exact hgood _ henter hlast'

/-- **A call** keeps what it is good for, and ends as its answer or its failure does. -/
theorem ask_spec {c : Call} {answer : Scene → Except Raised α × Scene} {Q : α → World ρ → Prop}
    {E : Raised → World ρ → Prop} (hF : Fading F)
    (hgood : ∀ f w, F w → ok ⟨.call c f, w.scene⟩ → good ⟨.call c f, w.scene⟩)
    (hreturns : ∀ w a, F w → (answer w.scene).1 = .ok a →
      Q a { w with scene := (answer w.scene).2 })
    (hraises : ∀ w e, F w → (answer w.scene).1 = .error e →
      E e { w with scene := (answer w.scene).2 })
    (hfails : ∀ f w, F w → ok ⟨.call c (some f), w.scene⟩ → E (.failed f) w) :
    Attempt.Triple (Keeps ok good F) (ask env c answer) (fun a => Keeps ok good (Q a))
      fun e => Keeps ok good (E e) := by
  have henter : ∀ f (w : World ρ), Keeps ok good F w →
      Keeps ok good (fun w => F w ∧ ok ⟨.call c f, w.scene⟩) (w.enter env (.call c f)) :=
    fun f w hw => hw.enter hF (hgood f)
  refine ask_rule ?_ ?_ ?_
  · exact fun w failure hw _ => (henter _ w hw).imp fun w hw => hfails failure w hw.1 hw.2
  · rintro w w' a hw rfl hanswer hok
    obtain ⟨hlog, hscene, -⟩ := henter none w hw hok
    exact ⟨hlog, hreturns _ a hscene hanswer⟩
  · rintro w w' e hw rfl hanswer hok
    obtain ⟨hlog, hscene, -⟩ := henter none w hw hok
    exact ⟨hlog, hraises _ e hscene hanswer⟩

theorem update_spec {f : World ρ → World ρ} {E : Raised → World ρ → Prop}
    (hlog : ∀ w, (f w).log = w.log) (h : ∀ w, F w → G (f w)) :
    Attempt.Triple (Keeps ok good F) (update f) (fun _ => Keeps ok good G) E := by
  intro w hw hok
  have hkept := hw (hlog w ▸ hok)
  exact ⟨(hlog w).symm ▸ hkept.1, h w hkept.2⟩

theorem now_spec (P : World ρ → Prop) {E : Raised → World ρ → Prop} :
    Attempt.Triple P (now (ρ := ρ)) (fun _ => P) E := fun _ hw => hw

theorem emit_spec {stage : Stage} {E : Raised → World ρ → Prop} (hF : Fading F)
    (hgood : ∀ w, F w → good ⟨.emitted stage, w.scene⟩) :
    Attempt.Triple (Keeps ok good F) (emit stage) (fun _ => Keeps ok good F) E := by
  intro w hw hok
  obtain ⟨hlog, hF'⟩ := hw (List.forall_mem_append.mp hok).1
  refine ⟨List.forall_mem_append.mpr ⟨hlog, ?_⟩,
    hF w _ (List.Subset.refl _) (List.Subset.refl _) rfl hF'⟩
  rw [List.forall_mem_singleton]
  exact hgood w hF'

/-- Events about a kind of resources are good in a world that meets `G`, deletes aside, and
trouble among them is not `ok` unless `X` holds, or `Y` when it is minor. -/
structure Watch (ok good : Entry → Prop) (kind : Kind) (G X Y : World ρ → Prop) : Prop where
  fading : Fading G
  good : ∀ event (w : World ρ), event.kind? = some kind →
    (∀ name failure, event ≠ .call (.delete kind name) failure) → G w → good ⟨event, w.scene⟩
  trouble : ∀ event (w : World ρ), event.kind? = some kind → event.troubled = true → G w →
    ok ⟨event, w.scene⟩ → if event.minor then Y w else X w

/-- No resource of a kind has the name. -/
def Absent (kind : Kind) (name : String) (s : Scene) : Prop :=
  ∀ r ∈ s.present, r.is kind name = false

theorem absent_of_any {s : Scene} (h : ¬s.present.any (·.is kind name) = true) :
    Absent kind name s := by
  intro r hr
  by_contra his
  exact h (List.any_eq_true.mpr ⟨r, hr, (Bool.not_eq_false _).mp his⟩)

/-- Every resource of a kind has one of some names. -/
def Named (kind : Kind) (names : List String) (s : Scene) : Prop :=
  ∀ r ∈ s.present, r.kind = kind → r.name ∈ names

/-- No resource of a kind exists. -/
def Gone (kind : Kind) (s : Scene) : Prop := ∀ r ∈ s.present, r.kind ≠ kind

section Names

variable {s : Scene} {names : List String}

theorem Gone.named (h : Gone kind s) : Named kind names s :=
  fun r hr hkind => absurd hkind (h r hr)

theorem Named.gone (h : Named kind [] s) : Gone kind s :=
  fun r hr hkind => List.not_mem_nil (h r hr hkind)

/-- A name that no resource has is not needed. -/
theorem Named.of_absent (kept : List String) (h : Named kind (kept ++ name :: names) s)
    (habsent : Absent kind name s) : Named kind (kept ++ names) s := by
  intro r hr hkind
  have hname : r.name ≠ name := by
    intro heq
    have his := habsent r hr
    unfold Resource.is at his
    rw [hkind, heq] at his
    simp at his
  have hmem := h r hr hkind
  simp only [List.mem_append, List.mem_cons, hname, false_or] at hmem ⊢
  exact hmem

end Names

section Specs

variable (h : Watch ok good kind G X Y)
include h

theorem resources_spec : Attempt.Triple (Keeps ok good G) (resources env kind)
    (fun _ => Keeps ok good G) fun e => Keeps ok good fun w => G w ∧ X w ∧ e ≠ .notFound :=
  ask_spec h.fading (fun f w hw _ => h.good _ w rfl (fun _ _ heq => by cases heq) hw) (fun w a hw _ => hw)
    (fun w e _ herror => by cases herror) fun f w hw hok =>
      ⟨hw, h.trouble _ w rfl rfl hw hok, fun heq => by cases heq⟩

/-- The list holds all resources of the kind. -/
theorem listCrs_spec : Attempt.Triple (Keeps ok good G) (listCrs env kind)
    (fun crs => Keeps ok good fun w =>
      G w ∧ (∀ r ∈ crs, r ∈ w.scene.present ∧ r.kind = kind) ∧
        ∀ r ∈ w.scene.present, r.kind = kind → r ∈ crs)
    fun e => Keeps ok good fun w => G w ∧ X w ∧ e ≠ .notFound := by
  refine ask_spec h.fading (fun f w hw _ => h.good _ w rfl (fun _ _ heq => by cases heq) hw) ?_
    (fun w e _ herror => by cases herror) fun f w hw hok =>
      ⟨hw, h.trouble _ w rfl rfl hw hok, fun heq => by cases heq⟩
  intro w crs hw hcrs
  obtain rfl := Except.ok.inj hcrs
  refine ⟨hw, fun r hr => ?_, fun r hr hkind => ?_⟩
  · obtain ⟨hpresent, hkind⟩ := List.mem_filter.mp hr
    exact ⟨hpresent, of_decide_eq_true hkind⟩
  · exact List.mem_filter.mpr ⟨hr, decide_eq_true hkind⟩

/-- Only a resource that has disappeared is not found. -/
theorem getCr_spec : Attempt.Triple (Keeps ok good G) (getCr env kind name)
    (fun _ => Keeps ok good G)
    fun e => Keeps ok good fun w => G w ∧ (e = .notFound → Absent kind name w.scene) ∧
      (e ≠ .notFound → X w) := by
  refine ask_spec h.fading (fun f w hw _ => h.good _ w rfl (fun _ _ heq => by cases heq) hw)
    (fun w a hw _ => hw) ?_ ?_
  · intro w e hw herror
    split_ifs at herror with hany
    obtain rfl := Except.error.inj herror
    exact ⟨hw, fun _ => absent_of_any hany, fun hne => absurd rfl hne⟩
  · intro f w hw hok
    exact ⟨hw, fun heq => (by cases heq), fun _ => h.trouble _ w rfl rfl hw hok⟩

theorem deleteCr_spec
    (hgood : ∀ failure (w : World ρ), G w → good ⟨.call (.delete kind name) failure, w.scene⟩) :
    Attempt.Triple (Keeps ok good G) (deleteCr env kind name) (fun _ => Keeps ok good G)
      fun e => Keeps ok good fun w => G w ∧ (e = .notFound → Absent kind name w.scene) ∧
        (∀ reason, e = .failed (.api reason) → Y w) ∧ ∀ text, e = .failed (.other text) → X w := by
  refine ask_spec h.fading (fun f w hw _ => hgood f w hw) ?_ ?_ ?_
  · intro w a hw _
    split_ifs
    · exact h.fading w _ (List.Subset.refl _) (List.Subset.refl _) rfl hw
    · exact hw
  · intro w e hw herror
    split_ifs at herror with hany
    rw [if_neg hany]
    obtain rfl := Except.error.inj herror
    exact ⟨hw, fun _ => absent_of_any hany, fun _ heq => (by cases heq),
      fun _ heq => (by cases heq)⟩
  · intro f w hw hok
    have htrouble := h.trouble _ w rfl rfl hw hok
    refine ⟨hw, fun heq => (by cases heq), ?_, ?_⟩
    · rintro reason ⟨⟩
      exact htrouble
    · rintro text ⟨⟩
      exact htrouble

theorem stillThere_spec : Attempt.Triple (Keeps ok good G) (stillThere env kind name)
    (fun there => Keeps ok good fun w => G w ∧ (there = false → Absent kind name w.scene))
    fun e => Keeps ok good fun w => G w ∧ X w ∧ e ≠ .notFound := by
  refine .tryCatch (.bind (getCr_spec h) fun _ => .pure fun w hw => hw.imp fun w hw => ?_)
    fun e => ?_
  · exact ⟨hw, fun heq => (by cases heq)⟩
  · cases e with
    | notFound => exact .pure fun w hw => hw.imp fun w hw => ⟨hw.1, fun _ => hw.2.1 rfl⟩
    | failed failure =>
      have hne : Raised.failed failure ≠ .notFound := fun heq => by cases heq
      exact .throw fun w hw => hw.imp fun w hw => ⟨hw.1, hw.2.2 hne, hne⟩

theorem expire_spec : Attempt.Triple (Keeps ok good G) (expire env kind name)
    (fun gone => Keeps ok good fun w => G w ∧ (gone = true → Absent kind name w.scene) ∧
      (gone = false → Y w)) fun e => Keeps ok good fun w => G w ∧ X w ∧ e ≠ .notFound := by
  intro w hw
  have henter : Keeps ok good (fun w => G w ∧ ok ⟨.expired kind name, w.scene⟩)
      (w.enter env (.expired kind name)) :=
    hw.enter h.fading fun w hw _ => h.good _ w rfl (fun _ _ heq => by cases heq) hw
  exact henter.imp fun w hw =>
    ⟨hw.1, fun heq => (by cases heq), fun _ => h.trouble _ w rfl rfl hw.1 hw.2⟩

theorem pollUntilGone_spec (deadline n : ℕ) :
    Attempt.Triple (Keeps ok good G) (pollUntilGone env kind name deadline n)
      (fun gone => Keeps ok good fun w => G w ∧ (gone = true → Absent kind name w.scene) ∧
        (gone = false → Y w)) fun e => Keeps ok good fun w => G w ∧ X w ∧ e ≠ .notFound := by
  induction n with
  | zero => exact expire_spec h
  | succ n ih =>
    refine .bind (now_spec _) fun clock => .ite (fun _ => ?_) fun _ => expire_spec h
    refine .bind (stillThere_spec h) fun there => .ite (fun _ => ?_) fun hthere => ?_
    · refine .bind (update_spec (G := G) (fun _ => rfl) fun w hw => ?_) fun _ => ih
      exact h.fading w _ (List.Subset.refl _) (List.Subset.refl _) rfl hw.1
    · rw [Bool.not_eq_true] at hthere
      exact .pure fun w hw => hw.imp fun w hw =>
        ⟨hw.1, fun _ => hw.2 hthere, fun heq => (by cases heq)⟩

/-- **A wait** that confirms that the resource is gone is right, and one that does not, or that
raises, is trouble. -/
theorem waitForCrGone_spec : Attempt.Triple (Keeps ok good G) (waitForCrGone env kind name)
    (fun gone => Keeps ok good fun w => G w ∧ (gone = true → Absent kind name w.scene) ∧
      (gone = false → Y w)) fun e => Keeps ok good fun w => G w ∧ X w ∧ e ≠ .notFound :=
  .bind (now_spec _) fun _ => pollUntilGone_spec h _ _

end Specs

end Keeps

/-! ## A test and its VPN -/

def http : Resource := ⟨.trafficTest, "http", some "blue"⟩

def blue : Resource := ⟨.vyosL3vpn, "blue", none⟩

/-- The test and the VPN, with no files. -/
def testedVpn : Scene := ⟨[http, blue], [], [], []⟩

/-- Calls of 100 ms, of which one may fail, and deletions that end at once. -/
def failingAt (failing : Option ℕ) : Env where
  failure n := if failing = some n then some (.api "Internal Server Error") else none
  others _ _ := false
  finished _ _ := true
  latency _ := 100

end GnnSandbox.Supervisor.Cluster
