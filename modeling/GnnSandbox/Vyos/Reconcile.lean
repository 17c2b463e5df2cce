import GnnSandbox.Graph.Text
import GnnSandbox.Lib.Transition
import GnnSandbox.Operator.Handler
import GnnSandbox.Vyos.Updates

/-!
# The life of a router

The framework calls the handlers of a VyOSRouter one at a time: the create handler until a call of
it is done, the update handler whenever the resource differs from what was handled last, and the
delete handler when the resource is to go. Between any two steps of a handler others may change the
resource, and the operator may stop.

1. `createHandler`, `updateHandler`, `deleteHandler`: the handlers, step by step.
2. `step`: the resource, the container and the call in progress.
3. `mem_config`: what a container holds after some scripts.
-/

namespace GnnSandbox.Vyos.Reconcile

open ConfigTree (Edit)
open Operator (Raised IpAnswer Write)
open Transition

/-! ## Handlers -/

inductive Phase where
  | pending
  | creating
  | configuring
  | running
  | updating
  | failed
deriving DecidableEq, Repr

/-- What the playbooks `router_management.yaml` and `router_configuration.yaml` are run for. -/
inductive Task where
  | create
  | script (mode : Mode)
  | delete
deriving DecidableEq

/-- What `_run_ansible_playbook` returns. -/
inductive Outcome where
  | success
  | failure (error : String)
  | raises (message : String)

/-- What reading a LinuxNetwork gives. -/
inductive NetworkAnswer where
  | found (phase message : Option String)
  | notFound
  | raises (message : String)

/-- An entry of `not_ready_networks`. -/
structure NotReady where
  name : String
  phase : String
  message : String

/-- The rest of a handler, up to the next call that it makes. -/
inductive Handler where
  | ends (raised : Option Raised)
  | getIp (next : IpAnswer → Handler)
  | readNetworks (next : Except String (String → NetworkAnswer) → Handler)
  | updateStatus (phase : Phase) (message : String) (next : Except String Unit → Handler)
  | play (task : Task) (next : Outcome → Handler)

namespace Handler

/-- An exception that nothing catches. -/
def raise (message : String) : Handler := .ends (some (.exception message))

/-- `update_status` -/
def write (phase : Phase) (message : String) (rescue : String → Handler) (next : Handler) :
    Handler :=
  .updateStatus phase message fun
    | .error message => rescue message
    | .ok () => next

/-- The handler goes on when the network VM has an address. -/
def withIp (next : Handler) : Handler :=
  .getIp fun
    | .raises message => raise message
    | .missing => .ends (some (.temporaryError
        "No ip address found on Network VM yet, temporary error - waiting" 10))
    | .found _ => next

end Handler

open Handler

def transientPatterns : List String :=
  ["ssh", "connection refused", "connection timed out", "connection reset", "timeout",
    "unreachable", "temporarily unavailable", "docker daemon", "failed to execute ansible",
    "ansible playbook failed with status: failed", "already in use", "already exists",
    "no such host", "network is unreachable", "pulling image", "pull access denied",
    "toomanyrequests", "i/o timeout", "broken pipe", "eof", "not ready", "exit code 124",
    "timed out waiting"]

/-- `_is_transient_error`, for `str.lower` -/
def isTransientError (lower : String → String) (error : String) : Bool :=
  transientPatterns.any fun pattern => Graph.contains (lower error) pattern

/-- What `check_linux_networks_ready` says of one network. -/
def NetworkAnswer.notReady (name : String) : NetworkAnswer → Option NotReady
  | .found phase message =>
    let phase := phase.getD "Unknown"
    if phase = "Ready" then none else some ⟨name, phase, message.getD "No message"⟩
  | .notFound => some ⟨name, "NotFound", "LinuxNetwork resource does not exist"⟩
  | .raises message => some ⟨name, "Error", message⟩

/-- `check_linux_networks_ready` -/
def checkLinuxNetworksReady (interfaces : List Interface) (answer : String → NetworkAnswer) :
    List NotReady :=
  interfaces.filterMap fun i =>
    match i.linuxNetwork with
    | some name => if name = "" then none else (answer name).notReady name
    | none => none

section

variable (lower : String → String) (name : String) (spec : Spec)

/-- The last `except` of `create_vyosrouter`. -/
def rescueCreate (error : String) : Handler :=
  if isTransientError lower error then
    write .pending ("Retrying after error: " ++ error) raise
      (.ends (some (.temporaryError error 30)))
  else write .failed error raise (raise error)

/-- `create_vyosrouter`, once the container is there. -/
def configureRouter : Handler :=
  .play (.script .configure) fun
    | .raises message => rescueCreate lower message
    | .success =>
      write .running ("VyOS router " ++ name ++ " is running and configured") (rescueCreate lower)
        (.ends none)
    | .failure error =>
      if isTransientError lower error then
        write .pending ("Configuration pending retry: " ++ error) (rescueCreate lower)
          (.ends (some (.temporaryError ("Transient configuration error: " ++ error) 30)))
      else
        write .failed ("Configuration failed: " ++ error) (rescueCreate lower)
          (.ends (some (.permanentError ("VyOS router configuration failed: " ++ error))))

/-- `create_vyosrouter`, once the networks are ready. -/
def createRouter : Handler :=
  write .creating "Creating VyOS router container" (rescueCreate lower) <|
    .play .create fun
      | .raises message => rescueCreate lower message
      | .success =>
        write .configuring "Applying VyOS configuration" (rescueCreate lower)
          (configureRouter lower name)
      | .failure error =>
        if isTransientError lower error then
          write .pending ("Creation pending retry: " ++ error) (rescueCreate lower)
            (.ends (some (.temporaryError ("Transient creation error: " ++ error) 30)))
        else
          write .failed ("Failed to create container: " ++ error) (rescueCreate lower)
            (.ends (some (.permanentError ("VyOS router creation failed: " ++ error))))

/-- `create_vyosrouter`, once it is known which networks are not ready. -/
def createWhenReady (notReady : List NotReady) : Handler :=
  if notReady = [] then createRouter lower name
  else
    let details := notReady.map fun n =>
      n.name ++ " (phase: " ++ n.phase ++ ", message: " ++ n.message ++ ")"
    let error := "Waiting for LinuxNetwork(s) to be ready: " ++ ", ".intercalate details
    write .pending error raise <|
      if notReady.any fun n => n.phase = "Failed" then .ends (some (.permanentError error))
      else .ends (some (.temporaryError error 20))

/-- `create_vyosrouter` -/
def createHandler (phase : Option Phase) : Handler :=
  if phase = some .running then .ends none
  else withIp <| write .pending "Validating and waiting for dependencies" raise <|
    match spec.interfaces.getD [] with
    | [] => createRouter lower name
    | interfaces => .readNetworks fun
      | .error message => raise message
      | .ok answer =>
        createWhenReady lower name (checkLinuxNetworksReady interfaces answer)

/-- The delay after which an update is tried again. -/
def updateDelay (error : String) : ℕ := if isTransientError lower error then 30 else 60

/-- The last `except` of `update_vyosrouter`. -/
def rescueUpdate (error : String) : Handler :=
  write .updating ("Retrying after error: " ++ error) raise
    (.ends (some (.temporaryError error (updateDelay lower error))))

/-- `update_vyosrouter`; the difference may be in nothing that matters to it. -/
def updateHandler (relevant : Bool) : Handler :=
  if relevant then
    withIp <| write .updating "Updating VyOS router configuration" (rescueUpdate lower) <|
      .play (.script .update) fun
        | .raises message => rescueUpdate lower message
        | .success =>
          write .running "VyOS router updated successfully" (rescueUpdate lower) (.ends none)
        | .failure error =>
          write .updating ("Update pending retry: " ++ error) (rescueUpdate lower)
            (.ends (some (.temporaryError ("Update error (will retry): " ++ error)
              (updateDelay lower error))))
  else .ends none

/-- `delete_vyosrouter`: the resource goes even if the playbook fails. -/
def deleteHandler : Handler := withIp (.play .delete fun _ => .ends none)

end

/-! ## Runs -/

/-- What the framework compares of a resource: the spec, the annotation that asks for another run,
and the other labels and annotations. -/
structure Essence where
  spec : Spec
  trigger : Option String := none
  others : List (String × String) := []
deriving DecidableEq

/-- The update handler takes note of the difference. The annotation counts when the difference
lists it by itself. -/
def Essence.relevant (old new : Essence) (listed : Bool) : Bool :=
  decide (old.spec ≠ new.spec) || (decide (old.trigger ≠ new.trigger) && listed)

structure Object where
  essence : Essence
  phase : Option Phase := none
  /-- What the framework has on record as handled. -/
  handled : Option Essence := none
  /-- It has a `deletionTimestamp`. -/
  deleting : Bool := false

/-- A script that a router has committed. -/
structure Commit where
  mode : Mode
  spec : Spec

/-- A call of a handler, with what it was called for. -/
structure Attempt where
  seen : Essence
  isDelete : Bool
  rest : Handler

structure State where
  object : Option Object
  /-- What the container has committed, if there is one. -/
  container : Option (List Commit)
  attempt : Option Attempt

def State.initial : State := ⟨none, none, none⟩

/-- The handler that the framework calls next, if there is something to do. -/
def Object.handler (lower : String → String) (name : String) (listed : Bool) (o : Object) :
    Option Handler :=
  if o.deleting then some deleteHandler
  else
    match o.handled with
    | none => some (createHandler lower name o.essence.spec o.phase)
    | some handled =>
      if handled = o.essence then none
      else some (updateHandler lower (handled.relevant o.essence listed))

/-- What a playbook does when it takes effect: a container that is there is kept, and a script needs
one. -/
def Task.effect (spec : Spec) (container : Option (List Commit)) :
    Task → Option (Option (List Commit))
  | .create => some (some (container.getD []))
  | .script mode =>
    if (spec.script mode).isSome then container.map fun commits => some (commits ++ [⟨mode, spec⟩])
    else none
  | .delete => some none

/-- A playbook that succeeds has taken effect; one that fails may have. -/
def Task.played (task : Task) (spec : Spec) (container : Option (List Commit)) (outcome : Outcome)
    (tookEffect : Bool) : Option (Option (List Commit)) :=
  if tookEffect then task.effect spec container
  else
    match outcome with
    | .success => none
    | _ => some container

/-- The framework does not call the handler again. -/
def isFinal : Option Raised → Bool
  | none | some (.permanentError _) => true
  | _ => false

/-- What becomes of the resource when a call ends. -/
def Object.finish (o : Object) (a : Attempt) (raised : Option Raised) : Option Object :=
  if isFinal raised then
    if a.isDelete then none else some { o with handled := some a.seen }
  else some o

inductive Event where
  | change (essence : Essence)
  | delete
  | start (listed : Bool)
  | ip (answer : IpAnswer)
  | networks (answer : Except String (String → NetworkAnswer))
  | status (w : Write)
  | played (outcome : Outcome) (tookEffect : Bool)
  | finish
  | stop

/-- The call in progress learns something, or ends. -/
def State.answer (s : State) (a : Attempt) : Event → Option State
  | .ip answer =>
    match a.rest with
    | .getIp next => some { s with attempt := some { a with rest := next answer } }
    | _ => none
  | .networks answer =>
    match a.rest with
    | .readNetworks next => some { s with attempt := some { a with rest := next answer } }
    | _ => none
  | .status w =>
    match a.rest with
    | .updateStatus phase _ next =>
      some { s with
        object := s.object.map fun o =>
          { o with phase := (w.apply (fun _ _ => some phase) o.phase).toOption.getD o.phase }
        attempt := some { a with rest := next (w.apply (fun _ _ => ()) ()) } }
    | _ => none
  | .played outcome tookEffect =>
    match a.rest with
    | .play task next =>
      (task.played a.seen.spec s.container outcome tookEffect).map fun container =>
        { s with container, attempt := some { a with rest := next outcome } }
    | _ => none
  | .finish =>
    match a.rest with
    | .ends raised =>
      some { s with object := s.object.bind fun o => o.finish a raised, attempt := none }
    | _ => none
  | _ => none

/-- What an event does. -/
def step (lower : String → String) (name : String) (s : State) : Event → Option State
  | .change essence =>
    match s.object with
    | none => if s.attempt.isSome then none else some { s with object := some { essence } }
    | some o => some { s with object := some { o with essence } }
  | .delete => s.object.map fun o => { s with object := some { o with deleting := true } }
  | .start listed =>
    match s.object, s.attempt with
    | some o, none =>
      (o.handler lower name listed).map fun rest =>
        { s with attempt := some ⟨o.essence, o.deleting, rest⟩ }
    | _, _ => none
  | .stop => some { s with attempt := none }
  | e => s.attempt.bind fun a => s.answer a e

/-- What an event does, case by case. -/
inductive Does (lower : String → String) (name : String) (s : State) : Event → State → Prop
  | created {essence : Essence} (hobject : s.object = none) (hidle : s.attempt = none) :
    Does lower name s (.change essence) { s with object := some { essence } }
  | changed {essence : Essence} {o : Object} (hobject : s.object = some o) :
    Does lower name s (.change essence) { s with object := some { o with essence } }
  | delete {o : Object} (hobject : s.object = some o) :
    Does lower name s .delete { s with object := some { o with deleting := true } }
  | start {listed : Bool} {o : Object} {rest : Handler} (hobject : s.object = some o)
      (hidle : s.attempt = none) (hrest : o.handler lower name listed = some rest) :
    Does lower name s (.start listed) { s with attempt := some ⟨o.essence, o.deleting, rest⟩ }
  | ip {answer : IpAnswer} {a : Attempt} {next : IpAnswer → Handler} (ha : s.attempt = some a)
      (hrest : a.rest = .getIp next) :
    Does lower name s (.ip answer) { s with attempt := some { a with rest := next answer } }
  | networks {answer : Except String (String → NetworkAnswer)} {a : Attempt}
      {next : Except String (String → NetworkAnswer) → Handler} (ha : s.attempt = some a)
      (hrest : a.rest = .readNetworks next) :
    Does lower name s (.networks answer) { s with attempt := some { a with rest := next answer } }
  | status {w : Write} {a : Attempt} {phase : Phase} {message : String}
      {next : Except String Unit → Handler} (ha : s.attempt = some a)
      (hrest : a.rest = .updateStatus phase message next) :
    Does lower name s (.status w) { s with
      object := s.object.map fun o =>
        { o with phase := (w.apply (fun _ _ => some phase) o.phase).toOption.getD o.phase }
      attempt := some { a with rest := next (w.apply (fun _ _ => ()) ()) } }
  | played {outcome : Outcome} {tookEffect : Bool} {a : Attempt} {task : Task}
      {next : Outcome → Handler} {container : Option (List Commit)} (ha : s.attempt = some a)
      (hrest : a.rest = .play task next)
      (hplayed : task.played a.seen.spec s.container outcome tookEffect = some container) :
    Does lower name s (.played outcome tookEffect)
      { s with container, attempt := some { a with rest := next outcome } }
  | finish {a : Attempt} {raised : Option Raised} (ha : s.attempt = some a)
      (hrest : a.rest = .ends raised) :
    Does lower name s .finish
      { s with object := s.object.bind fun o => o.finish a raised, attempt := none }
  | stop : Does lower name s .stop { s with attempt := none }

theorem does_of_step {lower : String → String} {name : String} {s s' : State} {e : Event}
    (hstep : step lower name s e = some s') : Does lower name s e s' := by
  cases e with
  | change essence =>
    simp only [step] at hstep
    split at hstep
    · rename_i hobject
      obtain ⟨hidle, hstep⟩ := Option.ite_none_left_eq_some.mp hstep
      obtain rfl := Option.some.inj hstep
      exact .created hobject (by simpa using hidle)
    · rename_i o hobject
      obtain rfl := Option.some.inj hstep
      exact .changed hobject
  | delete =>
    obtain ⟨o, hobject, rfl⟩ := Option.map_eq_some_iff.mp hstep
    exact .delete hobject
  | start listed =>
    simp only [step] at hstep
    split at hstep
    · rename_i o hobject hidle
      obtain ⟨rest, hrest, rfl⟩ := Option.map_eq_some_iff.mp hstep
      exact .start hobject hidle hrest
    · cases hstep
  | stop =>
    obtain rfl := Option.some.inj hstep
    exact .stop
  | ip answer | networks answer | status w | played outcome tookEffect | finish =>
    obtain ⟨a, ha, hanswer⟩ := Option.bind_eq_some_iff.mp hstep
    simp only [State.answer] at hanswer
    split at hanswer
    · rename_i hrest
      first
        | obtain rfl := Option.some.inj hanswer
          constructor <;> assumption
        | obtain ⟨container, hplayed, rfl⟩ := Option.map_eq_some_iff.mp hanswer
          exact .played ha hrest hplayed
    · cases hanswer

/-! ## What a router holds -/

/-- The deletions and settings of a script. -/
def Commit.edit (commit : Commit) : Edit String where
  deletes := match commit.mode with
    | .configure => []
    | .update => commit.spec.extravars.deletes
  sets := commit.spec.extravars.sets

/-- The configuration after the scripts. -/
def config (commits : List Commit) : ConfigTree.Config String :=
  commits.foldl (fun c commit => execute (commit.spec.extravars.commands commit.mode) c) []

/-- The script deletes the setting, or gives its node a value. -/
def Commit.Touches (commit : Commit) (q : Path) : Prop := commit.edit.Touches singleValued q

/-- The scripts are defined. -/
def Rendered (s : State) : Prop :=
  ∀ commits ∈ s.container, ∀ commit ∈ commits, commit.spec.extravars.Complete

theorem commands_eq (commit : Commit) :
    commit.spec.extravars.commands commit.mode = commit.edit.script := by
  obtain ⟨mode, spec⟩ := commit
  cases mode <;> rfl

theorem gives_iff_fresh {commit : Commit} {q : Path} (h : commit.spec.extravars.Complete) :
    commit.spec.Gives q ↔ q ∈ commit.edit.fresh singleValued :=
  gives_iff (if_pos h)

/-- A setting stems from a script after which none touched it. -/
theorem mem_config {commits : List Commit} {q : Path}
    (h : ∀ commit ∈ commits, commit.spec.extravars.Complete) :
    q ∈ config commits ↔ ∃ before giver after, commits = before ++ giver :: after ∧
      giver.spec.Gives q ∧ ∀ later ∈ after, ¬later.Touches q := by
  have hconfig : config commits = Edit.runAll singleValued (commits.map Commit.edit) [] := by
    unfold config Edit.runAll execute
    rw [List.foldl_map]
    simp only [commands_eq]
  rw [hconfig, Edit.mem_runAll_map]
  refine exists_congr fun before => exists_congr fun giver => exists_congr fun after => ?_
  refine and_congr_right fun heq => and_congr_left' (gives_iff_fresh (h giver ?_)).symm
  rw [heq]
  exact List.mem_append_right before List.mem_cons_self

end GnnSandbox.Vyos.Reconcile
