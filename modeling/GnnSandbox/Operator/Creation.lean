import GnnSandbox.Operator.Deletion

/-!
# Creating the children of an infrastructure

The create handler of a VyOSInfrastructure, which creates networks, routers and devices one call
after the other, and `check_and_update_parent_status`, which runs whenever a child changes. The
state is the namespace of one infrastructure: its phase, the resources of the three kinds, and how
far the create handler is. Status updates may be lost and every call of the API may fail.
-/

namespace GnnSandbox.Operator.Creation

open Deletion (ChildKind Listing)

/-! ## Resources -/

inductive Phase where
  | validating
  | processing
  | creating
  | ready
  | error
  | deleting
deriving DecidableEq, Repr

structure OwnerReference where
  kind : String
  name : String
  uid : ℕ
deriving DecidableEq

structure Child where
  owners : List OwnerReference
  phase : Option String := none
  /-- It has a `deletionTimestamp`. -/
  terminating : Bool := false
deriving DecidableEq

/-- The spec, as far as the handler depends on it: what the validation says of it, the names of
its parts, and the exception that the generation of the resources of a kind ends with. -/
structure Spec where
  validation : Option String
  networks : List String
  routers : List String
  devices : List String
  generation : ChildKind → Option String

structure Infrastructure where
  name : String
  uid : ℕ
  spec : Spec

abbrev Children := AList fun _ : ChildKind × String => Child

variable (p : Infrastructure)

def Infrastructure.reference : OwnerReference := ⟨"VyOSInfrastructure", p.name, p.uid⟩

/-- The resource that the handler creates. -/
def Infrastructure.child : Child := { owners := [p.reference] }

/-- The resource is owned by this infrastructure. -/
def Infrastructure.Owns (child : Child) : Prop := p.reference ∈ child.owners

/-- An owner has the kind and the name of the infrastructure. -/
def Infrastructure.claims (child : Child) : Bool :=
  child.owners.any fun owner => owner.kind = "VyOSInfrastructure" && owner.name = p.name

/-! ## Generation -/

def generate (kind : ChildKind) (names : List String) : Except String (List String) :=
  match p.spec.generation kind with
  | some message => .error message
  | none => .ok names

/-- `generate_linux_networks`, by the names -/
def generateLinuxNetworks : Except String (List String) :=
  generate p .network (p.spec.networks.filter (· ≠ "loopbacks"))

/-- `generate_vyos_routers`, by the names -/
def generateVyosRouters : Except String (List String) := generate p .router p.spec.routers

/-- `generate_devices`, by the names -/
def generateDevices : Except String (List String) := generate p .device p.spec.devices

/-! ## The create handler -/

/-- What comes of `api.create`: the API server decides, or the call fails otherwise. -/
inductive CreateAnswer where
  | performed
  | raises (message : String)

/-- What the handler learns in one stretch: the answers to the creation of a resource and to the
read after a conflict, the fates of the status updates, and how `update_opsagent_config` fails. -/
structure Answers where
  create : CreateAnswer
  read : Listing
  write : ℕ → Write
  opsAgent : Option Raised

/-- How far the handler is. -/
inductive Stage where
  | networks (todo : List String) (terminating : List String)
  | routers (todo : List String)
  | devices (todo : List String)
  | opsAgent
deriving DecidableEq

structure State where
  phase : Option Phase
  children : Children
  handler : Option Stage

def State.initial : State := ⟨none, ∅, none⟩

/-- `update_status` -/
def updateStatus (phase : Phase) (w : Write) (old : Option Phase) : Except String (Option Phase) :=
  w.apply (fun _ _ => some phase) old

/-- The handler ends with an unexpected exception. -/
def State.abort (s : State) (w : Write) : State :=
  { s with
    phase := (updateStatus .error w s.phase).toOption.getD s.phase
    handler := none }

/-- `api.create`: the resource is new, or it exists already. -/
def createChild (kind : ChildKind) (name : String) (children : Children) : Children :=
  if (kind, name) ∈ children then children else children.insert (kind, name) p.child

/-- `create_linux_network`: the resources, and whether the network is still terminating. -/
def createLinuxNetwork (name : String) (ans : Answers) (children : Children) : Children × Bool :=
  match ans.create with
  | .raises _ => (children, false)
  | .performed =>
    match children.lookup (.network, name), ans.read with
    | some existing, .listed => (children, existing.terminating)
    | _, _ => (createChild p .network name children, false)

/-- `create_vyos_router` and `create_device`: an existing resource keeps its owners. -/
def createOrKeep (kind : ChildKind) (name : String) (ans : Answers) (children : Children) :
    Children :=
  match ans.create with
  | .raises _ => children
  | .performed => createChild p kind name children

/-- The handler goes on with the resources that a generation returns. -/
def State.withGenerated (s : State) (generated : Except String (List String))
    (stage : List String → Stage) (ans : Answers) : State :=
  match generated with
  | .error _ => s.abort (ans.write 1)
  | .ok names => { s with handler := some (stage names) }

/-- `create_vyosinfrastructure` up to the creation of the networks. -/
def State.begin (s : State) (ans : Answers) : State :=
  match updateStatus .validating (ans.write 0) s.phase with
  | .error _ => s.abort (ans.write 2)
  | .ok phase =>
    let s := { s with phase }
    match p.spec.validation with
    | some _ =>
      match updateStatus .error (ans.write 1) s.phase with
      | .error _ => s.abort (ans.write 2)
      | .ok phase => { s with phase }
    | none =>
      match updateStatus .processing (ans.write 1) s.phase with
      | .error _ => s.abort (ans.write 2)
      | .ok phase =>
        let s := { s with phase }
        match generateLinuxNetworks p with
        | .error _ => s.abort (ans.write 2)
        | .ok names => { s with handler := some (.networks names []) }

/-- One call of `create_vyosinfrastructure`. -/
def State.call (s : State) (ans : Answers) : Stage → State
  | .networks (name :: todo) terminating =>
    let (children, isTerminating) := createLinuxNetwork p name ans s.children
    { s with
      children
      handler := some (.networks todo (if isTerminating then terminating ++ [name] else terminating)) }
  | .networks [] terminating =>
    -- networks that are still terminating: a `TemporaryError`, and the handler runs again
    if terminating ≠ [] then { s with handler := none }
    else s.withGenerated (generateVyosRouters p) .routers ans
  | .routers (name :: todo) =>
    { s with
      children := createOrKeep p .router name ans s.children
      handler := some (.routers todo) }
  | .routers [] => s.withGenerated (generateDevices p) .devices ans
  | .devices (name :: todo) =>
    { s with
      children := createOrKeep p .device name ans s.children
      handler := some (.devices todo) }
  | .devices [] =>
    match updateStatus .creating (ans.write 0) s.phase with
    | .error _ => s.abort (ans.write 1)
    | .ok phase => { s with phase, handler := some .opsAgent }
  | .opsAgent =>
    match ans.opsAgent with
    | some (.exception _) => s.abort (ans.write 1)
    | _ => { s with handler := none }

/-! ## The check of the parent -/

/-- What `check_and_update_parent_status` learns. -/
structure CheckAnswers where
  parent : Listing
  routers : Listing
  devices : Listing
  write : Write

/-- The phases in which the check does nothing. -/
def skippedPhases : List Phase := [.error, .deleting, .validating, .processing]

/-- The resources of one kind that name the infrastructure as an owner. -/
def childrenOf (kind : ChildKind) (children : Children) : List Child :=
  children.entries.filterMap fun ⟨key, child⟩ =>
    if key.1 = kind ∧ p.claims child then some child else none

/-- The phase that the check writes, if it writes one. -/
def checkParent (s : State) (ans : CheckAnswers) : Option Phase :=
  if ans.parent = .listed ∧ (∀ phase ∈ s.phase, phase ∉ skippedPhases) then
    -- 404 says that there are no devices, all other errors are logged
    match ans.routers, ans.devices.read (childrenOf p .device s.children) with
    | .listed, .ok devices =>
      let routers := childrenOf p .router s.children
      if routers = [] ∧ devices = [] then none
      else if (∀ router ∈ routers, router.phase = some "Running") ∧
          (∀ device ∈ devices, device.phase = some "Ready") then some .ready
      -- a parent that is Ready stays so
      else if s.phase = some .ready then none
      else some .creating
    | _, _ => none
  else none

/-- `check_and_update_parent_status` -/
def State.check (s : State) (ans : CheckAnswers) : State :=
  match checkParent p s ans with
  | none => s
  | some phase => { s with phase := (updateStatus phase ans.write s.phase).toOption.getD s.phase }

/-! ## Runs -/

inductive Event where
  | begin (ans : Answers)
  | call (ans : Answers)
  | check (ans : CheckAnswers)
  | setPhase (kind : ChildKind) (name : String) (phase : Option String)
  | createOther (kind : ChildKind) (name : String) (child : Child)
  | terminate (kind : ChildKind) (name : String)
  | remove (kind : ChildKind) (name : String)
  | restart

/-- What an event does. Beside the handler and the check, a child changes its phase, others create
and delete resources in the namespace, and the operator restarts. -/
def step (s : State) : Event → Option State
  | .begin ans => if s.handler = none then some (s.begin p ans) else none
  | .call ans => s.handler.map fun stage => s.call p ans stage
  | .check ans => some (s.check p ans)
  | .setPhase kind name phase => (s.children.lookup (kind, name)).map fun child =>
      { s with children := s.children.insert (kind, name) { child with phase } }
  | .createOther kind name child =>
      if (kind, name) ∈ s.children then none
      else some { s with children := s.children.insert (kind, name) child }
  | .terminate kind name => (s.children.lookup (kind, name)).map fun child =>
      { s with children := s.children.insert (kind, name) { child with terminating := true } }
  | .remove kind name => some { s with children := s.children.erase (kind, name) }
  | .restart => some { s with handler := none }

end GnnSandbox.Operator.Creation
