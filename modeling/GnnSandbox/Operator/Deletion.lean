import GnnSandbox.Operator.Handler
import Mathlib.Data.List.AList
import Mathlib.Logic.Function.Basic

/-!
# Deleting infrastructures, underlays and VPNs

The three kinds of resources refer to one another by name, and a finalizer keeps a resource until
its delete handler has succeeded. The delete handler of an infrastructure first lists what depends
on it; after this check it gives up control while it clears the Ops Agent, and then deletes the
children. The delete handler of a VPN gives up control after it has found its place in the queue.
What the handlers learn from outside is an argument.
-/

namespace GnnSandbox.Operator.Deletion

/-- A namespace and a name. -/
abbrev Ref := String × String

inductive Kind where
  | infrastructure
  | underlay
  | l3vpn
deriving DecidableEq, Repr

abbrev Key := Kind × Ref

/-- A resource; its `parentRef` is the `infrastructureRef` of an underlay and the `underlayRef` of
a VPN, and its `routers` are the names that a VPN lists. -/
structure Resource where
  uid : ℕ
  parentRef : Option String := none
  routers : List String := []
  deletionTimestamp : Option ℕ := none
deriving DecidableEq

abbrev Resources := AList fun _ : Key => Resource

/-- The resource that a name in the spec of `key` stands for. -/
def parentKey : Key → String → Option Key
  | (.infrastructure, _), _ => none
  | (.underlay, ref), name => some (.infrastructure, ref.1, name)
  | (.l3vpn, ref), name => some (.underlay, ref.1, name)

/-! ## Listings -/

/-- The answer to a listing. -/
inductive Listing where
  | listed
  | notFound
  | raises (message : String)
deriving DecidableEq

/-- The items of a listing for which 404 means that there are none. -/
def Listing.read {α : Type} (items : List α) : Listing → Except String (List α)
  | listed => .ok items
  | notFound => .ok []
  | raises message => .error message

/-- The resources of one kind in a namespace, by name. -/
def items (resources : Resources) (kind : Kind) (namespace_ : String) : List (String × Resource) :=
  resources.entries.filterMap fun ⟨key, r⟩ =>
    if key.1 = kind ∧ key.2.1 = namespace_ then some (key.2.2, r) else none

/-- `repr` of a list of names. -/
def reprNames (names : List String) : String :=
  "[" ++ ", ".intercalate (names.map fun name => "'" ++ name ++ "'") ++ "]"

/-! ## The delete handler of an infrastructure -/

/-- `_list_blocking_dependents` -/
def listBlockingDependents (name : String)
    (underlays l3vpns : Except String (List (String × Resource))) : Except String (List String) := do
  let referencing := (← underlays).filter fun cr => cr.2.parentRef = some name
  let blockingUnderlayNames := referencing.map Prod.fst
  if blockingUnderlayNames = [] then return []
  let onUnderlays := (← l3vpns).filter fun cr => cr.2.parentRef.any blockingUnderlayNames.contains
  return blockingUnderlayNames.map ("VyOSUnderlay/" ++ ·) ++
    onUnderlays.map ("VyOSL3VPN/" ++ ·.1)

/-- What the handler learns up to the check. -/
structure CheckAnswers where
  deleting : Write
  underlays : Listing
  l3vpns : Listing

/-- How the handler ends before or at the check of the dependents, if it does. -/
def checkDependents (ref : Ref) (resources : Resources) (ans : CheckAnswers) : Option Raised :=
  match ans.deleting with
  | .raises message => some (.exception message)
  | _ =>
    match listBlockingDependents ref.2
        (ans.underlays.read (items resources .underlay ref.1))
        (ans.l3vpns.read (items resources .l3vpn ref.1)) with
    | .error message => some (.temporaryError ("Error checking dependents: " ++ message) 10)
    | .ok [] => none
    | .ok blocking => some (.temporaryError
        ("Refusing deletion: dependent resources still exist: " ++ reprNames blocking) 10)

inductive ChildKind where
  | router
  | network
  | device
deriving DecidableEq, Repr

def ChildKind.name : ChildKind → String
  | router => "VyOSRouter"
  | network => "LinuxNetwork"
  | device => "Device"

/-- `_INFRA_CHILD_KINDS` -/
def infraChildKinds : List ChildKind := [.router, .network, .device]

/-- A child resource, with the uids of its owners. -/
structure Child where
  kind : ChildKind
  ref : Ref
  owners : List ℕ
  deletionTimestamp : Option ℕ := none
deriving DecidableEq

/-- What the handler learns after the check. -/
structure FinishAnswers where
  /-- How `update_opsagent_config`, or finding the API after it, fails. -/
  opsAgent : Option Raised
  listing : ChildKind → Listing
  /-- The API server accepts the deletion. -/
  accepted : Child → Bool
  now : ℕ
  relisting : ChildKind → Listing

/-- The handler issues the deletion of a child. -/
def issues (uid : ℕ) (namespace_ : String) (ans : FinishAnswers) (child : Child) : Bool :=
  ans.listing child.kind = .listed && child.ref.1 = namespace_ && child.owners.contains uid &&
    child.deletionTimestamp.isNone

/-- The children after the deletions. -/
def deleteChildren (uid : ℕ) (namespace_ : String) (ans : FinishAnswers) (children : List Child) :
    List Child :=
  children.map fun child =>
    if issues uid namespace_ ans child && ans.accepted child then
      { child with deletionTimestamp := some ans.now }
    else child

/-- `_list_owned_children` -/
def listOwnedChildren (uid : ℕ) (namespace_ : String) (listing : ChildKind → Listing)
    (children : List Child) : Except String (List String) := do
  let remaining ← infraChildKinds.mapM fun kind => do
    let crs ← (listing kind).read
      (children.filter fun child => child.kind = kind && child.ref.1 = namespace_)
    return (crs.filter (·.owners.contains uid)).map fun child => kind.name ++ "/" ++ child.ref.2
  return remaining.flatten

/-- `delete_vyosinfrastructure` after the check: how it ends, unless it succeeds, and the
children. -/
def finishInfrastructure (uid : ℕ) (namespace_ : String) (ans : FinishAnswers)
    (children : List Child) : Option Raised × List Child :=
  match ans.opsAgent with
  | some raised => (some raised, children)
  | none =>
    let children := deleteChildren uid namespace_ ans children
    match listOwnedChildren uid namespace_ ans.relisting children with
    | .error message => (some (.temporaryError ("Error listing children: " ++ message) 5), children)
    | .ok [] => (none, children)
    | .ok remaining => (some (.temporaryError ("Waiting for " ++ toString remaining.length ++
        " child CR(s): " ++ reprNames remaining) 5), children)

/-! ## The delete handlers of underlays and VPNs -/

/-- `delete_vyosunderlay`: errors of the routers are logged, so that only the status update can
fail. -/
def deleteVyosunderlay (deleting : Write) : Option Raised :=
  match deleting with
  | .raises message => some (.exception message)
  | _ => none

/-- What the delete handler of a VPN learns up to its place in the queue. -/
structure QueueAnswers where
  listing : Listing
  queued : Write
  deleting : Write

/-- How the delete handler of a VPN begins. -/
inductive QueueEnd where
  | raised (raised : Raised)
  | nothingToDo
  | past

/-- The first VPN that was deleted earlier. -/
def deletedEarlier (name : String) (timestamp : Option ℕ) (vpns : List (String × Resource)) :
    Option String :=
  (vpns.find? fun vpn => vpn.1 ≠ name && vpn.2.deletionTimestamp.any fun other =>
    timestamp.any fun mine => decide (other < mine)).map Prod.fst

/-- `delete_vyosl3vpn` up to the lock. -/
def queueL3vpn (ref : Ref) (vpn : Resource) (resources : Resources) (ans : QueueAnswers) :
    QueueEnd :=
  let proceed : QueueEnd :=
    match ans.deleting with
    | .raises message => .raised (.exception message)
    | _ => .past
  if vpn.routers = [] then .nothingToDo
  else
    -- an error of the listing, or of the status update in the queue, does not block the deletion
    match ans.listing with
    | .listed =>
      match deletedEarlier ref.2 vpn.deletionTimestamp (items resources .l3vpn ref.1) with
      | some other =>
        match ans.queued with
        | .raises _ => proceed
        | _ => .raised (.temporaryError
            ("Waiting for VyOSL3VPN " ++ other ++ " (deleted earlier) to finish first") 10)
      | none => proceed
    | _ => proceed

/-! ## The cluster -/

structure State where
  resources : Resources
  /-- The delete handler is past its check. -/
  underway : Key → Bool
  children : List Child
  nextUid : ℕ

def State.initial : State := ⟨∅, fun _ => false, [], 0⟩

inductive Event where
  | create (key : Key) (parentRef : Option String) (routers : List String)
  | update (key : Key) (parentRef : Option String) (routers : List String)
  | requestDelete (key : Key) (now : ℕ)
  | startInfrastructure (ref : Ref) (ans : CheckAnswers)
  | finishInfrastructure (ref : Ref) (ans : FinishAnswers)
  | deleteUnderlay (ref : Ref) (deleting : Write)
  | startL3vpn (ref : Ref) (ans : QueueAnswers)
  | finishL3vpn (ref : Ref)
  | changeChildren (children : List Child)
  | restart

namespace State

variable (s : State)

def create (key : Key) (parentRef : Option String) (routers : List String) : Option State :=
  if key ∈ s.resources then none
  else some { s with
    resources := s.resources.insert key { uid := s.nextUid, parentRef, routers }
    nextUid := s.nextUid + 1 }

/-- A resource after a change of its spec or metadata. -/
def modify (key : Key) (change : Resource → Resource) : Option State :=
  (s.resources.lookup key).map fun r =>
    { s with resources := s.resources.insert key (change r) }

/-- The finalizer is released. -/
def remove (key : Key) : State :=
  { s with
    resources := s.resources.erase key
    underway := Function.update s.underway key false }

/-- A delete handler can begin: the deletion is requested, and no other run is under way. -/
def deleting (key : Key) : Option Resource :=
  (s.resources.lookup key).filter fun r => r.deletionTimestamp.isSome && !s.underway key

/-- 404 is the answer for a kind that is not installed, of which there are no resources. -/
def startInfrastructure (ref : Ref) (ans : CheckAnswers) : Option State :=
  (s.deleting (.infrastructure, ref)).bind fun _ =>
    if ans.underlays = .notFound ∧ items s.resources .underlay ref.1 ≠ [] then none
    else
      match checkDependents ref s.resources ans with
      | some _ => some s
      | none => some { s with underway := Function.update s.underway (.infrastructure, ref) true }

def finishInfrastructure (ref : Ref) (ans : FinishAnswers) : Option State :=
  if s.underway (.infrastructure, ref) then
    (s.resources.lookup (.infrastructure, ref)).map fun r =>
      let (raised, children) := Deletion.finishInfrastructure r.uid ref.1 ans s.children
      match raised with
      | some _ =>
        { s with
          children
          underway := Function.update s.underway (.infrastructure, ref) false }
      | none => { s.remove (.infrastructure, ref) with children }
  else none

def deleteUnderlay (ref : Ref) (deleting : Write) : Option State :=
  (s.deleting (.underlay, ref)).map fun _ =>
    match deleteVyosunderlay deleting with
    | some _ => s
    | none => s.remove (.underlay, ref)

def startL3vpn (ref : Ref) (ans : QueueAnswers) : Option State :=
  (s.deleting (.l3vpn, ref)).map fun vpn =>
    match queueL3vpn ref vpn s.resources ans with
    | .raised _ => s
    | .nothingToDo => s.remove (.l3vpn, ref)
    | .past => { s with underway := Function.update s.underway (.l3vpn, ref) true }

/-- Whatever happens in the body of `delete_vyosl3vpn` is logged. -/
def finishL3vpn (ref : Ref) : Option State :=
  if s.underway (.l3vpn, ref) then some (s.remove (.l3vpn, ref)) else none

end State

/-- What an event does. Resources are created, changed and deleted by users, children by their own
handlers; a restart of the operator ends all handlers. -/
def step (s : State) : Event → Option State
  | .create key parentRef routers => s.create key parentRef routers
  | .update key parentRef routers => s.modify key fun r => { r with parentRef, routers }
  | .requestDelete key now => s.modify key fun r =>
      { r with deletionTimestamp := r.deletionTimestamp <|> some now }
  | .startInfrastructure ref ans => s.startInfrastructure ref ans
  | .finishInfrastructure ref ans => s.finishInfrastructure ref ans
  | .deleteUnderlay ref deleting => s.deleteUnderlay ref deleting
  | .startL3vpn ref ans => s.startL3vpn ref ans
  | .finishL3vpn ref => s.finishL3vpn ref
  | .changeChildren children => some { s with children }
  | .restart => some { s with underway := fun _ => false }

end GnnSandbox.Operator.Deletion
