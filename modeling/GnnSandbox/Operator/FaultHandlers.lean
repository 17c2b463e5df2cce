import GnnSandbox.Graph.Device
import GnnSandbox.Operator.Crd
import GnnSandbox.Operator.Handler

/-!
# The handlers of NetworkFailure resources

The create handler validates a fault, injects it and writes the fault events of the store; the
delete handler restores the router. The fault itself is one bit, which a successful injection sets
and a successful restoration clears. The operator may stop while a playbook is running, which
takes effect or not.
-/

namespace GnnSandbox.Operator.Fault

open Graph (Json truthy)

/-! ## The resource -/

/-- `failureType`, with the names that no branch knows. -/
inductive Kind where
  | known (type : FailureType)
  | unknown (name : String)
deriving DecidableEq

def Kind.name : Kind → String
  | known type => type.name
  | unknown name => name

inductive Mode where
  | direct
  | operator
deriving DecidableEq, Repr

def Mode.name : Mode → String
  | direct => "direct"
  | operator => "operator"

structure Target where
  router : Option String := none
  interface : Option String := none
  peerRouter : Option String := none
  peerIp : Option String := none
  vrf : Option String := none
deriving DecidableEq

structure Parameters where
  mtu : Option ℤ := none
  errorRate : Option String := none
  method : Option String := none
  remoteAs : Option ℤ := none
  wrongArea : Option String := none
  correctArea : Option String := none
  duplicateIp : Option String := none
  queueLength : Option ℤ := none
  ospfCost : Option ℤ := none
  wrongRt : Option String := none
  correctRt : Option String := none
deriving DecidableEq

structure Spec where
  failureType : Kind
  injectionMode : Option Mode := none
  infrastructureRef : Option String := none
  target : Target := {}
  parameters : Parameters := {}
deriving DecidableEq

inductive Phase where
  | injecting
  | active
  | restoring
  | restored
  | failed
deriving DecidableEq, Repr

/-- `original_state` -/
abbrev OriginalState := List (String × Json)

structure Status where
  phase : Option Phase := none
  message : Option String := none
  injectedAt : Option String := none
  originalState : Option OriginalState := none
  restoredAt : Option String := none

structure Update where
  phase : Phase
  message : String
  injectedAt : Option String := none
  originalState : Option OriginalState := none
  restoredAt : Option String := none

/-- What the patch of `_update_status` makes of the status. -/
def updateStatus (u : Update) (_now : String) (s : Status) : Status where
  phase := some u.phase
  message := some u.message
  injectedAt := u.injectedAt <|> s.injectedAt
  originalState := u.originalState <|> s.originalState
  restoredAt := u.restoredAt <|> s.restoredAt

/-- The spec as `sync_fault_event` reads it. -/
def Spec.toGraph (spec : Spec) : Graph.NetworkFailure where
  failureType := some spec.failureType.name
  injectionMode := spec.injectionMode.map Mode.name
  target := some
    { router := spec.target.router
      interface := spec.target.interface
      vrf := spec.target.vrf
      other := .ofFields [("peer_ip", spec.target.peerIp.map .str),
        ("peer_router", spec.target.peerRouter.map .str)] }
  parameters := some <| .ofFields
    [("correct_area", spec.parameters.correctArea.map .str),
      ("correct_rt", spec.parameters.correctRt.map .str),
      ("duplicate_ip", spec.parameters.duplicateIp.map .str),
      ("error_rate", spec.parameters.errorRate.map .str),
      ("method", spec.parameters.method.map .str),
      ("mtu", spec.parameters.mtu.map .num),
      ("ospf_cost", spec.parameters.ospfCost.map .num),
      ("queue_length", spec.parameters.queueLength.map .num),
      ("remote_as", spec.parameters.remoteAs.map .num),
      ("wrong_area", spec.parameters.wrongArea.map .str),
      ("wrong_rt", spec.parameters.wrongRt.map .str)]

/-! ## Validation -/

def given (s : Option String) : Bool := (truthy s).isSome

/-- The message of the first check that fails. -/
def firstFailed (checks : List (Bool × String)) : Option String :=
  (checks.find? fun check => !check.1).map Prod.snd

/-- The checks for one failure type. -/
def Spec.checks (spec : Spec) : FailureType → List (Bool × String)
  | .mtuMismatch =>
    [(given spec.target.interface, "spec.target.interface is required for MTU_MISMATCH"),
      (spec.parameters.mtu.isSome, "spec.parameters.mtu is required for MTU_MISMATCH")]
  | .bgpSessionDown =>
    [(given spec.target.peerIp, "spec.target.peer_ip is required for BGP_SESSION_DOWN"),
      (given spec.target.vrf, "spec.target.vrf is required for BGP_SESSION_DOWN"),
      (spec.parameters.remoteAs.isSome,
        "spec.parameters.remote_as is required for BGP_SESSION_DOWN")]
  | .processCrash =>
    [(["process_kill", "loopback_disable"].contains
        (spec.parameters.method.getD "loopback_disable"),
      "spec.parameters.method must be 'process_kill' or 'loopback_disable'")]
  | .packetCorruption =>
    [(given spec.target.interface, "spec.target.interface is required for PACKET_CORRUPTION"),
      (spec.parameters.errorRate.getD "5%" ≠ "",
        "spec.parameters.error_rate is required for PACKET_CORRUPTION")]
  | .linkDown =>
    [(given spec.target.interface || given spec.target.peerRouter,
        "LINK_DOWN requires either spec.target.interface (interface mode) " ++
          "or spec.target.peer_router (bridge mode) — exactly one must be provided"),
      (!(given spec.target.interface && given spec.target.peerRouter),
        "spec.target.interface and spec.target.peer_router are mutually exclusive " ++
          "for LINK_DOWN — provide exactly one"),
      (!given spec.target.peerRouter || given spec.infrastructureRef,
        "spec.infrastructureRef is required when using LINK_DOWN bridge mode " ++
          "(spec.target.peer_router is set)")]
  | .ospfAreaMismatch =>
    [(given spec.target.interface, "spec.target.interface is required for OSPF_AREA_MISMATCH"),
      (given spec.parameters.wrongArea,
        "spec.parameters.wrong_area is required for OSPF_AREA_MISMATCH"),
      (given spec.parameters.correctArea,
        "spec.parameters.correct_area is required for OSPF_AREA_MISMATCH")]
  | .duplicateIp =>
    [(given spec.target.interface, "spec.target.interface is required for DUPLICATE_IP"),
      (given spec.parameters.duplicateIp,
        "spec.parameters.duplicate_ip is required for DUPLICATE_IP")]
  | .txqueueStarvation =>
    -- the queue length and the cost below have defaults, and null is not admitted
    [(given spec.target.interface, "spec.target.interface is required for TXQUEUE_STARVATION")]
  | .ospfCostInflation =>
    [(given spec.target.interface, "spec.target.interface is required for OSPF_COST_INFLATION")]
  | .vrfRtMisconfiguration =>
    [(given spec.target.vrf, "spec.target.vrf is required for VRF_RT_MISCONFIGURATION"),
      (given spec.parameters.wrongRt,
        "spec.parameters.wrong_rt is required for VRF_RT_MISCONFIGURATION"),
      (given spec.parameters.correctRt,
        "spec.parameters.correct_rt is required for VRF_RT_MISCONFIGURATION")]

/-- `_validate_spec` -/
def validateSpec (spec : Spec) : Option String :=
  if given spec.target.router then
    match spec.failureType with
    | .known type => firstFailed (spec.checks type)
    | .unknown name => some ("Unknown failureType: " ++ name)
  else some "spec.target.router is required for all failure types"

/-- The failure types that only the direct mode can inject. -/
def directOnlyTypes : List FailureType :=
  [.txqueueStarvation, .linkDown, .duplicateIp, .processCrash]

def Spec.mode (spec : Spec) : Mode := spec.injectionMode.getD .direct

/-- The mode does not support the failure type. -/
def Spec.unsupported (spec : Spec) : Bool :=
  spec.mode = .operator && directOnlyTypes.any fun type => spec.failureType = .known type

/-! ## The bridge between two routers -/

/-- A network of a VyOSInfrastructure. -/
structure Segment where
  name : String
  networkType : Option String
  connectedRouters : List String

/-- `_derive_bridge_name`, once the networks are read; an error is a `ValueError`. -/
def deriveBridgeName (infraName routerA routerB : String) (networks : List Segment) :
    Except String String :=
  let shared := networks.filter fun net =>
    !(["loopback", "management"].contains (net.networkType.getD "")) &&
      net.connectedRouters.contains routerA && net.connectedRouters.contains routerB
  let place := "between '" ++ routerA ++ "' and '" ++ routerB ++ "' in VyOSInfrastructure '" ++
    infraName ++ "'"
  match shared with
  | [net] => .ok net.name
  | [] => .error ("No shared p2p network found " ++ place)
  | nets => .error ("Multiple shared networks found " ++ place ++ ": [" ++
      ", ".intercalate (nets.map fun net => "'" ++ net.name ++ "'") ++
      "]. Cannot determine which link to bring down — use target.interface instead.")

/-- The fault takes a whole bridge down. -/
def Spec.bridgeMode (spec : Spec) : Bool :=
  spec.failureType = .known .linkDown && given spec.target.peerRouter

/-- The bridge that the create handler derives, if the fault needs one, from the answer to the
read of the infrastructure. -/
def derivedBridge (spec : Spec) (infrastructure : Except String (List Segment)) :
    Except String (Option String) :=
  if spec.bridgeMode then
    match infrastructure with
    | .error e => .error ("Unexpected error deriving bridge name: " ++ e)
    | .ok networks =>
      match deriveBridgeName (spec.infrastructureRef.getD "") (spec.target.router.getD "")
          (spec.target.peerRouter.getD "") networks with
      | .error e => .error ("LINK_DOWN bridge derivation failed: " ++ e)
      | .ok bridge => .ok (some bridge)
  else .ok none

/-! ## The create handler -/

/-- What comes of the injection: what `inject_failure` returns, or the operator stops. -/
inductive InjectAnswer where
  | success (originalState : OriginalState)
  | failure (error : Option String)
  | raises (message : String)
  | stopped (tookEffect : Bool)

/-- What the create handler learns. -/
structure CreateAnswers where
  ip : IpAnswer
  infrastructure : Except String (List Segment)
  inject : Option String → InjectAnswer
  injectedAt : String
  write : ℕ → Write

/-- How the create handler ends. -/
inductive CreateEnd where
  /-- It gives up before it turns to the fault. -/
  | refused (raised : Raised)
  /-- The injection fails. -/
  | failed (raised : Raised)
  /-- The operator stops during the injection. -/
  | stopped
  /-- The fault is injected, and the update of the status raises. -/
  | unmarked (raised : Raised)
  | active

/-- A status update followed by `raise`. -/
def raiseAfter (u : Update) (raised : Raised) (w : Write) (s : Status) : Raised × Status :=
  match w.apply (updateStatus u) s with
  | .error message => (.exception message, s)
  | .ok s' => (raised, s')

/-- The fault of one resource: its status, whether it is injected, and the store. -/
structure Scene where
  status : Status
  injected : Bool
  world : Graph.World

section Create

variable (env : Graph.Env) (name : Graph.ResourceName) (spec : Spec) (ans : CreateAnswers)

/-- Give up without having turned to the fault. -/
def refuse (message : String) (scene : Scene) : CreateEnd × Scene :=
  let (raised, status) := raiseAfter { phase := .failed, message := message }
    (.permanentError message) (ans.write 0) scene.status
  (.refused raised, { scene with status := status })

/-- Give up because the fault is not injected. -/
def fail (message : String) (scene : Scene) : CreateEnd × Scene :=
  let (raised, status) := raiseAfter { phase := .failed, message := message }
    (.permanentError message) (ans.write 1) scene.status
  (.failed raised, { scene with status := status })

def injectingUpdate : Update where
  phase := .injecting
  message := "Injecting " ++ spec.failureType.name ++ " on router '" ++
    spec.target.router.getD "" ++ "' (mode=" ++ spec.mode.name ++ ")"

def activeUpdate (originalState : OriginalState) : Update where
  phase := .active
  message := "Fault '" ++ spec.failureType.name ++ "' is active on router '" ++
    spec.target.router.getD "" ++ "' (mode=" ++ spec.mode.name ++
    ") — original state saved for restoration"
  injectedAt := some ans.injectedAt
  originalState := some originalState

/-- The store after a fault event is written. -/
def sync (phase : String) (injectedAt : Option String) (w : Graph.World) : Graph.World :=
  Effect.after (Graph.syncFaultEvent env name spec.toGraph phase injectedAt) w

/-- The create handler from the first fault event on. -/
def injectFault (scene : Scene) : CreateEnd × Scene :=
  let scene := { scene with world := sync env name spec "Injecting" none scene.world }
  match derivedBridge spec ans.infrastructure with
  | .error message => fail ans message scene
  | .ok bridge =>
    match ans.inject bridge with
    | .raises message => fail ans ("Unexpected error during fault injection: " ++ message) scene
    | .failure error =>
      fail ans ("Fault injection failed: " ++ error.getD "unknown error") scene
    | .stopped tookEffect => (.stopped, { scene with injected := scene.injected || tookEffect })
    | .success originalState =>
      match (ans.write 1).apply (updateStatus (activeUpdate spec ans originalState))
          scene.status with
      | .error message => (.unmarked (.exception message), { scene with injected := true })
      | .ok status =>
        (.active, ⟨status, true, sync env name spec "Active" (some ans.injectedAt) scene.world⟩)

/-- `create_network_failure_handler` -/
def createHandler (scene : Scene) : CreateEnd × Scene :=
  match validateSpec spec with
  | some error => refuse ans error scene
  | none =>
    match ans.ip with
    | .raises message => (.refused (.exception message), scene)
    | .missing => (.refused (.temporaryError
        "No IP address found on Network VM yet — waiting for networkvm to be ready" 15), scene)
    | .found _ =>
      if spec.unsupported then
        refuse ans ("failureType '" ++ spec.failureType.name ++
          "' only supports injectionMode 'direct'. " ++
          "This fault type cannot be represented in a VyOS operator CRD.") scene
      else
        match (ans.write 0).apply (updateStatus (injectingUpdate spec)) scene.status with
        | .error message => (.refused (.exception message), scene)
        | .ok status => injectFault env name spec ans { scene with status := status }

end Create

/-! ## The delete handler -/

/-- What comes of the restoration: what `restore_failure` returns, or the operator stops. -/
inductive RestoreAnswer where
  | success
  | failure (error : Option String)
  | raises (message : String)
  | stopped (tookEffect : Bool)

/-- What the delete handler learns. -/
structure DeleteAnswers where
  refetched : Except String OriginalState
  infrastructure : Except String (List Segment)
  ip : IpAnswer
  restore : OriginalState → RestoreAnswer
  restoredAt : String
  write : ℕ → Write

/-- How the delete handler ends. -/
inductive DeleteEnd where
  | raised (raised : Raised)
  | stopped
  | removed (restored : Bool)

/-- `setdefault` -/
def setDefault (key : String) (value : Json) (saved : OriginalState) : OriginalState :=
  if (saved.lookup key).isSome then saved else saved ++ [(key, value)]

/-- The state to restore, with the bridge derived again when it was not saved. -/
def originalState (spec : Spec) (status : Status) (ans : DeleteAnswers) : OriginalState :=
  let saved := status.originalState.getD []
  let saved :=
    if saved = [] then
      match ans.refetched with
      | .ok refetched => refetched
      | .error _ => saved
    else saved
  let hasBridge := ((saved.lookup "bridge").map Json.truthy).getD false
  if spec.bridgeMode && given spec.infrastructureRef && !hasBridge then
    match ans.infrastructure with
    | .error _ => saved
    | .ok networks =>
      let router := spec.target.router.getD ""
      let peerRouter := spec.target.peerRouter.getD ""
      match deriveBridgeName (spec.infrastructureRef.getD "") router peerRouter networks with
      | .error _ => saved
      | .ok bridge =>
        let saved := (saved.filter fun item => item.1 ≠ "bridge") ++ [("bridge", .str bridge)]
        setDefault "peer_router" (.str peerRouter) (setDefault "router" (.str router)
          (setDefault "mode" (.str "bridge") saved))
  else saved

/-- `delete_network_failure_handler` -/
def deleteHandler (spec : Spec) (ans : DeleteAnswers) (scene : Scene) : DeleteEnd × Scene :=
  match ans.ip with
  | .raises message => (.raised (.exception message), scene)
  | .missing => (.removed false, scene)
  | .found _ =>
    let restoring : Update :=
      { phase := .restoring
        message := "Restoring original configuration on router '" ++
          spec.target.router.getD "" ++ "'" }
    match (ans.write 0).apply (updateStatus restoring) scene.status with
    | .error message => (.raised (.exception message), scene)
    | .ok status =>
      match ans.restore (originalState spec scene.status ans) with
      | .raises message =>
        let failed : Update :=
          { phase := .failed, message := "Unexpected error during fault restoration: " ++ message }
        match (ans.write 1).apply (updateStatus failed) status with
        | .error message' => (.raised (.exception message'), { scene with status := status })
        | .ok status' => (.removed false, { scene with status := status' })
      | .failure _ => (.removed false, { scene with status := status })
      | .stopped tookEffect =>
        (.stopped, ⟨status, scene.injected && !tookEffect, scene.world⟩)
      | .success =>
        let restored : Update :=
          { phase := .restored
            message := "Original configuration restored on router '" ++
              spec.target.router.getD "" ++ "'"
            restoredAt := some ans.restoredAt }
        match (ans.write 1).apply (updateStatus restored) status with
        | .error message => (.raised (.exception message), ⟨status, false, scene.world⟩)
        | .ok status' => (.removed true, ⟨status', false, scene.world⟩)

/-! ## The resume handler -/

/-- `resume_network_failure_handler`; the status of an interrupted handler is marked. -/
def resumeHandler (write : Write) (status : Status) : Option Raised × Status :=
  let mark (message : String) :=
    match write.apply (updateStatus { phase := .failed, message := message }) status with
    | .error e => (some (.exception e), status)
    | .ok status' => (none, status')
  match status.phase with
  | some .injecting => mark ("Operator restarted during fault injection. " ++
      "Fault state is uncertain. Delete this resource and manually verify the router configuration.")
  | some .restoring => mark ("Operator restarted during fault restoration. " ++
      "Restoration state is uncertain. " ++
      "Delete this resource and manually verify the router configuration.")
  | _ => (none, status)

end GnnSandbox.Operator.Fault
