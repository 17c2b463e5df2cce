import GnnSandbox.Lib.Transition
import GnnSandbox.Operator.Handler
import GnnSandbox.Operator.Ports
import Mathlib.Data.List.AList

/-!
# Traffic tests

The handlers of TrafficTest resources, which take their ports from the one allocator of the
operator. A handler gives up control only while it waits for the traffic agents, so that the
create handler runs in two parts, the first of which ends with the call of `create_traffic_test`,
and so does the delete handler. What the handlers learn from outside is an argument: the answers
of the API server and of the agents, and what becomes of each status update.
-/

namespace GnnSandbox.Operator.Traffic

/-! ## The resource -/

inductive Phase where
  | pending
  | deploying
  | running
  | completed
  | failed
deriving DecidableEq, Repr

inductive PortMode where
  | auto
  | manual
deriving DecidableEq, Repr

structure Spec where
  vpnRef : String
  sourceDevices : List String
  destinationDevice : String
  bidirectional : Option Bool := none
  portMode : Option PortMode := none
  port : Option ℤ := none
  duration : Option ℤ := none
deriving DecidableEq

structure SourceStatus where
  phase : Phase
  message : String
deriving DecidableEq

structure Status where
  phase : Option Phase := none
  message : Option String := none
  startTime : Option String := none
  endTime : Option String := none
  sourceCount : Option ℕ := none
  sourceStatus : Option (List (String × SourceStatus)) := none
  allocatedPorts : Option (List ℤ) := none
deriving DecidableEq

structure TrafficTest where
  spec : Spec
  status : Status := {}
deriving DecidableEq

/-- The ports on record. -/
def Status.recorded (s : Status) : List ℤ := s.allocatedPorts.getD []

/-! ## Status updates -/

/-- The arguments of `update_status`. -/
structure Update where
  phase : Phase
  message : String
  startTime : Option String := none
  endTime : Option String := none
  sourceCount : Option ℕ := none
  sourceStatus : Option (List (String × SourceStatus)) := none
  allocatedPorts : Option (List ℤ) := none

/-- What the patch of `update_status` makes of the status. -/
def updateStatus (u : Update) (now : String) (s : Status) : Status where
  phase := some u.phase
  message := some u.message
  startTime := u.startTime <|>
    (if u.phase = .running ∧ s.startTime = none then some now else s.startTime)
  endTime := u.endTime <|>
    (if u.phase = .completed ∨ u.phase = .failed then some now else s.endTime)
  sourceCount := u.sourceCount <|> s.sourceCount
  sourceStatus := u.sourceStatus <|> s.sourceStatus
  allocatedPorts := u.allocatedPorts <|> s.allocatedPorts

/-! ## The create handler -/

/-- The answer of `check_vpn_ready`. -/
inductive VpnAnswer where
  | ready
  | notReady
  | notFound
  | raises (message : String)

/-- The answer of `check_device_ready`. -/
structure DeviceAnswer where
  ready : Bool
  ip : Option String
  mgmtIp : Option String

structure DeviceInfo where
  ready : Option Bool := none
  ip : Option String := none
  mgmtIp : Option String := none
  port : Option ℤ := none
  reversePort : Option ℤ := none

abbrev DevicesInfo := AList fun _ : String => DeviceInfo

/-- What the first part of the create handler learns: the answer for the `n`-th source and the
fate of the `n`-th status update. -/
structure StartAnswers where
  ip : IpAnswer
  vpn : VpnAnswer
  source : ℕ → DeviceAnswer
  destination : DeviceAnswer
  write : ℕ → Write

/-- How the first part of the create handler ends. -/
inductive Started where
  | ended (raised : Raised)
  | calling (allocatedPorts : List ℤ) (devices : DevicesInfo)

/-- Bidirectional tests need two ports for each source. -/
def Spec.portsNeeded (spec : Spec) : ℕ :=
  if spec.bidirectional.getD false then spec.sourceDevices.length * 2 else spec.sourceDevices.length

/-- The base port of a manual test. -/
def Spec.basePort (spec : Spec) : Option ℤ :=
  match spec.portMode.getD .auto with
  | .manual => spec.port
  | .auto => none

/-- `except Exception`: the ports are freed after the status update. -/
def unexpected (message : String) (w : Write) (allocatedPorts : List ℤ) (a : PortAllocator)
    (s : Status) : Raised × PortAllocator × Status :=
  match w.apply (updateStatus { phase := .failed, message := message }) s with
  | .error message' => (.exception message', a, s)
  | .ok s' => (.permanentError message, a.free allocatedPorts, s')

/-- A status update followed by `raise`, inside of `try`. -/
def raiseAfter (u : Update) (raised : Raised) (write : ℕ → Write) (allocatedPorts : List ℤ)
    (a : PortAllocator) (s : Status) : Raised × PortAllocator × Status :=
  match (write 0).apply (updateStatus u) s with
  | .error message => unexpected message (write 1) allocatedPorts a s
  | .ok s' => (raised, a, s')

def ended (result : Raised × PortAllocator × Status) : Started × PortAllocator × Status :=
  (.ended result.1, result.2)

/-- The entry of the `n`-th source, whose ports are the `n`-th of each half. -/
def sourceInfo (spec : Spec) (allocatedPorts : List ℤ) (n : ℕ) (answer : DeviceAnswer) :
    DeviceInfo where
  ready := some answer.ready
  ip := answer.ip
  mgmtIp := answer.mgmtIp
  port := allocatedPorts[n]?
  reversePort :=
    if spec.bidirectional.getD false then allocatedPorts[spec.sourceDevices.length + n]? else none

/-- `devices_info` -/
def devicesInfo (spec : Spec) (allocatedPorts : List ℤ) (ans : StartAnswers) : DevicesInfo :=
  let sources : DevicesInfo := spec.sourceDevices.zipIdx.foldl (fun devices item =>
    devices.insert item.1 (sourceInfo spec allocatedPorts item.2 (ans.source item.2))) ∅
  sources.insert spec.destinationDevice
    { ready := some ans.destination.ready, ip := ans.destination.ip,
      mgmtIp := ans.destination.mgmtIp }

/-- The devices that are not ready, the destination last. -/
def notReadyDevices (spec : Spec) (ans : StartAnswers) : List String :=
  (spec.sourceDevices.zipIdx.filter fun item => !(ans.source item.2).ready).map Prod.fst ++
    if ans.destination.ready then [] else [spec.destinationDevice]

/-- The first part of the create handler from the allocation on. -/
def createAllocated (spec : Spec) (ans : StartAnswers) (allocatedPorts : List ℤ)
    (a : PortAllocator) (s : Status) : Started × PortAllocator × Status :=
  let notReady := notReadyDevices spec ans
  if notReady ≠ [] then
    let message := "Waiting for Devices to be ready: " ++ ", ".intercalate notReady
    ended (raiseAfter { phase := .pending, message := message,
                        sourceCount := some spec.sourceDevices.length }
      (.temporaryError message 30) ans.write allocatedPorts a s)
  else
    let deploying : Update :=
      { phase := .deploying
        message := "Starting traffic test deployment for " ++
          toString spec.sourceDevices.length ++ " source(s)"
        sourceCount := some spec.sourceDevices.length }
    match (ans.write 0).apply (updateStatus deploying) s with
    | .error message => ended (unexpected message (ans.write 1) allocatedPorts a s)
    | .ok s' => (.calling allocatedPorts (devicesInfo spec allocatedPorts ans), a, s')

/-- `create_traffic_test_handler` up to the call of `create_traffic_test`. -/
def createStart (spec : Spec) (ans : StartAnswers) (a : PortAllocator) (s : Status) :
    Started × PortAllocator × Status :=
  match ans.ip with
  | .raises message => (.ended (.exception message), a, s)
  | .missing => (.ended (.temporaryError
      "No ip address found on Network VM yet, temporary error - waiting" 10), a, s)
  | .found _ =>
    match ans.vpn with
    | .raises message => ended (unexpected message (ans.write 0) [] a s)
    | .notFound => (.ended (.permanentError ("VyOSL3VPN '" ++ spec.vpnRef ++ "' not found")), a, s)
    | .notReady =>
      let message := "Waiting for VyOSL3VPN '" ++ spec.vpnRef ++ "' to be Ready"
      ended (raiseAfter { phase := .pending, message := message } (.temporaryError message 30)
        ans.write [] a s)
    | .ready =>
      if spec.sourceDevices = [] ∨ spec.destinationDevice = "" then
        let message := "Both source_devices (array) and destination_device are required"
        ended (raiseAfter { phase := .failed, message := message } (.permanentError message)
          ans.write [] a s)
      else
        match a.alloc spec.portsNeeded spec.basePort with
        | (some allocatedPorts, a') => createAllocated spec ans allocatedPorts a' s
        | (none, a') =>
          match spec.portMode.getD .auto with
          | .manual =>
            let port := match spec.port with
              | some port => toString port
              | none => "None"
            let message := "Manual port " ++ port ++ " is already in use"
            ended (raiseAfter { phase := .failed, message := message } (.permanentError message)
              ans.write [] a' s)
          | .auto =>
            (.ended (.permanentError "No free port blocks available for TrafficTest"), a', s)

/-- What comes of the call of `create_traffic_test`. -/
inductive CreateResult where
  | success (startTime : String)
  | failure (error : String)
  | raises (message : String)

/-- The status update of a test that has started. -/
def runningUpdate (spec : Spec) (allocatedPorts : List ℤ) (startTime : String) : Update where
  phase := .running
  message := "Traffic test started successfully with " ++ toString spec.sourceDevices.length ++
    " source(s) at " ++ startTime
  startTime := some startTime
  sourceCount := some spec.sourceDevices.length
  sourceStatus := some (spec.sourceDevices.dedup.map fun device =>
    (device, { phase := .running, message := "Traffic generator started" }))
  allocatedPorts := some allocatedPorts

/-- `create_traffic_test_handler` from the return of `create_traffic_test` on. -/
def createFinish (spec : Spec) (allocatedPorts : List ℤ) (result : CreateResult)
    (write : ℕ → Write) (a : PortAllocator) (s : Status) :
    Option Raised × PortAllocator × Status :=
  match result with
  | .raises message =>
    let (raised, a', s') := unexpected message (write 0) allocatedPorts a s
    (some raised, a', s')
  | .failure error =>
    match (write 0).apply (updateStatus
      { phase := .failed, message := "Failed to start traffic test: " ++ error }) s with
    | .error message =>
      let (raised, a', s') := unexpected message (write 1) allocatedPorts a s
      (some raised, a', s')
    | .ok s' => (some (.permanentError ("TrafficTest creation failed: " ++ error)),
        a.free allocatedPorts, s')
  | .success startTime =>
    match (write 0).apply (updateStatus (runningUpdate spec allocatedPorts startTime)) s with
    | .error message =>
      let (raised, a', s') := unexpected message (write 1) allocatedPorts a s
      (some raised, a', s')
    | .ok s' => (none, a, s')

/-! ## The delete handler -/

/-- What the first part of the delete handler learns; a check that raises finds no addresses. -/
structure DeleteAnswers where
  ip : IpAnswer
  source : ℕ → DeviceAnswer
  destination : DeviceAnswer

/-- How the first part of the delete handler ends; a handler that raises is called again. -/
inductive DeleteStarted where
  | raised (raised : Raised)
  | removed
  | calling (allocatedPorts : List ℤ) (devices : DevicesInfo)

/-- `devices_info` of the delete handler, with the sources that have a port. -/
def deleteDevicesInfo (spec : Spec) (allocatedPorts : List ℤ) (ans : DeleteAnswers) :
    DevicesInfo :=
  let destination : DevicesInfo := AList.singleton spec.destinationDevice
    { ip := ans.destination.ip, mgmtIp := ans.destination.mgmtIp }
  spec.sourceDevices.zipIdx.foldl (fun devices item =>
    match allocatedPorts[item.2]? with
    | none => devices
    | some port => devices.insert item.1 { port := some port, mgmtIp := (ans.source item.2).mgmtIp })
    destination

/-- `delete_traffic_test_handler` up to the call of `delete_traffic_test`. -/
def deleteStart (test : TrafficTest) (ans : DeleteAnswers) : DeleteStarted :=
  match ans.ip with
  | .raises message => .raised (.exception message)
  | .missing => .removed
  | .found _ =>
    let allocatedPorts := test.status.recorded
    if allocatedPorts ≠ [] ∧ test.spec.sourceDevices ≠ [] then
      .calling allocatedPorts (deleteDevicesInfo test.spec allocatedPorts ans)
    else .removed

/-- What comes of the call of `delete_traffic_test`. -/
inductive DeleteResult where
  | success
  | failure (error : String)
  | raises (message : String)

/-- `delete_traffic_test_handler` from the return of `delete_traffic_test` on: what it raises, and
the allocator it leaves. -/
def deleteFinish (allocatedPorts : List ℤ) (result : DeleteResult) (a : PortAllocator) :
    Option Raised × PortAllocator :=
  match result with
  | .success => (none, a.free allocatedPorts)
  | .failure _ => (none, a)
  | .raises message => (some (.exception message), a)

/-! ## Restarts -/

abbrev Ref := String × String

abbrev Tests := AList fun _ : Ref => TrafficTest

/-- What `initial_setup` learns, with times in microseconds. -/
structure SetupAnswers where
  now : ℤ
  isoformat : ℤ → String
  creationTimestamp : Ref → Option ℤ
  kopfHandled : Ref → Bool
  write : Ref → Write

/-- The body of the loop of `initial_setup`, up to the status update it asks for. -/
def setupTest (ans : SetupAnswers) (ref : Ref) (test : TrafficTest) (a : PortAllocator) :
    PortAllocator × Option Update :=
  let ports := test.status.recorded
  let a' := a.markBusy ports
  if test.status.phase.isSome then (a', none)
  else if ports ≠ [] then
    let creation := (ans.creationTimestamp ref).getD ans.now
    let expectedEnd := creation + test.spec.duration.getD 60 * 1000000
    if ans.now < expectedEnd then
      (a', some
        { phase := .running
          message := "Reconciled on operator restart — estimated " ++
            toString ((expectedEnd - ans.now) / 1000000) ++ "s remaining"
          startTime := some (ans.isoformat creation)
          sourceCount := some test.spec.sourceDevices.length
          allocatedPorts := some ports })
    else
      (a'.free ports, some
        { phase := .completed
          message := "Reconciled on operator restart — duration had already elapsed"
          startTime := some (ans.isoformat creation)
          endTime := some (ans.isoformat expectedEnd)
          sourceCount := some test.spec.sourceDevices.length
          allocatedPorts := some ports })
  else if ans.kopfHandled ref then
    (a', some
      { phase := .failed
        message := "Operator restarted before this TrafficTest could be provisioned — " ++
          "please delete and re-create the resource to retry" })
  else (a', none)

/-- The loop of `initial_setup`, which ends early when a status update raises. -/
def setupLoop (ans : SetupAnswers) : List (Sigma fun _ : Ref => TrafficTest) →
    PortAllocator × Tests → PortAllocator × Tests
  | [], w => w
  | ⟨ref, test⟩ :: items, (a, tests) =>
    match setupTest ans ref test a with
    | (a', none) => setupLoop ans items (a', tests)
    | (a', some u) =>
      match (ans.write ref).apply (updateStatus u) test.status with
      | .error _ => (a', tests)
      | .ok s => setupLoop ans items (a', tests.insert ref { test with status := s })

/-- `initial_setup`, with the answer to the listing of the tests. -/
def initialSetup (listed : Bool) (ans : SetupAnswers) (tests : Tests) : PortAllocator × Tests :=
  if listed then setupLoop ans tests.entries (.empty, tests) else (.empty, tests)

/-! ## The system -/

/-- A handler that waits for the agents. -/
inductive Handler where
  | creating (allocatedPorts : List ℤ)
  | deleting (allocatedPorts : List ℤ)

/-- The resources, and what the operator has in memory. -/
structure State where
  tests : Tests
  allocator : PortAllocator
  handlers : Ref → Option Handler

/-- Nothing exists and nothing runs. -/
def State.initial : State := ⟨∅, .empty, fun _ => none⟩

/-- No handler is running. -/
def State.Idle (s : State) : Prop := ∀ ref, s.handlers ref = none

inductive Event where
  | create (ref : Ref) (spec : Spec)
  | createStart (ref : Ref) (ans : StartAnswers)
  | createFinish (ref : Ref) (result : CreateResult) (write : ℕ → Write)
  | deleteStart (ref : Ref) (ans : DeleteAnswers)
  | deleteFinish (ref : Ref) (result : DeleteResult)
  | markCompleted (ref : Ref) (endTime : String) (write : Write)
  | restart (listed : Bool) (ans : SetupAnswers)

/-- What `mark_completed_after` asks for. -/
def completedUpdate (spec : Spec) (endTime : String) : Update where
  phase := .completed
  message := "Traffic test completed after " ++ toString (spec.duration.getD 60) ++ "s"
  endTime := some endTime

namespace State

def create (s : State) (ref : Ref) (spec : Spec) : Option State :=
  match s.tests.lookup ref with
  | none => some { s with tests := s.tests.insert ref { spec := spec } }
  | some _ => none

def createStart (s : State) (ref : Ref) (ans : StartAnswers) : Option State :=
  match s.tests.lookup ref, s.handlers ref with
  | some test, none =>
    let (started, a, status) := Traffic.createStart test.spec ans s.allocator test.status
    let handler := match started with
      | .ended _ => none
      | .calling ports _ => some (.creating ports)
    some { tests := s.tests.insert ref { test with status := status }
           allocator := a
           handlers := Function.update s.handlers ref handler }
  | _, _ => none

def createFinish (s : State) (ref : Ref) (result : CreateResult) (write : ℕ → Write) :
    Option State :=
  match s.tests.lookup ref, s.handlers ref with
  | some test, some (.creating ports) =>
    let (_, a, status) := Traffic.createFinish test.spec ports result write s.allocator test.status
    some { tests := s.tests.insert ref { test with status := status }
           allocator := a
           handlers := Function.update s.handlers ref none }
  | _, _ => none

def deleteStart (s : State) (ref : Ref) (ans : DeleteAnswers) : Option State :=
  match s.tests.lookup ref, s.handlers ref with
  | some test, none =>
    match Traffic.deleteStart test ans with
    | .raised _ => some s
    | .removed => some { s with tests := s.tests.erase ref }
    | .calling ports _ =>
      some { s with handlers := Function.update s.handlers ref (some (.deleting ports)) }
  | _, _ => none

def deleteFinish (s : State) (ref : Ref) (result : DeleteResult) : Option State :=
  match s.handlers ref with
  | some (.deleting ports) =>
    let (raised, a) := Traffic.deleteFinish ports result s.allocator
    some { tests := if raised.isSome then s.tests else s.tests.erase ref
           allocator := a
           handlers := Function.update s.handlers ref none }
  | _ => none

def markCompleted (s : State) (ref : Ref) (endTime : String) (write : Write) : Option State :=
  match s.tests.lookup ref with
  | some test =>
    match write.apply (updateStatus (completedUpdate test.spec endTime)) test.status with
    | .ok status => some { s with tests := s.tests.insert ref { test with status := status } }
    | .error _ => some s
  | none => none

def restart (s : State) (listed : Bool) (ans : SetupAnswers) : State :=
  let (a, tests) := initialSetup listed ans s.tests
  { tests := tests, allocator := a, handlers := fun _ => none }

end State

/-- What an event does. The handlers of one resource run one after the other, those of different
resources side by side; a resource is gone when its delete handler has succeeded. -/
def step (s : State) : Event → Option State
  | .create ref spec => s.create ref spec
  | .createStart ref ans => s.createStart ref ans
  | .createFinish ref result write => s.createFinish ref result write
  | .deleteStart ref ans => s.deleteStart ref ans
  | .deleteFinish ref result => s.deleteFinish ref result
  | .markCompleted ref endTime write => s.markCompleted ref endTime write
  | .restart listed ans => some (s.restart listed ans)

end GnnSandbox.Operator.Traffic
