import GnnSandbox.Operator.Traffic.Agents
import GnnSandbox.Operator.TrafficTest

/-!
# The flows of a test

`create_traffic_test` and `delete_traffic_test`, which ask the agents of the sources and of the
destination one after the other. What becomes of each request is an argument.
-/

namespace GnnSandbox.Operator.Traffic

/-! ## Names -/

def flowId (name source : String) : String := name ++ "_" ++ source

def reverseFlowId (name source : String) : String := name ++ "_" ++ source ++ "_rev"

/-- The requests for one source. -/
inductive Stage where
  | destination
  | source
  | reverseDestination
  | reverseSource
deriving DecidableEq, Repr

/-- What becomes of the requests for the `n`-th source. -/
abbrev Deliveries := ℕ → Stage → Delivery

/-- A management address that is not empty. -/
def DeviceInfo.mgmt (info : DeviceInfo) : Option String := info.mgmtIp.filter (· ≠ "")

/-- The management address of a device. -/
def mgmtOf (devices : DevicesInfo) (device : String) : Option String :=
  (devices.lookup device).bind DeviceInfo.mgmt

/-! ## Starting -/

/-- The flows as the agents have them, and `failed_sources`. -/
structure Progress where
  agents : Agents
  failedSources : List String

section Create

variable (name : String) (spec : Spec) (devices : DevicesInfo)

/-- Steps 1 and 2, and whether the source has started; a flow that is already running counts. -/
def startForward (source : String) (info : DeviceInfo) (port : ℤ) (δ : Stage → Delivery)
    (agents : Agents) : Agents × Bool :=
  let listening : Agents × Bool := match mgmtOf devices spec.destinationDevice with
    | none => (agents, true)
    | some address =>
      let (agents', answer) :=
        agents.post (δ .destination) address (flowId name source) .destination port
      (agents', answer.success || answer.httpCode = some 409)
  if listening.2 then
    match info.mgmt with
    | none => (listening.1, false)
    | some address =>
      let (agents', answer) :=
        listening.1.post (δ .source) address (flowId name source) .source port
      (agents', answer.success || answer.httpCode = some 409)
  else listening

/-- Steps 3 and 4, where an error is only logged. -/
def startReverse (source : String) (info : DeviceInfo) (δ : Stage → Delivery) (agents : Agents) :
    Agents :=
  match info.reversePort.filter (· ≠ 0), info.ip.filter (· ≠ ""), info.mgmt with
  | some port, some _, some address =>
    let (agents', answer) :=
      agents.post (δ .reverseDestination) address (reverseFlowId name source) .destination port
    if answer.success then
      match mgmtOf devices spec.destinationDevice with
      | none => agents'
      | some destination =>
        (agents'.post (δ .reverseSource) destination (reverseFlowId name source) .source port).1
    else agents'
  | _, _, _ => agents

/-- The body of the loop. -/
def startSource (source : String) (info : DeviceInfo) (port : ℤ) (δ : Stage → Delivery)
    (p : Progress) : Progress :=
  let forward := startForward name spec devices source info port δ p.agents
  let failed := if forward.2 then p.failedSources else p.failedSources ++ [source]
  { agents :=
      if spec.bidirectional.getD false ∧ source ∉ failed then
        startReverse name spec devices source info δ forward.1
      else forward.1
    failedSources := failed }

/-- The loop over the sources, with the `KeyError` that ends it. -/
def startSources (δ : Deliveries) : List (String × ℕ) → Progress → Progress × Option String
  | [], p => (p, none)
  | (source, n) :: rest, p =>
    match devices.lookup source with
    | none => (p, some ("'" ++ source ++ "'"))
    | some info =>
      match info.port with
      | none => (p, some "'port'")
      | some port => startSources δ rest (startSource name spec devices source info port (δ n) p)

/-- `create_traffic_test`, with the sources that have failed and the flows that it leaves. -/
def createTrafficTest (startTime : String) (δ : Deliveries) (agents : Agents) :
    Progress × CreateResult :=
  if (devices.lookup spec.destinationDevice).isNone then
    (⟨agents, []⟩, .raises ("'" ++ spec.destinationDevice ++ "'"))
  else
    match startSources name spec devices δ spec.sourceDevices.zipIdx ⟨agents, []⟩ with
    | (p, some key) => (p, .raises key)
    | (p, none) =>
      if p.failedSources ≠ [] ∧ p.failedSources.length = spec.sourceDevices.length then
        (p, .failure ("All source devices failed to start: " ++ ", ".intercalate p.failedSources))
      else (p, .success startTime)

end Create

/-! ## Stopping -/

/-- A request to stop a flow. -/
def Agents.delete (agents : Agents) (delivery : Delivery) (address flowId : String) :
    Agents × Answer :=
  agentRequest delivery address (deleteFlow flowId) agents

/-- The flows as the agents have them, and `failed_deletes`. -/
structure Stopping where
  agents : Agents
  failedDeletes : List String

/-- A `DELETE` to a device that has an address; `tolerant` of a flow that is not there. -/
def stopFlow (tolerant : Bool) (delivery : Delivery) (address : Option String)
    (flowId failure : String) (p : Stopping) : Stopping :=
  match address with
  | none => p
  | some address =>
    let (agents, answer) := p.agents.delete delivery address flowId
    ⟨agents, if answer.success ∨ (tolerant ∧ answer.httpCode = some 404) then p.failedDeletes
      else p.failedDeletes ++ [failure]⟩

section Delete

variable (name : String) (spec : Spec) (devices : DevicesInfo)

/-- The body of the loop. -/
def stopSource (source : String) (δ : Stage → Delivery) (p : Stopping) : Stopping :=
  let sourceMgmt := mgmtOf devices source
  let destMgmt := mgmtOf devices spec.destinationDevice
  let p := stopFlow false (δ .source) sourceMgmt (flowId name source) (source ++ "(src)") p
  let p := stopFlow true (δ .destination) destMgmt (flowId name source)
    (spec.destinationDevice ++ "(dst)") p
  if spec.bidirectional.getD false then
    let p := stopFlow true (δ .reverseDestination) sourceMgmt (reverseFlowId name source)
      (source ++ "(rev-dst)") p
    stopFlow true (δ .reverseSource) destMgmt (reverseFlowId name source)
      (spec.destinationDevice ++ "(rev-src)") p
  else p

/-- `delete_traffic_test`, with the flows that it leaves. -/
def deleteTrafficTest (δ : Deliveries) (agents : Agents) : Agents × DeleteResult :=
  let p := spec.sourceDevices.zipIdx.foldl
    (fun p item => stopSource name spec devices item.1 (δ item.2) p) ⟨agents, []⟩
  (p.agents,
    if p.failedDeletes = [] then .success
    else .failure ("Failed to delete: " ++ ", ".intercalate p.failedDeletes))

end Delete

end GnnSandbox.Operator.Traffic
