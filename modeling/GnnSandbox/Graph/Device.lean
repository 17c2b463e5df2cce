import GnnSandbox.Graph.Spanner

/-!
# Syncing devices, traffic flows and fault events

A `Device` is attached to the interface that has its gateway's address. A traffic flow
and a fault event get a new version when their phase changes.
-/

namespace GnnSandbox.Graph

open Scd Effect

/-- How a handler asks for its resource to be given up or retried. -/
inductive KopfError where
  | permanent
  | temporary
deriving DecidableEq, Repr

/-! ## Devices -/

namespace DeviceSync

variable (env : Env)

def deviceId (d : DeviceBody) : String := "device:" ++ d.metadata.name

def deviceStatus (d : DeviceBody) : String := (d.status.bind DeviceStatus.phase).getD "Unknown"

/-- The management address of the status if there is one, else that of the spec. -/
def mgmtIp (d : DeviceBody) : String :=
  (truthy (d.status.bind DeviceStatus.mgmtIp)).getD (d.spec.mgmtIp.getD "")

/-- The open interfaces with an address. -/
def interfacesAt (gateway : String) (db : Database) : Table Timestamp PhysicalInterface :=
  (db .physicalInterface).filter fun v => v.isActive && decide (v.data.ipAddress = some gateway)

/-- The row of `insert_device`. -/
def deviceRow (d : DeviceBody) (gateway : String) (interfaceId : Option String) : Device where
  id := deviceId d
  name := d.metadata.name
  interfaceId := interfaceId
  networkName := some (d.spec.networkName.getD "")
  ipAddress := some (d.spec.ipAddress.getD "")
  mgmtIp := some (mgmtIp d)
  gateway := some gateway
  vlan := d.spec.vlan
  status := some (env.lower (deviceStatus d))
  config := some (sanitizeK8sBody d)

def sqlUpsertDevice (d : DeviceBody) (gateway : String) (interfaceId : Option String) :
    Transaction :=
  sqlUpsert .device (deviceRow env d gateway interfaceId) fun row : Device =>
    row.interfaceId = interfaceId ∧ row.networkName = some (d.spec.networkName.getD "") ∧
      row.ipAddress = some (d.spec.ipAddress.getD "") ∧ row.mgmtIp = some (mgmtIp d) ∧
      row.gateway = some gateway ∧ row.vlan = d.spec.vlan ∧
      row.status = some (env.lower (deviceStatus d)) ∧ row.config = some (sanitizeK8sBody d)

end DeviceSync

open DeviceSync in
/-- `sync_device` -/
def syncDevice (env : Env) (d : DeviceBody) : Sync (Except KopfError Unit) :=
  match truthy d.spec.gateway with
  | none => return .error .permanent
  | some gateway => do
    let row ← snapshot env (interfacesAt gateway) fun v => v.data.id
    match row with
    | none => return .error .temporary
    | some (some v) => do
      attempt env (sqlUpsertDevice env d gateway (some v.data.id))
      return .ok ()
    | some none =>
      if deviceStatus d = "Ready" then do
        attempt env (sqlUpsertDevice env d gateway none)
        return .ok ()
      else return .error .temporary

/-- The rows that a sync of `d` may insert. -/
def DeviceSync.Inserts (env : Env) (d : DeviceBody) : Admissible
  | _, .device, _, x =>
    ∃ gateway interfaceId, truthy d.spec.gateway = some gateway ∧
      x = deviceRow env d gateway interfaceId
  | _, _, _, _ => False

theorem respects_syncDevice (env : Env) (d : DeviceBody) :
    Respects (Calls env (Revises (DeviceSync.Inserts env d))) (syncDevice env d) := by
  unfold syncDevice attempt
  split
  · exact Respects.pure _
  · next gateway hgateway =>
    refine Respects.bind respects_query fun row => ?_
    match row with
    | none => exact Respects.pure _
    | some (some v) =>
      exact Respects.bind (Respects.bind (respects_upsert fun _ _ => ⟨gateway, _, hgateway, rfl⟩)
        fun _ => Respects.pure _) fun _ => Respects.pure _
    | some none =>
      refine Respects.ite (fun _ => ?_) fun _ => Respects.pure _
      exact Respects.bind (Respects.bind (respects_upsert fun _ _ => ⟨gateway, _, hgateway, rfl⟩)
        fun _ => Respects.pure _) fun _ => Respects.pure _

/-- `delete_device` -/
def deleteDevice (env : Env) (name : ResourceName) : Sync Unit :=
  attempt env (closeRows .device fun row : Device => row.id = "device:" ++ name)

/-! ## Traffic flows -/

namespace TrafficFlowSync

variable (env : Env)

def flowId (t : TrafficTest) : String := "flow:" ++ t.metadata.name

def phase (t : TrafficTest) : String :=
  env.lower ((t.status.bind TrafficStatus.phase).getD "unknown")

/-- The row of `insert_flow`. -/
def flowRow (t : TrafficTest) : TrafficFlow where
  id := flowId t
  name := some t.metadata.name
  srcDeviceId := (t.spec.sourceDevices.getD []).head?.map ("device:" ++ ·)
  dstDeviceId := (truthy (some (t.spec.destinationDevice.getD ""))).map ("device:" ++ ·)
  phase := some (phase env t)
  config := some (sanitizeK8sBody t)

def sqlUpsertFlow (t : TrafficTest) : Transaction :=
  sqlUpsert .trafficFlow (flowRow env t) fun row : TrafficFlow => row.phase = some (phase env t)

end TrafficFlowSync

/-- `sync_traffic_flow` -/
def syncTrafficFlow (env : Env) (t : TrafficTest) : Sync Unit :=
  attempt env (TrafficFlowSync.sqlUpsertFlow env t)

/-- The row that a sync of `t` may insert. -/
def TrafficFlowSync.Inserts (env : Env) (t : TrafficTest) : Admissible
  | _, .trafficFlow, _, x => x = flowRow env t
  | _, _, _, _ => False

theorem respects_syncTrafficFlow (env : Env) (t : TrafficTest) :
    Respects (Calls env (Revises (TrafficFlowSync.Inserts env t))) (syncTrafficFlow env t) :=
  Respects.bind (respects_upsert fun _ _ => rfl) fun _ => Respects.pure ()

/-- `delete_traffic_flow` -/
def deleteTrafficFlow (env : Env) (name : ResourceName) : Sync Unit :=
  attempt env (closeRows .trafficFlow fun row : TrafficFlow => row.id = "flow:" ++ name)

/-! ## Fault events -/

namespace FaultEventSync

def eventId (name : ResourceName) : String := "fault:" ++ name

def failureType (f : NetworkFailure) : String := f.failureType.getD "UNKNOWN"

def injectionMode (f : NetworkFailure) : String := f.injectionMode.getD "direct"

/-- `spec.get('target', {})` -/
def target (f : NetworkFailure) : FailureTarget := f.target.getD ⟨none, none, none, .obj []⟩

/-- The row of `insert_fault_event`. -/
def faultRow (name : ResourceName) (f : NetworkFailure) (phase : String)
    (injectedAt : Option String) : FaultEvent where
  id := eventId name
  name := name
  failureType := failureType f
  injectionMode := injectionMode f
  targetRouter := some ((target f).router.getD "")
  targetInterface := some ((target f).interface.getD "")
  targetVrf := some ((target f).vrf.getD "")
  phase := phase
  injectedAt := some (injectedAt.getD "")
  config := some ⟨failureType f, injectionMode f, target f, f.parameters.getD (.obj [])⟩

def sqlUpsertFaultEvent (name : ResourceName) (f : NetworkFailure) (phase : String)
    (injectedAt : Option String) : Transaction :=
  sqlUpsert .faultEvent (faultRow name f phase injectedAt) fun row : FaultEvent =>
    row.phase = phase

end FaultEventSync

/-- `sync_fault_event` -/
def syncFaultEvent (env : Env) (name : ResourceName) (f : NetworkFailure) (phase : String)
    (injectedAt : Option String) : Sync Unit :=
  attempt env (FaultEventSync.sqlUpsertFaultEvent name f phase injectedAt)

/-- The row that a sync of a failure may insert. -/
def FaultEventSync.Inserts (name : ResourceName) (f : NetworkFailure) (phase : String)
    (injectedAt : Option String) : Admissible
  | _, .faultEvent, _, x => x = faultRow name f phase injectedAt
  | _, _, _, _ => False

theorem respects_syncFaultEvent (env : Env) (name : ResourceName) (f : NetworkFailure)
    (phase : String) (injectedAt : Option String) :
    Respects (Calls env (Revises (FaultEventSync.Inserts name f phase injectedAt)))
      (syncFaultEvent env name f phase injectedAt) :=
  Respects.bind (respects_upsert fun _ _ => rfl) fun _ => Respects.pure ()

/-- `close_fault_event` -/
def closeFaultEvent (env : Env) (name : ResourceName) : Sync Unit :=
  attempt env (closeRows .faultEvent fun row : FaultEvent => row.id = FaultEventSync.eventId name)

end GnnSandbox.Graph
