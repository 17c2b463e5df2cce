import GnnSandbox.Graph.Plans.Infrastructure
import GnnSandbox.Graph.Plans.Router
import GnnSandbox.Graph.Plans.L3vpn
import GnnSandbox.Graph.Plans.Bridge

/-!
# When a second sync changes nothing

A sync that is repeated with the same resource changes nothing exactly when each of its
writers stores what it compares. Where a writer stores something else, a new version is
added by every repetition.
-/

namespace GnnSandbox.Graph

open Scd Effect

/-! ## Devices, traffic flows and fault events -/

section Single

variable {env : Env} {w : World}

def DeviceSync.reviseDevice (env : Env) (d : DeviceBody) (gateway : String)
    (interfaceId : Option String) : Revising :=
  .upsert .device (deviceRow env d gateway interfaceId) fun row : Device =>
    row.interfaceId = interfaceId ∧ row.networkName = some (d.spec.networkName.getD "") ∧
      row.ipAddress = some (d.spec.ipAddress.getD "") ∧ row.mgmtIp = some (mgmtIp d) ∧
      row.gateway = some gateway ∧ row.vlan = d.spec.vlan ∧
      row.status = some (env.lower (deviceStatus d)) ∧ row.config = some (sanitizeK8sBody d)

/-- The revisions of `sync_device`. -/
def DeviceSync.plan (env : Env) (db : Database) (d : DeviceBody) : List Revising :=
  match truthy d.spec.gateway with
  | none => []
  | some gateway =>
    match env.read (interfacesAt gateway db) fun v => v.data.id with
    | some v => [reviseDevice env d gateway (some v.data.id)]
    | none => if deviceStatus d = "Ready" then [reviseDevice env d gateway none] else []

theorem DeviceSync.mem_plan {db : Database} {d : DeviceBody} {r : Revising}
    (h : r ∈ plan env db d) : ∃ gateway interfaceId, r = reviseDevice env d gateway interfaceId := by
  unfold plan at h
  split at h
  · cases h
  · split at h
    · exact ⟨_, _, List.mem_singleton.mp h⟩
    · split at h
      · exact ⟨_, _, List.mem_singleton.mp h⟩
      · cases h

theorem DeviceSync.performs (hok : env.Reliable) (hsteady : env.Steady) (hw : Single w.db)
    (d : DeviceBody) : Performs noSide (syncDevice env d) w (plan env w.db d) := by
  unfold syncDevice plan
  match truthy d.spec.gateway with
  | none => exact Performs.pure _
  | some gateway =>
    dsimp only
    have hread := after_snapshot env (interfacesAt gateway) (fun v => v.data.id) w
    refine Performs.bind_read (by rw [hread]) ?_
    rw [result_snapshot_eq hok (hsteady.decides _ _), hread]
    have hdevice (interfaceId : Option String) : Performs noSide
        (attempt env (sqlUpsertDevice env d gateway interfaceId)) ⟨w.db, w.calls + 1⟩
        [reviseDevice env d gateway interfaceId] :=
      (performs_upsert noSide (w := ⟨w.db, w.calls + 1⟩) (n := .device) _ _ hok hw).2
    match env.read (interfacesAt gateway w.db) fun v => v.data.id with
    | some v => exact Performs.bind (hdevice _) (Performs.pure _)
    | none =>
      dsimp only
      by_cases hready : deviceStatus d = "Ready"
      · rw [if_pos hready, if_pos hready]
        exact Performs.bind (hdevice _) (Performs.pure _)
      · rw [if_neg hready, if_neg hready]
        exact Performs.pure _

/-- The sync does not write what its plan depends on. -/
theorem DeviceSync.plan_after (hok : env.Reliable) (hsteady : env.Steady) (hw : Single w.db)
    (d : DeviceBody) : plan env (after (syncDevice env d) w).db d = plan env w.db d := by
  have hdb := Performed.table_eq (n := .physicalInterface) (performs hok hsteady hw d) id
    fun r hr => by
      obtain ⟨gateway, interfaceId, rfl⟩ := mem_plan hr
      exact (nomatch ·)
  unfold plan interfacesAt
  rw [hdb]

/-- A device is stored as it is compared. -/
theorem DeviceSync.accepted_plan (db : Database) (d : DeviceBody) : Accepted (plan env db d) db := by
  have hdevice (gateway : String) (interfaceId : Option String) :
      Accepted [reviseDevice env d gateway interfaceId] db :=
    accepted_upsert (n := .device) (by simp [deviceRow])
  have hnil : Accepted [] db := fun r hr => by cases hr
  unfold plan
  split
  · exact hnil
  · split
    · exact hdevice _ _
    · split
      · exact hdevice _ _
      · exact hnil

/-- A speed is stored as it is compared. -/
theorem Infrastructure.accepted_planSpeed (db : Database) (interfaceId bw : String) :
    Accepted (planSpeed interfaceId bw) db := by
  unfold planSpeed
  split
  · exact fun r hr => by cases hr
  · split
    · exact fun r hr => by cases hr
    · next routerId ifaceName _ =>
      rw [accepted_singleton]
      generalize hs : openRow db (reviseSpeed interfaceId routerId ifaceName bw).n
        (reviseSpeed interfaceId routerId ifaceName bw).k = s
      cases hnext : (reviseSpeed interfaceId routerId ifaceName bw).next s with
      | none => rw [Option.none_or, hnext]
      | some x =>
        rw [Option.some_or]
        refine reviseSpeed_next_none.mpr fun row hrow => ?_
        cases hrow
        exact reviseSpeed_next_some hnext

end Single

namespace Op

/-- The revisions of an operation; deletions are not described by revisions. -/
def plan (env : Env) (db : Database) : Op → List Revising
  | syncInfrastructure _ spec => Infrastructure.plan env db spec
  | syncRouter r => Router.plan env db r
  | syncL3vpn v => L3vpn.plan env db v
  | syncDevice d => DeviceSync.plan env db d
  | syncBridge name spec status => Bridge.plan env db name spec status
  | syncTrafficFlow t => [.upsert .trafficFlow (TrafficFlowSync.flowRow env t)
      fun row : TrafficFlow => row.phase = some (TrafficFlowSync.phase env t)]
  | syncFaultEvent name f phase injectedAt =>
    [.upsert .faultEvent (FaultEventSync.faultRow name f phase injectedAt)
      fun row : FaultEvent => row.phase = phase]
  | syncIfaceSpeed interfaceId bandwidth => Infrastructure.planSpeed interfaceId bandwidth
  | _ => []

/-- The state of the store and the resource under which a repeated sync changes nothing. -/
def Stable (env : Env) (db : Database) : Op → Prop
  | syncInfrastructure _ spec => Infrastructure.Stable env db spec
  | syncRouter r => Router.Stable env db r
  | syncL3vpn v => L3vpn.Stable env db v
  | syncBridge name spec status => Bridge.Stable env db name spec status
  | _ => True

/-- The tables that an operation writes on the side. -/
def side : Op → TableName → Prop
  | syncBridge .. => Bridge.EdgesAside
  | _ => noSide

variable {env : Env} {w : World}

theorem performs (hok : env.Reliable) (hsteady : env.Steady) (hw : Single w.db) {op : Op}
    (h : op.isSync = true) : Performs op.side (op.exec env) w (op.plan env w.db) := by
  cases op with
  | syncInfrastructure name spec => exact Infrastructure.performs hok (Infrastructure.reads_of_steady hsteady _ _) hw
  | syncRouter r => exact Router.performs hok (Router.reads_of_steady hsteady _ _) hw
  | syncL3vpn v => exact L3vpn.performs hok hsteady hw v
  | syncDevice d => exact DeviceSync.performs hok hsteady hw d
  | syncBridge name spec status => exact Bridge.performs hok hsteady hw name spec status
  | syncTrafficFlow t => exact (performs_upsert noSide (n := .trafficFlow) _ _ hok hw).2
  | syncFaultEvent name f phase injectedAt =>
    exact (performs_upsert noSide (n := .faultEvent) _ _ hok hw).2
  | syncIfaceSpeed interfaceId bandwidth => exact Infrastructure.performs_syncSpeed hok hw _ _
  | deleteInfrastructure | deleteRouter | deleteL3vpn | deleteDevice | deleteTrafficFlow
  | closeFaultEvent => cases h

/-- A repeated sync performs the same revisions. -/
theorem plan_after (hok : env.Reliable) (hsteady : env.Steady) (hw : Single w.db) {op : Op}
    (h : op.isSync = true) : op.plan env (after (op.exec env) w).db = op.plan env w.db := by
  cases op with
  | syncInfrastructure name spec => exact Infrastructure.plan_after hok hsteady hw spec
  | syncRouter r => exact Router.plan_after hok hsteady hw r
  | syncL3vpn v => exact L3vpn.plan_after hok hsteady hw v
  | syncDevice d => exact DeviceSync.plan_after hok hsteady hw d
  | syncBridge name spec status => exact Bridge.plan_after hok hsteady hw name spec status
  | syncTrafficFlow | syncFaultEvent | syncIfaceSpeed => rfl
  | deleteInfrastructure | deleteRouter | deleteL3vpn | deleteDevice | deleteTrafficFlow
  | closeFaultEvent => cases h

theorem accepted_plan (env : Env) (db : Database) {op : Op} (h : op.isSync = true) :
    Accepted (op.plan env db) db ↔ op.Stable env db := by
  cases op with
  | syncInfrastructure name spec => exact Infrastructure.accepted_plan
  | syncRouter r => exact Router.accepted_plan
  | syncL3vpn v => exact L3vpn.accepted_plan
  | syncDevice d => exact iff_of_true (DeviceSync.accepted_plan db d) trivial
  | syncBridge name spec status => exact Bridge.accepted_plan
  | syncTrafficFlow t =>
    exact iff_of_true (accepted_upsert (n := .trafficFlow) (by simp [TrafficFlowSync.flowRow]))
      trivial
  | syncFaultEvent name f phase injectedAt =>
    exact iff_of_true (accepted_upsert (n := .faultEvent) (by simp [FaultEventSync.faultRow]))
      trivial
  | syncIfaceSpeed interfaceId bandwidth =>
    exact iff_of_true (Infrastructure.accepted_planSpeed db _ _) trivial
  | deleteInfrastructure | deleteRouter | deleteL3vpn | deleteDevice | deleteTrafficFlow
  | closeFaultEvent => cases h

theorem not_side_of_mem_plan {db : Database} {op : Op} {r : Revising} (hr : r ∈ op.plan env db) :
    ¬op.side r.n := by
  cases op with
  | syncBridge name spec status => exact (Bridge.ne_of_mem_plan hr).2
  | _ => exact not_noSide r.n

end Op

/-- A run leaves at most one version of a key open. -/
theorem single_run (env : Env) (ops : List Op) : Single (run env ops).db :=
  fun n k => (wellFormed_run env ops n).length_active_le k

/-- **A repeated sync changes nothing exactly in a stable state.** From any store without
two open versions of a key, with calls that succeed and reads that return the same one of
several rows. -/
theorem sync_idempotent_iff {env : Env} (hok : env.Reliable) (hsteady : env.Steady) {w : World}
    (hw : Single w.db) {op : Op} (h : op.isSync = true) :
    (after (op.exec env) (after (op.exec env) w)).db = (after (op.exec env) w).db ↔
      op.Stable env w.db := by
  have hfirst := op.performs hok hsteady hw h
  have hsecond := op.performs hok hsteady (Performed.single hfirst hw) h
  rw [Op.plan_after hok hsteady hw h] at hsecond
  rw [hfirst.idempotent_iff hsecond fun r hr => Op.not_side_of_mem_plan hr]
  exact Op.accepted_plan env w.db h

/-- The status of the interface of a running router is stored in lower case and compared in
upper case. -/
theorem sync_idempotent_iff_sample :
    (after ((Op.syncRouter (Sample.router Sample.r1 "")).exec Env.plain)
      (after ((Op.syncRouter (Sample.router Sample.r1 "")).exec Env.plain) World.empty)).db =
        (after ((Op.syncRouter (Sample.router Sample.r1 "")).exec Env.plain) World.empty).db ↔
      (Op.syncRouter (Sample.router Sample.r1 "")).Stable Env.plain World.empty.db :=
  sync_idempotent_iff (fun _ => rfl) (fun _ _ => rfl) (single_run Env.plain []) rfl

/-- A second sync of a running router adds a version of its interface. -/
theorem repeated_router_sync_adds_version :
    (after ((Op.syncRouter (Sample.router Sample.r1 "")).exec Env.plain)
      (after ((Op.syncRouter (Sample.router Sample.r1 "")).exec Env.plain) World.empty)).db ≠
        (after ((Op.syncRouter (Sample.router Sample.r1 "")).exec Env.plain) World.empty).db := by
  intro h
  have hlength := congrArg (fun db : Database => (db .physicalInterface).length) h
  exact absurd hlength (by decide)

end GnnSandbox.Graph
