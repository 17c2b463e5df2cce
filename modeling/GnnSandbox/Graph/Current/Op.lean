import GnnSandbox.Graph.Current.Router
import GnnSandbox.Graph.Current.L3vpn
import GnnSandbox.Graph.Current.Bridge

/-!
# What each sync leaves

`Op.computed` collects what the controllers compute for each key. A sync all of whose
calls commit leaves it in the store, whatever the run before it was. A traffic flow and
a fault event only get a new version when their phase changes.
-/

namespace GnnSandbox.Graph

open Scd Effect

/-! ## Devices -/

namespace DeviceSync

/-- What a sync of `d` leaves. -/
def computed (env : Env) (db : Database) (d : DeviceBody) :
    (n : TableName) → Key → Option (Row n → Prop)
  | .device, k => (truthy d.spec.gateway).bind fun gateway =>
      if .id (deviceId d) = k then
        if (interfacesAt gateway db).isEmpty then
          if deviceStatus d = "Ready" then some (· = deviceRow env d gateway none) else none
        else some fun x => ∃ v ∈ interfacesAt gateway db, x = deviceRow env d gateway (some v.data.id)
      else none
  | _, _ => none

variable {env : Env} {w : World} {d : DeviceBody}

theorem eq_deviceRow_of_unchanged {x : Device} {gateway : String} {interfaceId : Option String}
    (hx : Written env .device x)
    (hu : x.interfaceId = interfaceId ∧ x.networkName = some (d.spec.networkName.getD "") ∧
      x.ipAddress = some (d.spec.ipAddress.getD "") ∧ x.mgmtIp = some (mgmtIp d) ∧
      x.gateway = some gateway ∧ x.vlan = d.spec.vlan ∧
      x.status = some (env.lower (deviceStatus d)) ∧ x.config = some (sanitizeK8sBody d)) :
    x = deviceRow env d gateway interfaceId := by
  obtain ⟨d', gateway', interfaceId', rfl⟩ := hx
  obtain ⟨hiface, hnet, hip, hmgmt, hgw, hvlan, hstatus, hconfig⟩ := hu
  have hbody : sanitizeK8sBody d' = sanitizeK8sBody d := Option.some.inj hconfig
  have hname : d'.metadata.name = d.metadata.name := by
    simpa using congrArg (fun b : DeviceBody => b.metadata.name) hbody
  unfold deviceRow deviceId at *
  dsimp only at hiface hnet hip hmgmt hgw hvlan hstatus
  rw [hname, hiface, hnet, hip, hmgmt, hgw, hvlan, hstatus, hbody]

/-- The row of a device. -/
theorem leaves_sqlUpsertDevice (h : Sound env w) (gateway : String) (interfaceId : Option String)
    (k : Key) :
    Leaves .device k (attempt env (sqlUpsertDevice env d gateway interfaceId)) w
      (if .id (deviceId d) = k then some (· = deviceRow env d gateway interfaceId) else none) := by
  refine Leaves.attempt (leaves_upsert h k (n := .device)
    (P := (· = deviceRow env d gateway interfaceId)) rfl fun x hx _ hu => ?_)
  exact eq_deviceRow_of_unchanged hx (of_decide_eq_true hu)

/-- A sync of a device leaves what it computes. -/
theorem leaves_syncDevice (h : Sound env w) (k : Key) :
    Leaves .device k (syncDevice env d) w (computed env w.db d .device k) := by
  unfold syncDevice computed
  match truthy d.spec.gateway with
  | none => exact Settles.pure _
  | some gateway =>
    dsimp only
    rw [Option.bind_some]
    have hread := after_snapshot env (interfacesAt gateway) (fun v => v.data.id) w
    refine Settles.bind_left (by rw [hread]) ?_
    rw [hread]
    by_cases hnil : interfacesAt gateway w.db = []
    · have hres : result (snapshot env (interfacesAt gateway) fun v => v.data.id) w =
          some none := by
        unfold result snapshot StateT.run
        simp [h.ok, hnil]
      rw [hres]
      simp only [hnil, List.isEmpty_nil, if_true]
      by_cases hready : deviceStatus d = "Ready"
      · rw [if_pos hready, if_pos hready]
        exact (leaves_sqlUpsertDevice h.read gateway none k).bind_right rfl
      · rw [if_neg hready, if_neg hready, ite_self]
        exact Settles.pure _
    · obtain ⟨v, hv⟩ := result_snapshot_isSome (fun v => v.data.id) h.ok hnil
      have hmem := result_snapshot_mem hv
      have hne : ¬(interfacesAt gateway w.db).isEmpty = true := by simpa using hnil
      rw [hv, if_neg hne]
      dsimp only
      have hrow := leaves_sqlUpsertDevice (d := d) h.read gateway (some v.data.id) k
      refine Settles.bind_right ?_ rfl
      by_cases hk : Key.id (deviceId d) = k
      · rw [if_pos hk] at hrow ⊢
        obtain ⟨u, hu, hP⟩ := hrow
        exact ⟨u, hu, v, hmem, hP⟩
      · rw [if_neg hk] at hrow ⊢
        exact hrow

end DeviceSync

/-! ## Traffic flows and fault events -/

/-- What a sync of `t` leaves: its row, or the one that was open with the same phase. -/
def TrafficFlowSync.computed (env : Env) (db : Database) (t : TrafficTest) :
    (n : TableName) → Key → Option (Row n → Prop)
  | .trafficFlow, k =>
    if .id (flowId t) = k then
      some fun x => x = flowRow env t ∨
        (x.phase = some (phase env t) ∧ ∃ v ∈ db.active .trafficFlow (.id (flowId t)), v.data = x)
    else none
  | _, _ => none

/-- What a sync of a failure leaves: its row, or the one that was open with the same phase. -/
def FaultEventSync.computed (db : Database) (name : ResourceName) (f : NetworkFailure)
    (phase : String) (injectedAt : Option String) :
    (n : TableName) → Key → Option (Row n → Prop)
  | .faultEvent, k =>
    if .id (eventId name) = k then
      some fun x => x = faultRow name f phase injectedAt ∨
        (x.phase = phase ∧ ∃ v ∈ db.active .faultEvent (.id (eventId name)), v.data = x)
    else none
  | _, _ => none

section Phases

variable {env : Env} {w : World}

theorem leaves_syncTrafficFlow (h : Sound env w) (t : TrafficTest) (k : Key) :
    Leaves .trafficFlow k (syncTrafficFlow env t) w
      (TrafficFlowSync.computed env w.db t .trafficFlow k) :=
  Leaves.attempt (leaves_upsert_mem h k (n := .trafficFlow) (Or.inl rfl) fun v hv hu =>
    Or.inr ⟨of_decide_eq_true hu, v, hv, rfl⟩)

theorem leaves_syncFaultEvent (h : Sound env w) (name : ResourceName) (f : NetworkFailure)
    (phase : String) (injectedAt : Option String) (k : Key) :
    Leaves .faultEvent k (syncFaultEvent env name f phase injectedAt) w
      (FaultEventSync.computed w.db name f phase injectedAt .faultEvent k) :=
  Leaves.attempt (leaves_upsert_mem h k (n := .faultEvent) (Or.inl rfl) fun v hv hu =>
    Or.inr ⟨of_decide_eq_true hu, v, hv, rfl⟩)

end Phases

/-! ## All syncs -/

namespace Op

/-- What an operation leaves of each key, by the state of the store before it. -/
def computed (env : Env) (db : Database) (op : Op) (n : TableName) (k : Key) :
    Option (Row n → Prop) :=
  match op with
  | syncInfrastructure _ spec => Infrastructure.computed env db spec n k
  | syncRouter r => Router.computed env db r n k
  | syncL3vpn v => L3vpn.computed env db v n k
  | syncDevice d => DeviceSync.computed env db d n k
  | syncBridge name spec status => Bridge.computed env db name spec status n k
  | syncTrafficFlow t => TrafficFlowSync.computed env db t n k
  | syncFaultEvent name f phase injectedAt =>
    FaultEventSync.computed db name f phase injectedAt n k
  | _ => none

/-- The rows of the operation can be computed: the coordinates of a router are numbers. -/
def Computes (env : Env) : Op → Prop
  | syncRouter r => ∀ status ∈ Router.routerStatus r, (Router.routerRow env r status).isSome
  | _ => True

/-- A sync leaves what it computes. -/
theorem settles_computed {env : Env} {w : World} (h : Sound env w) {op : Op}
    (hrows : op.Computes env) {n : TableName} {k : Key} {P : Row n → Prop}
    (hP : op.computed env w.db n k = some P) : Holds (after (op.exec env) w) n k P := by
  cases op with
  | syncInfrastructure name spec =>
    have hleaves := leaves_syncVyosInfrastructure h name spec n k
    have hP' : Infrastructure.computed env w.db spec n k = some P := hP
    rw [hP'] at hleaves
    exact hleaves
  | syncRouter r =>
    have hleaves := leaves_syncPhysicalRouter h r hrows n k
    have hP' : Router.computed env w.db r n k = some P := hP
    rw [hP'] at hleaves
    exact hleaves
  | syncL3vpn v =>
    have hleaves := leaves_syncL3vpnService h v n k
    have hP' : L3vpn.computed env w.db v n k = some P := hP
    rw [hP'] at hleaves
    exact hleaves
  | syncDevice d =>
    have hP' : DeviceSync.computed env w.db d n k = some P := hP
    cases n with
    | device =>
      have hleaves := DeviceSync.leaves_syncDevice (d := d) h k
      rw [hP'] at hleaves
      exact hleaves
    | _ => cases hP'
  | syncBridge name spec status =>
    obtain ⟨hsubnet, hlink⟩ := leaves_syncHostNetworkBridge h name spec status k
    have hP' : Bridge.computed env w.db name spec status n k = some P := hP
    cases n with
    | logicalSubnet =>
      rw [hP'] at hsubnet
      exact hsubnet
    | physicalLink =>
      rw [hP'] at hlink
      exact hlink
    | _ =>
      obtain ⟨vethData, -, hsome⟩ := List.exists_of_findSome?_eq_some hP'
      cases hsome
  | syncTrafficFlow t =>
    have hP' : TrafficFlowSync.computed env w.db t n k = some P := hP
    cases n with
    | trafficFlow =>
      have hleaves := leaves_syncTrafficFlow h t k
      rw [hP'] at hleaves
      exact hleaves
    | _ => cases hP'
  | syncFaultEvent name f phase injectedAt =>
    have hP' : FaultEventSync.computed w.db name f phase injectedAt n k = some P := hP
    cases n with
    | faultEvent =>
      have hleaves := leaves_syncFaultEvent h name f phase injectedAt k
      rw [hP'] at hleaves
      exact hleaves
    | _ => cases hP'
  | syncIfaceSpeed | deleteInfrastructure | deleteRouter | deleteL3vpn | deleteDevice
  | deleteTrafficFlow | closeFaultEvent => cases hP

end Op

/-- A world that a run reaches and after which no call fails is sound. -/
theorem sound_run {env : Env} {ops : List Op}
    (hok : ∀ i, (run env ops).calls ≤ i → env.fails i = false) : Sound env (run env ops) :=
  ⟨wellFormed_run env ops, allWritten_run env ops, hok⟩

/-- **No change is missed, as far as the change tests look.** After any run, a sync whose
calls all commit leaves the open version of each key that it comes to with what it
computed for it. The rows of the two edge tables are told by their keys. -/
theorem sync_leaves_computed (env : Env) (ops : List Op) (op : Op) (hrows : op.Computes env)
    (hok : ∀ i, (run env ops).calls ≤ i → env.fails i = false) :
    (∀ n k P, op.computed env (run env ops).db n k = some P →
      Holds (after (op.exec env) (run env ops)) n k P) ∧
    ∀ v ∈ (after (op.exec env) (run env ops)).db .subnetAssociation,
      SubnetAssociation.entityType v.data = some "Interface" := by
  refine ⟨fun n k P hP => Op.settles_computed (sound_run hok) hrows hP, fun v hv => ?_⟩
  have hwritten := (allWritten_run env ops).calls (op.respects_exec env (run env ops))
  exact (hwritten .subnetAssociation v hv).2

namespace Sample

/-- A traffic test towards a device. -/
def trafficTest (destination : String) : TrafficTest where
  metadata := metadata ⟨"t1", by decide⟩
  spec := ⟨some ["d1"], some destination, .null⟩
  status := some ⟨some "Running", .null⟩
  other := .null

end Sample

/-- The theorem for a router whose interface has an address. -/
theorem sync_leaves_computed_sample :
    Holds (after ((Op.syncRouter (Sample.router Sample.r1 "10.0.0.1/30")).exec Env.plain)
        (run Env.plain [])) .subnetAssociation
      (.edge "router:r1:interface:eth1" "subnet:10.0.0.1/30")
      (· = ⟨"router:r1:interface:eth1", "subnet:10.0.0.1/30", some "Interface"⟩) := by
  have hrows : (Op.syncRouter (Sample.router Sample.r1 "10.0.0.1/30")).Computes Env.plain := by
    intro status hs
    cases hs
    decide
  exact (sync_leaves_computed Env.plain [] _ hrows fun _ _ => rfl).1 _ _ _ rfl

/-- A change of the destination alone is not recorded. -/
theorem destination_change_missed :
    ¬Holds (after ((Op.syncTrafficFlow (Sample.trafficTest "d3")).exec Env.plain)
        (run Env.plain [.syncTrafficFlow (Sample.trafficTest "d2")])) .trafficFlow (.id "flow:t1")
      (· = TrafficFlowSync.flowRow Env.plain (Sample.trafficTest "d3")) := by
  rintro ⟨v, hv, hrow⟩
  have hdst : v.data.dstDeviceId = some "device:d3" := by rw [hrow]; rfl
  have hall : ∀ u ∈ (after ((Op.syncTrafficFlow (Sample.trafficTest "d3")).exec Env.plain)
      (run Env.plain [.syncTrafficFlow (Sample.trafficTest "d2")])).db.active .trafficFlow
        (.id "flow:t1"), TrafficFlow.dstDeviceId u.data = some "device:d2" := by decide
  have hv' := hall v (by rw [hv]; exact List.mem_singleton_self v)
  rw [hdst] at hv'
  exact absurd hv' (by decide)

end GnnSandbox.Graph
