import GnnSandbox.Graph.L3vpn
import GnnSandbox.Graph.Device
import GnnSandbox.Graph.Bridge

/-!
# Runs of the controllers

A run applies any sequence of sync and delete operations to the empty store. Every
operation is a sequence of calls that respects `Steps`; all but the two that erase
edges respect `Writes`, and the syncs respect `Revises`. A run keeps every table well
formed.
-/

namespace GnnSandbox.Graph

open Scd Effect

/-- An operation with its arguments. -/
inductive Op where
  | syncInfrastructure (name : ResourceName) (spec : VyOSInfrastructure)
  | deleteInfrastructure (name : ResourceName)
  | syncRouter (r : VyOSRouter)
  | deleteRouter (name : ResourceName)
  | syncL3vpn (v : VyOSL3VPN)
  | deleteL3vpn (name : ResourceName)
  | syncDevice (d : DeviceBody)
  | deleteDevice (name : ResourceName)
  | syncBridge (name : ResourceName) (spec : BridgeSpec) (status : BridgeStatus)
  | syncTrafficFlow (t : TrafficTest)
  | deleteTrafficFlow (name : ResourceName)
  | syncFaultEvent (name : ResourceName) (f : NetworkFailure) (phase : String)
      (injectedAt : Option String)
  | closeFaultEvent (name : ResourceName)
  | syncIfaceSpeed (interfaceId bandwidth : String)

namespace Op

/-- What an operation does to the store. -/
def exec (env : Env) : Op → Sync Unit
  | syncInfrastructure _ spec => syncVyosInfrastructure env spec
  | deleteInfrastructure _ => deleteVyosInfrastructure env
  | syncRouter r => syncPhysicalRouter env r
  | deleteRouter name => deletePhysicalRouter env name
  | syncL3vpn v => syncL3vpnService env v
  | deleteL3vpn _ => deleteL3vpnService env
  | syncDevice d => do let _ ← Graph.syncDevice env d
  | deleteDevice name => Graph.deleteDevice env name
  | syncBridge name spec status => syncHostNetworkBridge env name spec status
  | syncTrafficFlow t => Graph.syncTrafficFlow env t
  | deleteTrafficFlow name => Graph.deleteTrafficFlow env name
  | syncFaultEvent name f phase injectedAt => Graph.syncFaultEvent env name f phase injectedAt
  | closeFaultEvent name => Graph.closeFaultEvent env name
  | syncIfaceSpeed interfaceId bandwidth =>
    Infrastructure.syncIfaceSpeedFromBandwidth env interfaceId bandwidth

/-- The rows an operation may insert. -/
def Inserts (env : Env) : Op → Admissible
  | syncInfrastructure _ spec => Infrastructure.Inserts env spec
  | syncRouter r => Router.Inserts env r
  | syncL3vpn v => L3vpn.Inserts env v
  | syncDevice d => DeviceSync.Inserts env d
  | syncBridge name spec status => Bridge.Inserts env name spec status
  | syncTrafficFlow t => TrafficFlowSync.Inserts env t
  | syncFaultEvent name f phase injectedAt => FaultEventSync.Inserts name f phase injectedAt
  | syncIfaceSpeed interfaceId bandwidth => Infrastructure.SpeedInserts interfaceId bandwidth
  | _ => fun _ _ _ _ => False

/-- The syncs, which close nothing without replacing it. -/
def isSync : Op → Bool
  | syncInfrastructure .. | syncRouter _ | syncL3vpn _ | syncDevice _ | syncBridge .. => true
  | syncTrafficFlow _ | syncFaultEvent .. | syncIfaceSpeed .. => true
  | _ => false

/-- The operations that erase rows of the edge tables. -/
def erases : Op → Bool
  | deleteInfrastructure _ | deleteRouter _ => true
  | _ => false

theorem respects_of_isSync (env : Env) {op : Op} (h : op.isSync = true) :
    Respects (Calls env (Revises (op.Inserts env))) (op.exec env) := by
  cases op with
  | syncInfrastructure name spec => exact respects_syncVyosInfrastructure env spec
  | syncRouter r => exact respects_syncPhysicalRouter env r
  | syncL3vpn v => exact respects_syncL3vpnService env v
  | syncDevice d => exact Respects.bind (respects_syncDevice env d) fun _ => Respects.pure ()
  | syncBridge name spec status => exact respects_syncHostNetworkBridge env name spec status
  | syncTrafficFlow t => exact respects_syncTrafficFlow env t
  | syncFaultEvent name f phase injectedAt => exact respects_syncFaultEvent env name f _ _
  | syncIfaceSpeed interfaceId bandwidth => exact Infrastructure.respects_syncSpeed _ _
  | deleteInfrastructure | deleteRouter | deleteL3vpn | deleteDevice | deleteTrafficFlow
  | closeFaultEvent => cases h

theorem respects_of_not_erases (env : Env) {op : Op} (h : op.erases = false) :
    Respects (Calls env (Writes (op.Inserts env))) (op.exec env) := by
  by_cases hsync : op.isSync = true
  · exact (respects_of_isSync env hsync).imp fun _ _ hc => hc.imp fun _ _ _ => Revises.writes
  · cases op with
    | deleteL3vpn name => exact respects_deleteL3vpnService env _
    | deleteDevice name => exact respects_closeRows
    | deleteTrafficFlow name => exact respects_closeRows
    | closeFaultEvent name => exact respects_closeRows
    | deleteInfrastructure | deleteRouter => cases h
    | syncInfrastructure | syncRouter | syncL3vpn | syncDevice | syncBridge | syncTrafficFlow
    | syncFaultEvent | syncIfaceSpeed => exact absurd rfl hsync

theorem respects_exec (env : Env) (op : Op) :
    Respects (Calls env (Steps (op.Inserts env))) (op.exec env) := by
  by_cases h : op.erases = true
  · cases op with
    | deleteInfrastructure name => exact respects_deleteVyosInfrastructure env _
    | deleteRouter name => exact respects_deletePhysicalRouter env name _
    | _ => cases h
  · rw [Bool.not_eq_true] at h
    exact (respects_of_not_erases env h).imp fun _ _ hc => hc.imp fun _ _ _ => Writes.steps

end Op

/-! ## Runs -/

/-- The world after a sequence of operations. -/
def runFrom (env : Env) (w : World) (ops : List Op) : World :=
  ops.foldl (fun w op => after (op.exec env) w) w

/-- A run from the empty store. -/
def run (env : Env) (ops : List Op) : World := runFrom env World.empty ops

@[simp] theorem runFrom_nil (env : Env) (w : World) : runFrom env w [] = w := rfl

@[simp] theorem runFrom_cons (env : Env) (w : World) (op : Op) (ops : List Op) :
    runFrom env w (op :: ops) = runFrom env (after (op.exec env) w) ops := rfl

theorem runFrom_append (env : Env) (w : World) (ops ops' : List Op) :
    runFrom env w (ops ++ ops') = runFrom env (runFrom env w ops) ops' :=
  List.foldl_append

theorem run_append (env : Env) (ops ops' : List Op) :
    run env (ops ++ ops') = runFrom env (run env ops) ops' := runFrom_append env _ ops ops'

/-- What every operation of a run keeps, the run keeps. -/
theorem runFrom_invariant {env : Env} {I : World → Prop} {ops : List Op}
    (h : ∀ op ∈ ops, ∀ w, I w → I (after (op.exec env) w)) {w : World} (hw : I w) :
    I (runFrom env w ops) := by
  induction ops generalizing w with
  | nil => exact hw
  | cons op ops ih =>
    exact ih (fun op' hop' => h op' (List.mem_cons_of_mem _ hop')) (h op (List.mem_cons_self ..) w hw)

/-! ## The tables stay well formed -/

/-- Every table is well formed, and the next commit comes after everything in it. -/
def WellFormed (env : Env) (w : World) : Prop :=
  ∀ n, Scd.WellFormed Row.key (env.commitTs w.calls) (w.db n)

theorem wellFormed_empty (env : Env) : WellFormed env World.empty := fun _ => wellFormed_nil _

theorem WellFormed.call {env : Env} {S : Admissible} {w w' : World} (hw : WellFormed env w)
    (h : Call env (Steps S) w w') : WellFormed env w' := by
  intro n
  refine (hw n).step (h.2 n) (env.commitTs_strictMono ?_)
  rw [h.1]
  exact Nat.lt_succ_self _

theorem WellFormed.calls {env : Env} {S : Admissible} {w w' : World} (hw : WellFormed env w)
    (h : Calls env (Steps S) w w') : WellFormed env w' :=
  h.invariant (fun _ _ hv hc => hv.call hc) hw

theorem WellFormed.runFrom {env : Env} {w : World} (hw : WellFormed env w) (ops : List Op) :
    WellFormed env (runFrom env w ops) :=
  runFrom_invariant (fun op _ _ hv => hv.calls (op.respects_exec env _)) hw

theorem wellFormed_run (env : Env) (ops : List Op) : WellFormed env (run env ops) :=
  (wellFormed_empty env).runFrom ops

/-- **The store keeps its versions apart.** After any sequence of operations, with any of
their calls failing, a key has at most one open version, and the intervals of its
versions are disjoint and not empty. -/
theorem run_scd_invariant (env : Env) (ops : List Op) (n : TableName) (k : Key) :
    ((run env ops).db.active n k).length ≤ 1 ∧
      (((run env ops).db n).filter fun v => v.data.key = k).Pairwise
        (fun u v => Disjoint u.validity v.validity) ∧
      ∀ v ∈ (run env ops).db n, v.validity.Nonempty := by
  have hwf := wellFormed_run env ops n
  exact ⟨hwf.length_active_le k, hwf.pairwise_disjoint k, fun _ hv => hwf.validity_nonempty hv⟩

/-! ## A small topology

Two routers and a network that connects them, for concrete runs. -/

namespace Sample

def metadata (name : ResourceName) : Metadata := ⟨name, none, none, none, .null⟩

/-- A running router whose interface `eth1` has an address. -/
def router (name : ResourceName) (address : String) : VyOSRouter where
  metadata := metadata name
  spec := ⟨some "PE", none, none, none,
    some [.object ⟨some "eth1", some address, none, none, none, none, .null⟩], .null⟩
  status := some ⟨some "Running", none, none, .null⟩
  other := .null

def r1 : ResourceName := ⟨"r1", by decide⟩

def r2 : ResourceName := ⟨"r2", by decide⟩

def core : ResourceName := ⟨"core", by decide⟩

/-- The network `core` between the two routers. -/
def network : Network where
  name := "core"
  subnet := some "10.0.0.0/30"
  gateway := none
  ipv6Subnet := none
  description := none
  vlan := none
  mtu := none
  networkType := some "p2p"
  bandwidth := some "1gbit"
  connectedRouters := some [⟨some "r1", some "eth1", some "10.0.0.1"⟩,
    ⟨some "r2", some "eth1", some "10.0.0.2"⟩]

def infrastructure : VyOSInfrastructure := ⟨some [network]⟩

/-- The network `core` before any router is connected. -/
def isolated : VyOSInfrastructure := ⟨some [{ network with connectedRouters := none }]⟩

/-- The bridge of `core` on the host. -/
def bridge : BridgeSpec where
  name := some "core"
  subnet := some "10.0.0.0/30"
  networkType := some "p2p"
  bandwidth := some "1gbit"
  gateway := none
  vlan := none

def bridgeStatus : BridgeStatus where
  operationalState := some "up"
  mtu := some (some 1500)
  macAddress := some (some "02:42:ac:11:00:02")
  ipAddress := some none
  vethPairs := some [some ⟨some "r1-eth1", some "UP", some "1gbit"⟩]

/-- A VPN with one VRF on the router `r1`, which has one neighbor there. -/
def l3vpn (name : ResourceName) (vrfName : String) : VyOSL3VPN where
  metadata := metadata name
  spec := ⟨some [⟨vrfName, none, none, some "65001:100", none, none, none⟩],
    some [⟨some "r1", some [⟨some vrfName, none, some "65001:100", none, none, none, none⟩],
      some [⟨some vrfName, some [⟨some "10.1.0.2", none, some 65002, none⟩]⟩]⟩]⟩
  status := some ⟨some "Ready", none⟩
  other := .null

def blue : ResourceName := ⟨"blue", by decide⟩

def red : ResourceName := ⟨"red", by decide⟩

end Sample

end GnnSandbox.Graph
