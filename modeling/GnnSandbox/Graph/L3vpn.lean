import GnnSandbox.Graph.Infrastructure
import GnnSandbox.Graph.Router

/-!
# Syncing a VyOSL3VPN

Every service becomes an `L3VPNService`. Every VRF of a router that is in the store
becomes a `VRF`, and each of its BGP neighbors a `BGPSession`. The change test compares
the stored object with the text of `json.dumps`.
-/

namespace GnnSandbox.Graph

open Scd Effect

namespace L3vpn

variable (env : Env)

/-- `l3vpn_status`; `none` when computing it raises. -/
def l3vpnStatus (v : VyOSL3VPN) : Option String :=
  phaseOrStatus (v.status.bind L3vpnStatus.phase) (v.status.bind L3vpnStatus.conditions)

/-! ## Services -/

def vpnId (name : String) : String := "vpn:" ++ name

/-- The row of `insert_l3vpn`. -/
def serviceRow (status : String) (svc : Service) : L3VPNService where
  id := vpnId svc.name
  customerId := "cust:default"
  name := svc.name
  serviceType := some (svc.type.getD "L3VPN")
  topology := some (svc.topology.getD "Mesh")
  status := some (env.lower status)
  config := some svc.dict

def sqlUpsertL3vpn (status : String) (svc : Service) : Transaction :=
  sqlUpsert .l3vpnService (serviceRow env status svc) fun row : L3VPNService =>
    row.config = some svc.dict.dumps ∧ row.status = some (env.lower status)

/-! ## VRFs and BGP sessions -/

def vrfId (routerName vrfName : String) : String := "vrf:" ++ routerName ++ ":" ++ vrfName

def vrfStatus (status : String) : String := if status = "Ready" then "Active" else "Pending"

/-- The row of `insert_vrf`. -/
def vrfRow (status routerName routerId vrfName : String) (vrf : Vrf) : VRF where
  id := vrfId routerName vrfName
  routerId := routerId
  vpnId := some (vpnId vrfName)
  name := "VRF-" ++ vrfName
  rd := some (vrf.rd.getD "unknown")
  status := some (env.lower (vrfStatus status))
  config := some vrf.dict

def sqlUpsertVrf (status routerName routerId vrfName : String) (vrf : Vrf) : Transaction :=
  sqlUpsert .vrf (vrfRow env status routerName routerId vrfName vrf) fun row : VRF =>
    row.config = some vrf.dict.dumps ∧ row.status = some (env.lower (vrfStatus status))

def bgpStatus (status : String) : String := if status = "Ready" then "Established" else "Idle"

def bgpId (routerName vrfName peerIp : String) : String :=
  "bgp:" ++ routerName ++ ":" ++ vrfName ++ ":" ++ peerIp

/-- The row of `insert_bgp`. -/
def bgpRow (status routerName vrfName peerIp : String) (n : Neighbor) : BGPSession where
  id := bgpId routerName vrfName peerIp
  vrfId := vrfId routerName vrfName
  localAs := some 0
  remoteAs := some (n.remoteAs.getD 0)
  peerIp := some peerIp
  status := some (bgpStatus status)
  config := some n.dict

def sqlUpsertBgp (status routerName vrfName peerIp : String) (n : Neighbor) : Transaction :=
  sqlUpsert .bgpSession (bgpRow status routerName vrfName peerIp n) fun row : BGPSession =>
    row.config = some n.dict.dumps ∧ row.status = some (bgpStatus status)

/-- `bgp_neighbors_by_vrf.get(vrf_name, [])`: a later entry of a name replaces an earlier one. -/
def bgpNeighbors (router : PeRouter) (vrfName : String) : List Neighbor :=
  match ((router.bgpVrfs.getD []).filter fun b => truthy b.name = some vrfName).getLast? with
  | some b => b.neighbors.getD []
  | none => []

/-- `n.get('peer') or n.get('peer_ip')`, when it is true. -/
def peerIp (n : Neighbor) : Option String := truthy (orElse n.peer n.peerIp)

/-! ## Controllers -/

/-- One pass of the loop over the neighbors of a VRF. -/
def syncNeighbor (status routerName vrfName : String) (n : Neighbor) : Sync Unit :=
  match peerIp n with
  | none => pure ()
  | some peerIp => attempt env (sqlUpsertBgp status routerName vrfName peerIp n)

/-- One pass of the loop over the VRFs of a router. -/
def syncVrf (status routerName routerId : String) (router : PeRouter) (vrf : Vrf) : Sync Unit :=
  match truthy vrf.name with
  | none => pure ()
  | some vrfName => do
    let committed ← runInTransaction env (sqlUpsertVrf env status routerName routerId vrfName vrf)
    if committed then
      forM (bgpNeighbors router vrfName) (syncNeighbor env status routerName vrfName)
    else pure ()

/-- One pass of the loop over the routers. -/
def syncPeRouter (status : String) (router : PeRouter) : Sync Unit :=
  match truthy router.name with
  | none => pure ()
  | some routerName => do
    let routerId ← Infrastructure.getRouterIdByName env routerName
    match truthy routerId with
    | none => pure ()
    | some routerId => forM (router.vrfs.getD []) (syncVrf env status routerName routerId router)

end L3vpn

open L3vpn

/-- `sync_l3vpn_service`. The write of the default customer, whose table the schema does
not have, is left out. -/
def syncL3vpnService (env : Env) (v : VyOSL3VPN) : Sync Unit :=
  match l3vpnStatus v with
  | none => pure ()
  | some status => do
    forM (v.spec.services.getD []) fun svc => attempt env (sqlUpsertL3vpn env status svc)
    forM (v.spec.routers.getD []) (syncPeRouter env status)

/-! ## The rows it inserts -/

namespace L3vpn

variable {env : Env} {v : VyOSL3VPN} {status : String}

/-- A named VRF of a router. -/
def HasVrf (router : PeRouter) (vrfName : String) (vrf : Vrf) : Prop :=
  vrf ∈ router.vrfs.getD [] ∧ truthy vrf.name = some vrfName

/-- The rows that the VRFs of a router may insert. -/
def VrfInserts (env : Env) (status routerName routerId : String) (router : PeRouter) : Admissible
  | _, .vrf, _, x =>
    ∃ vrfName vrf, HasVrf router vrfName vrf ∧
      x = vrfRow env status routerName routerId vrfName vrf
  | _, .bgpSession, _, x =>
    ∃ vrfName vrf, HasVrf router vrfName vrf ∧ ∃ n ∈ bgpNeighbors router vrfName,
      ∃ ip ∈ peerIp n, x = bgpRow status routerName vrfName ip n
  | _, _, _, _ => False

/-- The rows that a router may insert, in a state of the database that holds it. -/
def PeInserts (env : Env) (status : String) (router : PeRouter) : Admissible := fun db n row x =>
  ∃ routerName, truthy router.name = some routerName ∧
    ∃ u ∈ Infrastructure.routersNamed routerName db,
      VrfInserts env status routerName u.data.id router db n row x

/-- The rows that a sync of `v` may insert. -/
def Inserts (env : Env) (v : VyOSL3VPN) : Admissible
  | _, .l3vpnService, _, x =>
    ∃ status ∈ l3vpnStatus v, ∃ svc ∈ v.spec.services.getD [], x = serviceRow env status svc
  | db, n, row, x =>
    ∃ status ∈ l3vpnStatus v, ∃ router ∈ v.spec.routers.getD [], PeInserts env status router db n row x

theorem respects_syncVrf {router : PeRouter} {routerName routerId : String} {vrf : Vrf}
    (hvrf : vrf ∈ router.vrfs.getD []) :
    Respects (Calls env (Revises (VrfInserts env status routerName routerId router)))
      (syncVrf env status routerName routerId router vrf) := by
  unfold syncVrf
  split
  · exact Respects.pure ()
  · next vrfName hvrfName =>
    refine Respects.bind (respects_upsert fun _ _ => ⟨vrfName, vrf, ⟨hvrf, hvrfName⟩, rfl⟩)
      fun _ => Respects.ite (fun _ => Respects.loop fun n hn => ?_) fun _ => Respects.pure ()
    unfold syncNeighbor
    split
    · exact Respects.pure ()
    · next ip hip =>
      exact Respects.bind (respects_upsert fun _ _ =>
        ⟨vrfName, vrf, ⟨hvrf, hvrfName⟩, n, hn, ip, hip, rfl⟩) fun _ => Respects.pure ()

theorem respects_syncPeRouter {router : PeRouter} :
    Respects (Calls env (Revises (PeInserts env status router)))
      (syncPeRouter env status router) := by
  unfold syncPeRouter
  split
  · exact Respects.pure ()
  · next routerName hname =>
    intro w
    rw [after_bind]
    refine (Infrastructure.respects_getRouterIdByName routerName w).trans ?_
    split
    · exact .refl
    · next routerId hid =>
      obtain ⟨u, hu, rfl⟩ := Infrastructure.result_getRouterIdByName (truthy_eq_some.mp hid).1
      rw [Infrastructure.after_getRouterIdByName]
      have hloop : Calls env (Revises (VrfInserts env status routerName u.data.id router))
          ⟨w.db, w.calls + 1⟩ (after (forM (router.vrfs.getD [])
            (syncVrf env status routerName u.data.id router)) ⟨w.db, w.calls + 1⟩) :=
        Respects.loop (fun vrf hvrf => respects_syncVrf hvrf) _
      -- the loop does not write routers, so the one that was found is there throughout
      refine (hloop.sees (m := .physicalRouter) fun _ _ _ hx => hx).imp fun _ _ _ h =>
        h.imp fun n row x hx => ⟨routerName, hname, u, ?_, hx.2⟩
      rw [Infrastructure.routersNamed, hx.1]
      exact hu

end L3vpn

/-- A sync of `v` closes no version without replacing it. -/
theorem respects_syncL3vpnService (env : Env) (v : VyOSL3VPN) :
    Respects (Calls env (Revises (L3vpn.Inserts env v))) (syncL3vpnService env v) := by
  unfold syncL3vpnService
  match hs : l3vpnStatus v with
  | none => exact Respects.pure ()
  | some status =>
    refine Respects.bind (Respects.loop fun svc hsvc => ?_) fun _ =>
      Respects.loop fun router hrouter => ?_
    · exact Respects.bind (respects_upsert fun _ _ => ⟨status, hs, svc, hsvc, rfl⟩) fun _ =>
        Respects.pure ()
    · refine L3vpn.respects_syncPeRouter.imp fun _ _ hc => hc.imp fun _ _ _ h =>
        h.imp fun n row x hx => ?_
      cases n with
      | l3vpnService =>
        obtain ⟨_, _, _, _, hx⟩ := hx
        exact hx.elim
      | _ => exact ⟨status, hs, router, hrouter, hx⟩

/-- The ids of the open VRFs of any VPN. -/
def L3vpn.vrfIds (db : Database) : List String :=
  (db .vrf).filterMap fun v : Version Timestamp VRF =>
    if v.isActive && (v.data.vpnId.any fun id => like id "vpn:%") then some v.data.id else none

/-- The transaction of `delete_l3vpn_service`. -/
def L3vpn.sqlDelete : Transaction := fun now db =>
  let vrfIds := vrfIds db
  (closeRows .bgpSession (fun row : BGPSession => row.vrfId ∈ vrfIds)
    |>.andThen (closeRows .vrf fun row : VRF => row.vpnId.any fun id => like id "vpn:%")
    |>.andThen (closeRows .l3vpnService fun row : L3VPNService => like row.id "vpn:%")) now db

/-- `delete_l3vpn_service`: the uid is not looked at. -/
def deleteL3vpnService (env : Env) : Sync Unit := attempt env L3vpn.sqlDelete

theorem L3vpn.sqlDelete_eq (now : Timestamp) (db : Database) :
    L3vpn.sqlDelete now db = some
      (((db.set .bgpSession (closeWhere now
          (fun row : BGPSession => decide (row.vrfId ∈ vrfIds db)) (db .bgpSession))).set
        .vrf (closeWhere now (fun row : VRF => row.vpnId.any fun id => like id "vpn:%")
          (db .vrf))).set
        .l3vpnService (closeWhere now (fun row : L3VPNService => like row.id "vpn:%")
          (db .l3vpnService))) := by
  simp [L3vpn.sqlDelete, Transaction.andThen, closeRows]

theorem respects_deleteL3vpnService (env : Env) (S : Admissible) :
    Respects (Calls env (Writes S)) (deleteL3vpnService env) := by
  refine Respects.bind (respects_runInTransaction (Writes.refl S) fun now db db' h => ?_)
    fun _ => Respects.pure ()
  rw [L3vpn.sqlDelete_eq, Option.some.injEq] at h
  subst h
  refine (((Writes.refl S now db).set rfl ?_).set ?_ ?_).set ?_ ?_
  all_goals try simp
  all_goals exact .close _

end GnnSandbox.Graph
