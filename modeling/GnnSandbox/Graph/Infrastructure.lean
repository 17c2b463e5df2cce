import GnnSandbox.Graph.Spanner

/-!
# Syncing a VyOSInfrastructure

Each network becomes a `LogicalSubnet`. A network with at least two connected routers
is also a `PhysicalLink`, with an `Interface_Link` for every connected router that is
already in the store, whose interface takes over the link's bandwidth as its speed.
-/

namespace GnnSandbox.Graph

open Scd Effect

namespace Infrastructure

variable (env : Env)

/-! ## Rows -/

def subnetId (net : Network) : String := "subnet:" ++ net.name

def linkId (net : Network) : String := "link:" ++ net.name

/-- `net.get('bandwidth', 'unknown')` -/
def bandwidth (net : Network) : String := net.bandwidth.getD "unknown"

/-- `net.get('connected_routers', [])` -/
def connectedRouters (net : Network) : List ConnectedRouter := net.connectedRouters.getD []

/-- The row of `insert_subnet`. -/
def subnetRow (net : Network) : LogicalSubnet where
  id := subnetId net
  cidr := net.subnet.getD ""
  networkType := some (net.networkType.getD "unknown")
  description := some (net.description.getD "")
  operationalState := none
  mtu := none
  macAddress := none
  bridgeIp := none
  hostDeviceName := none
  properties := some net.dict

/-- The object `link_props`, in which the bandwidth stands so that a change of it shows. -/
def linkProps (net : Network) : Json :=
  .ofFields [("bandwidth", some (.str (bandwidth net))),
    ("connected_routers", some (.arr ((connectedRouters net).map ConnectedRouter.dict))),
    ("description", some (.str (net.description.getD ""))),
    ("mtu", some (.num (net.mtu.getD 1500))),
    ("network_type", some (.str (net.networkType.getD "unknown"))),
    ("subnet", some (.str (net.subnet.getD ""))),
    ("vlan", some ((net.vlan.map Json.num).getD .null))]

/-- The row of `insert_phy_link`. -/
def linkRow (net : Network) : PhysicalLink where
  id := linkId net
  name := some net.name
  bandwidth := some (bandwidth net)
  status := some (env.lower "UP")
  properties := some (linkProps net)

/-- The row of `insert_interface_link`. -/
def ifaceLinkRow (net : Network) (interfaceId : String) : InterfaceLink where
  interfaceId := interfaceId
  linkId := linkId net

/-! ## Transactions -/

def sqlUpsertSubnet (net : Network) : Transaction :=
  sqlUpsert .logicalSubnet (subnetRow net) fun row : LogicalSubnet =>
    row.properties = some net.dict

def sqlUpsertLink (net : Network) : Transaction :=
  sqlUpsert .physicalLink (linkRow env net) fun row : PhysicalLink =>
    row.properties = some (linkProps net) ∧ row.status = some (env.lower "UP")

def sqlUpsertIfaceLink (net : Network) (interfaceId : String) : Transaction :=
  sqlEnsure .interfaceLink (ifaceLinkRow net interfaceId)

/-- The interface row with the speed of its link. -/
def speedRow (interfaceId routerId ifaceName bandwidth : String) (row : PhysicalInterface) :
    PhysicalInterface where
  id := interfaceId
  routerId := routerId
  name := ifaceName
  speed := some bandwidth
  mediaType := row.mediaType
  ipAddress := row.ipAddress
  macAddress := row.macAddress
  status := row.status

def sqlSyncSpeed (interfaceId routerId ifaceName bandwidth : String) : Transaction :=
  sqlRevise .physicalInterface (.id interfaceId) fun
    | none => none -- the router sync picks the bandwidth up later
    | some (row : PhysicalInterface) =>
      if row.speed = some bandwidth then none
      else some (speedRow interfaceId routerId ifaceName bandwidth row)

/-! ## Controllers -/

/-- `_sync_iface_speed_from_bandwidth` -/
def syncIfaceSpeedFromBandwidth (interfaceId bandwidth : String) : Sync Unit :=
  if bandwidth = "" ∨ bandwidth = "unknown" then pure ()
  else
    match splitInTwo ":interface:" interfaceId with
    | none => pure () -- not exactly two parts
    | some (routerId, ifaceName) =>
      attempt env (sqlSyncSpeed interfaceId routerId ifaceName bandwidth)

/-- The open routers of a name. -/
def routersNamed (name : String) (db : Database) : Table Timestamp PhysicalRouter :=
  (db .physicalRouter).filter fun v => v.isActive && decide (v.data.name = name)

/-- `_get_router_id_by_name` -/
def getRouterIdByName (name : String) : Sync (Option String) := do
  let row ← snapshot env (routersNamed name) fun v => v.data.id
  return row.join.map fun v => v.data.id

/-- One pass of the loop over a link's connected routers. -/
def syncConnection (net : Network) (conn : ConnectedRouter) : Sync Unit :=
  match truthy conn.routerName, truthy conn.interface with
  | some routerName, some interfaceName => do
    let routerId ← getRouterIdByName env routerName
    match truthy routerId with
    | none => pure () -- the router is not in the store yet
    | some routerId => do
      let interfaceId := routerId ++ ":interface:" ++ interfaceName
      attempt env (sqlUpsertIfaceLink net interfaceId)
      if bandwidth net ≠ "" ∧ bandwidth net ≠ "unknown" then
        syncIfaceSpeedFromBandwidth env interfaceId (bandwidth net)
      else pure ()
  | _, _ => pure ()

/-- One pass of the loop over the networks. -/
def syncNetwork (net : Network) : Sync Unit := do
  attempt env (sqlUpsertSubnet net)
  if 2 ≤ (connectedRouters net).length then do
    attempt env (sqlUpsertLink env net)
    forM (connectedRouters net) (syncConnection env net)
  else pure ()

end Infrastructure

open Infrastructure

/-- `sync_vyos_infrastructure` -/
def syncVyosInfrastructure (env : Env) (spec : VyOSInfrastructure) : Sync Unit :=
  forM (spec.networks.getD []) (syncNetwork env)

/-! ## The rows it inserts -/

namespace Infrastructure

variable {env : Env}

/-- The interface at which a connected router takes part in a link, in a state of the
database that holds the router. -/
def Attaches (db : Database) (conn : ConnectedRouter) (interfaceId : String) : Prop :=
  ∃ routerName interfaceName, truthy conn.routerName = some routerName ∧
    truthy conn.interface = some interfaceName ∧
    ∃ v ∈ routersNamed routerName db, interfaceId = v.data.id ++ ":interface:" ++ interfaceName

/-- Setting the speed of an interface replaces its row. -/
def SpeedInserts (interfaceId bandwidth : String) : Admissible
  | _, .physicalInterface, row, x =>
    ∃ old, row = some old ∧ ∃ routerId ifaceName,
      splitInTwo ":interface:" interfaceId = some (routerId, ifaceName) ∧
        x = speedRow interfaceId routerId ifaceName bandwidth old
  | _, _, _, _ => False

/-- The rows that the connected routers of a link may insert. -/
def ConnectionInserts (net : Network) : Admissible
  | db, .interfaceLink, _, x =>
    ∃ conn ∈ connectedRouters net, ∃ interfaceId, Attaches db conn interfaceId ∧
      x = ifaceLinkRow net interfaceId
  | db, .physicalInterface, row, x =>
    ∃ interfaceId, SpeedInserts interfaceId (bandwidth net) db .physicalInterface row x
  | _, _, _, _ => False

/-- The rows that a link may insert. -/
def LinkInserts (env : Env) (net : Network) : Admissible
  | _, .physicalLink, _, x => x = linkRow env net
  | db, n, row, x => ConnectionInserts net db n row x

/-- The rows that a network may insert. -/
def NetworkInserts (env : Env) (net : Network) : Admissible
  | _, .logicalSubnet, _, x => x = subnetRow net
  | db, n, row, x => 2 ≤ (connectedRouters net).length ∧ LinkInserts env net db n row x

/-- The rows that a sync of `spec` may insert. -/
def Inserts (env : Env) (spec : VyOSInfrastructure) : Admissible := fun db n row x =>
  ∃ net ∈ spec.networks.getD [], NetworkInserts env net db n row x

variable {spec : VyOSInfrastructure} {net : Network} {conn : ConnectedRouter}

theorem respects_syncSpeed (interfaceId bandwidth : String) :
    Respects (Calls env (Revises (SpeedInserts interfaceId bandwidth)))
      (syncIfaceSpeedFromBandwidth env interfaceId bandwidth) := by
  unfold syncIfaceSpeedFromBandwidth
  refine Respects.ite (fun _ => Respects.pure ()) fun _ => ?_
  match hsplit : splitInTwo ":interface:" interfaceId with
  | none => exact Respects.pure ()
  | some (routerId, ifaceName) =>
    refine Respects.bind (respects_revise fun db row x hx => ?_) fun _ => Respects.pure ()
    match row with
    | none => cases hx
    | some old =>
      dsimp only at hx
      split at hx
      · cases hx
      · cases hx
        exact ⟨rfl, old, rfl, routerId, ifaceName, hsplit, rfl⟩

theorem after_getRouterIdByName (env : Env) (name : String) (w : World) :
    after (getRouterIdByName env name) w = ⟨w.db, w.calls + 1⟩ :=
  after_snapshot env (routersNamed name) (fun v => v.data.id) w

/-- The id that a lookup returns is that of an open router of the name. -/
theorem result_getRouterIdByName {name id : String} {w : World}
    (h : result (getRouterIdByName env name) w = some id) :
    ∃ v ∈ routersNamed name w.db, v.data.id = id := by
  have h' : (result (snapshot env (routersNamed name) fun v => v.data.id) w).join.map
      (fun v => v.data.id) = some id := h
  rw [Option.map_eq_some_iff] at h'
  obtain ⟨v, hv, hid⟩ := h'
  rw [Option.join_eq_some_iff] at hv
  exact ⟨v, result_snapshot_mem hv, hid⟩

theorem respects_getRouterIdByName {S : Admissible} (name : String) :
    Respects (Calls env (Revises S)) (getRouterIdByName env name) :=
  Respects.bind respects_query fun _ => Respects.pure _

theorem respects_syncConnection (hconn : conn ∈ connectedRouters net) :
    Respects (Calls env (Revises (ConnectionInserts net))) (syncConnection env net conn) := by
  unfold syncConnection
  split
  · next routerName interfaceName hrouter hiface =>
    intro w
    rw [after_bind]
    refine (respects_getRouterIdByName routerName w).trans ?_
    split
    · exact .refl
    · next routerId hid =>
      obtain ⟨v, hv, rfl⟩ := result_getRouterIdByName (truthy_eq_some.mp hid).1
      rw [after_getRouterIdByName, after_bind, after_attempt]
      -- the edge is written in the state in which the lookup found the router
      have hins : ∀ row, ConnectionInserts net w.db .interfaceLink row
          (ifaceLinkRow net (v.data.id ++ ":interface:" ++ interfaceName)) := fun _ =>
        ⟨conn, hconn, _, ⟨routerName, interfaceName, hrouter, hiface, v, hv, rfl⟩, rfl⟩
      have hedge : Calls env (Revises (ConnectionInserts net)) ⟨w.db, w.calls + 1⟩
          (after (runInTransaction env (sqlUpsertIfaceLink net
            (v.data.id ++ ":interface:" ++ interfaceName))) ⟨w.db, w.calls + 1⟩) :=
        calls_runInTransaction (Revises.refl _ _ _) fun db' hdb => sqlUpsert_spec hins hdb
      refine hedge.trans (Respects.ite (fun _ => ?_) (fun _ => Respects.pure ()) _)
      refine (respects_syncSpeed _ _).imp fun _ _ hc => hc.imp fun _ _ _ h =>
        h.imp fun n row x hx => ?_
      cases n with
      | physicalInterface => exact ⟨_, hx⟩
      | _ => exact hx.elim
  · exact Respects.pure ()

/-- What follows the subnet of a network. -/
theorem respects_syncLink :
    Respects (Calls env (Revises (LinkInserts env net))) (do
      attempt env (sqlUpsertLink env net)
      forM (connectedRouters net) (syncConnection env net)) := by
  refine Respects.bind (Respects.bind (respects_upsert fun _ _ => rfl) fun _ => Respects.pure ())
    fun _ => Respects.loop fun conn hconn => ?_
  refine (respects_syncConnection hconn).imp fun _ _ hc => hc.imp fun _ _ _ h =>
    h.imp fun n row x hx => ?_
  cases n with
  | physicalLink => exact hx.elim
  | _ => exact hx

theorem respects_syncNetwork :
    Respects (Calls env (Revises (NetworkInserts env net))) (syncNetwork env net) := by
  unfold syncNetwork
  refine Respects.bind (Respects.bind (respects_upsert fun _ _ => rfl) fun _ => Respects.pure ())
    fun _ => Respects.ite (fun htwo => ?_) fun _ => Respects.pure ()
  refine respects_syncLink.imp fun _ _ hc => hc.imp fun _ _ _ h => h.imp fun n row x hx => ?_
  cases n with
  | logicalSubnet => exact hx.elim
  | _ => exact ⟨htwo, hx⟩

end Infrastructure

/-- A sync of `spec` closes no version without replacing it. -/
theorem respects_syncVyosInfrastructure (env : Env) (spec : VyOSInfrastructure) :
    Respects (Calls env (Revises (Inserts env spec))) (syncVyosInfrastructure env spec) :=
  Respects.loop fun net hnet => respects_syncNetwork.imp fun _ _ hc => hc.imp fun _ _ _ h =>
    h.imp fun _ _ _ hx => ⟨net, hnet, hx⟩

/-- The transaction of `delete_vyos_infrastructure`. -/
def Infrastructure.sqlDelete : Transaction :=
  deleteRows .interfaceLink (fun row : InterfaceLink => like row.linkId "link:%")
    |>.andThen (closeRows .physicalLink fun row : PhysicalLink => like row.id "link:%")
    |>.andThen (deleteRows .subnetAssociation fun row : SubnetAssociation =>
      like row.subnetId "subnet:%")
    |>.andThen (closeRows .logicalSubnet fun row : LogicalSubnet => like row.id "subnet:%")

/-- `delete_vyos_infrastructure`: neither the uid nor the spec is looked at. -/
def deleteVyosInfrastructure (env : Env) : Sync Unit := attempt env Infrastructure.sqlDelete

theorem Infrastructure.sqlDelete_eq (now : Timestamp) (db : Database) :
    Infrastructure.sqlDelete now db = some
      ((((db.set .interfaceLink (deleteWhere (fun row : InterfaceLink => like row.linkId "link:%")
          (db .interfaceLink))).set
        .physicalLink (closeWhere now (fun row : PhysicalLink => like row.id "link:%")
          (db .physicalLink))).set
        .subnetAssociation (deleteWhere (fun row : SubnetAssociation =>
          like row.subnetId "subnet:%") (db .subnetAssociation))).set
        .logicalSubnet (closeWhere now (fun row : LogicalSubnet => like row.id "subnet:%")
          (db .logicalSubnet))) := by
  simp [Infrastructure.sqlDelete, Transaction.andThen, deleteRows, closeRows]

theorem respects_deleteVyosInfrastructure (env : Env) (S : Admissible) :
    Respects (Calls env (Steps S)) (deleteVyosInfrastructure env) := by
  refine Respects.bind (respects_runInTransaction (Steps.refl S) fun now db db' h => ?_)
    fun _ => Respects.pure ()
  rw [Infrastructure.sqlDelete_eq, Option.some.injEq] at h
  subst h
  refine ((((Steps.refl S now db).set rfl ?_).set ?_ ?_).set ?_ ?_).set ?_ ?_
  all_goals try simp
  · exact .delete _
  · exact .write (.close _)
  · exact .delete _
  · exact .write (.close _)

end GnnSandbox.Graph
