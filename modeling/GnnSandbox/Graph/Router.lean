import GnnSandbox.Graph.Spanner

/-!
# Syncing a VyOSRouter

The router's row is written first; when that fails nothing else is. Then each
interface gets its `PhysicalInterface`, with the bandwidth of a link it is attached to
as its speed, and an interface with an address in CIDR notation gets a `LogicalSubnet`
and the association to it.
-/

namespace GnnSandbox.Graph

open Scd Effect

/-- `get_status` for the kinds whose status only has conditions: `none` when the list of
conditions is empty and the lookup of its first element raises. -/
def getStatus (conditions : Option (List (Option String))) : Option String :=
  match conditions with
  | none => some "NULL"
  | some [] => none
  | some (reason :: _) => some (reason.getD "NULL")

/-- The phase, else what `get_status` finds, else `Unknown`. -/
def phaseOrStatus (phase : Option String) (conditions : Option (List (Option String))) :
    Option String :=
  match phase with
  | some phase => some phase
  | none => (getStatus conditions).map fun s => if s = "NULL" then "Unknown" else s

namespace Router

variable (env : Env)

/-! ## The router's row -/

def routerId (r : VyOSRouter) : String := "router:" ++ r.metadata.name

/-- `router_status`; `none` when computing it raises. -/
def routerStatus (r : VyOSRouter) : Option String :=
  phaseOrStatus (r.status.bind RouterStatus.phase) (r.status.bind RouterStatus.conditions)

/-- A coordinate: the first true value among two fields of the location and two labels. -/
def coordinate (a b : Option Float64) (label₁ label₂ : Option String) : Option Float64 :=
  match a.filter Float64.truthy, b.filter Float64.truthy with
  | some x, _ | none, some x => some x
  | none, none =>
    match orElse (truthy label₁) (truthy label₂) with
    | some s => env.float s
    | none => some (.finite 0)

/-- The row of `insert_phy_router`; `none` when a coordinate is no number. -/
def routerRow (r : VyOSRouter) (status : String) : Option PhysicalRouter := do
  let location := r.spec.location.getD ⟨none, none, none, none, none⟩
  let label := r.metadata.label
  let lat ← coordinate env location.latitude location.lat (label "latitude") (label "lat")
  let lon ← coordinate env location.longitude location.lon (label "longitude") (label "lon")
  return {
    id := routerId r
    name := r.metadata.name
    vendor := some (r.spec.vendor.getD "VyOS")
    model := some (r.spec.model.getD "Virtual")
    locationCity := orElse location.city (some ((label "city").getD "Unknown"))
    locationLat := some lat
    locationLon := some lon
    role := some (r.spec.role.getD "Router")
    status := some (env.lower status)
    config := some (sanitizeK8sBody r) }

/-- The stored version is up to date. -/
def routerUnchanged (r : VyOSRouter) (status : String) (row : PhysicalRouter) : Bool :=
  row.config = some (sanitizeK8sBody r) ∧ row.status = some (env.lower status)

/-- The coordinates are only computed when a row is inserted. -/
def sqlUpsertRouter (r : VyOSRouter) (status : String) : Transaction :=
  match routerRow env r status with
  | some row => sqlUpsert .physicalRouter row (routerUnchanged env r status)
  | none => fun _ db =>
    match db.active .physicalRouter (.id (routerId r)) with
    | [v] => if routerUnchanged env r status v.data then some db else none
    | _ => none

/-! ## Interfaces -/

/-- `iface_data`, which is empty for a bare name. -/
def ifaceData : InterfaceSpec → InterfaceData
  | .name _ => ⟨none, none, none, none, none, none, .obj []⟩
  | .object data => data

def ifaceName : InterfaceSpec → String
  | .name s => s
  | .object data => data.name.getD "unknown"

def ifaceId (r : VyOSRouter) (iface : InterfaceSpec) : String :=
  routerId r ++ ":interface:" ++ ifaceName iface

/-- The address without its prefix length. -/
def ipAddress (iface : InterfaceSpec) : String :=
  splitHead "/" ((ifaceData iface).address.getD "0.0.0.0")

/-- The status that the first entry of `status.interfaces` with the interface's name gives. -/
def reportedStatus (r : VyOSRouter) (iface : InterfaceSpec) : String :=
  let entries := ((r.status.bind RouterStatus.interfaces).getD []).reduceOption
  match entries.find? fun e => e.1 = some (ifaceName iface) with
  | some e => e.2.getD "Unknown"
  | none => "Unknown"

def ifaceStatus (r : VyOSRouter) (status : String) (iface : InterfaceSpec) : String :=
  if reportedStatus r iface = "Unknown" then
    if (ifaceData iface).enabled.getD true then
      if status = "Running" ∨ status = "Ready" then "UP" else "DOWN"
    else "ADMIN_DOWN"
  else reportedStatus r iface

def mediaType (iface : InterfaceSpec) : String :=
  if ifaceName iface = "lo" then "loopback" else (ifaceData iface).mediaType.getD "ethernet"

/-- The open links that an open edge attaches to an interface. -/
def linksOf (interfaceId : String) (db : Database) : List PhysicalLink :=
  ((db .interfaceLink).filter fun e : Version Timestamp InterfaceLink =>
      e.isActive && decide (e.data.interfaceId = interfaceId)).flatMap fun e =>
    ((db .physicalLink).filter fun l : Version Timestamp PhysicalLink =>
      l.isActive && decide (l.data.id = e.data.linkId)).map Version.data

/-- The bandwidth of an attached link if it is known, else the speed of the spec. -/
def speedFrom (iface : InterfaceSpec) (link : Option PhysicalLink) : String :=
  match truthy (link.bind PhysicalLink.bandwidth) with
  | some b => if b = "unknown" then (ifaceData iface).speed.getD "1G" else b
  | none => (ifaceData iface).speed.getD "1G"

/-- `speed`, looked up unless the interface is the loopback. -/
def lookupSpeed (r : VyOSRouter) (iface : InterfaceSpec) : Sync String :=
  if ifaceName iface = "lo" then return "N/A"
  else do
    let link ← snapshot env (linksOf (ifaceId r iface)) PhysicalLink.id
    return speedFrom iface link.join

/-- The row of `insert_phy_interface`. -/
def ifaceRow (r : VyOSRouter) (status : String) (iface : InterfaceSpec) (speed : String) :
    PhysicalInterface where
  id := ifaceId r iface
  routerId := routerId r
  name := ifaceName iface
  speed := some speed
  mediaType := some (mediaType iface)
  ipAddress := some (ipAddress iface)
  macAddress := some ((ifaceData iface).mac.getD "")
  status := some (env.lower (ifaceStatus r status iface))

/-- The comparison is with the status before it is lowered. -/
def sqlUpsertIface (r : VyOSRouter) (status : String) (iface : InterfaceSpec) (speed : String) :
    Transaction :=
  sqlUpsert .physicalInterface (ifaceRow env r status iface speed) fun row : PhysicalInterface =>
    row.speed = some speed ∧ row.mediaType = some (mediaType iface) ∧
      row.ipAddress = some (ipAddress iface) ∧
      row.macAddress = some ((ifaceData iface).mac.getD "") ∧
      row.status = some (ifaceStatus r status iface)

/-! ## Subnets of interfaces -/

/-- The row of `insert_subnet`. -/
def subnetRow (addrCidr : String) (iface : InterfaceSpec) : LogicalSubnet where
  id := "subnet:" ++ addrCidr
  cidr := addrCidr
  networkType := some "interface"
  description := some ("Subnet for interface " ++ ifaceName iface)
  operationalState := none
  mtu := none
  macAddress := none
  bridgeIp := none
  hostDeviceName := none
  properties := some (.obj [])

def sqlUpsertSubnet (addrCidr : String) (iface : InterfaceSpec) : Transaction :=
  sqlUpsert .logicalSubnet (subnetRow addrCidr iface) fun row : LogicalSubnet =>
    row.properties = some (.obj [])

/-- The row of `insert_subnet_assoc`. -/
def assocRow (r : VyOSRouter) (iface : InterfaceSpec) (addrCidr : String) : SubnetAssociation where
  entityId := ifaceId r iface
  subnetId := "subnet:" ++ addrCidr
  entityType := some "Interface"

def sqlUpsertSubnetAssoc (r : VyOSRouter) (iface : InterfaceSpec) (addrCidr : String) :
    Transaction :=
  sqlEnsure .subnetAssociation (assocRow r iface addrCidr)

/-! ## Controllers -/

/-- The address of an interface when it is in CIDR notation. -/
def addrCidr (iface : InterfaceSpec) : Option String :=
  (truthy (ifaceData iface).address).filter fun a => contains a "/"

/-- One pass of the loop over the interfaces. -/
def syncInterface (r : VyOSRouter) (status : String) (iface : InterfaceSpec) : Sync Unit := do
  let speed ← lookupSpeed env r iface
  attempt env (sqlUpsertIface env r status iface speed)
  match addrCidr iface with
  | none => pure ()
  | some addr => do
    let created ← runInTransaction env (sqlUpsertSubnet addr iface)
    if created then attempt env (sqlUpsertSubnetAssoc r iface addr) else pure ()

/-- The ids of the interfaces, open or closed, of a router. -/
def interfaceIds (routerId : String) (db : Database) : List String :=
  (db .physicalInterface).filterMap fun v : Version Timestamp PhysicalInterface =>
    if v.data.routerId = routerId then some v.data.id else none

/-- The transaction of `delete_physical_router`. -/
def sqlDeleteRouter (routerId : String) : Transaction := fun now db =>
  let ids := interfaceIds routerId db
  (deleteRows .subnetAssociation (fun row : SubnetAssociation => row.entityId ∈ ids)
    |>.andThen (deleteRows .interfaceLink fun row : InterfaceLink => row.interfaceId ∈ ids)
    |>.andThen (closeRows .physicalRouter fun row : PhysicalRouter => row.id = routerId)
    |>.andThen (closeRows .physicalInterface fun row : PhysicalInterface =>
      row.routerId = routerId)) now db

end Router

open Router

/-- `sync_physical_router` -/
def syncPhysicalRouter (env : Env) (r : VyOSRouter) : Sync Unit :=
  match routerStatus r with
  | none => pure ()
  | some status => do
    let committed ← runInTransaction env (sqlUpsertRouter env r status)
    if committed then forM (r.spec.interfaces.getD []) (syncInterface env r status) else pure ()

/-! ## The rows it inserts -/

namespace Router

variable {env : Env} {r : VyOSRouter} {status : String} {iface : InterfaceSpec}

/-- The rows that the interfaces of `r` may insert. -/
def InterfaceInserts (env : Env) (r : VyOSRouter) : Admissible
  | _, .physicalInterface, _, x =>
    ∃ status ∈ routerStatus r, ∃ iface ∈ r.spec.interfaces.getD [], ∃ speed,
      x = ifaceRow env r status iface speed
  | _, .logicalSubnet, _, x =>
    (routerStatus r).isSome ∧ ∃ iface ∈ r.spec.interfaces.getD [], ∃ addr ∈ addrCidr iface,
      x = subnetRow addr iface
  | _, .subnetAssociation, _, x =>
    (routerStatus r).isSome ∧ ∃ iface ∈ r.spec.interfaces.getD [], ∃ addr ∈ addrCidr iface,
      x = assocRow r iface addr
  | _, _, _, _ => False

/-- The rows that a sync of `r` may insert. -/
def Inserts (env : Env) (r : VyOSRouter) : Admissible
  | _, .physicalRouter, _, x => ∃ status ∈ routerStatus r, routerRow env r status = some x
  | db, n, row, x => InterfaceInserts env r db n row x

theorem InterfaceInserts.inserts {db : Database} {n : TableName} {row : Option (Row n)} {x : Row n}
    (h : InterfaceInserts env r db n row x) : Inserts env r db n row x := by
  cases n with
  | physicalRouter => exact h.elim
  | _ => exact h

theorem respects_lookupSpeed {S : Admissible} :
    Respects (Calls env (Revises S)) (lookupSpeed env r iface) :=
  Respects.ite (fun _ => Respects.pure _) fun _ =>
    Respects.bind respects_query fun _ => Respects.pure _

theorem respects_syncInterface (hs : status ∈ routerStatus r)
    (hi : iface ∈ r.spec.interfaces.getD []) :
    Respects (Calls env (Revises (InterfaceInserts env r))) (syncInterface env r status iface) := by
  unfold syncInterface attempt
  refine Respects.bind respects_lookupSpeed fun speed => ?_
  refine Respects.bind (Respects.bind
    (respects_upsert fun _ _ => ⟨status, hs, iface, hi, speed, rfl⟩) fun _ => Respects.pure ())
    fun _ => ?_
  match ha : addrCidr iface with
  | none => exact Respects.pure ()
  | some addr =>
    have hsome := Option.isSome_of_mem hs
    refine Respects.bind (respects_upsert fun _ _ => ⟨hsome, iface, hi, addr, ha, rfl⟩) fun _ =>
      Respects.ite (fun _ => ?_) fun _ => Respects.pure ()
    exact Respects.bind (respects_upsert fun _ _ => ⟨hsome, iface, hi, addr, ha, rfl⟩) fun _ =>
      Respects.pure ()

theorem sqlUpsertRouter_spec {now : Timestamp} {db db' : Database} (hs : status ∈ routerStatus r)
    (h : sqlUpsertRouter env r status now db = some db') :
    Revises (Inserts env r) now db db' := by
  unfold sqlUpsertRouter at h
  match hrow : routerRow env r status with
  | some row =>
    rw [hrow] at h
    have hins : ∀ old, Inserts env r db .physicalRouter old row := fun _ => ⟨status, hs, hrow⟩
    exact sqlUpsert_spec hins h
  | none =>
    -- without a row the transaction either changes nothing or raises
    rw [hrow] at h
    dsimp only at h
    split at h
    · split at h
      · cases h
        exact Revises.refl _ _ _
      · cases h
    · cases h

end Router

/-- A sync of `r` closes no version without replacing it. -/
theorem respects_syncPhysicalRouter (env : Env) (r : VyOSRouter) :
    Respects (Calls env (Revises (Router.Inserts env r))) (syncPhysicalRouter env r) := by
  unfold syncPhysicalRouter
  match hs : routerStatus r with
  | none => exact Respects.pure ()
  | some status =>
    refine Respects.bind (respects_runInTransaction (Revises.refl _) fun _ _ _ h =>
      sqlUpsertRouter_spec hs h) fun _ => Respects.ite (fun _ => ?_) fun _ => Respects.pure ()
    exact Respects.loop fun iface hi => (respects_syncInterface hs hi).imp fun _ _ hc =>
      hc.imp fun _ _ _ h => h.imp fun _ _ _ hx => hx.inserts

/-- `delete_physical_router` -/
def deletePhysicalRouter (env : Env) (name : ResourceName) : Sync Unit :=
  attempt env (sqlDeleteRouter ("router:" ++ name))

theorem Router.sqlDeleteRouter_eq (routerId : String) (now : Timestamp) (db : Database) :
    sqlDeleteRouter routerId now db = some
      ((((db.set .subnetAssociation (deleteWhere
          (fun row : SubnetAssociation => decide (row.entityId ∈ interfaceIds routerId db))
          (db .subnetAssociation))).set
        .interfaceLink (deleteWhere
          (fun row : InterfaceLink => decide (row.interfaceId ∈ interfaceIds routerId db))
          (db .interfaceLink))).set
        .physicalRouter (closeWhere now (fun row : PhysicalRouter => decide (row.id = routerId))
          (db .physicalRouter))).set
        .physicalInterface (closeWhere now
          (fun row : PhysicalInterface => decide (row.routerId = routerId))
          (db .physicalInterface))) := by
  simp [sqlDeleteRouter, Transaction.andThen, deleteRows, closeRows]

theorem respects_deletePhysicalRouter (env : Env) (name : ResourceName) (S : Admissible) :
    Respects (Calls env (Steps S)) (deletePhysicalRouter env name) := by
  refine Respects.bind (respects_runInTransaction (Steps.refl S) fun now db db' h => ?_)
    fun _ => Respects.pure ()
  rw [Router.sqlDeleteRouter_eq, Option.some.injEq] at h
  subst h
  refine ((((Steps.refl S now db).set rfl ?_).set ?_ ?_).set ?_ ?_).set ?_ ?_
  all_goals try simp
  · exact .delete _
  · exact .delete _
  · exact .write (.close _)
  · exact .write (.close _)

end GnnSandbox.Graph
