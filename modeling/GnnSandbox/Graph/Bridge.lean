import GnnSandbox.Graph.Spanner

/-!
# Syncing a host network bridge

The bridge's state goes into the `LogicalSubnet` of its network. Each of its veth pairs
becomes a `PhysicalLink`, linked to the interface inside the container, which is also
associated with the bridge's subnet. The veth counters go to a table of metrics whose
writes are disabled.
-/

namespace GnnSandbox.Graph

open Scd Effect

namespace Bridge

variable (env : Env)

/-! ## The bridge's subnet -/

/-- `spec.get('name', name)` -/
def hostDeviceName (name : String) (spec : BridgeSpec) : String := spec.name.getD name

def subnetId (name : String) (spec : BridgeSpec) : String := "subnet:" ++ hostDeviceName name spec

def operationalState (status : BridgeStatus) : String :=
  env.upper (status.operationalState.getD "unknown")

def mtu (status : BridgeStatus) : Option ℤ := status.mtu.getD (some 1500)

def macAddress (status : BridgeStatus) : Option String := status.macAddress.getD (some "")

def bridgeIp (status : BridgeStatus) : Option String := status.ipAddress.getD (some "")

/-- The object `properties`. -/
def properties (spec : BridgeSpec) : Json :=
  .ofFields [("bandwidth", some ((spec.bandwidth.map Json.str).getD .null)),
    ("gateway", some ((spec.gateway.map Json.str).getD .null)),
    ("network_type", some ((spec.networkType.map Json.str).getD .null)),
    ("vlan", some ((spec.vlan.map Json.num).getD .null))]

/-- The row that is inserted. -/
def subnetRow (name : String) (spec : BridgeSpec) (status : BridgeStatus) : LogicalSubnet where
  id := subnetId name spec
  cidr := spec.subnet.getD ""
  networkType := some (spec.networkType.getD "unknown")
  description := some ("Bridge: " ++ hostDeviceName name spec)
  operationalState := some (operationalState env status)
  mtu := mtu status
  macAddress := macAddress status
  bridgeIp := bridgeIp status
  hostDeviceName := some (hostDeviceName name spec)
  properties := some (properties spec)

/-- `row[5] if row[5] else {}` -/
def existingProps (row : LogicalSubnet) : Json :=
  (row.properties.filter Json.truthy).getD (.obj [])

/-- A stored object compares equal to `properties` only when it is that object. -/
theorem existingProps_eq_iff {row : LogicalSubnet} {spec : BridgeSpec} :
    existingProps row = properties spec ↔ row.properties = some (properties spec) := by
  have htruthy : (properties spec).truthy = true := by simp [properties, Json.ofFields, Json.truthy]
  constructor
  · intro h
    unfold existingProps at h
    cases hp : row.properties.filter Json.truthy with
    | none =>
      rw [hp, Option.getD_none] at h
      rw [← h] at htruthy
      cases htruthy
    | some p =>
      rw [hp, Option.getD_some] at h
      rw [← h]
      exact (Option.filter_eq_some_iff.mp hp).1
  · intro h
    rw [existingProps, h, Option.filter_some, if_pos htruthy, Option.getD_some]

/-- The comparison with the stored state, in which a null or a zero reads as a default. -/
def subnetUnchanged (name : String) (spec : BridgeSpec) (status : BridgeStatus)
    (row : LogicalSubnet) : Bool :=
  (truthy row.operationalState).getD "unknown" = operationalState env status ∧
    some (row.mtu.getD 0) = mtu status ∧
    some (row.macAddress.getD "") = macAddress status ∧
    some (row.bridgeIp.getD "") = bridgeIp status ∧
    row.hostDeviceName.getD "" = hostDeviceName name spec ∧
    existingProps row = properties spec

def sqlUpsertSubnet (name : String) (spec : BridgeSpec) (status : BridgeStatus) : Transaction :=
  sqlUpsert .logicalSubnet (subnetRow env name spec status) (subnetUnchanged env name spec status)

/-! ## Veth pairs -/

/-- The open interfaces of a name on routers whose id starts like `router:<prefix>`. -/
def containerInterfaces (routerPrefix interfaceName : String) (db : Database) :
    Table Timestamp PhysicalInterface :=
  (db .physicalInterface).filter fun v =>
    v.isActive && decide (v.data.name = interfaceName) &&
      like v.data.routerId ("router:" ++ routerPrefix ++ "%")

/-- `_resolve_container_interface_id` -/
def resolveContainerInterfaceId (routerPrefix interfaceName : String) : Sync String := do
  let row ← snapshot env (containerInterfaces routerPrefix interfaceName) fun v => v.data.id
  match row.join with
  | some v => return v.data.id
  | none => return "router:" ++ routerPrefix ++ ":interface:" ++ interfaceName

/-- The object `properties` of a veth link. -/
def vethProperties (hostVethName containerIfaceId : String) : Json :=
  .ofFields [("container_interface", some (.str containerIfaceId)),
    ("host_veth", some (.str hostVethName))]

/-- The row of `insert_phy_link`. -/
def vethRow (linkId hostVethName containerIfaceId bandwidth state : String) : PhysicalLink where
  id := linkId
  name := some ("veth: " ++ hostVethName ++ " ↔ " ++ containerIfaceId)
  bandwidth := some (if bandwidth ≠ "none" then bandwidth else "N/A")
  status := some (env.lower state)
  properties := some (vethProperties hostVethName containerIfaceId)

/-- The state is compared before it is lowered. -/
def vethUnchanged (hostVethName containerIfaceId state : String) (row : PhysicalLink) : Bool :=
  row.status = some state ∧ row.properties = some (vethProperties hostVethName containerIfaceId)

/-- The edge is only looked at when the link gets a new version. -/
def sqlUpsertLink (linkId hostVethName containerIfaceId bandwidth state : String) : Transaction :=
  fun now db =>
    match db.active .physicalLink (.id linkId) with
    | [v] =>
      if vethUnchanged hostVethName containerIfaceId state v.data then some db
      else insertLink now db
    | _ => insertLink now db
where
  insertLink : Transaction :=
    (sqlUpsert .physicalLink (vethRow env linkId hostVethName containerIfaceId bandwidth state)
      (vethUnchanged hostVethName containerIfaceId state)).andThen
    (sqlEnsure .interfaceLink ⟨containerIfaceId, linkId⟩)

/-- `_sync_container_bridge_association` -/
def syncContainerBridgeAssociation (containerInterfaceId subnetId : String) : Sync Unit :=
  attempt env (sqlEnsure .subnetAssociation
    ⟨containerInterfaceId, subnetId, some "Interface"⟩)

/-- One pass of the loop of `sync_veth_pairs`. -/
def syncVethPair (subnetId : String) (vethData : Option VethData) : Sync Unit :=
  match vethData with
  | none => pure () -- not an object
  | some data =>
    match truthy data.veth with
    | none => pure ()
    | some vethName =>
      match rsplitOnce '-' vethName with
      | none => pure () -- no second part
      | some (routerPart, interfacePart) => do
        let hostVethName := "host:veth:" ++ vethName
        let vethLinkId := "link:veth:" ++ routerPart ++ ":" ++ interfacePart
        let containerInterfaceId ← resolveContainerInterfaceId env routerPart interfacePart
        attempt env (sqlUpsertLink env vethLinkId hostVethName containerInterfaceId
          (data.bw.getD "none") (data.state.getD "unknown"))
        syncContainerBridgeAssociation env containerInterfaceId subnetId

/-- `sync_veth_pairs` -/
def syncVethPairs (subnetId : String) (vethPairs : List (Option VethData)) : Sync Unit :=
  forM vethPairs (syncVethPair env subnetId)

end Bridge

open Bridge in
/-- `sync_host_network_bridge` -/
def syncHostNetworkBridge (env : Env) (name : ResourceName) (spec : BridgeSpec)
    (status : BridgeStatus) : Sync Unit := do
  let committed ← runInTransaction env (sqlUpsertSubnet env name spec status)
  if committed then syncVethPairs env (subnetId name spec) (status.vethPairs.getD []) else pure ()

/-! ## The rows it inserts -/

namespace Bridge

variable {env : Env}

/-- The rows that the veth pairs of a bridge may insert. -/
def VethInserts (env : Env) (subnetId : String) : Admissible
  | _, .physicalLink, _, x => ∃ suffix hostVethName containerIfaceId bandwidth state,
      x = vethRow env ("link:veth:" ++ suffix) hostVethName containerIfaceId bandwidth state
  | _, .interfaceLink, _, x =>
    ∃ containerIfaceId suffix, x = ⟨containerIfaceId, "link:veth:" ++ suffix⟩
  | _, .subnetAssociation, _, x =>
    ∃ containerIfaceId, x = ⟨containerIfaceId, subnetId, some "Interface"⟩
  | _, _, _, _ => False

/-- The rows that a sync of a bridge may insert. -/
def Inserts (env : Env) (name : ResourceName) (spec : BridgeSpec) (status : BridgeStatus) :
    Admissible
  | _, .logicalSubnet, _, x => x = subnetRow env name spec status
  | db, n, row, x => VethInserts env (subnetId name spec) db n row x

theorem sqlUpsertLink_spec {S : Admissible} {now : Timestamp} {db db' : Database}
    {linkId hostVethName containerIfaceId bandwidth state : String}
    (hlink : ∀ row, S db .physicalLink row
      (vethRow env linkId hostVethName containerIfaceId bandwidth state))
    (hedge : ∀ row, S db .interfaceLink row ⟨containerIfaceId, linkId⟩)
    (h : sqlUpsertLink env linkId hostVethName containerIfaceId bandwidth state now db = some db') :
    Revises S now db db' := by
  have hinsert : sqlUpsertLink.insertLink env linkId hostVethName containerIfaceId bandwidth state
      now db = some db' → Revises S now db db' := by
    intro h
    unfold sqlUpsertLink.insertLink Transaction.andThen at h
    rw [Option.bind_eq_some_iff] at h
    obtain ⟨db₁, h₁, h₂⟩ := h
    -- the edge table is untouched when the edge is looked up
    obtain ⟨t₁, -, rfl⟩ := Option.map_eq_some_iff.mp h₁
    obtain ⟨t₂, ht₂, rfl⟩ := Option.map_eq_some_iff.mp h₂
    refine (sqlUpsert_spec hlink h₁).set (by simp) (revise_revision (fun row x hx => ?_) ht₂)
    match row with
    | none => cases hx; exact ⟨rfl, hedge _⟩
    | some row => cases hx
  unfold sqlUpsertLink at h
  split at h
  · split at h
    · cases h
      exact Revises.refl _ _ _
    · exact hinsert h
  · exact hinsert h

theorem respects_syncVethPair (subnetId : String) (vethData : Option VethData) :
    Respects (Calls env (Revises (VethInserts env subnetId))) (syncVethPair env subnetId vethData) := by
  unfold syncVethPair
  split
  · exact Respects.pure ()
  · split
    · exact Respects.pure ()
    · split
      · exact Respects.pure ()
      · next routerPart interfacePart _ =>
        have hresolve : Respects (Calls env (Revises (VethInserts env subnetId)))
            (resolveContainerInterfaceId env routerPart interfacePart) := by
          refine Respects.bind respects_query fun row => ?_
          split <;> exact Respects.pure _
        refine Respects.bind hresolve fun containerIfaceId => ?_
        refine Respects.bind (Respects.bind (respects_runInTransaction (Revises.refl _)
          fun now db db' h => ?_) fun _ => Respects.pure ()) fun _ => ?_
        · have hid : "link:veth:" ++ routerPart ++ ":" ++ interfacePart =
              "link:veth:" ++ (routerPart ++ ":" ++ interfacePart) := by
            simp only [String.append_assoc]
          refine sqlUpsertLink_spec (fun _ => ?_) (fun _ => ?_) h
          · exact ⟨routerPart ++ ":" ++ interfacePart, _, _, _, _, by rw [hid]⟩
          · exact ⟨containerIfaceId, routerPart ++ ":" ++ interfacePart, by rw [hid]⟩
        · exact Respects.bind (respects_upsert fun _ _ => ⟨containerIfaceId, rfl⟩) fun _ =>
            Respects.pure ()

theorem respects_syncVethPairs (subnetId : String) (vethPairs : List (Option VethData)) :
    Respects (Calls env (Revises (VethInserts env subnetId)))
      (syncVethPairs env subnetId vethPairs) :=
  Respects.loop fun vethData _ => respects_syncVethPair subnetId vethData

end Bridge

/-- A sync of a bridge closes no version without replacing it. -/
theorem respects_syncHostNetworkBridge (env : Env) (name : ResourceName) (spec : BridgeSpec)
    (status : BridgeStatus) :
    Respects (Calls env (Revises (Bridge.Inserts env name spec status)))
      (syncHostNetworkBridge env name spec status) := by
  refine Respects.bind (respects_upsert fun _ _ => rfl) fun _ =>
    Respects.ite (fun _ => ?_) fun _ => Respects.pure ()
  refine (Bridge.respects_syncVethPairs _ _).imp fun _ _ hc => hc.imp fun _ _ _ h =>
    h.imp fun n row x hx => ?_
  cases n with
  | logicalSubnet => exact hx.elim
  | _ => exact hx

end GnnSandbox.Graph
