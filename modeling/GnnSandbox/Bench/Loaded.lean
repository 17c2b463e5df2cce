import GnnSandbox.Bench.Saved

/-!
# Loading a golden twin

`load_golden_twin` parses a file, builds the twin from its fields, none of which may be unknown, and
validates it with its hash. Numbers are coerced as the models coerce them when they are not strict.
-/

namespace GnnSandbox.Bench

open Graph (Float64)
/-! ## Fields -/

/-- The numbers that the models read from other values, if any. -/
structure Coercions where
  intOfFloat : Float64 → Option ℤ
  intOfStr : String → Option ℤ
  floatOfInt : ℤ → Option Float64
  floatOfStr : String → Option Float64

/-- Coercions of numbers that are integers. -/
def Coercions.plain : Coercions where
  intOfFloat
    | .finite q => if q.den = 1 then some q.num else none
    | _ => none
  intOfStr s := JsonText.readInt s.toList
  floatOfInt n := some (.finite n)
  floatOfStr s := (JsonText.readInt s.toList).map fun n => .finite n

namespace Field

def asStr : Value → Option String
  | .str s => some s
  | _ => none

def asInt (c : Coercions) : Value → Option ℤ
  | .int n => some n
  | .bool b => some (if b then 1 else 0)
  | .float x => c.intOfFloat x
  | .str s => c.intOfStr s
  | _ => none

def asFloat (c : Coercions) : Value → Option Float64
  | .float x => some x
  | .int n => c.floatOfInt n
  | .bool b => some (.finite (if b then 1 else 0))
  | .str s => c.floatOfStr s
  | _ => none

/-- `dict[str, Any]`, or the fields of a model. -/
def asDict : Value → Option Row
  | .dict fields => some fields
  | _ => none

/-- `T | None` -/
def nullable {α : Type} (decode : Value → Option α) : Value → Option (Option α)
  | .none => some none
  | a => (decode a).map some

/-- `list[T]` -/
def listOf {α : Type} (decode : Value → Option α) : Value → Option (List α)
  | .list items => items.mapM decode
  | _ => none

section

variable {α : Type} (row : Row) (column : String)

def required (decode : Value → Option α) : Option α := (row.lookup column).bind decode

def withDefault (default : α) (decode : Value → Option α) : Option α :=
  match row.lookup column with
  | none => some default
  | some a => decode a

/-- A field `T | None = None`. -/
def orNone (decode : Value → Option α) : Option (Option α) :=
  withDefault row column none (nullable decode)

end

/-- `extra="forbid"` -/
def forbidExtra (row : Row) (columns : List String) : Option Unit :=
  if ∀ column ∈ row.columns, column ∈ columns then some () else none

end Field

open Field

/-! ## Models -/

section

variable (c : Coercions) (row : Row)

def PhysicalRouter.validate : Option PhysicalRouter := do
  forbidExtra row Table.physicalRouter.columns
  return {
    id := ← required row "id" asStr
    name := ← required row "name" asStr
    vendor := ← orNone row "vendor" asStr
    model := ← orNone row "model" asStr
    locationCity := ← orNone row "location_city" asStr
    locationLat := ← orNone row "location_lat" (asFloat c)
    locationLon := ← orNone row "location_lon" (asFloat c)
    role := ← orNone row "role" asStr
    status := ← orNone row "status" asStr
    config := ← orNone row "config" asDict }

def PhysicalInterface.validate : Option PhysicalInterface := do
  forbidExtra row Table.physicalInterface.columns
  return {
    id := ← required row "id" asStr
    routerId := ← required row "router_id" asStr
    name := ← required row "name" asStr
    speed := ← orNone row "speed" asStr
    mediaType := ← orNone row "media_type" asStr
    ipAddress := ← orNone row "ip_address" asStr
    macAddress := ← orNone row "mac_address" asStr
    status := ← orNone row "status" asStr }

def PhysicalLink.validate : Option PhysicalLink := do
  forbidExtra row Table.physicalLink.columns
  return {
    id := ← required row "id" asStr
    name := ← required row "name" asStr
    bandwidth := ← orNone row "bandwidth" asStr
    status := ← orNone row "status" asStr
    properties := ← orNone row "properties" asDict }

def InterfaceLink.validate : Option InterfaceLink := do
  forbidExtra row Table.interfaceLink.columns
  return {
    interfaceId := ← required row "interface_id" asStr
    linkId := ← required row "link_id" asStr }

def Device.validate : Option Device := do
  forbidExtra row Table.device.columns
  return {
    id := ← required row "id" asStr
    name := ← required row "name" asStr
    interfaceId := ← orNone row "interface_id" asStr
    networkName := ← orNone row "network_name" asStr
    ipAddress := ← orNone row "ip_address" asStr
    mgmtIp := ← orNone row "mgmt_ip" asStr
    gateway := ← orNone row "gateway" asStr
    vlan := ← orNone row "vlan" (asInt c)
    status := ← orNone row "status" asStr
    config := ← orNone row "config" asDict }

def LogicalSubnet.validate : Option LogicalSubnet := do
  forbidExtra row Table.logicalSubnet.columns
  return {
    id := ← required row "id" asStr
    cidr := ← required row "cidr" asStr
    networkType := ← orNone row "network_type" asStr
    description := ← orNone row "description" asStr
    mtu := ← orNone row "mtu" (asInt c)
    properties := ← orNone row "properties" asDict }

def SubnetAssociation.validate : Option SubnetAssociation := do
  forbidExtra row Table.subnetAssociation.columns
  return {
    entityId := ← required row "entity_id" asStr
    subnetId := ← required row "subnet_id" asStr
    entityType := ← required row "entity_type" asStr }

def L3VPNService.validate : Option L3VPNService := do
  forbidExtra row Table.l3vpnService.columns
  return {
    id := ← required row "id" asStr
    name := ← required row "name" asStr
    customerId := ← required row "customer_id" asStr
    serviceType := ← orNone row "service_type" asStr
    topology := ← orNone row "topology" asStr
    status := ← orNone row "status" asStr
    config := ← orNone row "config" asDict }

def VRF.validate : Option VRF := do
  forbidExtra row Table.vrf.columns
  return {
    id := ← required row "id" asStr
    routerId := ← required row "router_id" asStr
    vpnId := ← required row "vpn_id" asStr
    name := ← required row "name" asStr
    rd := ← orNone row "rd" asStr
    status := ← orNone row "status" asStr
    config := ← orNone row "config" asDict }

def BGPSession.validate : Option BGPSession := do
  forbidExtra row Table.bgpSession.columns
  return {
    id := ← required row "id" asStr
    vrfId := ← required row "vrf_id" asStr
    localAs := ← orNone row "local_as" (asInt c)
    remoteAs := ← orNone row "remote_as" (asInt c)
    peerIp := ← orNone row "peer_ip" asStr
    status := ← orNone row "status" asStr
    config := ← orNone row "config" asDict }

end

namespace Table

/-- `ENTITY_MODELS[table].model_validate` -/
def validate (c : Coercions) : (t : Table) → Row → Option t.Entity
  | .physicalRouter => PhysicalRouter.validate c
  | .physicalInterface => PhysicalInterface.validate
  | .physicalLink => PhysicalLink.validate
  | .interfaceLink => InterfaceLink.validate
  | .device => Device.validate c
  | .logicalSubnet => LogicalSubnet.validate c
  | .subnetAssociation => SubnetAssociation.validate
  | .l3vpnService => L3VPNService.validate
  | .vrf => VRF.validate
  | .bgpSession => BGPSession.validate c

/-- `TABLE_TO_ATTR` -/
def attr : Table → String
  | physicalRouter => "routers"
  | physicalInterface => "interfaces"
  | physicalLink => "links"
  | interfaceLink => "interface_link"
  | device => "devices"
  | logicalSubnet => "subnets"
  | subnetAssociation => "subnet_association"
  | l3vpnService => "l3vpn_services"
  | vrf => "vrfs"
  | bgpSession => "bgp_sessions"

/-- The key of a table: its alias, or else its attribute. -/
def key (fields : Row) (t : Table) : String :=
  if t.name ∈ fields.columns then t.name else t.attr

end Table

section

variable (c : Coercions)

/-- The rows of a table. -/
def GoldenTwinEntities.validateTable (fields : Row) (t : Table) : Option (List t.Entity) :=
  withDefault fields (t.key fields) [] (listOf fun a => (asDict a).bind (t.validate c))

def GoldenTwinEntities.validate (fields : Row) : Option GoldenTwinEntities := do
  forbidExtra fields (Table.all.map (Table.key fields))
  return {
    routers := ← validateTable c fields .physicalRouter
    interfaces := ← validateTable c fields .physicalInterface
    links := ← validateTable c fields .physicalLink
    interfaceLink := ← validateTable c fields .interfaceLink
    devices := ← validateTable c fields .device
    subnets := ← validateTable c fields .logicalSubnet
    subnetAssociation := ← validateTable c fields .subnetAssociation
    l3vpnServices := ← validateTable c fields .l3vpnService
    vrfs := ← validateTable c fields .vrf
    bgpSessions := ← validateTable c fields .bgpSession }

/-- `Literal["from_yaml", "from_spanner"]` -/
def SourceMode.validate (a : Value) : Option SourceMode :=
  [fromYaml, fromSpanner].find? fun mode => a = .str mode.name

def GoldenTwinSource.validate (row : Row) : Option GoldenTwinSource := do
  forbidExtra row ["mode", "network_name", "yaml_paths", "spanner_database"]
  return {
    mode := ← required row "mode" SourceMode.validate
    networkName := ← required row "network_name" asStr
    yamlPaths := ← withDefault row "yaml_paths" [] (listOf asStr)
    spannerDatabase := ← orNone row "spanner_database" asStr }

/-- `GoldenTwin.model_validate` -/
def TwinFile.validate (raw : Value) : Option TwinFile := do
  let row ← asDict raw
  forbidExtra row ["schema_version", "captured_at", "source", "content_hash", "entities"]
  return {
    schemaVersion := ← withDefault row "schema_version" "1.0" asStr
    capturedAt := ← required row "captured_at" asStr
    source := ← required row "source" fun a => (asDict a).bind GoldenTwinSource.validate
    contentHash := ← orNone row "content_hash" asStr
    entities := ← required row "entities" fun a =>
      (asDict a).bind (GoldenTwinEntities.validate c) }

/-! ## Loading -/

/-- Why a file is not loaded. -/
inductive LoadError where
  | jsonDecodeError
  | validationError
  | valueError (text : String)
deriving DecidableEq

/-- `load_golden_twin` of a file with this text: all fields of the twin. -/
def TwinFile.load (text : FloatText) (env : Env) (content : String) :
    Except LoadError TwinFile :=
  match loads text content with
  | none => .error .jsonDecodeError
  | some raw =>
    match TwinFile.validate c raw with
    | none => .error .validationError
    | some twin =>
      match validateGoldenTwin (env.hashing text) twin.toGoldenTwin true with
      | [] => .ok twin
      | errors => .error (.valueError ("GoldenTwin validation failed:\n  - " ++
          "\n  - ".intercalate errors))

end

/-! ## Dumped models are accepted -/

section

variable {α : Type} {row : Row}

theorem lookup_eq_some_iff (h : row.columns.Nodup) {column : String} {a : Value} :
    row.lookup column = some a ↔ (column, a) ∈ row := by
  induction row with
  | nil => simp
  | cons cell row ih =>
    obtain ⟨hcell, hrow⟩ := List.nodup_cons.mp h
    obtain ⟨k, b⟩ := cell
    by_cases hk : column = k
    · subst hk
      have hnot : (column, a) ∉ row := fun hmem => hcell (List.mem_map.mpr ⟨_, hmem, rfl⟩)
      simp [hnot, eq_comm]
    · have hne : (column == k) = false := by simpa using hk
      rw [List.lookup_cons, hne, List.mem_cons, Prod.mk.injEq]
      simp [hk, ih hrow]

/-- Looking up a field does not depend on the order of the fields. -/
theorem lookup_sortFields (h : row.columns.Nodup) (column : String) :
    (sortFields row).lookup column = row.lookup column := by
  ext a
  have hsorted := Value.nodup_columns_sortFields.mpr h
  rw [lookup_eq_some_iff hsorted, lookup_eq_some_iff h, (Value.sortFields_perm row).mem_iff]

theorem required_sortFields (h : row.columns.Nodup) (column : String) (decode : Value → Option α) :
    required (sortFields row) column decode = required row column decode := by
  unfold required
  rw [lookup_sortFields h]

theorem withDefault_sortFields (h : row.columns.Nodup) (column : String) (default : α)
    (decode : Value → Option α) :
    withDefault (sortFields row) column default decode = withDefault row column default decode := by
  unfold withDefault
  rw [lookup_sortFields h]

theorem orNone_sortFields (h : row.columns.Nodup) (column : String) (decode : Value → Option α) :
    orNone (sortFields row) column decode = orNone row column decode :=
  withDefault_sortFields h column none _

theorem mem_columns_sortFields {column : String} :
    column ∈ Row.columns (sortFields row) ↔ column ∈ row.columns :=
  ((Value.sortFields_perm row).map Prod.fst).mem_iff

theorem forbidExtra_sortFields (row : Row) (columns : List String) :
    forbidExtra (sortFields row) columns = forbidExtra row columns := by
  unfold forbidExtra
  simp only [mem_columns_sortFields]

/-- Models do not depend on the order of their fields. -/
theorem Table.validate_sortFields (c : Coercions) (t : Table) (h : row.columns.Nodup) :
    t.validate c (sortFields row) = t.validate c row := by
  cases t <;>
  · simp only [Table.validate, PhysicalRouter.validate, PhysicalInterface.validate,
      PhysicalLink.validate, InterfaceLink.validate, Device.validate, LogicalSubnet.validate,
      SubnetAssociation.validate, L3VPNService.validate, VRF.validate, BGPSession.validate,
      forbidExtra_sortFields, required_sortFields h, orNone_sortFields h]

end

section

variable (c : Coercions)

@[simp] theorem nullable_ofStr? (s : Option String) :
    nullable asStr (Value.ofStr? s) = some s := by
  cases s <;> rfl

@[simp] theorem nullable_ofInt? (n : Option ℤ) :
    nullable (asInt c) (Value.ofInt? n) = some n := by
  cases n <;> rfl

@[simp] theorem nullable_ofFloat? (x : Option Float64) :
    nullable (asFloat c) (Value.ofFloat? x) = some x := by
  cases x <;> rfl

@[simp] theorem nullable_ofDict? (fields : Option (List (String × Value))) :
    nullable asDict (Value.ofDict? fields) = some fields := by
  cases fields <;> rfl

/-- A dumped entity is read back. -/
theorem Table.validate_dump (t : Table) (x : t.Entity) : t.validate c (t.dump x) = some x := by
  cases t <;>
  · simp [Table.validate, PhysicalRouter.validate, PhysicalInterface.validate,
      PhysicalLink.validate, InterfaceLink.validate, Device.validate, LogicalSubnet.validate,
      SubnetAssociation.validate, L3VPNService.validate, VRF.validate, BGPSession.validate,
      Table.dump, PhysicalRouter.dump, PhysicalInterface.dump, PhysicalLink.dump,
      InterfaceLink.dump, Device.dump, LogicalSubnet.dump, SubnetAssociation.dump,
      L3VPNService.dump, VRF.dump, BGPSession.dump, required, orNone, withDefault, forbidExtra,
      Row.columns, Table.columns, List.lookup_cons, asStr]

end

/-! ### Entities with sorted keys -/

/-- A dictionary with the keys of all its dictionaries in order. -/
def sortConfig (config : Option (List (String × Value))) : Option (List (String × Value)) :=
  config.map sortRow

/-- The entity with the keys of its dictionaries in order. -/
def Table.sortKeys : (t : Table) → t.Entity → t.Entity
  | .physicalRouter, r => { r with config := sortConfig r.config }
  | .physicalInterface, i => i
  | .physicalLink, l => { l with properties := sortConfig l.properties }
  | .interfaceLink, il => il
  | .device, d => { d with config := sortConfig d.config }
  | .logicalSubnet, s => { s with properties := sortConfig s.properties }
  | .subnetAssociation, sa => sa
  | .l3vpnService, s => { s with config := sortConfig s.config }
  | .vrf, v => { v with config := sortConfig v.config }
  | .bgpSession, b => { b with config := sortConfig b.config }

@[simp] theorem sortKeys_ofStr? (s : Option String) :
    (Value.ofStr? s).sortKeys = Value.ofStr? s := by
  cases s <;> rfl

@[simp] theorem sortKeys_ofInt? (n : Option ℤ) : (Value.ofInt? n).sortKeys = Value.ofInt? n := by
  cases n <;> rfl

@[simp] theorem sortKeys_ofFloat? (x : Option Float64) :
    (Value.ofFloat? x).sortKeys = Value.ofFloat? x := by
  cases x <;> rfl

@[simp] theorem sortKeys_ofDict? (fields : Option (List (String × Value))) :
    (Value.ofDict? fields).sortKeys = Value.ofDict? (sortConfig fields) := by
  cases fields <;> rfl

theorem sortKeysFields_dump (t : Table) (x : t.Entity) :
    Value.sortKeysFields (t.dump x) = t.dump (t.sortKeys x) := by
  cases t <;>
  · simp [Table.sortKeys, Table.dump, PhysicalRouter.dump, PhysicalInterface.dump,
      PhysicalLink.dump, InterfaceLink.dump, Device.dump, LogicalSubnet.dump,
      SubnetAssociation.dump, L3VPNService.dump, VRF.dump, BGPSession.dump,
      Value.sortKeysFields, Value.sortKeys]

theorem sortRow_dump (t : Table) (x : t.Entity) :
    sortRow (t.dump x) = sortFields (t.dump (t.sortKeys x)) := by
  unfold sortRow
  rw [sortKeysFields_dump]

/-- The entities with the keys of their dictionaries in order. -/
def GoldenTwinEntities.sortKeys (e : GoldenTwinEntities) : GoldenTwinEntities :=
  .ofTables fun t => (e.table t).map t.sortKeys

section

variable (c : Coercions)

theorem validate_sortRow (t : Table) (x : t.Entity) :
    t.validate c (sortRow (t.dump x)) = some (t.sortKeys x) := by
  have hnodup : (t.dump (t.sortKeys x)).columns.Nodup :=
    t.columns_dump (t.sortKeys x) ▸ t.columns_nodup
  rw [sortRow_dump, t.validate_sortFields c hnodup, t.validate_dump]

theorem listOf_map {α β : Type} {decode : Value → Option β} {f : α → Value} {g : α → β}
    (h : ∀ a, decode (f a) = some (g a)) (items : List α) :
    listOf decode (.list (items.map f)) = some (items.map g) := by
  show (items.map f).mapM decode = _
  induction items with
  | nil => rfl
  | cons a items ih =>
    rw [List.map_cons, List.mapM_cons, h, ih]
    rfl

theorem columns_dumpTables (rows : Table → List Row) :
    Row.columns (dumpTables rows) = Table.all.map Table.name := by
  unfold Row.columns dumpTables
  rw [List.map_map]
  rfl

theorem nodup_dumpTables (rows : Table → List Row) : (Row.columns (dumpTables rows)).Nodup := by
  rw [columns_dumpTables]
  decide

theorem lookup_dumpTables (rows : Table → List Row) (t : Table) :
    (dumpTables rows).lookup t.name = some (.list ((rows t).map .dict)) := by
  rw [lookup_eq_some_iff (nodup_dumpTables rows)]
  exact List.mem_map_of_mem (Table.mem_all t)

theorem key_dumpTables (rows : Table → List Row) (t : Table) :
    t.key (sortFields (dumpTables rows)) = t.name := by
  refine if_pos (mem_columns_sortFields.mpr ?_)
  rw [columns_dumpTables]
  exact List.mem_map_of_mem (Table.mem_all t)

theorem validateTable_sorted (e : GoldenTwinEntities) (t : Table) :
    GoldenTwinEntities.validateTable c (sortFields (dumpTables fun t => (e.rows t).map sortRow)) t =
      some ((e.table t).map t.sortKeys) := by
  unfold GoldenTwinEntities.validateTable
  rw [key_dumpTables, withDefault_sortFields (nodup_dumpTables _)]
  unfold withDefault
  rw [lookup_dumpTables]
  dsimp only
  rw [e.rows_eq_map, List.map_map, List.map_map]
  exact listOf_map (fun x => validate_sortRow c t x) (e.table t)

theorem validate_dumpTables (e : GoldenTwinEntities) :
    GoldenTwinEntities.validate c (sortFields (dumpTables fun t => (e.rows t).map sortRow)) =
      some e.sortKeys := by
  have hforbid : forbidExtra (sortFields (dumpTables fun t => (e.rows t).map sortRow))
      (Table.all.map (Table.key (sortFields (dumpTables fun t => (e.rows t).map sortRow)))) =
        some () := by
    have hkeys : Table.all.map (Table.key (sortFields (dumpTables fun t => (e.rows t).map sortRow))) =
        Table.all.map Table.name := List.map_congr_left fun t _ => key_dumpTables _ t
    rw [forbidExtra_sortFields, hkeys]
    refine if_pos fun column h => ?_
    rwa [columns_dumpTables] at h
  unfold GoldenTwinEntities.validate
  rw [hforbid]
  simp only [validateTable_sorted]
  rfl

theorem sortRow_source (s : GoldenTwinSource) : sortRow s.dump = sortFields s.dump := by
  have hpaths : Value.sortKeysItems (s.yamlPaths.map .str) = s.yamlPaths.map .str := by
    rw [Value.sortKeysItems_eq_map, List.map_map]
    rfl
  unfold sortRow
  simp [GoldenTwinSource.dump, Value.sortKeysFields, Value.sortKeys, hpaths]

theorem validate_source (s : GoldenTwinSource) :
    GoldenTwinSource.validate (sortRow s.dump) = some s := by
  have hnodup : s.dump.columns.Nodup := by
    show ["mode", "network_name", "yaml_paths", "spanner_database"].Nodup
    decide
  have hpaths : listOf asStr (.list (s.yamlPaths.map .str)) = some s.yamlPaths := by
    have hread : ∀ a, asStr (.str a) = some (id a) := fun _ => rfl
    have hlist := listOf_map hread s.yamlPaths
    rwa [List.map_id] at hlist
  have hmode : SourceMode.validate (.str s.mode.name) = some s.mode := by
    cases s.mode <;> rfl
  rw [sortRow_source]
  unfold GoldenTwinSource.validate
  rw [forbidExtra_sortFields, required_sortFields hnodup, required_sortFields hnodup,
    withDefault_sortFields hnodup, orNone_sortFields hnodup]
  simp [GoldenTwinSource.dump, required, orNone, withDefault, forbidExtra, Row.columns,
    List.lookup_cons, asStr, hpaths, hmode]

/-- **A dumped twin is read back**, with the keys of its dictionaries in order. -/
theorem validate_twin (x : TwinFile) :
    TwinFile.validate c (Value.dict (x.dump x.entities.rows)).sortKeys =
      some { x with entities := x.entities.sortKeys } := by
  let fields : Row :=
    [("schema_version", .str x.schemaVersion), ("captured_at", .str x.capturedAt),
      ("source", .dict (sortRow x.source.dump)), ("content_hash", Value.ofStr? x.contentHash),
      ("entities", .dict (sortFields (dumpTables fun t => (x.entities.rows t).map sortRow)))]
  have hfields : (Value.dict (x.dump x.entities.rows)).sortKeys = .dict (sortFields fields) := by
    rw [Value.sortKeys]
    simp [fields, TwinFile.dump, Value.sortKeysFields, Value.sortKeys, sortKeysFields_dumpTables,
      sortRow]
  have hnodup : fields.columns.Nodup := by
    show ["schema_version", "captured_at", "source", "content_hash", "entities"].Nodup
    decide
  rw [hfields]
  unfold TwinFile.validate
  simp only [asDict, Option.bind_eq_bind, Option.bind_some, forbidExtra_sortFields,
    required_sortFields hnodup, withDefault_sortFields hnodup, orNone_sortFields hnodup]
  simp [fields, required, orNone, withDefault, forbidExtra, Row.columns, List.lookup_cons, asStr,
    validate_source, validate_dumpTables]

end

end GnnSandbox.Bench
