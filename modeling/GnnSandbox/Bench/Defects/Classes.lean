import GnnSandbox.Bench.Defects.Base
import GnnSandbox.Bench.Env
import GnnSandbox.Graph.Text

/-!
# The defect classes

What each class of the injector does to an entity, by the dimensions of data quality.
-/

namespace GnnSandbox.Bench

open Raise

variable {env : Env}

/-!
## Completeness defects

Deletions of entities, of edges and of attributes.
-/

/-! ### Missing node -/

namespace MissingNode

def name : String := "completeness.missing_node"

/-- `_strip_edge` and `_strip_node` -/
def strip (side : Side) (t : Table) (attr : String) (value : Value) : Inject env Unit :=
  keepRows (side, t) fun row => !(row.get attr).eq value

/-- A router's interface goes with its edges. -/
def removeInterface (side : Side) (id : Value) : Inject env Unit := do
  let _ ← remove side "PhysicalInterface" id
  strip side .interfaceLink "interface_id" id
  strip side .subnetAssociation "entity_id" id

/-- A router's VRF goes with its sessions. -/
def removeVrf (side : Side) (id : Value) : Inject env Unit := do
  let _ ← remove side "VRF" id
  strip side .bgpSession "vrf_id" id

/-- The ids of the rows that a router owns. -/
def owned (rows : List Row) (id : String) : List Value :=
  (rows.filter fun row => (row.get "router_id").eq (.str id)).map fun row => row.get "id"

/-- A device whose gateway interface lived on the router loses it. -/
def clearGateway (id : String) (dev : Row) : Except Error Row :=
  match dev.get "interface_id" with
  | .str s =>
    .ok (if Graph.startsWith s (id ++ ":interface:") then dev.set "interface_id" .none else dev)
  | _ => .error .attributeError

def cascadeRouter (side : Side) (id : String) : Inject env Unit := do
  let interfaces ← rowsAt (side, .physicalInterface)
  forM (owned interfaces id) (removeInterface side)
  let vrfs ← rowsAt (side, .vrf)
  forM (owned vrfs id) (removeVrf side)
  let devices ← rowsAt (side, .device)
  let devices ← liftM (collect (clearGateway id) devices)
  setRows (side, .device) devices

def cascadeInterface (side : Side) (id : String) : Inject env Unit := do
  strip side .interfaceLink "interface_id" (.str id)
  strip side .subnetAssociation "entity_id" (.str id)
  alter (side, .device) fun devices => devices.map fun dev =>
    if (dev.get "interface_id").eq (.str id) then dev.set "interface_id" .none else dev

/-- The dependents of a removed row. -/
def cascade (side : Side) (entity : EntityRef) : Inject env Unit :=
  if entity.table = "PhysicalRouter" then cascadeRouter side entity.id
  else if entity.table = "PhysicalInterface" then cascadeInterface side entity.id
  else if entity.table = "PhysicalLink" then
    strip side .interfaceLink "link_id" (.str entity.id)
  else return ()

def apply (side : Side) (entity : EntityRef) (_params : Params) : Inject env Mutation := do
  match ← remove side entity.table (.str entity.id) with
  | none => return .noop
  | some removed => do
    cascade side entity
    return ⟨"delete_row", some (.row removed), none⟩

end MissingNode

/-! ### Missing edge -/

namespace MissingEdge

def name : String := "completeness.missing_edge"

/-- `_edge_id` -/
def edgeId (env : Env) (t : Table) (row : Row) : Except Error String :=
  match t with
  | .interfaceLink => .ok (pairKey env "interface_id" "link_id" row)
  | .subnetAssociation => .ok (pairKey env "entity_id" "subnet_id" row)
  | t => .error (.valueError t.name)

/-- It is the natural key of the candidates. -/
theorem edgeNaturalKey_of_edgeId {t : Table} {row : Row} {key : String}
    (h : edgeId env t row = .ok key) : edgeNaturalKey env t row = .ok key := by
  cases t <;> first | exact h | cases h

/-- The first row with the natural key. -/
def findEdge (env : Env) (t : Table) (id : String) : List Ref → Except Error (Option Ref)
  | [] => .ok none
  | ref :: rest =>
    match edgeId env t ref.row with
    | .error e => .error e
    | .ok natural => if natural = id then .ok (some ref) else findEdge env t id rest

/-- It is one of the rows, and bears the key. -/
theorem findEdge_eq_some {t : Table} {id : String} {l : List Ref} {ref : Ref}
    (h : findEdge env t id l = .ok (some ref)) : ref ∈ l ∧ edgeId env t ref.row = .ok id := by
  induction l with
  | nil => cases h
  | cons a l ih =>
    unfold findEdge at h
    split at h
    · cases h
    · next natural hnatural =>
      split at h
      · next heq =>
        cases h
        exact ⟨List.mem_cons_self .., heq ▸ hnatural⟩
      · exact ⟨List.mem_cons_of_mem _ (ih h).1, (ih h).2⟩

def apply (side : Side) (entity : EntityRef) (_params : Params) : Inject env Mutation := do
  let t ← liftM (tableNamed entity.table)
  let rows ← rowsAt (side, t)
  let found ← liftM (findEdge env t entity.id (refs (side, t) rows))
  match found with
  | none => return .noop
  | some ref => removeRow "delete_row" ref

end MissingEdge

/-! ### Missing attribute -/

namespace MissingAttribute

def name : String := "completeness.missing_attribute"

def apply (side : Side) (entity : EntityRef) (params : Params) : Inject env Mutation := do
  let attr ← liftM (requiredAttribute name params)
  withColumn side entity attr fun ref column =>
    if ref.row.get column = .none then return .noop
    else writeAttribute "null_attribute" ref column .none

end MissingAttribute

/-!
## Accuracy defects

Attribute drift and endpoint shifts.
-/

/-- `[id for id in ids if id not in taken]` for a set `taken`. -/
def excluding (taken ids : List Value) : Except Error (List Value) :=
  if taken.all Value.hashable && ids.all Value.hashable then
    .ok (ids.filter fun id => !taken.any fun a => a.eq id)
  else .error .typeError

/-! ### Attribute drift -/

namespace AttributeDrift

def name : String := "accuracy.attribute_drift"

def apply (side : Side) (entity : EntityRef) (params : Params) : Inject env Mutation := do
  let attr ← liftM (requiredAttribute name params)
  withColumn side entity attr fun ref column =>
    if ref.row.get column = .none then return .noop
    else do
      match ← liftM (driftTable params attr) with
      | none =>
        throw (.valueError (name ++ ": no drift_table for attribute " ++ env.repr attr ++
          "; pass one in parameters"))
      | some table => do
        let values ← liftM (iterate table)
        let choices := values.filter fun v => !v.eq (ref.row.get column)
        if choices = [] then return .noop
        else do
          let value ← choice choices
          writeAttribute "set_attribute" ref column value

end AttributeDrift

/-! ### Endpoint shift -/

namespace EndpointShift

def name : String := "accuracy.endpoint_shift"

/-- The first edge with the natural key. -/
def target (env : Env) (side : Side) (rows : List Row) (id : String) : Option Ref :=
  (refs (side, .interfaceLink) rows).find? fun ref =>
    pairKey env "interface_id" "link_id" ref.row = id

def apply (side : Side) (entity : EntityRef) (_params : Params) : Inject env Mutation := do
  let rows ← rowsAt (side, .interfaceLink)
  match target env side rows entity.id with
  | none => return .noop
  | some ref => do
    let siblings := (rows.filter fun row => (row.get "link_id").eq (ref.row.get "link_id")).map
      fun row => row.get "interface_id"
    let interfaces ← rowsAt (side, .physicalInterface)
    let candidates ← liftM (excluding siblings (interfaces.map fun row => row.get "id"))
    if candidates = [] then return .noop
    else do
      let id ← choice candidates
      writeAttribute "set_attribute" ref "interface_id" id

end EndpointShift

/-!
## Consistency defects

Asymmetric links and orphans.
-/

/-! ### Asymmetric link -/

namespace AsymmetricLink

def name : String := "consistency.asymmetric_link"

/-- The link of a bare link id or of a natural key. -/
def linkId (id : String) : String :=
  match Graph.splitFirst "::".toList id.toList with
  | some (_, link) => String.ofList link
  | none => id

/-- The edges of a link. -/
def endpoints (side : Side) (rows : List Row) (link : String) : List Ref :=
  (refs (side, .interfaceLink) rows).filter fun ref => (ref.row.get "link_id").eq (.str link)

def apply (side : Side) (entity : EntityRef) (_params : Params) : Inject env Mutation := do
  let rows ← rowsAt (side, .interfaceLink)
  if (endpoints side rows (linkId entity.id)).length < 2 then return .noop
  else do
    let victim ← choice (endpoints side rows (linkId entity.id))
    removeRow "delete_row" victim

end AsymmetricLink

/-! ### Orphan entity -/

namespace OrphanEntity

def name : String := "consistency.orphan_entity"

/-- The id of a router that does not exist. -/
def ghost (n : ℤ) : String := "router:GHOST-" ++ toString n

def apply (side : Side) (entity : EntityRef) (_params : Params) : Inject env Mutation := do
  match ← find side entity.table entity.id with
  | none => return .noop
  | some ref =>
    if entity.table = "PhysicalInterface" then do
      let n ← randint 1000 9999
      writeAttribute "set_attribute" ref "router_id" (.str (ghost n))
    else if entity.table = "Device" then do
      let n ← randint 1000 9999
      writeAttribute "set_attribute" ref "interface_id" (.str (ghost n ++ ":interface:eth0"))
    else throw (.valueError (name ++ " not applicable to " ++ entity.table))

end OrphanEntity

/-!
## Validity defects

Malformed ids, values out of range and values outside of their enumeration.
-/

/-! ### Malformed id -/

namespace MalformedId

def name : String := "validity.malformed_id"

/-- `id.replace(":", "_")` -/
def badId (id : String) : String :=
  String.ofList (id.toList.map fun c => if c = ':' then '_' else c)

def apply (side : Side) (entity : EntityRef) (_params : Params) : Inject env Mutation := do
  match ← find side entity.table entity.id with
  | none => return .noop
  | some ref => writeAttribute "rename_id" ref "id" (.str (badId entity.id))

end MalformedId

/-! ### Out of range -/

namespace OutOfRange

def name : String := "validity.out_of_range"

/-- The attribute that is set. -/
def attr (entity : EntityRef) (params : Params) : Value :=
  match params.get "attribute" .none with
  | .none => .str (if entity.table = "PhysicalInterface" then "speed" else "vlan")
  | a => a

/-- The value that is set. -/
def value (column : String) (params : Params) : Value :=
  if column = "speed" then .str "99999G"
  else if column = "vlan" then .int 99999
  else params.get "value" (.str "OUT_OF_RANGE")

def apply (side : Side) (entity : EntityRef) (params : Params) : Inject env Mutation :=
  withColumn side entity (attr entity params) fun ref column =>
    writeAttribute "set_attribute" ref column (value column params)

end OutOfRange

/-! ### Invalid enum -/

namespace InvalidEnum

def name : String := "validity.invalid_enum"

/-- The attribute that is set. -/
def attr (entity : EntityRef) (params : Params) : Value :=
  match params.get "attribute" .none with
  | .none => .str (if entity.table = "PhysicalRouter" then "role" else "status")
  | a => a

def invalidValues : List (String × String) := [("role", "FOO"), ("status", "BANANA")]

/-- The value that is set. -/
def value (column : String) (params : Params) : Value :=
  params.get "value" (.str ((invalidValues.lookup column).getD "INVALID"))

def apply (side : Side) (entity : EntityRef) (params : Params) : Inject env Mutation :=
  withColumn side entity (attr entity params) fun ref column =>
    writeAttribute "set_attribute" ref column (value column params)

end InvalidEnum

/-!
## Uniqueness defects

Split and merged identities, which only the catalog has.
-/

/-! ### Split identity -/

namespace SplitIdentity

def name : String := "uniqueness.split_identity"

/-- `row.get("name") or ""`, which has to be a string. -/
def originalName (row : Row) : Except Error String :=
  if (row.get "name").truthy then
    match row.get "name" with
    | .str s => .ok s
    | _ => .error .attributeError
  else .ok ""

/-- The name of the clone. -/
def cloneName (env : Env) (original : String) : String :=
  if toDisplayName env original = original then original ++ "-DUP" else toDisplayName env original

/-- The clone of a row. -/
def clone (kind cloneName : String) (row : Row) : Row :=
  (row.set "id" (.str (kind ++ cloneName))).set "name" (.str cloneName)

def apply (side : Side) (entity : EntityRef) (_params : Params) : Inject env Mutation :=
  if side ≠ .catalog then return .noop
  else do
    match ← find side entity.table entity.id with
    | none => return .noop
    | some ref => do
      let original ← liftM (originalName ref.row)
      if entity.table = "PhysicalRouter" then
        addRow "duplicate_row" ref.loc (clone "router:" (cloneName env original) ref.row)
      else if entity.table = "Device" then
        addRow "duplicate_row" ref.loc (clone "device:" (cloneName env original) ref.row)
      else throw (.valueError (name ++ " not applicable to " ++ entity.table))

end SplitIdentity

/-! ### Merged identity -/

namespace MergedIdentity

def name : String := "uniqueness.merged_identity"

/-- The other rows that have an id. -/
def victims (entity : EntityRef) (ref : Ref) (rows : List Row) : List Ref :=
  (refs ref.loc rows).filter fun r =>
    (r.row.get "id").truthy && !(r.row.get "id").eq (.str entity.id)

/-- The name that stands for both. -/
def mergedName (env : Env) (target victim : Row) : Value :=
  .str ((target.get "name").format env ++ "+" ++ (victim.get "name").format env)

def apply (side : Side) (entity : EntityRef) (_params : Params) : Inject env Mutation :=
  if side ≠ .catalog then return .noop
  else do
    match ← find side entity.table entity.id with
    | none => return .noop
    | some target => do
      let rows ← rowsAt target.loc
      if victims entity target rows = [] then return .noop
      else do
        let victim ← choice (victims entity target rows)
        if "name" ∈ target.row.columns then do
          let merged := target.row.set "name" (mergedName env target.row victim.row)
          assign target merged
          keepRows target.loc fun row => !(row.get "id").eq (victim.row.get "id")
          return ⟨"merge_rows", some (.rows [("target", target.row), ("victim", victim.row)]),
            some (.row merged)⟩
        else throw (.keyError "name")

end MergedIdentity

/-!
## Cross-source defects

Mutations that set the catalog and the telemetry against each other.
-/

/-! ### Attribute conflict -/

namespace AttributeConflict

def name : String := "cross_source.attribute_conflict"

/-- `rng.sample(choices, 2)` when there are two. -/
def sample2 (choices : List Value) : Inject env (Option (Value × Value)) :=
  if choices.length < 2 then return none
  else do
    match ← sample choices 2 with
    | [a, b] => return some (a, b)
    | _ => throw (.valueError "not enough values to unpack")

/-- The mutation that writes a value on each side. -/
def mutation (cat tel : Ref) (column : String) (catNew telNew : Value) : Mutation :=
  ⟨"set_attribute_both", some (.rows [("catalog", cat.row), ("telemetry", tel.row)]),
    some (.rows [("catalog", cat.row.set column catNew),
      ("telemetry", tel.row.set column telNew)])⟩

def apply (entity : EntityRef) (params : Params) : Inject env Mutation := do
  let attr ← liftM (requiredAttribute name params)
  let catRow ← find .catalog entity.table entity.id
  let telRow ← find .telemetry entity.table entity.id
  match catRow, telRow with
  | some cat, some tel => do
    match ← liftM (columnOf cat.row attr) with
    | none => return .noop
    | some column =>
      if cat.row.get column = .none then return .noop
      else do
        let drift ← liftM (driftTable params attr)
        let values ← liftM (iterate (drift.getD (.list [])))
        match ← sample2 (values.filter fun v => !v.eq (cat.row.get column)) with
        | none => return .noop
        | some (catNew, telNew) => do
          assign cat (cat.row.set column catNew)
          assign tel (tel.row.set column telNew)
          return mutation cat tel column catNew telNew
  | _, _ => return .noop

end AttributeConflict

/-! ### Structural conflict -/

namespace StructuralConflict

def name : String := "cross_source.structural_conflict"

def apply (entity : EntityRef) (_params : Params) : Inject env Mutation := do
  let rows ← rowsAt (.telemetry, .interfaceLink)
  let endpoints := (refs (.telemetry, .interfaceLink) rows).filter fun ref =>
    (ref.row.get "link_id").eq (.str entity.id)
  if endpoints.length < 2 then return .noop
  else do
    let victim ← choice endpoints
    let interfaces ← rowsAt (.telemetry, .physicalInterface)
    let candidates ← liftM (excluding (endpoints.map fun ref => ref.row.get "interface_id")
      (interfaces.map fun row => row.get "id"))
    if candidates = [] then return .noop
    else do
      let id ← choice candidates
      writeAttribute "endpoint_shift_telemetry" victim "interface_id" id

end StructuralConflict

/-! ### Existence conflict -/

namespace ExistenceConflict

def name : String := "cross_source.existence_conflict"

def dropFrom (params : Params) : Value := params.get "drop_from" (.str "telemetry")

/-- The projection that loses the row. -/
def side (params : Params) : Side :=
  if (dropFrom params).eq (.str "telemetry") then .telemetry else .catalog

def apply (entity : EntityRef) (params : Params) : Inject env Mutation := do
  match ← remove (side params) entity.table (.str entity.id) with
  | none => return .noop
  | some removed =>
    return ⟨"delete_from_" ++ (dropFrom params).format env, some (.row removed), none⟩

end ExistenceConflict

/-! ### Phantoms and shadows -/

/-- `_fabricate` -/
def fabricate (side : Side) (sideName letter : String) (table : String) : Inject env Mutation := do
  let n ← randint 10000 99999
  let tag := letter ++ toString n
  if table = "PhysicalRouter" then
    addRow ("insert_" ++ sideName) (side, .physicalRouter) (router tag)
  else if table = "Device" then
    addRow ("insert_" ++ sideName) (side, .device) (device tag)
  else return .noop
where
  router (tag : String) : Row :=
    [("id", .str ("router:phantom-" ++ tag)), ("name", .str ("phantom-" ++ tag)),
      ("vendor", .str "VyOS"), ("model", .str "Virtual"), ("location_city", .none),
      ("location_lat", .none), ("location_lon", .none), ("role", .str "PE"),
      ("status", .str "Running"), ("config", .none)]
  device (tag : String) : Row :=
    [("id", .str ("device:phantom-" ++ tag)), ("name", .str ("phantom-" ++ tag)),
      ("interface_id", .none), ("network_name", .none), ("ip_address", .none), ("mgmt_ip", .none),
      ("gateway", .none), ("vlan", .none), ("status", .str "Ready"), ("config", .none)]

/-- `range(max(1, n))` -/
def slotCount : Value → Except Error ℕ
  | .int n => .ok (max 1 n).toNat
  | .bool _ => .ok 1
  | .float (.finite q) => if 1 < q then .error .typeError else .ok 1
  | .float (.inf negative) => if negative then .ok 1 else .error .typeError
  | .float .nan => .ok 1
  | _ => .error .typeError

/-- `projection.tables.get(name, [])` -/
def tableRows (side : Side) (name : String) : Inject env (List Row) :=
  match Table.ofName name with
  | some t => rowsAt (side, t)
  | none => return []

/-- `applicable_entities` of the classes that fabricate: slots that stand for no row. -/
def slotEntities (side : Side) (slot key : String) (params : Params) (entityType : Option String) :
    Inject env (List EntityRef) := do
  let target := (Graph.truthy entityType).getD "PhysicalRouter"
  let rows ← tableRows side target
  let n ← liftM (slotCount (params.get key (.int rows.length)))
  return (List.range n).map fun i => ⟨target, slot ++ toString i⟩

namespace PhantomEntity

def name : String := "cross_source.phantom_entity"

def applicableEntities (params : Params) (entityType : Option String) :
    Inject env (List EntityRef) :=
  slotEntities .catalog "__phantom_slot__" "max_phantoms" params entityType

def apply (entity : EntityRef) (_params : Params) : Inject env Mutation :=
  fabricate .catalog "catalog" "C" entity.table

end PhantomEntity

namespace ShadowEntity

def name : String := "cross_source.shadow_entity"

def applicableEntities (params : Params) (entityType : Option String) :
    Inject env (List EntityRef) :=
  slotEntities .telemetry "__shadow_slot__" "max_shadows" params entityType

def apply (entity : EntityRef) (_params : Params) : Inject env Mutation :=
  fabricate .telemetry "telemetry" "T" entity.table

end ShadowEntity

end GnnSandbox.Bench
