import GnnSandbox.Bench.Projection

/-!
# The defect framework

The data of defects, the default candidates, the selection among candidates, and the steps
that the classes share.
-/

namespace GnnSandbox.Bench

open Raise

/-- An entity, as a defect and its record name it. -/
structure EntityRef where
  table : String
  id : String
deriving DecidableEq

/-- `EntityRef(table=table, id=id)`, whose id has to be a string. -/
def EntityRef.make (table : String) : Value → Except Error EntityRef
  | .str id => .ok ⟨table, id⟩
  | _ => .error .validationError

theorem EntityRef.make_eq_ok {table : String} {id : Value} {entity : EntityRef} :
    EntityRef.make table id = .ok entity ↔ entity.table = table ∧ id = .str entity.id := by
  cases id <;> simp [EntityRef.make]
  constructor
  · rintro rfl
    exact ⟨rfl, rfl⟩
  · rintro ⟨rfl, rfl⟩
    rfl

/-- What a mutation keeps of the rows before or after it. -/
inductive Payload where
  | row (row : Row)
  | rows (named : List (String × Row))
deriving DecidableEq

/-- The rows of a payload. -/
def Payload.toList : Payload → List Row
  | .row r => [r]
  | .rows named => named.map Prod.snd

structure Mutation where
  kind : String
  before : Option Payload
  after : Option Payload
deriving DecidableEq

/-- `Mutation(kind="noop", before=None, after=None)` -/
def Mutation.noop : Mutation := ⟨"noop", none, none⟩

/-- The rows that a mutation keeps. -/
def Mutation.rows (m : Mutation) : List Row :=
  (m.before.map Payload.toList).getD [] ++ (m.after.map Payload.toList).getD []

/-- The parameters of a defect. -/
abbrev Params := List (String × Value)

/-- `params.get(key, default)` -/
def Params.get (params : Params) (key : String) (default : Value) : Value :=
  (params.lookup key).getD default

/-- `attr = params.get("attribute")`, which has to be given. -/
def requiredAttribute (className : String) (params : Params) : Except Error Value :=
  if (params.get "attribute" .none).truthy then .ok (params.get "attribute" .none)
  else .error (.valueError (className ++ ": parameters.attribute is required"))

theorem requiredAttribute_eq_ok {className : String} {params : Params} {attr : Value}
    (h : requiredAttribute className params = .ok attr) : params.get "attribute" .none = attr := by
  unfold requiredAttribute at h
  split at h
  · exact Except.ok.inj h
  · cases h

/-- The column that `attr` names when `attr in row`. -/
def columnOf (row : Row) (attr : Value) : Except Error (Option String) :=
  if attr.hashable then
    match attr with
    | .str column => .ok (if column ∈ row.columns then some column else none)
    | _ => .ok none
  else .error .typeError

theorem columnOf_eq_some {row : Row} {attr : Value} {column : String} :
    columnOf row attr = .ok (some column) ↔ attr = .str column ∧ column ∈ row.columns := by
  unfold columnOf
  cases attr <;> simp [Value.hashable]
  constructor
  · rintro ⟨h, rfl⟩
    exact ⟨rfl, h⟩
  · rintro ⟨rfl, h⟩
    exact ⟨h, rfl⟩

/-- `drift_table`, or the default table of the attribute. -/
def DEFAULT_DRIFT_TABLES : List (String × List String) :=
  [("vendor", ["Cisco", "Juniper", "Nokia", "Huawei", "Arista"]),
    ("model", ["MX480", "ASR9K", "7750-SR", "NE40E", "7280R"]), ("speed", ["10G", "1G", "100M"]),
    ("role", ["PE", "P", "CE", "RR"]), ("status", ["UP", "DOWN", "ADMIN_DOWN"])]

/-- `params.get("drift_table") or DEFAULT_DRIFT_TABLES.get(attr)`, `none` when it is falsy. -/
def driftTable (params : Params) (attr : Value) : Except Error (Option Value) :=
  if (params.get "drift_table" .none).truthy then .ok (some (params.get "drift_table" .none))
  else
    match attr with
    | .str s =>
      .ok ((DEFAULT_DRIFT_TABLES.lookup s).map fun values => .list (values.map Value.str))
    | attr => if attr.hashable then .ok none else .error .typeError

/-- `for v in a` -/
def iterate (a : Value) : Except Error (List Value) :=
  match a.elements? with
  | some items => .ok items
  | none => .error .typeError

/-! ## Scenarios -/

inductive TargetProjection where
  | catalog
  | telemetry
  | both
deriving DecidableEq, Repr

/-- `catalog if target_projection == "catalog" else telemetry` -/
def TargetProjection.side : TargetProjection → Side
  | catalog => .catalog
  | _ => .telemetry

inductive SelectionMode where
  | randomRate
  | fixedCount
  | explicitIds
deriving DecidableEq, Repr

structure SelectionSpec where
  mode : SelectionMode
  rate : Option Graph.Float64
  count : Option ℤ
  ids : Option (List String)
  filter : Option (List (String × List Value))
deriving DecidableEq

structure DefectSpec where
  id : String
  className : String
  targetProjection : TargetProjection
  targetEntityType : Option String
  selection : SelectionSpec
  parameters : Params
deriving DecidableEq

/-! ## Candidates -/

variable {env : Env}

/-- The reference to a row of `DefectClass.applicable_entities`. -/
def singleRef (env : Env) (t : Table) (row : Row) : Except Error EntityRef :=
  match row.get "id" with
  | .none => (edgeNaturalKey env t row).map fun key => ⟨t.name, key⟩
  | id => EntityRef.make t.name id

/-- The reference to a row of `CrossSourceDefectClass.applicable_entities`. -/
def crossRef (env : Env) (t : Table) (row : Row) : Except Error EntityRef :=
  if (row.get "id").truthy then EntityRef.make t.name (row.get "id")
  else (edgeNaturalKey env t row).map fun key => ⟨t.name, key⟩

/-- `applicable_entities` of both base classes. -/
def defaultEntities (className : String) (side : Side) (entityType : Option String)
    (rowRef : Table → Row → Except Error EntityRef) : Inject env (List EntityRef) :=
  match Graph.truthy entityType with
  | none =>
    throw (.valueError (className ++ ": target_entity_type is required for default selection"))
  | some table =>
    match Table.ofName table with
    | none => return []
    | some t => do
      let rows ← rowsAt (side, t)
      liftM (collect (rowRef t) rows)

/-- The links of a projection, which are the candidates of the classes that work on links. -/
def linkEntities (side : Side) : Inject env (List EntityRef) := do
  let rows ← rowsAt (side, .physicalLink)
  liftM (collect (fun row => EntityRef.make "PhysicalLink" (row.get "id")) rows)

/-! ## Selection -/

/-- `_row_passes_filter` -/
def rowPassesFilter (row : Row) (flt : List (String × List Value)) : Bool :=
  flt.all fun (attr, allowed) => allowed.any fun a => (row.get attr).eq a

/-- The candidates whose row passes the filter. -/
def filterEntities (side : Side) (flt : List (String × List Value)) :
    List EntityRef → Inject env (List EntityRef)
  | [] => return []
  | entity :: entities => do
    let found ← find side entity.table entity.id
    let rest ← filterEntities side flt entities
    return if rowPassesFilter ((found.map Ref.row).getD []) flt then entity :: rest else rest

/-- `[r for r in refs if rng.random() < rate]` -/
def drawEntities (rate : Graph.Float64) : List EntityRef → Inject env (List EntityRef)
  | [] => return []
  | entity :: entities => do
    let chosen ← draw (env.rng.below rate)
    let rest ← drawEntities rate entities
    return if chosen then entity :: rest else rest

/-- `rng.sample(items, k)` -/
def sample {α : Type} (items : List α) (k : ℤ) : Inject env (List α) :=
  if 0 ≤ k ∧ k ≤ items.length then do
    let indices ← draw (env.rng.sample items.length k.toNat)
    return indices.filterMap fun i => items[i]?
  else throw (.valueError "Sample larger than population or is negative")

/-- `if selection.filter and projection is not None` -/
def keptEntities (entities : List EntityRef) (filter : Option (List (String × List Value)))
    (side : Option Side) : Inject env (List EntityRef) :=
  match side, filter with
  | some side, some (attr :: flt) => filterEntities side (attr :: flt) entities
  | _, _ => return entities

/-- `select_entities`; a class that works on both projections passes none. -/
def selectEntities (entities : List EntityRef) (selection : SelectionSpec) (side : Option Side) :
    Inject env (List EntityRef) := do
  let entities ← keptEntities entities selection.filter side
  match selection.mode with
  | .explicitIds => return entities.filter fun e => e.id ∈ selection.ids.getD []
  | .randomRate => drawEntities (selection.rate.getD (.finite 0)) entities
  | .fixedCount =>
    if entities.length ≤ selection.count.getD 0 then return entities
    else sample entities (selection.count.getD 0)

/-! ## Finding and writing -/

/-- The row that `find` returns for an entity. -/
def findIn (v : Views) (side : Side) (entity : EntityRef) : Option Ref :=
  match Table.ofName entity.table with
  | none => none
  | some t =>
    if t.isEdge then none else findRow (side, t) (v (side, t)) (.str entity.id)

/-- It is a row of the entity's table with the entity's id. -/
theorem findIn_eq_some {v : Views} {side : Side} {entity : EntityRef} {ref : Ref}
    (h : findIn v side entity = some ref) :
    ref.loc.1 = side ∧ ref.loc.2.name = entity.table ∧ ref.loc.2.isEdge = false ∧ ref.In v ∧
      ref.row.get "id" = .str entity.id := by
  unfold findIn at h
  split at h
  · cases h
  · next t ht =>
    split at h
    · cases h
    · next hedge =>
      obtain ⟨hloc, hin, hid⟩ := findRow_eq_some h
      rw [hloc]
      exact ⟨rfl, Table.name_of_ofName ht, Bool.eq_false_iff.mpr hedge, hin, Value.eq_str.mp hid⟩

/-- What follows a search runs with what is found. -/
theorem Runs.find_bind {α : Type} {side : Side} {entity : EntityRef}
    {f : Option Ref → Inject env α} {s s' : env.rng.State × Views} {a : α}
    (h : Runs (Bench.find side entity.table entity.id >>= f) s a s') :
    Runs (f (findIn s.2 side entity)) s a s' := by
  obtain ⟨found, t, hfind, h⟩ := runs_bind.mp h
  obtain ⟨ht, u, hu, hfound⟩ := Runs.find hfind
  have heq : findIn s.2 side entity = found := by
    unfold findIn
    rw [hu]
    exact hfound.symm
  rw [heq, ← ht]
  exact h

/-- `row = projection.find(table, id)`, after which nothing happens `if row is None or attr not
in row`. -/
def withColumn (side : Side) (entity : EntityRef) (attr : Value)
    (f : Ref → String → Inject env Mutation) : Inject env Mutation := do
  match ← find side entity.table entity.id with
  | none => return .noop
  | some ref => do
    match ← liftM (columnOf ref.row attr) with
    | none => return .noop
    | some column => f ref column

/-- Either nothing happens, or the rest runs with the row and a column of it. -/
theorem Runs.withColumn {attr : Value} {f : Ref → String → Inject env Mutation} {side : Side}
    {entity : EntityRef} {s s' : env.rng.State × Views} {m : Mutation}
    (h : Runs (withColumn side entity attr f) s m s') :
    m = .noop ∧ s' = s ∨
      ∃ ref column, findIn s.2 side entity = some ref ∧ attr = .str column ∧
        column ∈ ref.row.columns ∧ Runs (f ref column) s m s' := by
  unfold Bench.withColumn at h
  have hfound := Runs.find_bind h
  split at hfound
  · exact .inl (runs_pure.mp hfound)
  · next ref href =>
    obtain ⟨named, hnamed, hrest⟩ := runs_liftExcept_bind.mp hfound
    cases named with
    | none => exact .inl (runs_pure.mp hrest)
    | some column =>
      obtain ⟨hattr, hmem⟩ := columnOf_eq_some.mp hnamed
      exact .inr ⟨ref, column, href, hattr, hmem, hrest⟩

/-- What a mutation says about a cell that was written. -/
def Mutation.write (kind : String) (ref : Ref) (column : String) (value : Value) : Mutation :=
  ⟨kind, some (.row ref.row), some (.row (ref.row.set column value))⟩

/-- `row[attr] = value`, with the row before and after it. -/
def writeAttribute (kind : String) (ref : Ref) (column : String) (value : Value) :
    Inject env Mutation := do
  assign ref (ref.row.set column value)
  return .write kind ref column value

/-- What the mutation says about a row that was removed. -/
def Mutation.remove (kind : String) (ref : Ref) : Mutation := ⟨kind, some (.row ref.row), none⟩

/-- `rows.pop(i)`, with the row before it. -/
def removeRow (kind : String) (ref : Ref) : Inject env Mutation := do
  erase ref
  return .remove kind ref

/-- What the mutation says about a row that was added. -/
def Mutation.add (kind : String) (row : Row) : Mutation := ⟨kind, none, some (.row row)⟩

/-- `rows.append(row)`, with the row after it. -/
def addRow (kind : String) (loc : Loc) (row : Row) : Inject env Mutation := do
  append loc row
  return .add kind row

section Runs

variable {s s' : env.rng.State × Views} {m : Mutation}

@[simp] theorem runs_writeAttribute {kind column : String} {ref : Ref} {value : Value} :
    Runs (writeAttribute kind ref column value : Inject env _) s m s' ↔
      m = .write kind ref column value ∧ s' = (s.1, s.2.assign ref (ref.row.set column value)) := by
  unfold writeAttribute
  rw [runs_assign_bind, runs_pure]

@[simp] theorem runs_removeRow {kind : String} {ref : Ref} :
    Runs (removeRow kind ref : Inject env _) s m s' ↔
      m = .remove kind ref ∧ s' = (s.1, s.2.erase ref) := by
  unfold removeRow
  rw [runs_erase_bind, runs_pure]

@[simp] theorem runs_addRow {kind : String} {loc : Loc} {row : Row} :
    Runs (addRow kind loc row : Inject env _) s m s' ↔
      m = .add kind row ∧ s' = (s.1, s.2.append loc row) := by
  unfold addRow
  rw [runs_append_bind, runs_pure]

end Runs

/-- Every row has the columns of its table. -/
def Shaped (v : Views) : Prop := ∀ loc, ∀ row ∈ v loc, row.columns = loc.2.columns

theorem Shaped.columns {v : Views} (hv : Shaped v) {ref : Ref} (h : ref.In v) :
    ref.row.columns = ref.loc.2.columns := hv ref.loc ref.row (List.mem_of_getElem? h)

/-- The rows of one entity in the two projections are at two places and have the same columns. -/
theorem Shaped.findIn_both {v : Views} (hv : Shaped v) {entity : EntityRef} {cat tel : Ref}
    (hcat : findIn v .catalog entity = some cat) (htel : findIn v .telemetry entity = some tel) :
    cat.In v ∧ tel.In v ∧ tel.loc ≠ cat.loc ∧ tel.row.columns = cat.row.columns := by
  obtain ⟨hside, htable, -, hin, -⟩ := findIn_eq_some hcat
  obtain ⟨hside', htable', -, hin', -⟩ := findIn_eq_some htel
  refine ⟨hin, hin', fun heq => ?_, ?_⟩
  · rw [heq, hside] at hside'
    cases hside'
  · rw [hv.columns hin', Table.name_injective (htable'.trans htable.symm), ← hv.columns hin]

/-- The call either changes nothing or writes a cell of the row of its entity, of which `P`
tells which cell and which value. -/
def Writes (v : Views) (side : Side) (entity : EntityRef) (kind : String)
    (P : Ref → String → Value → Prop) (m : Mutation) (v' : Views) : Prop :=
  m = .noop ∧ v' = v ∨
    ∃ ref column value, findIn v side entity = some ref ∧ column ∈ ref.row.columns ∧
      P ref column value ∧ m = .write kind ref column value ∧
      v' = v.assign ref (ref.row.set column value)

end GnnSandbox.Bench
