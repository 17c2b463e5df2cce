import GnnSandbox.Bench.Dumps
import GnnSandbox.Bench.Loader
import GnnSandbox.Bench.Sorting
import GnnSandbox.Bench.Env

/-!
# Saving a golden twin

`save_golden_twin` sorts the rows of each table by id, or by the ids that an edge joins, and dumps the
twin with a fresh hash. The hash is that of canonical bytes, for which rows are sorted by all that
they hold.
-/

namespace GnnSandbox.Bench

open Graph (Float64)

/-! ## Typed tables -/

/-- The entities of a table. -/
abbrev Table.Entity : Table → Type
  | .physicalRouter => PhysicalRouter
  | .physicalInterface => PhysicalInterface
  | .physicalLink => PhysicalLink
  | .interfaceLink => InterfaceLink
  | .device => Device
  | .logicalSubnet => LogicalSubnet
  | .subnetAssociation => SubnetAssociation
  | .l3vpnService => L3VPNService
  | .vrf => VRF
  | .bgpSession => BGPSession

namespace GoldenTwinEntities

def table (e : GoldenTwinEntities) : (t : Table) → List t.Entity
  | .physicalRouter => e.routers
  | .physicalInterface => e.interfaces
  | .physicalLink => e.links
  | .interfaceLink => e.interfaceLink
  | .device => e.devices
  | .logicalSubnet => e.subnets
  | .subnetAssociation => e.subnetAssociation
  | .l3vpnService => e.l3vpnServices
  | .vrf => e.vrfs
  | .bgpSession => e.bgpSessions

def ofTables (tables : (t : Table) → List t.Entity) : GoldenTwinEntities where
  routers := tables .physicalRouter
  interfaces := tables .physicalInterface
  links := tables .physicalLink
  interfaceLink := tables .interfaceLink
  devices := tables .device
  subnets := tables .logicalSubnet
  subnetAssociation := tables .subnetAssociation
  l3vpnServices := tables .l3vpnService
  vrfs := tables .vrf
  bgpSessions := tables .bgpSession

@[simp] theorem table_ofTables (tables : (t : Table) → List t.Entity) (t : Table) :
    (ofTables tables).table t = tables t := by
  cases t <;> rfl

end GoldenTwinEntities

namespace Table

/-- `model_dump(mode="json")` -/
def dump : (t : Table) → t.Entity → Row
  | .physicalRouter => PhysicalRouter.dump
  | .physicalInterface => PhysicalInterface.dump
  | .physicalLink => PhysicalLink.dump
  | .interfaceLink => InterfaceLink.dump
  | .device => Device.dump
  | .logicalSubnet => LogicalSubnet.dump
  | .subnetAssociation => SubnetAssociation.dump
  | .l3vpnService => L3VPNService.dump
  | .vrf => VRF.dump
  | .bgpSession => BGPSession.dump

/-- The ids by which `save_golden_twin` sorts an entity. -/
def saveKey : (t : Table) → t.Entity → List String
  | .physicalRouter, r => [r.id]
  | .physicalInterface, i => [i.id]
  | .physicalLink, l => [l.id]
  | .interfaceLink, il => [il.interfaceId, il.linkId]
  | .device, d => [d.id]
  | .logicalSubnet, s => [s.id]
  | .subnetAssociation, sa => [sa.entityId, sa.subnetId]
  | .l3vpnService, s => [s.id]
  | .vrf, v => [v.id]
  | .bgpSession, b => [b.id]

end Table

theorem GoldenTwinEntities.rows_eq_map (e : GoldenTwinEntities) (t : Table) :
    e.rows t = (e.table t).map t.dump := by
  cases t <;> rfl

theorem Table.columns_dump (t : Table) (x : t.Entity) : (t.dump x).columns = t.columns := by
  cases t <;> rfl

/-! ## Twins in files -/

inductive SourceMode where
  | fromYaml
  | fromSpanner
deriving DecidableEq

def SourceMode.name : SourceMode → String
  | fromYaml => "from_yaml"
  | fromSpanner => "from_spanner"

structure GoldenTwinSource where
  mode : SourceMode
  networkName : String
  yamlPaths : List String
  spannerDatabase : Option String
deriving DecidableEq

/-- A golden twin with the fields that only its file shows. -/
structure TwinFile extends GoldenTwin where
  schemaVersion : String
  source : GoldenTwinSource
deriving DecidableEq

open Value

def GoldenTwinSource.dump (s : GoldenTwinSource) : Row :=
  [("mode", str s.mode.name), ("network_name", str s.networkName),
    ("yaml_paths", list (s.yamlPaths.map str)), ("spanner_database", ofStr? s.spannerDatabase)]

/-- The tables of dumped entities. -/
def dumpTables (rows : Table → List Row) : Row :=
  Table.all.map fun t => (t.name, list ((rows t).map dict))

/-- `model_dump(mode="json", by_alias=True)`, with these rows. -/
def TwinFile.dump (twin : TwinFile) (rows : Table → List Row) : Row :=
  [("schema_version", str twin.schemaVersion), ("captured_at", str twin.capturedAt),
    ("source", dict twin.source.dump), ("content_hash", ofStr? twin.contentHash),
    ("entities", dict (dumpTables rows))]

/-! ## The hash -/

section

variable (text : FloatText)

/-- `json.dumps(row, sort_keys=True, default=str)` -/
def rowText (row : Row) : String := dumps text plainStyle (dict row)

/-- `_canonical_entities_bytes` -/
def canonicalEntitiesBytes (e : GoldenTwinEntities) : String :=
  dumps text compactStyle (dict (dumpTables fun t => sortedStr (rowText text) (e.rows t)))

/-- `hexdigest()` -/
def hexdigest (bytes : List ℕ) : String := Graph.lowerAscii (String.ofList (hexUpper bytes))

/-- `compute_content_hash`, with `hashlib.sha256` -/
def computeContentHash (sha256 : String → List ℕ) (e : GoldenTwinEntities) : String :=
  "sha256:" ++ hexdigest (sha256 (canonicalEntitiesBytes text e))

/-- The environment in which hashes are those of canonical bytes. -/
def Env.hashing (env : Env) : Env :=
  { env with contentHash := computeContentHash text env.sha256 }

/-! ## Saving -/

/-- The key by which `save_golden_twin` sorts the rows of a table. -/
def rowKey : Table → Row → Value
  | .interfaceLink, row => list [row.get "interface_id", row.get "link_id"]
  | .subnetAssociation, row => list [row.get "entity_id", row.get "subnet_id"]
  | _, row => row.get "id"

/-- `rows.sort(key=…)` in every table. -/
def sortRows (e : GoldenTwinEntities) : List Table → Except Error (Table → List Row)
  | [] => .ok e.rows
  | t :: tables => do
    let rows ← sortedBy (rowKey t) (e.rows t)
    let others ← sortRows e tables
    return Function.update others t rows

/-- `save_golden_twin`: what it writes. -/
def saveGoldenTwin (env : Env) (twin : TwinFile) : Except Error String := do
  let hash := computeContentHash text env.sha256 twin.entities
  let rows ← sortRows twin.entities Table.all
  return dumps text indentStyle (dict ({ twin with contentHash := some hash }.dump rows)) ++ "\n"

end

/-! ### The saved rows -/

/-- The key of so many ids. -/
def ofKey : List String → Value
  | [id] => str id
  | ids => list (ids.map str)

theorem rowKey_dump (t : Table) (x : t.Entity) : rowKey t (t.dump x) = ofKey (t.saveKey x) := by
  cases t <;> rfl

theorem ltItems?_str (as bs : List String) :
    ltItems? (as.map str) (bs.map str) = some (decide (as < bs)) := by
  induction as generalizing bs with
  | nil =>
    cases bs with
    | nil => rfl
    | cons b bs => simp [ltItems?]
  | cons a as ih =>
    cases bs with
    | nil => simp [ltItems?]
    | cons b bs =>
      rw [List.map_cons, List.map_cons, ltItems?, eq_str_str]
      by_cases h : a = b
      · rw [if_pos (decide_eq_true h), ih]
        simp [h]
      · rw [if_neg (by simpa using h), lt?_str]
        simp [h, List.cons_lt_cons_iff]

/-- Keys of as many ids are compared id by id. -/
theorem lt?_ofKey {as bs : List String} (h : as.length = bs.length) :
    lt? (ofKey as) (ofKey bs) = some (decide (as < bs)) := by
  have hlist : lt? (list (as.map str)) (list (bs.map str)) = some (decide (as < bs)) := by
    rw [lt?]
    exact ltItems?_str as bs
  match as, bs, h with
  | [], [], _ => exact hlist
  | [a], [b], _ =>
    rw [ofKey, ofKey, lt?_str]
    simp [List.cons_lt_cons_iff]
  | _ :: _ :: _, _ :: _ :: _, _ => exact hlist

/-- Sorting dumped entities by such keys is sorting the entities. -/
theorem sortedBy_ofKey {α β : Type} {f : α → β} {k : β → Value} {i : α → List String} {n : ℕ}
    (hlength : ∀ a, (i a).length = n) (h : ∀ a, k (f a) = ofKey (i a)) (items : List α) :
    sortedBy k (items.map f) = .ok ((StableSort.sortBy i items).map f) := by
  have hlt : ∀ a b, lt? (k (f a)) (k (f b)) = some (decide (i a < i b)) := by
    intro a b
    rw [h, h, lt?_ofKey ((hlength a).trans (hlength b).symm)]
  have hcomparable : comparable ((items.map f).map k) = true := by
    rw [List.map_map]
    refine decide_eq_true (List.pairwise_map.mpr (List.pairwise_of_forall fun a b => ?_))
    rw [Function.comp_apply, Function.comp_apply, hlt, hlt]
    exact ⟨rfl, rfl⟩
  unfold sortedBy
  rw [if_pos hcomparable]
  refine congrArg Except.ok (List.map_mergeSort fun a _ b _ => ?_).symm
  unfold notAfter
  rw [hlt, Bool.eq_iff_iff, decide_eq_true_iff, decide_eq_true_iff, ne_eq, Option.some.injEq,
    decide_eq_true_iff, not_lt]

theorem length_saveKey (t : Table) :
    ∀ x : t.Entity, (t.saveKey x).length = if t.isEdge then 2 else 1 := by
  cases t <;> exact fun _ => rfl

/-- The entities in the order in which they are saved. -/
def GoldenTwinEntities.sorted (e : GoldenTwinEntities) : GoldenTwinEntities :=
  .ofTables fun t => StableSort.sortBy t.saveKey (e.table t)

theorem sortRows_eq (e : GoldenTwinEntities) (tables : List Table) :
    sortRows e tables = .ok fun t => if t ∈ tables then e.sorted.rows t else e.rows t := by
  induction tables with
  | nil => rfl
  | cons t tables ih =>
    have hrows : sortedBy (rowKey t) (e.rows t) = .ok (e.sorted.rows t) := by
      rw [e.rows_eq_map, e.sorted.rows_eq_map, GoldenTwinEntities.sorted,
        GoldenTwinEntities.table_ofTables]
      exact sortedBy_ofKey (length_saveKey t) (rowKey_dump t) (e.table t)
    unfold sortRows
    rw [hrows, ih]
    refine congrArg Except.ok (funext fun u => ?_)
    by_cases h : u = t
    · subst h
      rw [Function.update_self, if_pos List.mem_cons_self]
    · rw [Function.update_of_ne h]
      simp [h]

section

variable (text : FloatText) (env : Env)

/-- The twin that `save_golden_twin` dumps. -/
def TwinFile.saved (twin : TwinFile) : TwinFile :=
  { twin with
    contentHash := some (computeContentHash text env.sha256 twin.entities)
    entities := twin.entities.sorted }

/-- **Saving never fails.** -/
theorem saveGoldenTwin_eq (twin : TwinFile) :
    saveGoldenTwin text env twin = .ok (dumps text indentStyle
      (dict ((twin.saved text env).dump (twin.saved text env).entities.rows)) ++ "\n") := by
  unfold saveGoldenTwin
  rw [sortRows_eq]
  have hall : (fun t => if t ∈ Table.all then twin.entities.sorted.rows t else twin.entities.rows t) =
      twin.entities.sorted.rows := funext fun t => if_pos (Table.mem_all t)
  rw [hall]
  rfl

end

/-! ## Canonical bytes -/

/-- A row with the keys of all its dictionaries in order. -/
def sortRow (row : Row) : Row := sortFields (sortKeysFields row)

theorem sortKeysFields_dumpTables (r : Table → List Row) :
    sortKeysFields (dumpTables r) = dumpTables fun t => (r t).map sortRow := by
  unfold dumpTables
  rw [sortKeysFields_eq_map, List.map_map]
  refine List.map_congr_left fun t _ => ?_
  show (t.name, list (sortKeysItems ((r t).map dict))) = _
  rw [sortKeysItems_eq_map, List.map_map, List.map_map]
  rfl

/-- Dumped tables are compared table by table. -/
theorem sortKeys_dumpTables_eq_iff {r₁ r₂ : Table → List Row} :
    (dict (dumpTables r₁)).sortKeys = (dict (dumpTables r₂)).sortKeys ↔
      ∀ t, (r₁ t).map sortRow = (r₂ t).map sortRow := by
  have hsort : ∀ r : Table → List Row, (dict (dumpTables r)).sortKeys =
      dict ((StableSort.sortBy Table.name Table.all).map fun t =>
        (t.name, list (((r t).map sortRow).map dict))) := by
    intro r
    rw [sortKeys, sortKeysFields_dumpTables]
    exact congrArg dict (StableSort.map_sortBy Table.name
      (f := fun t : Table => (t.name, list (((r t).map sortRow).map dict))) (fun _ => rfl) _).symm
  rw [hsort, hsort, dict.injEq, List.map_inj_left]
  constructor
  · intro h t
    have ht := h t ((StableSort.mem_sortBy Table.name).mpr (Table.mem_all t))
    rw [Prod.mk.injEq, list.injEq] at ht
    exact (List.map_injective_iff.mpr fun _ _ => dict.inj) ht.2
  · intro h t _
    rw [h]

section

variable (text : FloatText)

/-- **Canonical bytes** are equal exactly when the tables hold the same rows. -/
theorem canonicalEntitiesBytes_eq_iff {e₁ e₂ : GoldenTwinEntities} :
    canonicalEntitiesBytes text e₁ = canonicalEntitiesBytes text e₂ ↔
      ∀ t, ((e₁.rows t).map sortRow).Perm ((e₂.rows t).map sortRow) := by
  let textOf (row : Row) : String :=
    String.ofList (JsonText.write text.numerals plainStyle 0 (dict row).toJson)
  have hinjective : Function.Injective textOf := by
    intro a b h
    have hjson := JsonText.write_injective text.numerals plainStyle (String.ofList_injective h)
    exact dict.inj (toJson_injective hjson)
  have hsorted : ∀ rows : List Row,
      (sortedStr (rowText text) rows).map sortRow = StableSort.sortBy textOf (rows.map sortRow) :=
    fun rows => StableSort.map_sortBy (rowText text) (f := sortRow) (fun _ => rfl) rows
  unfold canonicalEntitiesBytes
  rw [dumps_eq_iff, sortKeys_dumpTables_eq_iff]
  refine forall_congr' fun t => ?_
  rw [hsorted, hsorted, StableSort.sortBy_eq_iff_perm textOf hinjective]

end

end GnnSandbox.Bench
