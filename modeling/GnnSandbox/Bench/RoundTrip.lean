import GnnSandbox.Bench.Loaded
import GnnSandbox.Bench.Validation
import Mathlib.Data.List.Perm.Basic

/-!
# Saving and loading a golden twin

A twin that the validation accepts is saved and loaded again, up to the order of its rows and of the
keys in its dictionaries. The saved bytes forget the order of the rows exactly when no two different
rows of a table have the same save key: rows with equal keys are written in the order in which they
come, while the canonical bytes sort them by all that they hold.
-/

namespace GnnSandbox.Bench

open Value (dict)

/-! ## Entities up to order -/

namespace GoldenTwinEntities

/-- The tables hold the same rows. Dictionaries are equal whatever the order of their keys. -/
def SameRows (e e' : GoldenTwinEntities) : Prop :=
  ∀ t, ((e.table t).map t.sortKeys).Perm ((e'.table t).map t.sortKeys)

/-- No two different rows of a table are saved under the same key. -/
def KeysDiffer (e : GoldenTwinEntities) : Prop :=
  ∀ t, ∀ x ∈ e.table t, ∀ y ∈ e.table t, t.saveKey x = t.saveKey y → t.sortKeys x = t.sortKeys y

end GoldenTwinEntities

theorem sortConfig_sortConfig (config : Option (List (String × Value))) :
    sortConfig (sortConfig config) = sortConfig config := by
  unfold sortConfig
  rw [Option.map_map]
  refine congrArg (Option.map · config) (funext fun fields => ?_)
  exact Value.dict.inj (Value.sortKeys_sortKeys (dict fields))

namespace Table

theorem sortKeys_sortKeys (t : Table) (x : t.Entity) :
    t.sortKeys (t.sortKeys x) = t.sortKeys x := by
  cases t <;> simp only [Table.sortKeys, sortConfig_sortConfig]

theorem saveKey_sortKeys (t : Table) (x : t.Entity) : t.saveKey (t.sortKeys x) = t.saveKey x := by
  cases t <;> rfl

/-- Sorted rows tell the entities apart, up to the order of keys. -/
theorem sortFields_dump_injective (t : Table) :
    Function.Injective fun x : t.Entity => sortFields (t.dump x) := by
  intro x y h
  let c : Coercions := ⟨fun _ => none, fun _ => none, fun _ => none, fun _ => none⟩
  have hread : ∀ z : t.Entity, t.validate c (sortFields (t.dump z)) = some z := by
    intro z
    rw [t.validate_sortFields c (t.columns_dump z ▸ t.columns_nodup), t.validate_dump]
  have hx := hread x
  rw [show sortFields (t.dump x) = sortFields (t.dump y) from h, hread y] at hx
  exact (Option.some.inj hx).symm

end Table

namespace GoldenTwinEntities

/-- The dumped rows of a table with sorted keys. -/
theorem map_sortRow_rows (e : GoldenTwinEntities) (t : Table) :
    (e.rows t).map sortRow =
      ((e.table t).map t.sortKeys).map fun x => sortFields (t.dump x) := by
  rw [rows_eq_map, List.map_map, List.map_map]
  exact List.map_congr_left fun x _ => sortRow_dump t x

theorem sameRows_iff_rows {e e' : GoldenTwinEntities} :
    e.SameRows e' ↔ ∀ t, ((e.rows t).map sortRow).Perm ((e'.rows t).map sortRow) := by
  refine forall_congr' fun t => ?_
  rw [map_sortRow_rows, map_sortRow_rows, List.map_perm_map_iff t.sortFields_dump_injective]

theorem sameRows_of_perm {e e' : GoldenTwinEntities}
    (h : ∀ t, (e.table t).Perm (e'.table t)) : e.SameRows e' :=
  fun t => (h t).map t.sortKeys

/-! ### Validation looks at no order -/

section

variable {e e' : GoldenTwinEntities} (h : e.SameRows e')

include h

/-- What does not depend on the order of keys is the same. -/
theorem SameRows.map_perm {β : Type} {t : Table} {g : t.Entity → β}
    (hg : ∀ x, g (t.sortKeys x) = g x) : ((e.table t).map g).Perm ((e'.table t).map g) := by
  have hmap : ∀ items : List t.Entity, (items.map t.sortKeys).map g = items.map g := by
    intro items
    rw [List.map_map]
    exact List.map_congr_left fun x _ => hg x
  rw [← hmap (e.table t), ← hmap (e'.table t)]
  exact (h t).map g

theorem SameRows.ids_perm (t : Table) : (e.ids t).Perm (e'.ids t) := by
  cases t with
  | interfaceLink => exact .refl _
  | subnetAssociation => exact .refl _
  | physicalRouter => exact h.map_perm (t := .physicalRouter) fun _ => rfl
  | physicalInterface => exact h.map_perm (t := .physicalInterface) fun _ => rfl
  | physicalLink => exact h.map_perm (t := .physicalLink) fun _ => rfl
  | device => exact h.map_perm (t := .device) fun _ => rfl
  | logicalSubnet => exact h.map_perm (t := .logicalSubnet) fun _ => rfl
  | l3vpnService => exact h.map_perm (t := .l3vpnService) fun _ => rfl
  | vrf => exact h.map_perm (t := .vrf) fun _ => rfl
  | bgpSession => exact h.map_perm (t := .bgpSession) fun _ => rfl

theorem SameRows.mem_ids {t : Table} {id : String} : id ∈ e.ids t ↔ id ∈ e'.ids t :=
  (h.ids_perm t).mem_iff

/-- What the rows of a table have in common. -/
theorem SameRows.forall_table {β : Type} {t : Table} {g : t.Entity → β}
    (hg : ∀ x, g (t.sortKeys x) = g x) {P : β → Prop} (hall : ∀ x ∈ e.table t, P (g x)) :
    ∀ x ∈ e'.table t, P (g x) := by
  intro x hx
  obtain ⟨y, hy, heq⟩ := List.mem_map.mp ((h.map_perm hg).mem_iff.mpr (List.mem_map_of_mem hx))
  exact heq ▸ hall y hy

/-- References that resolve. -/
theorem SameRows.resolve {t u : Table} (g : t.Entity → String) (hg : ∀ x, g (t.sortKeys x) = g x)
    (hall : ∀ x ∈ e.table t, g x ∈ e.ids u) : ∀ x ∈ e'.table t, g x ∈ e'.ids u :=
  h.forall_table hg (P := fun id => id ∈ e'.ids u) fun x hx => h.mem_ids.mp (hall x hx)

theorem SameRows.endpoints_eq (linkId : String) :
    Loader.endpoints e linkId = Loader.endpoints e' linkId := by
  have hperm := h.map_perm (t := .interfaceLink) (g := InterfaceLink.linkId) fun _ => rfl
  have hlength : ∀ e : GoldenTwinEntities, Loader.endpoints e linkId =
      (((e.table .interfaceLink).map InterfaceLink.linkId).filter fun k => k = linkId).length := by
    intro e
    rw [List.filter_map, List.length_map]
    rfl
  rw [hlength, hlength]
  exact (hperm.filter _).length_eq

theorem SameRows.patterned (hpatterned : e.Patterned) : e'.Patterned :=
  fun t id hid => hpatterned t id (h.mem_ids.mpr hid)

theorem SameRows.checked (hchecked : e.Checked) : e'.Checked where
  interfaceRouter := h.resolve (t := .physicalInterface) (u := .physicalRouter)
    PhysicalInterface.routerId (fun _ => rfl) hchecked.interfaceRouter
  edgeInterface := h.resolve (t := .interfaceLink) (u := .physicalInterface)
    InterfaceLink.interfaceId (fun _ => rfl) hchecked.edgeInterface
  edgeLink := h.resolve (t := .interfaceLink) (u := .physicalLink)
    InterfaceLink.linkId (fun _ => rfl) hchecked.edgeLink
  linkEndpoints id hid := by
    rw [← h.endpoints_eq]
    exact hchecked.linkEndpoints id (h.mem_ids.mpr hid)
  deviceInterface := h.forall_table (t := .device) (g := Device.interfaceId) (fun _ => rfl)
    (P := fun a => ∀ id, Graph.truthy a = some id → id ∈ e'.ids .physicalInterface)
    fun d hd id hid => h.mem_ids.mp (hchecked.deviceInterface d hd id hid)
  associationSubnet := h.resolve (t := .subnetAssociation) (u := .logicalSubnet)
    SubnetAssociation.subnetId (fun _ => rfl) hchecked.associationSubnet
  vrfRouter := h.resolve (t := .vrf) (u := .physicalRouter) VRF.routerId (fun _ => rfl)
    hchecked.vrfRouter
  vrfVpn := h.resolve (t := .vrf) (u := .l3vpnService) VRF.vpnId (fun _ => rfl) hchecked.vrfVpn
  sessionVrf := h.resolve (t := .bgpSession) (u := .vrf) BGPSession.vrfId (fun _ => rfl)
    hchecked.sessionVrf

end

end GoldenTwinEntities

/-! ## Twins up to order -/

namespace TwinFile

/-- The dictionaries are ones: no key occurs twice. -/
def Keyed (twin : TwinFile) : Prop :=
  ∀ t, ∀ row ∈ twin.entities.rows t, (dict row).keyed = true

/-- Two twins that differ only in the order of their rows. -/
structure Reordered (twin other : TwinFile) : Prop where
  schemaVersion : twin.schemaVersion = other.schemaVersion
  capturedAt : twin.capturedAt = other.capturedAt
  source : twin.source = other.source
  contentHash : twin.contentHash = other.contentHash
  tables : ∀ t, (twin.entities.table t).Perm (other.entities.table t)

/-- A loaded twin is a given one with a given hash, up to the order of the rows. The keys of its
dictionaries are in order. -/
structure Restores (loaded twin : TwinFile) (hash : String) : Prop where
  schemaVersion : loaded.schemaVersion = twin.schemaVersion
  capturedAt : loaded.capturedAt = twin.capturedAt
  source : loaded.source = twin.source
  contentHash : loaded.contentHash = some hash
  tables : ∀ t, (loaded.entities.table t).Perm ((twin.entities.table t).map t.sortKeys)

/-- Saving and loading a twin, and comparing it with others. -/
structure SavedFaithfully (c : Coercions) (text : FloatText) (env : Env) (twin : TwinFile) :
    Prop where
  /-- An accepted twin is loaded as it was saved. -/
  loads : validateGoldenTwin (env.hashing text) twin.toGoldenTwin false = [] →
    ∃ content loaded, saveGoldenTwin text env twin = .ok content ∧
      TwinFile.load c text env content = .ok loaded ∧
        loaded.Restores twin (computeContentHash text env.sha256 twin.entities)
  /-- The order of the rows shows neither in the file nor in the hash. -/
  sameBytes : ∀ other, twin.Reordered other →
    saveGoldenTwin text env twin = saveGoldenTwin text env other ∧
      computeContentHash text env.sha256 twin.entities =
        computeContentHash text env.sha256 other.entities
  /-- Different rows have different canonical bytes. -/
  differentBytes : ∀ other : TwinFile, ¬twin.entities.SameRows other.entities →
    canonicalEntitiesBytes text twin.entities ≠ canonicalEntitiesBytes text other.entities

end TwinFile

section

variable (text : FloatText) (env : Env)

/-! ### Hashes -/

theorem canonicalEntitiesBytes_eq_iff_sameRows {e e' : GoldenTwinEntities} :
    canonicalEntitiesBytes text e = canonicalEntitiesBytes text e' ↔ e.SameRows e' :=
  (canonicalEntitiesBytes_eq_iff text).trans GoldenTwinEntities.sameRows_iff_rows.symm

theorem computeContentHash_congr (sha256 : String → List ℕ) {e e' : GoldenTwinEntities}
    (h : e.SameRows e') : computeContentHash text sha256 e = computeContentHash text sha256 e' := by
  unfold computeContentHash
  rw [(canonicalEntitiesBytes_eq_iff_sameRows text).mpr h]

/-! ### Loading what was saved -/

theorem table_sorted_sortKeys (e : GoldenTwinEntities) (t : Table) :
    (e.sorted.sortKeys.table t).Perm ((e.table t).map t.sortKeys) := by
  unfold GoldenTwinEntities.sorted GoldenTwinEntities.sortKeys
  rw [GoldenTwinEntities.table_ofTables, GoldenTwinEntities.table_ofTables]
  exact (StableSort.sortBy_perm t.saveKey _).map t.sortKeys

theorem sameRows_sorted_sortKeys (e : GoldenTwinEntities) : e.SameRows e.sorted.sortKeys := by
  intro t
  have hmap : ((e.table t).map t.sortKeys).map t.sortKeys = (e.table t).map t.sortKeys := by
    rw [List.map_map]
    exact List.map_congr_left fun x _ => t.sortKeys_sortKeys x
  exact hmap ▸ ((table_sorted_sortKeys e t).map t.sortKeys).symm

/-- What is saved has each key once. -/
theorem keyed_saved {twin : TwinFile} (h : twin.Keyed) :
    (dict ((twin.saved text env).dump (twin.saved text env).entities.rows)).keyed = true := by
  have htables : (dict (dumpTables (twin.saved text env).entities.rows)).keyed = true := by
    rw [Value.keyed_dict, Value.keyedFields_iff]
    refine ⟨nodup_dumpTables _, fun f hf => ?_⟩
    obtain ⟨t, -, rfl⟩ := List.mem_map.mp hf
    refine Value.keyedItems_iff.mpr fun a ha => ?_
    obtain ⟨row, hrow, rfl⟩ := List.mem_map.mp ha
    refine h t row ?_
    rw [GoldenTwinEntities.rows_eq_map] at hrow ⊢
    have hperm : (twin.entities.sorted.table t).Perm (twin.entities.table t) := by
      unfold GoldenTwinEntities.sorted
      rw [GoldenTwinEntities.table_ofTables]
      exact StableSort.sortBy_perm t.saveKey _
    exact (hperm.map t.dump).mem_iff.mp hrow
  have hstr : ∀ s, (Value.ofStr? s).keyed = true := by
    intro s
    cases s <;> rfl
  have hpaths : Value.keyedItems (twin.source.yamlPaths.map .str) = true := by
    refine Value.keyedItems_iff.mpr fun a ha => ?_
    obtain ⟨s, -, rfl⟩ := List.mem_map.mp ha
    rfl
  have hsource : (dict twin.source.dump).keyed = true := by
    simp [GoldenTwinSource.dump, Value.keyed, Value.keyedFields, Row.columns, hstr, hpaths]
  rw [Value.keyed_dict, Value.keyedFields_iff]
  refine ⟨?_, fun f hf => ?_⟩
  · show ["schema_version", "captured_at", "source", "content_hash", "entities"].Nodup
    decide
  · simp only [TwinFile.dump, List.mem_cons, List.not_mem_nil, or_false] at hf
    rcases hf with rfl | rfl | rfl | rfl | rfl
    · rfl
    · rfl
    · exact hsource
    · exact hstr (twin.saved text env).contentHash
    · exact htables

/-- **Round trip.** An accepted twin is loaded as it was saved. -/
theorem load_save (c : Coercions) {twin : TwinFile} (hkeyed : twin.Keyed)
    (hvalid : validateGoldenTwin (env.hashing text) twin.toGoldenTwin false = []) :
    ∃ content loaded, saveGoldenTwin text env twin = .ok content ∧
      TwinFile.load c text env content = .ok loaded ∧
        loaded.Restores twin (computeContentHash text env.sha256 twin.entities) := by
  obtain ⟨hpatterned, hchecked, -⟩ := validateGoldenTwin_eq_nil.mp hvalid
  have hsame := sameRows_sorted_sortKeys twin.entities
  let loaded : TwinFile :=
    { twin.saved text env with entities := twin.entities.sorted.sortKeys }
  have hloaded : validateGoldenTwin (env.hashing text) loaded.toGoldenTwin true = [] := by
    refine validateGoldenTwin_eq_nil.mpr ⟨hsame.patterned hpatterned, hsame.checked hchecked, ?_⟩
    intro _ stored hstored
    obtain rfl := Option.some.inj hstored
    exact computeContentHash_congr text env.sha256 hsame
  refine ⟨_, loaded, saveGoldenTwin_eq text env twin, ?_, rfl, rfl, rfl, rfl,
    table_sorted_sortKeys twin.entities⟩
  have hread : TwinFile.validate c
      (dict ((twin.saved text env).dump (twin.saved text env).entities.rows)).sortKeys =
        some loaded := validate_twin c (twin.saved text env)
  unfold TwinFile.load
  rw [loads_dumps text indentStyle (keyed_saved text env hkeyed) (by decide)]
  dsimp only
  rw [hread]
  dsimp only
  rw [hloaded]

/-! ### Saving in another order -/

/-- Dumps of twins that agree outside their tables. -/
theorem sortKeys_dump_eq_iff {x y : TwinFile} (hversion : x.schemaVersion = y.schemaVersion)
    (hcaptured : x.capturedAt = y.capturedAt) (hsource : x.source = y.source)
    (hhash : x.contentHash = y.contentHash) {r₁ r₂ : Table → List Row} :
    (dict (x.dump r₁)).sortKeys = (dict (y.dump r₂)).sortKeys ↔
      (dict (dumpTables r₁)).sortKeys = (dict (dumpTables r₂)).sortKeys := by
  have hlookup : ∀ (z : TwinFile) (r : Table → List Row),
      (sortFields (Value.sortKeysFields (z.dump r))).lookup "entities" =
        some (dict (dumpTables r)).sortKeys := by
    intro z r
    have hnodup : (Row.columns (Value.sortKeysFields (z.dump r))).Nodup := by
      rw [Value.columns_sortKeysFields]
      show ["schema_version", "captured_at", "source", "content_hash", "entities"].Nodup
      decide
    rw [lookup_sortFields hnodup]
    rfl
  constructor
  · intro h
    have hfields := congrArg (List.lookup "entities") (Value.dict.inj h)
    rw [hlookup, hlookup] at hfields
    exact Option.some.inj hfields
  · intro h
    rw [Value.sortKeys, Value.sortKeys]
    simp only [TwinFile.dump, Value.sortKeysFields, h, hversion, hcaptured, hsource, hhash]

/-- **Reordered twins** are saved alike exactly when their tables sort alike. -/
theorem saveGoldenTwin_eq_iff {twin other : TwinFile} (h : twin.Reordered other) :
    saveGoldenTwin text env twin = saveGoldenTwin text env other ↔
      ∀ t, StableSort.sortBy t.saveKey ((twin.entities.table t).map t.sortKeys) =
        StableSort.sortBy t.saveKey ((other.entities.table t).map t.sortKeys) := by
  have hrows : ∀ (e : GoldenTwinEntities) (t : Table), (e.sorted.rows t).map sortRow =
      (StableSort.sortBy t.saveKey ((e.table t).map t.sortKeys)).map fun x =>
        sortFields (t.dump x) := by
    intro e t
    rw [e.sorted.map_sortRow_rows, GoldenTwinEntities.sorted, GoldenTwinEntities.table_ofTables,
      StableSort.map_sortBy t.saveKey t.saveKey_sortKeys]
  have hhash := computeContentHash_congr text env.sha256
    (GoldenTwinEntities.sameRows_of_perm h.tables)
  have htext : ∀ a b : String, (Except.ok (a ++ "\n") : Except Error String) = .ok (b ++ "\n") ↔
      a = b := by
    intro a b
    rw [Except.ok.injEq, String.append_left_inj]
  rw [saveGoldenTwin_eq, saveGoldenTwin_eq, htext, dumps_eq_iff,
    sortKeys_dump_eq_iff (x := twin.saved text env) (y := other.saved text env) h.schemaVersion
      h.capturedAt h.source (congrArg some hhash), sortKeys_dumpTables_eq_iff]
  refine forall_congr' fun t => ?_
  have hinjective := List.map_injective_iff.mpr t.sortFields_dump_injective
  show (twin.entities.sorted.rows t).map sortRow = (other.entities.sorted.rows t).map sortRow ↔ _
  rw [hrows, hrows]
  exact hinjective.eq_iff

end

/-- The sample with a subnet and some associations, in a file. -/
def TwinFile.sample (associations : List SubnetAssociation) : TwinFile :=
  { GoldenTwin.sample with
    entities :=
      { GoldenTwin.sample.entities with
        subnets := [⟨"subnet:lan", "10.0.0.0/24", some "lan", none, none, none⟩]
        subnetAssociation := associations }
    schemaVersion := "1.0"
    source := ⟨.fromYaml, "lab", ["lab.yaml"], none⟩ }

/-- An association of the interface of the sample. -/
def SubnetAssociation.sample (entityType : String) : SubnetAssociation :=
  ⟨"router:pe1:interface:eth0", "subnet:lan", entityType⟩

end GnnSandbox.Bench
