import GnnSandbox.Bench.Lookups
import GnnSandbox.Bench.RoundTrip
import GnnSandbox.Graph.Written

/-!
# Golden twins of a live store

`snapshot_from_spanner` reads the open rows of ten tables, one query after the other, while the
controllers write. The columns that hold dictionaries are not read, and a row with a null in a
required column is refused.

A twin is made of whatever rows the controllers have written by the time a table is read. It has
each key once, so that the order of the rows shows nowhere.
-/

namespace GnnSandbox.Bench

open Graph (TableName Database)
open Scd (current)

namespace FromSpanner

/-- The table of the store that is read into a table of the twin. -/
abbrev source : Table → TableName
  | .physicalRouter => .physicalRouter
  | .physicalInterface => .physicalInterface
  | .physicalLink => .physicalLink
  | .interfaceLink => .interfaceLink
  | .device => .device
  | .logicalSubnet => .logicalSubnet
  | .subnetAssociation => .subnetAssociation
  | .l3vpnService => .l3vpnService
  | .vrf => .vrf
  | .bgpSession => .bgpSession

/-- The entity that is made of the columns of a row. -/
def read : (t : Table) → Graph.Row (source t) → Option t.Entity
  | .physicalRouter, (r : Graph.PhysicalRouter) =>
    some ⟨r.id, r.name, r.vendor, r.model, r.locationCity, r.locationLat, r.locationLon, r.role,
      r.status, none⟩
  | .physicalInterface, (i : Graph.PhysicalInterface) =>
    some ⟨i.id, i.routerId, i.name, i.speed, i.mediaType, i.ipAddress, i.macAddress, i.status⟩
  | .physicalLink, (l : Graph.PhysicalLink) =>
    l.name.map fun name => ⟨l.id, name, l.bandwidth, l.status, none⟩
  | .interfaceLink, (il : Graph.InterfaceLink) => some ⟨il.interfaceId, il.linkId⟩
  | .device, (d : Graph.Device) =>
    some ⟨d.id, d.name, d.interfaceId, d.networkName, d.ipAddress, d.mgmtIp, d.gateway, d.vlan,
      d.status, none⟩
  | .logicalSubnet, (s : Graph.LogicalSubnet) => some ⟨s.id, s.cidr, s.networkType, none, none, none⟩
  | .subnetAssociation, (sa : Graph.SubnetAssociation) =>
    sa.entityType.map fun entityType => ⟨sa.entityId, sa.subnetId, entityType⟩
  | .l3vpnService, (s : Graph.L3VPNService) =>
    some ⟨s.id, s.name, s.customerId, s.serviceType, s.topology, s.status, none⟩
  | .vrf, (v : Graph.VRF) =>
    v.vpnId.map fun vpnId => ⟨v.id, v.routerId, vpnId, v.name, v.rd, v.status, none⟩
  | .bgpSession, (b : Graph.BGPSession) =>
    some ⟨b.id, b.vrfId, b.localAs, b.remoteAs, b.peerIp, b.status, none⟩

/-- The rows of a table that are open, `valid_end_ts IS NULL`. -/
def openRows (db : Database) (n : TableName) : List (Graph.Row n) := (current (db n)).map Prod.fst

/-- What the queries return, each over the store as it is then: the open rows, in some order. -/
structure TableAnswers (db : Table → Database) where
  rows : (t : Table) → List (Graph.Row (source t))
  rows_perm : ∀ t, (rows t).Perm (openRows (db t) (source t))

end FromSpanner

open FromSpanner

section

variable (text : FloatText) (env : Env) (capturedAt project instanceId database networkName : String)

/-- The twin with these entities. -/
def FromSpanner.twinOf (e : GoldenTwinEntities) : TwinFile where
  schemaVersion := "1.0"
  capturedAt := capturedAt
  source := ⟨.fromSpanner, networkName, [], some (project ++ "/" ++ instanceId ++ "/" ++ database)⟩
  contentHash := some (computeContentHash text env.sha256 e)
  entities := e

/-- `snapshot_from_spanner`; `none` when a row is refused. -/
def snapshotFromSpanner {db : Table → Database} (a : TableAnswers db) : Option TwinFile := do
  let routers ← (a.rows .physicalRouter).mapM (read .physicalRouter)
  let interfaces ← (a.rows .physicalInterface).mapM (read .physicalInterface)
  let links ← (a.rows .physicalLink).mapM (read .physicalLink)
  let edges ← (a.rows .interfaceLink).mapM (read .interfaceLink)
  let devices ← (a.rows .device).mapM (read .device)
  let subnets ← (a.rows .logicalSubnet).mapM (read .logicalSubnet)
  let assocs ← (a.rows .subnetAssociation).mapM (read .subnetAssociation)
  let services ← (a.rows .l3vpnService).mapM (read .l3vpnService)
  let vrfs ← (a.rows .vrf).mapM (read .vrf)
  let bgp ← (a.rows .bgpSession).mapM (read .bgpSession)
  return twinOf text env capturedAt project instanceId database networkName
    ⟨routers, interfaces, links, edges, devices, subnets, assocs, services, vrfs, bgp⟩

end

/-! ## Rows and entities -/

/-- What every result of a fallible function has in common with its argument. -/
theorem map_eq_of_mapM {α β γ : Type} {f : α → Option β} {g : β → γ} {h : α → γ}
    (hgh : ∀ x y, f x = some y → g y = h x) {xs : List α} {ys : List β}
    (hys : xs.mapM f = some ys) : ys.map g = xs.map h := by
  induction xs generalizing ys with
  | nil =>
    obtain rfl := Option.some.inj hys
    rfl
  | cons x xs ih =>
    rw [List.mapM_cons] at hys
    simp only [Option.bind_eq_bind, Option.bind_eq_some_iff, Option.pure_def,
      Option.some.injEq] at hys
    obtain ⟨y, hy, zs, hzs, rfl⟩ := hys
    rw [List.map_cons, List.map_cons, hgh x y hy, ih hzs]

theorem mem_mapM {α β : Type} {f : α → Option β} {xs : List α} {ys : List β}
    (hys : xs.mapM f = some ys) {y : β} : y ∈ ys ↔ ∃ x ∈ xs, f x = some y := by
  have hmap : ys.map some = xs.map f := map_eq_of_mapM (fun _ _ h => h.symm) hys
  rw [← List.mem_map_of_injective (Option.some_injective β), hmap, List.mem_map]

theorem exists_mapM {α β : Type} {f : α → Option β} {xs : List α}
    (h : ∀ x ∈ xs, ∃ y, f x = some y) : ∃ ys, xs.mapM f = some ys := by
  induction xs with
  | nil => exact ⟨[], rfl⟩
  | cons x xs ih =>
    obtain ⟨y, hy⟩ := h x List.mem_cons_self
    obtain ⟨ys, hys⟩ := ih fun a ha => h a (List.mem_cons_of_mem _ ha)
    exact ⟨y :: ys, by rw [List.mapM_cons, hy, hys]; rfl⟩

namespace FromSpanner

/-- The ids of a key. -/
def ids : Graph.Key → List String
  | .id id => [id]
  | .edge source target => [source, target]

theorem ids_injective : Function.Injective ids := by
  intro k k' h
  cases k <;> cases k' <;> simp_all [ids]

/-- An entity is saved under the key of its row. -/
theorem saveKey_read {t : Table} {x : Graph.Row (source t)} {y : t.Entity}
    (h : read t x = some y) : t.saveKey y = ids (Graph.Row.key x) := by
  cases t with
  | physicalLink | subnetAssociation | vrf =>
    obtain ⟨_, -, rfl⟩ := Option.map_eq_some_iff.mp h
    rfl
  | _ =>
    obtain rfl := Option.some.inj h
    rfl

/-- The controllers leave no required column null. -/
theorem exists_read {env : Graph.Env} {t : Table} {x : Graph.Row (source t)}
    (h : Graph.Written env (source t) x) : ∃ y, read t x = some y := by
  cases t with
  | physicalLink =>
    rcases h with ⟨net, rfl⟩ | ⟨suffix, hostVethName, containerIfaceId, bandwidth, state, rfl⟩
    · exact ⟨_, rfl⟩
    · exact ⟨_, rfl⟩
  | subnetAssociation =>
    obtain ⟨-, htype⟩ := h
    exact ⟨_, Option.map_eq_some_iff.mpr ⟨_, htype, rfl⟩⟩
  | vrf =>
    obtain ⟨status, routerName, routerId, vrfName, vrf, rfl⟩ := h
    exact ⟨_, rfl⟩
  | _ => exact ⟨_, rfl⟩

/-- Entities of one id have one key. -/
theorem saveKey_eq_of_id {t : Table} (ht : t.isEdge = false) {x y : t.Entity}
    (h : (t.dump x).get "id" = (t.dump y).get "id") : t.saveKey x = t.saveKey y := by
  cases t with
  | interfaceLink | subnetAssociation => cases ht
  | _ => exact congrArg (fun id => [id]) (Value.str.inj h)

/-- The entities that are made of the rows, table by table. -/
def TableAnswers.Reads {db : Table → Database} (a : TableAnswers db) (e : GoldenTwinEntities) : Prop :=
  ∀ t, (a.rows t).mapM (read t) = some (e.table t)

section Reads

variable {db : Table → Database} {a b : TableAnswers db} {e e' : GoldenTwinEntities}

theorem TableAnswers.exists_reads (a : TableAnswers db)
    (h : ∀ t, ∀ x ∈ openRows (db t) (source t), ∃ y, read t x = some y) : ∃ e, a.Reads e := by
  have hall : ∀ t, ∃ items, (a.rows t).mapM (read t) = some items :=
    fun t => exists_mapM fun x hx => h t x ((a.rows_perm t).mem_iff.mp hx)
  choose tables htables using hall
  exact ⟨.ofTables tables, fun t => (GoldenTwinEntities.table_ofTables tables t) ▸ htables t⟩

theorem TableAnswers.Reads.mem_iff (h : a.Reads e) {t : Table} {y : t.Entity} :
    y ∈ e.table t ↔ ∃ x ∈ openRows (db t) (source t), read t x = some y := by
  rw [mem_mapM (h t)]
  exact exists_congr fun x => and_congr_left' (a.rows_perm t).mem_iff

/-- The keys of the entities are those of the open rows. -/
theorem TableAnswers.Reads.keys_perm (h : a.Reads e) (t : Table) :
    ((e.table t).map t.saveKey).Perm
      ((openRows (db t) (source t)).map fun x => ids (Graph.Row.key x)) := by
  rw [map_eq_of_mapM (fun _ _ hread => saveKey_read hread) (h t)]
  exact (a.rows_perm t).map _

theorem TableAnswers.Reads.nodup_keys (h : a.Reads e)
    (hkeys : ∀ t, ((openRows (db t) (source t)).map Graph.Row.key).Nodup) (t : Table) :
    ((e.table t).map t.saveKey).Nodup := by
  rw [(h.keys_perm t).nodup_iff]
  have hmap : (openRows (db t) (source t)).map (fun x => ids (Graph.Row.key x)) =
      ((openRows (db t) (source t)).map Graph.Row.key).map ids := by
    rw [List.map_map]
    rfl
  rw [hmap]
  exact (hkeys t).map ids_injective

/-- TableAnswers in another order make a reordered twin. -/
theorem TableAnswers.Reads.table_perm (h : a.Reads e) (h' : b.Reads e') (t : Table) :
    (e.table t).Perm (e'.table t) := by
  have hrows := (a.rows_perm t).trans (b.rows_perm t).symm
  have hmap : ∀ {c : TableAnswers db} {f : GoldenTwinEntities}, c.Reads f →
      (f.table t).map some = (c.rows t).map (read t) :=
    fun hc => map_eq_of_mapM (fun _ _ hread => hread.symm) (hc t)
  rw [← List.map_perm_map_iff (Option.some_injective _), hmap h, hmap h']
  exact hrows.map _

end Reads

end FromSpanner

/-! ## Twins -/

/-- Twins whose entities have each key once, in two orders, are saved alike. -/
theorem saveGoldenTwin_eq_of_keys (text : FloatText) (env : Env) {twin other : TwinFile}
    (hkeys : ∀ t, ((twin.entities.table t).map t.saveKey).Nodup) (h : twin.Reordered other) :
    saveGoldenTwin text env twin = saveGoldenTwin text env other := by
  refine (saveGoldenTwin_eq_iff text env h).mpr fun t => ?_
  refine StableSort.sortBy_eq_of_perm t.saveKey ?_ ((h.tables t).map t.sortKeys)
  intro x' hx' y' hy' hkey
  obtain ⟨x, hx, rfl⟩ := List.mem_map.mp hx'
  obtain ⟨y, hy, rfl⟩ := List.mem_map.mp hy'
  rw [t.saveKey_sortKeys, t.saveKey_sortKeys] at hkey
  rw [List.inj_on_of_nodup_map (hkeys t) hx hy hkey]

theorem uniqueIds_of_keys {twin : GoldenTwin}
    (hkeys : ∀ t, ((twin.entities.table t).map t.saveKey).Nodup) : twin.UniqueIds := by
  intro t ht
  rw [twin.entities.rows_eq_map, List.map_map]
  exact List.pairwise_map.mpr ((List.pairwise_map.mp (hkeys t)).imp fun hne hid =>
    hne (saveKey_eq_of_id ht hid))

section

variable (text : FloatText) (env : Env) (capturedAt project instanceId database networkName : String)

theorem snapshotFromSpanner_eq {db : Table → Database} {a : TableAnswers db} {e : GoldenTwinEntities}
    (h : a.Reads e) :
    snapshotFromSpanner text env capturedAt project instanceId database networkName a =
      some (twinOf text env capturedAt project instanceId database networkName e) := by
  unfold snapshotFromSpanner
  rw [h .physicalRouter, h .physicalInterface, h .physicalLink, h .interfaceLink, h .device,
    h .logicalSubnet, h .subnetAssociation, h .l3vpnService, h .vrf, h .bgpSession]
  rfl

end

end GnnSandbox.Bench
