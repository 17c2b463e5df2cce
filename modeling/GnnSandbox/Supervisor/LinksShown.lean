import Mathlib.Data.List.Perm.Subperm
import GnnSandbox.Supervisor.Topology

/-!
# Links that are shown

A link between two routers is shown once, with its interfaces, if no other path joins its routers:
the loop keeps one connection for each pair of routers, and the rows have no order. Other paths are
those of parallel links, and those over versions of interfaces and links that the query does not
filter.
-/

namespace GnnSandbox.Supervisor.Topology

open Graph

/-! ## Links between routers -/

variable {db : Database} {target : Option Timestamp} {parse : Option String → Option ℤ}

/-- An interface of a valid router at a link. -/
structure AtLink (db : Database) (target : Option Timestamp)
    (l : Scd.Version Timestamp PhysicalLink) (i : Scd.Version Timestamp PhysicalInterface)
    (r : Scd.Version Timestamp PhysicalRouter) : Prop where
  interface : i ∈ db .physicalInterface ∧ isValid target i = true
  not_eth0 : i.data.name ≠ "eth0"
  attached : ∃ e ∈ db .interfaceLink, isValid target e = true ∧
    e.data.interfaceId = i.data.id ∧ e.data.linkId = l.data.id
  router : r ∈ db .physicalRouter ∧ isValid target r = true
  owned : i.data.routerId = r.data.id

/-- A valid link whose two interfaces belong to two routers. -/
structure Joins (db : Database) (target : Option Timestamp)
    (l : Scd.Version Timestamp PhysicalLink) (i : Scd.Version Timestamp PhysicalInterface)
    (r : Scd.Version Timestamp PhysicalRouter) (i' : Scd.Version Timestamp PhysicalInterface)
    (r' : Scd.Version Timestamp PhysicalRouter) : Prop where
  link : l ∈ db .physicalLink ∧ isValid target l = true
  source : AtLink db target l i r
  remote : AtLink db target l i' r'
  ne : r.data.id ≠ r'.data.id

/-- A connection of two routers and the names of their interfaces. -/
def Between (c : LinkConnection) (r : Scd.Version Timestamp PhysicalRouter)
    (i : Scd.Version Timestamp PhysicalInterface) (r' : Scd.Version Timestamp PhysicalRouter)
    (i' : Scd.Version Timestamp PhysicalInterface) : Prop :=
  c.sourceRouterId = r.data.id ∧ c.sourceInterface = some i.data.name ∧
    c.targetRouterId = r'.data.id ∧ c.targetInterface = some i'.data.name

/-- A connection shows a link, from either end. -/
structure Shows (c : LinkConnection) (l : Scd.Version Timestamp PhysicalLink)
    (i : Scd.Version Timestamp PhysicalInterface) (r : Scd.Version Timestamp PhysicalRouter)
    (i' : Scd.Version Timestamp PhysicalInterface)
    (r' : Scd.Version Timestamp PhysicalRouter) : Prop where
  id : c.id = l.data.id
  ends : Between c r i r' i' ∨ Between c r' i' r i

def Connection.asLink : Connection → Option LinkConnection
  | .link c => some c
  | .device _ => none

/-- The connections between routers. -/
def linkConnections (t : PhysicalTopology) : List LinkConnection :=
  t.connections.filterMap Connection.asLink

/-- Each link has one entry, which shows it. -/
def LinksShown (db : Database) (target : Option Timestamp) (t : PhysicalTopology) : Prop :=
  ∀ l i r i' r', Joins db target l i r i' r' →
    ∃ c, (linkConnections t).filter (fun c => c.id = l.data.id) = [c] ∧ Shows c l i r i' r'

/-- No other path has the link or joins its routers. -/
structure Alone (db : Database) (target : Option Timestamp)
    (l : Scd.Version Timestamp PhysicalLink) (i : Scd.Version Timestamp PhysicalInterface)
    (r : Scd.Version Timestamp PhysicalRouter) (i' : Scd.Version Timestamp PhysicalInterface)
    (r' : Scd.Version Timestamp PhysicalRouter) : Prop where
  crossed : ∃ r₁ i₁ l₁ i₂ r₂, Crossing db target r₁ i₁ l₁ i₂ r₂ ∧
    Shows (crossed r₁ i₁ l₁ i₂ r₂) l i r i' r'
  only : ∀ r₁ i₁ l₁ i₂ r₂, Crossing db target r₁ i₁ l₁ i₂ r₂ →
    l₁.data.id = l.data.id ∨ (r₁.data.id = r.data.id ∧ r₂.data.id = r'.data.id) ∨
      (r₁.data.id = r'.data.id ∧ r₂.data.id = r.data.id) →
    Shows (Topology.crossed r₁ i₁ l₁ i₂ r₂) l i r i' r'

/-! ## Connections and bandwidths -/

theorem Shows.key {c : LinkConnection} {l : Scd.Version Timestamp PhysicalLink}
    {i i' : Scd.Version Timestamp PhysicalInterface} {r r' : Scd.Version Timestamp PhysicalRouter}
    (h : Shows c l i r i' r') : c.key = Lib.sortedPair r.data.id r'.data.id := by
  unfold LinkConnection.key
  rw [Lib.sortedPair_eq_iff]
  rcases h.ends with ⟨hr, -, hr', -⟩ | ⟨hr, -, hr', -⟩
  · exact .inl ⟨hr, hr'⟩
  · exact .inr ⟨hr, hr'⟩

/-- Attaching a bandwidth changes nothing else. -/
theorem addLinkBandwidths_eq (bandwidths : List String → Option (List (String × Option String)))
    (connections : List LinkConnection) : ∃ bandwidth : LinkConnection → Option ℤ,
      addLinkBandwidths parse bandwidths connections =
        connections.map fun c => { c with linkBandwidthBps := bandwidth c } := by
  unfold addLinkBandwidths
  dsimp only
  split
  · exact ⟨LinkConnection.linkBandwidthBps, (List.map_id _).symm⟩
  · next rows _ =>
    refine ⟨fun c => (((rows.map fun row => (row.1, parse row.2)).reverse.lookup c.id).getD
      c.linkBandwidthBps), List.map_congr_left fun c _ => ?_⟩
    dsimp only
    split
    · next hnone => rw [hnone, Option.getD_none]
    · next hsome => rw [hsome, Option.getD_some]

theorem linkConnections_fetch (a : Answers db target) :
    linkConnections (fetchPhysicalTopology parse a) =
      addLinkBandwidths parse a.bandwidths a.collected.connections.2 := by
  have hlinks : ∀ cs : List LinkConnection, (cs.map Connection.link).filterMap Connection.asLink =
      cs := fun cs => List.filterMap_map.trans List.filterMap_some
  have hdevices : ∀ cs : List DeviceConnection,
      (cs.map Connection.device).filterMap Connection.asLink = [] :=
    fun cs => List.filterMap_map.trans (List.filterMap_eq_nil_iff.mpr fun _ _ => rfl)
  unfold linkConnections fetchPhysicalTopology addDevices
  rw [List.filterMap_append, hlinks, hdevices, List.append_nil]

/-! ## Orders of the rows -/

variable {l : Scd.Version Timestamp PhysicalLink} {i i' : Scd.Version Timestamp PhysicalInterface}
  {r r' : Scd.Version Timestamp PhysicalRouter}

/-- The entry of a link, whatever bandwidths are attached. -/
theorem exists_shown_iff (a : Answers db target) :
    (∃ c, (linkConnections (fetchPhysicalTopology parse a)).filter
        (fun c => c.id = l.data.id) = [c] ∧ Shows c l i r i' r') ↔
    ∃ c, (Lib.firstOfEach LinkConnection.key (a.rows.filterMap connectionOf)).filter
        (fun c => c.id = l.data.id) = [c] ∧ Shows c l i r i' r' := by
  obtain ⟨bandwidth, hbandwidth⟩ :=
    @addLinkBandwidths_eq parse a.bandwidths a.collected.connections.2
  rw [linkConnections_fetch, hbandwidth, connections_collected, List.filter_map]
  constructor
  · rintro ⟨c, hfilter, hshows⟩
    obtain ⟨c', hfilter', rfl⟩ := List.map_eq_singleton_iff.mp hfilter
    exact ⟨c', hfilter', hshows.id, hshows.ends⟩
  · rintro ⟨c, hfilter, hshows⟩
    exact ⟨_, List.map_eq_singleton_iff.mpr ⟨c, hfilter, rfl⟩, hshows.id, hshows.ends⟩

/-- Answers with the rows of the first query in some order, when the others fail. -/
def answersOf {rows : List TopologyRow} (hrows : rows.Perm (topologyRows db target)) :
    Answers db target :=
  { rows := rows
    bandwidths := fun _ => none
    devices := []
    rows_perm := hrows
    bandwidths_perm := fun _ _ hnone => by cases hnone
    devices_subperm := List.nil_subperm }

/-- **A link is shown in every order of the rows** exactly when it is alone. -/
theorem forall_shown_iff : (∀ a : Answers db target,
      ∃ c, (linkConnections (fetchPhysicalTopology parse a)).filter
        (fun c => c.id = l.data.id) = [c] ∧ Shows c l i r i' r') ↔
    Alone db target l i r i' r' := by
  have hkey : ∀ c, Shows c l i r i' r' →
      c.id = l.data.id ∧ c.key = Lib.sortedPair r.data.id r'.data.id := fun c h => ⟨h.id, h.key⟩
  have hmem : ∀ (a : Answers db target) (c : LinkConnection),
      c ∈ a.rows.filterMap connectionOf ↔ ∃ r₁ i₁ l₁ i₂ r₂, Crossing db target r₁ i₁ l₁ i₂ r₂ ∧
        c = crossed r₁ i₁ l₁ i₂ r₂ := fun a c =>
    ((a.rows_perm.filterMap connectionOf).mem_iff).trans mem_connections
  constructor
  · intro h
    have hfirst : ∀ c ∈ (topologyRows db target).filterMap connectionOf,
        c.id = l.data.id ∨ c.key = Lib.sortedPair r.data.id r'.data.id → Shows c l i r i' r' := by
      intro c hc
      obtain ⟨row, hrow, hconnection⟩ := List.mem_filterMap.mp hc
      have hperm := (List.perm_cons_erase hrow).symm
      have hshown := (exists_shown_iff (answersOf hperm)).mp (h _)
      have hrows : (answersOf hperm).rows.filterMap connectionOf =
          c :: ((topologyRows db target).erase row).filterMap connectionOf :=
        List.filterMap_cons_some hconnection
      rw [hrows] at hshown
      exact Lib.of_filter_firstOfEach_cons hkey hshown
    constructor
    · obtain ⟨c, hfilter, hshows⟩ :=
        (exists_shown_iff (answersOf (List.Perm.refl (topologyRows db target)))).mp (h _)
      have hc := (List.mem_filter.mp (hfilter ▸ List.mem_singleton_self c)).1
      obtain ⟨r₁, i₁, l₁, i₂, r₂, hcrossing, rfl⟩ := (hmem _ c).mp (Lib.mem_of_mem_firstOfEach hc)
      exact ⟨r₁, i₁, l₁, i₂, r₂, hcrossing, hshows⟩
    · intro r₁ i₁ l₁ i₂ r₂ hcrossing hsame
      refine hfirst _ (mem_connections.mpr ⟨r₁, i₁, l₁, i₂, r₂, hcrossing, rfl⟩) ?_
      exact hsame.imp id Lib.sortedPair_eq_iff.mpr
  · intro h a
    refine (exists_shown_iff a).mpr (Lib.exists_filter_firstOfEach hkey ?_ ?_)
    · obtain ⟨r₁, i₁, l₁, i₂, r₂, hcrossing, hshows⟩ := h.crossed
      exact ⟨_, (hmem a _).mpr ⟨r₁, i₁, l₁, i₂, r₂, hcrossing, rfl⟩, hshows⟩
    · intro c hc hsame
      obtain ⟨r₁, i₁, l₁, i₂, r₂, hcrossing, rfl⟩ := (hmem a c).mp hc
      exact h.only r₁ i₁ l₁ i₂ r₂ hcrossing (hsame.imp id Lib.sortedPair_eq_iff.mp)

/-- **Every link is shown once**, in every order of the rows, exactly when each is alone. -/
theorem linksShown_iff (db : Database) (target : Option Timestamp)
    (parse : Option String → Option ℤ) :
    (∀ a : Answers db target, LinksShown db target (fetchPhysicalTopology parse a)) ↔
      ∀ l i r i' r', Joins db target l i r i' r' → Alone db target l i r i' r' := by
  constructor
  · intro h l i r i' r' hjoins
    exact forall_shown_iff.mp fun a => h a l i r i' r' hjoins
  · intro h a l i r i' r' hjoins
    exact forall_shown_iff.mpr (h l i r i' r' hjoins) a

/-! ## Two links between two routers -/

section Parallel

/-- No link ever has more than two interfaces. -/
def TwoEnds (db : Database) : Prop :=
  ∀ e ∈ db .interfaceLink, (((db .interfaceLink).filter fun e' =>
    e'.data.linkId = e.data.linkId).map fun e' => e'.data.interfaceId).dedup.length ≤ 2

instance (db : Database) : Decidable (TwoEnds db) := by
  unfold TwoEnds
  infer_instance

def routerRow (name : String) : PhysicalRouter :=
  { id := "router:" ++ name
    name := name
    vendor := none
    model := none
    locationCity := none
    locationLat := none
    locationLon := none
    role := some "PE"
    status := some "Running"
    config := none }

def interfaceRow (router name : String) : PhysicalInterface :=
  { id := "router:" ++ router ++ ":interface:" ++ name
    routerId := "router:" ++ router
    name := name
    speed := none
    mediaType := none
    ipAddress := none
    macAddress := none
    status := some "UP" }

def linkRow (id : String) : PhysicalLink :=
  { id := id, name := none, bandwidth := some "1gbit", status := none, properties := none }

/-- Rows that are valid since the start. -/
def openRows {α : Type} (rows : List α) : Scd.Table Timestamp α :=
  rows.map fun data => ⟨data, 1, none⟩

def parallel : Database
  | .physicalRouter => openRows [routerRow "pe1", routerRow "pe2"]
  | .physicalInterface =>
    openRows [interfaceRow "pe1" "eth1", interfaceRow "pe1" "eth2", interfaceRow "pe2" "eth1",
      interfaceRow "pe2" "eth2"]
  | .physicalLink => openRows [linkRow "link:a", linkRow "link:b"]
  | .interfaceLink =>
    openRows [⟨"router:pe1:interface:eth1", "link:a"⟩, ⟨"router:pe2:interface:eth1", "link:a"⟩,
      ⟨"router:pe1:interface:eth2", "link:b"⟩, ⟨"router:pe2:interface:eth2", "link:b"⟩]
  | _ => []

theorem wellFormed_parallel (n : TableName) : Scd.WellFormed Row.key 2 (parallel n) := by
  cases n with
  | physicalRouter => exact Scd.wellFormed_open Nat.one_lt_two (by decide +kernel)
  | physicalInterface => exact Scd.wellFormed_open Nat.one_lt_two (by decide +kernel)
  | physicalLink => exact Scd.wellFormed_open Nat.one_lt_two (by decide +kernel)
  | interfaceLink => exact Scd.wellFormed_open Nat.one_lt_two (by decide +kernel)
  | _ => exact Scd.wellFormed_nil 2

/-- The rows of the first query, as the tables list them. -/
def stored (db : Database) : Answers db none := answersOf (List.Perm.refl (topologyRows db none))

theorem joins_parallel : Joins parallel none ⟨linkRow "link:b", 1, none⟩
    ⟨interfaceRow "pe1" "eth2", 1, none⟩ ⟨routerRow "pe1", 1, none⟩
    ⟨interfaceRow "pe2" "eth2", 1, none⟩ ⟨routerRow "pe2", 1, none⟩ where
  link := by decide +kernel
  source := ⟨by decide +kernel, by decide, by decide +kernel, by decide +kernel, by decide⟩
  remote := ⟨by decide +kernel, by decide, by decide +kernel, by decide +kernel, by decide⟩
  ne := by decide

/-- The second link between two routers has no entry. -/
theorem parallel_lost : ¬ ∀ (db : Database) (now : Timestamp) (target : Option Timestamp)
    (parse : Option String → Option ℤ) (a : Answers db target),
    (∀ n, Scd.WellFormed Row.key now (db n)) → TwoEnds db →
      LinksShown db target (fetchPhysicalTopology parse a) := by
  intro h
  have hshown := h parallel 2 none (fun _ => none) (stored parallel) wellFormed_parallel
    (by decide +kernel)
  obtain ⟨c, hfilter, -⟩ := hshown _ _ _ _ _ joins_parallel
  have hmem := (List.mem_filter.mp (hfilter ▸ List.mem_singleton_self c))
  have hids : (linkConnections (fetchPhysicalTopology (fun _ => none) (stored parallel))).map
      LinkConnection.id = ["link:a"] := by decide +kernel
  have hid := List.mem_map_of_mem (f := LinkConnection.id) hmem.1
  rw [hids, of_decide_eq_true hmem.2] at hid
  exact absurd hid (by decide)

end Parallel

end GnnSandbox.Supervisor.Topology
