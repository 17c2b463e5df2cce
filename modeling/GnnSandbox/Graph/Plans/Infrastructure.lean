import GnnSandbox.Graph.Performed

/-!
# What a sync of a VyOSInfrastructure performs

The revisions of the networks, one after another. Which interfaces a link's connected
routers have depends on the routers of the store, which the sync does not write.
-/

namespace GnnSandbox.Graph

open Scd Effect

namespace Infrastructure

variable {env : Env} {w : World}

/-- The id of the router of a name, when it is found. -/
def foundRouter (env : Env) (db : Database) (name : String) : Option String :=
  truthy ((env.read (routersNamed name db) fun v => v.data.id).map fun v => v.data.id)

theorem foundRouter_congr {db db' : Database} (h : db' .physicalRouter = db .physicalRouter)
    (name : String) : foundRouter env db' name = foundRouter env db name := by
  unfold foundRouter routersNamed
  rw [h]

/-- The lookup of a connected router has no choice. -/
def ReadsRouter (env : Env) (db : Database) (conn : ConnectedRouter) : Prop :=
  ∀ name ∈ truthy conn.routerName, env.Decides (routersNamed name db) fun v => v.data.id

/-- The lookups of the sync have no choice. -/
def Reads (env : Env) (db : Database) (spec : VyOSInfrastructure) : Prop :=
  ∀ net ∈ spec.networks.getD [], ∀ conn ∈ connectedRouters net, ReadsRouter env db conn

theorem reads_of_steady (hsteady : env.Steady) (db : Database) (spec : VyOSInfrastructure) :
    Reads env db spec := fun _ _ _ _ _ _ => hsteady.decides _ _

theorem readsRouter_congr {db db' : Database} {conn : ConnectedRouter}
    (h : db' .physicalRouter = db .physicalRouter) (hread : ReadsRouter env db conn) :
    ReadsRouter env db' conn := by
  unfold ReadsRouter routersNamed at hread ⊢
  rwa [h]

theorem truthy_result_getRouterIdByName (hok : env.Reliable) {name : String}
    (hread : env.Decides (routersNamed name w.db) fun v => v.data.id) :
    truthy (result (getRouterIdByName env name) w) = foundRouter env w.db name := by
  unfold getRouterIdByName foundRouter
  rw [result_bind, result_pure, result_snapshot_eq hok hread]
  rfl

/-- The interface of a connected router whose router is found. -/
def connectionId (env : Env) (db : Database) (conn : ConnectedRouter) : Option String :=
  (truthy conn.routerName).bind fun routerName => (truthy conn.interface).bind fun interfaceName =>
    (foundRouter env db routerName).map fun routerId =>
      routerId ++ ":interface:" ++ interfaceName

/-- Replace the row of an interface unless it has the speed. -/
def reviseSpeed (interfaceId routerId ifaceName bandwidth : String) : Revising where
  n := .physicalInterface
  k := .id interfaceId
  next
    | none => none
    | some (row : PhysicalInterface) =>
      if row.speed = some bandwidth then none
      else some (speedRow interfaceId routerId ifaceName bandwidth row)

def planSpeed (interfaceId bandwidth : String) : List Revising :=
  if bandwidth = "" ∨ bandwidth = "unknown" then []
  else
    match splitInTwo ":interface:" interfaceId with
    | none => []
    | some (routerId, ifaceName) => [reviseSpeed interfaceId routerId ifaceName bandwidth]

def planConnection (env : Env) (db : Database) (net : Network) (conn : ConnectedRouter) :
    List Revising :=
  match connectionId env db conn with
  | none => []
  | some interfaceId =>
    Revising.ensure .interfaceLink (ifaceLinkRow net interfaceId) ::
      planSpeed interfaceId (bandwidth net)

def reviseSubnet (net : Network) : Revising :=
  .upsert .logicalSubnet (subnetRow net) fun row : LogicalSubnet => row.properties = some net.dict

def reviseLink (env : Env) (net : Network) : Revising :=
  .upsert .physicalLink (linkRow env net) fun row : PhysicalLink =>
    row.properties = some (linkProps net) ∧ row.status = some (env.lower "UP")

def planNetwork (env : Env) (db : Database) (net : Network) : List Revising :=
  reviseSubnet net ::
    if 2 ≤ (connectedRouters net).length then
      reviseLink env net :: (connectedRouters net).flatMap (planConnection env db net)
    else []

/-- The revisions of `sync_vyos_infrastructure`. -/
def plan (env : Env) (db : Database) (spec : VyOSInfrastructure) : List Revising :=
  (spec.networks.getD []).flatMap (planNetwork env db)

theorem performs_syncSpeed (hok : env.Reliable) (hw : Single w.db) (interfaceId bw : String) :
    Performs noSide (syncIfaceSpeedFromBandwidth env interfaceId bw) w (planSpeed interfaceId bw) := by
  unfold syncIfaceSpeedFromBandwidth planSpeed
  by_cases hbw : bw = "" ∨ bw = "unknown"
  · rw [if_pos hbw, if_pos hbw]
    exact Performs.pure ()
  · rw [if_neg hbw, if_neg hbw]
    match splitInTwo ":interface:" interfaceId with
    | none => exact Performs.pure ()
    | some (routerId, ifaceName) =>
      refine (performs_revise hok hw fun s x hx => ?_).2
      match s with
      | none => cases hx
      | some row =>
        dsimp only at hx
        split at hx
        · cases hx
        · cases hx
          rfl

/-- A speed is set when it is known and the id of the interface names its router. -/
theorem mem_planSpeed {interfaceId bw : String} {r : Revising} :
    r ∈ planSpeed interfaceId bw ↔ bw ≠ "" ∧ bw ≠ "unknown" ∧ ∃ routerId ifaceName,
      splitInTwo ":interface:" interfaceId = some (routerId, ifaceName) ∧
        r = reviseSpeed interfaceId routerId ifaceName bw := by
  unfold planSpeed
  constructor
  · intro h
    split at h
    · cases h
    · next hbw =>
      rw [not_or] at hbw
      split at h
      · cases h
      · next routerId ifaceName hsplit =>
        exact ⟨hbw.1, hbw.2, routerId, ifaceName, hsplit, List.mem_singleton.mp h⟩
  · rintro ⟨hempty, hunknown, routerId, ifaceName, hsplit, rfl⟩
    rw [if_neg (not_or.mpr ⟨hempty, hunknown⟩), hsplit]
    exact List.mem_singleton.mpr rfl

theorem mem_planConnection {db : Database} {net : Network} {conn : ConnectedRouter}
    {r : Revising} : r ∈ planConnection env db net conn ↔
      ∃ interfaceId, connectionId env db conn = some interfaceId ∧
        (r = .ensure .interfaceLink (ifaceLinkRow net interfaceId) ∨
          r ∈ planSpeed interfaceId (bandwidth net)) := by
  unfold planConnection
  match connectionId env db conn with
  | none => simp
  | some interfaceId => simp

/-- A connected router reads the routers and nothing that it writes. -/
theorem connectionId_congr {db db' : Database} (h : db' .physicalRouter = db .physicalRouter)
    (conn : ConnectedRouter) : connectionId env db' conn = connectionId env db conn := by
  unfold connectionId
  simp only [foundRouter_congr h]

theorem performs_syncConnection (hok : env.Reliable) {conn : ConnectedRouter}
    (hread : ReadsRouter env w.db conn) (hw : Single w.db) (net : Network) :
    Performs noSide (syncConnection env net conn) w (planConnection env w.db net conn) := by
  unfold syncConnection planConnection connectionId
  unfold ReadsRouter at hread
  revert hread
  match truthy conn.routerName, truthy conn.interface with
  | none, _ => exact fun _ => Performs.pure ()
  | some _, none => exact fun _ => Performs.pure ()
  | some routerName, some interfaceName =>
    intro hread
    dsimp only
    rw [Option.bind_some, Option.bind_some]
    have hafter := after_getRouterIdByName env routerName w
    refine Performs.bind_read (by rw [hafter]) ?_
    rw [truthy_result_getRouterIdByName hok (hread routerName rfl), hafter]
    match foundRouter env w.db routerName with
    | none => exact Performs.pure ()
    | some routerId =>
      dsimp only [Option.map_some]
      generalize routerId ++ ":interface:" ++ interfaceName = interfaceId
      have hedge : Performs noSide (attempt env (sqlUpsertIfaceLink net interfaceId))
          ⟨w.db, w.calls + 1⟩ [.ensure .interfaceLink (ifaceLinkRow net interfaceId)] :=
        (performs_upsert noSide (w := ⟨w.db, w.calls + 1⟩) (n := .interfaceLink)
          (ifaceLinkRow net interfaceId) (fun _ => true) hok hw).2
      by_cases hbw : bandwidth net ≠ "" ∧ bandwidth net ≠ "unknown"
      · rw [if_pos hbw]
        exact Performs.bind hedge (performs_syncSpeed hok (Performed.single hedge hw) _ _)
      · have hplan : planSpeed interfaceId (bandwidth net) = [] := by
          unfold planSpeed
          rw [if_pos]
          by_contra hnot
          exact hbw (not_or.mp hnot)
        rw [if_neg hbw, hplan]
        exact Performs.bind hedge (Performs.pure ())

theorem performs_syncNetwork (hok : env.Reliable) {net : Network}
    (hreads : ∀ conn ∈ connectedRouters net, ReadsRouter env w.db conn) (hw : Single w.db) :
    Performs noSide (syncNetwork env net) w (planNetwork env w.db net) := by
  have hsubnet : Performs noSide (attempt env (sqlUpsertSubnet net)) w [reviseSubnet net] :=
    (performs_upsert noSide (n := .logicalSubnet) _ _ hok hw).2
  have hw₁ := Performed.single hsubnet hw
  have hrouters₁ := Performed.table_eq (n := .physicalRouter) hsubnet id
    (by simp [reviseSubnet, Revising.upsert])
  unfold syncNetwork planNetwork
  by_cases htwo : 2 ≤ (connectedRouters net).length
  · rw [if_pos htwo, if_pos htwo]
    refine Performs.bind hsubnet ?_
    generalize after (attempt env (sqlUpsertSubnet net)) w = w₁ at hw₁ hrouters₁ ⊢
    have hlink : Performs noSide (attempt env (sqlUpsertLink env net)) w₁ [reviseLink env net] :=
      (performs_upsert noSide (n := .physicalLink) _ _ hok hw₁).2
    refine Performs.bind hlink ?_
    have hw₂ := Performed.single hlink hw₁
    have hrouters₂ := Performed.table_eq (n := .physicalRouter) hlink id
      (by simp [reviseLink, Revising.upsert])
    refine Performs.loop (· = .physicalRouter) hw₂ (fun n _ => not_noSide n)
      (fun conn _ r hr => ?_) (fun conn hconn v hv hsame => ?_)
    · obtain ⟨interfaceId, -, rfl | hr⟩ := mem_planConnection.mp hr
      · exact fun h => nomatch h
      · obtain ⟨-, -, _, _, -, rfl⟩ := mem_planSpeed.mp hr
        exact fun h => nomatch h
    · have hdb : v.db .physicalRouter = w.db .physicalRouter :=
        (hsame _ rfl).trans (hrouters₂.trans hrouters₁)
      have hplan : planConnection env w.db net conn = planConnection env v.db net conn := by
        unfold planConnection
        rw [connectionId_congr hdb]
      rw [hplan]
      exact performs_syncConnection hok (readsRouter_congr hdb (hreads conn hconn)) hv net
  · rw [if_neg htwo, if_neg htwo]
    exact Performs.bind hsubnet (Performs.pure ())

theorem mem_planNetwork {db : Database} {net : Network} {r : Revising} :
    r ∈ planNetwork env db net ↔ r = reviseSubnet net ∨
      (2 ≤ (connectedRouters net).length ∧ (r = reviseLink env net ∨
        ∃ conn ∈ connectedRouters net, r ∈ planConnection env db net conn)) := by
  unfold planNetwork
  by_cases htwo : 2 ≤ (connectedRouters net).length
  · simp [htwo]
  · simp [htwo]

theorem ne_physicalRouter_of_mem_planNetwork {db : Database} {net : Network} {r : Revising}
    (h : r ∈ planNetwork env db net) : r.n ≠ .physicalRouter := by
  rcases mem_planNetwork.mp h with rfl | ⟨-, rfl | ⟨conn, -, h⟩⟩
  · exact fun h => nomatch h
  · exact fun h => nomatch h
  · obtain ⟨interfaceId, -, rfl | hr⟩ := mem_planConnection.mp h
    · exact fun h => nomatch h
    · obtain ⟨-, -, _, _, -, rfl⟩ := mem_planSpeed.mp hr
      exact fun h => nomatch h

theorem planNetwork_congr {db db' : Database} (h : db' .physicalRouter = db .physicalRouter)
    (net : Network) : planNetwork env db' net = planNetwork env db net := by
  unfold planNetwork planConnection
  simp only [connectionId_congr h]

theorem performs (hok : env.Reliable) {spec : VyOSInfrastructure}
    (hreads : Reads env w.db spec) (hw : Single w.db) :
    Performs noSide (syncVyosInfrastructure env spec) w (plan env w.db spec) := by
  refine Performs.loop (· = .physicalRouter) hw (fun n _ => not_noSide n)
    (fun net _ r hr => ne_physicalRouter_of_mem_planNetwork hr) fun net hnet v hv hsame => ?_
  have hdb := hsame _ rfl
  rw [← planNetwork_congr hdb]
  exact performs_syncNetwork hok
    (fun conn hconn => readsRouter_congr hdb (hreads net hnet conn hconn)) hv

/-- The sync does not write what its plan depends on. -/
theorem plan_after (hok : env.Reliable) (hsteady : env.Steady) (hw : Single w.db)
    (spec : VyOSInfrastructure) :
    plan env (after (syncVyosInfrastructure env spec) w).db spec = plan env w.db spec := by
  have hdb : (after (syncVyosInfrastructure env spec) w).db .physicalRouter =
      w.db .physicalRouter := by
    refine Performed.table_eq (performs hok (reads_of_steady hsteady _ spec) hw) id fun r hr => ?_
    obtain ⟨net, -, hr⟩ := List.mem_flatMap.mp hr
    exact ne_physicalRouter_of_mem_planNetwork hr
  exact congrArg (List.flatMap · (spec.networks.getD []))
    (funext fun net => planNetwork_congr hdb net)

/-! ## When the revisions are accepted -/

section Stable

variable {db : Database} {spec : VyOSInfrastructure}

/-- A network with a link has this interface at one of its connected routers. -/
def Connects (env : Env) (db : Database) (spec : VyOSInfrastructure) (net : Network)
    (interfaceId : String) : Prop :=
  net ∈ spec.networks.getD [] ∧ 2 ≤ (connectedRouters net).length ∧
    ∃ conn ∈ connectedRouters net, connectionId env db conn = some interfaceId

/-- A link sets the speed of an interface. -/
def Sets (env : Env) (db : Database) (spec : VyOSInfrastructure) (interfaceId bw : String) :
    Prop :=
  (∃ net, Connects env db spec net interfaceId ∧ bandwidth net = bw) ∧
    bw ≠ "" ∧ bw ≠ "unknown" ∧ (splitInTwo ":interface:" interfaceId).isSome

/-- Networks of one name are equal, and the links at an interface have one bandwidth. -/
structure Stable (env : Env) (db : Database) (spec : VyOSInfrastructure) : Prop where
  networks : ∀ net ∈ spec.networks.getD [], ∀ net' ∈ spec.networks.getD [],
    net'.name = net.name → net'.dict = net.dict
  speeds : ∀ interfaceId bw bw', Sets env db spec interfaceId bw →
    Sets env db spec interfaceId bw' →
    openRow db .physicalInterface (.id interfaceId) ≠ none → bw' = bw

theorem mem_plan {r : Revising} : r ∈ plan env db spec ↔
    (∃ net ∈ spec.networks.getD [], r = reviseSubnet net) ∨
    (∃ net, (net ∈ spec.networks.getD [] ∧ 2 ≤ (connectedRouters net).length) ∧
      r = reviseLink env net) ∨
    (∃ p : Network × String, Connects env db spec p.1 p.2 ∧
      r = .ensure .interfaceLink (ifaceLinkRow p.1 p.2)) ∨
    ∃ interfaceId routerId ifaceName bw, Sets env db spec interfaceId bw ∧
      splitInTwo ":interface:" interfaceId = some (routerId, ifaceName) ∧
      r = reviseSpeed interfaceId routerId ifaceName bw := by
  constructor
  · intro h
    obtain ⟨net, hnet, h⟩ := List.mem_flatMap.mp h
    rcases mem_planNetwork.mp h with rfl | ⟨htwo, rfl | ⟨conn, hconn, h⟩⟩
    · exact Or.inl ⟨net, hnet, rfl⟩
    · exact Or.inr (Or.inl ⟨net, ⟨hnet, htwo⟩, rfl⟩)
    · obtain ⟨interfaceId, hid, h⟩ := mem_planConnection.mp h
      have hconnects : Connects env db spec net interfaceId := ⟨hnet, htwo, conn, hconn, hid⟩
      rcases h with rfl | h
      · exact Or.inr (Or.inr (Or.inl ⟨(net, interfaceId), hconnects, rfl⟩))
      · obtain ⟨hempty, hunknown, routerId, ifaceName, hsplit, rfl⟩ := mem_planSpeed.mp h
        have hsets : Sets env db spec interfaceId (bandwidth net) :=
          ⟨⟨net, hconnects, rfl⟩, hempty, hunknown, by rw [hsplit]; rfl⟩
        exact Or.inr (Or.inr (Or.inr ⟨interfaceId, routerId, ifaceName, _, hsets, hsplit, rfl⟩))
  · intro h
    refine List.mem_flatMap.mpr ?_
    rcases h with ⟨net, hnet, rfl⟩ | ⟨net, ⟨hnet, htwo⟩, rfl⟩ |
      ⟨⟨net, interfaceId⟩, ⟨hnet, htwo, conn, hconn, hid⟩, rfl⟩ |
      ⟨interfaceId, routerId, ifaceName, bw, ⟨⟨net, ⟨hnet, htwo, conn, hconn, hid⟩, rfl⟩, hempty,
        hunknown, -⟩, hsplit, rfl⟩
    · exact ⟨net, hnet, mem_planNetwork.mpr (Or.inl rfl)⟩
    · exact ⟨net, hnet, mem_planNetwork.mpr (Or.inr ⟨htwo, Or.inl rfl⟩)⟩
    · refine ⟨net, hnet, mem_planNetwork.mpr (Or.inr ⟨htwo, Or.inr ⟨conn, hconn, ?_⟩⟩)⟩
      exact mem_planConnection.mpr ⟨interfaceId, hid, Or.inl rfl⟩
    · refine ⟨net, hnet, mem_planNetwork.mpr (Or.inr ⟨htwo, Or.inr ⟨conn, hconn, ?_⟩⟩)⟩
      refine mem_planConnection.mpr ⟨interfaceId, hid, Or.inr (mem_planSpeed.mpr ?_)⟩
      exact ⟨hempty, hunknown, routerId, ifaceName, hsplit, rfl⟩

theorem compares_subnet : Compares (plan env db spec) .logicalSubnet
    (fun net => net ∈ spec.networks.getD []) subnetRow LogicalSubnet.properties
    (fun net => some net.dict) fun net row => decide (row.properties = some net.dict) := by
  refine ⟨fun r => ⟨?_, ?_⟩, fun net row => decide_eq_true_iff⟩
  · rintro ⟨hr, hn⟩
    rcases mem_plan.mp hr with h | ⟨_, _, rfl⟩ | ⟨_, _, rfl⟩ | ⟨_, _, _, _, _, _, rfl⟩
    · exact h
    all_goals cases hn
  · rintro ⟨net, hnet, rfl⟩
    exact ⟨mem_plan.mpr (Or.inl ⟨net, hnet, rfl⟩), rfl⟩

theorem compares_link : Compares (plan env db spec) .physicalLink
    (fun net => net ∈ spec.networks.getD [] ∧ 2 ≤ (connectedRouters net).length) (linkRow env)
    (fun row => (row.properties, row.status))
    (fun net => (some (linkProps net), some (env.lower "UP")))
    fun net row => decide (row.properties = some (linkProps net) ∧
      row.status = some (env.lower "UP")) := by
  refine ⟨fun r => ⟨?_, ?_⟩, fun net row => by simp⟩
  · rintro ⟨hr, hn⟩
    rcases mem_plan.mp hr with ⟨_, _, rfl⟩ | h | ⟨_, _, rfl⟩ | ⟨_, _, _, _, _, _, rfl⟩
    · cases hn
    · exact h
    all_goals cases hn
  · rintro ⟨net, hnet, rfl⟩
    exact ⟨mem_plan.mpr (Or.inr (Or.inl ⟨net, hnet, rfl⟩)), rfl⟩

theorem compares_ifaceLink : Compares (plan env db spec) .interfaceLink
    (fun p : Network × String => Connects env db spec p.1 p.2) (fun p => ifaceLinkRow p.1 p.2)
    (fun _ => ()) (fun _ => ()) fun _ _ => true := by
  refine ⟨fun r => ⟨?_, ?_⟩, fun p row => ⟨fun _ => rfl, fun _ => rfl⟩⟩
  · rintro ⟨hr, hn⟩
    rcases mem_plan.mp hr with ⟨_, _, rfl⟩ | ⟨_, _, rfl⟩ | h | ⟨_, _, _, _, _, _, rfl⟩
    · cases hn
    · cases hn
    · exact h
    · cases hn
  · rintro ⟨p, hp, rfl⟩
    exact ⟨mem_plan.mpr (Or.inr (Or.inr (Or.inl ⟨p, hp, rfl⟩))), rfl⟩

/-- The object of a network determines that of its link. -/
theorem linkProps_congr {net net' : Network} (h : net'.dict = net.dict) :
    linkProps net' = linkProps net := by
  have hbandwidth : net'.bandwidth = net.bandwidth :=
    Json.map_str_inj (Json.field_eq "bandwidth" h (by simp) (by simp))
  have hdescription : net'.description = net.description :=
    Json.map_str_inj (Json.field_eq "description" h (by simp) (by simp))
  have htype : net'.networkType = net.networkType :=
    Json.map_str_inj (Json.field_eq "network_type" h (by simp) (by simp))
  have hsubnet : net'.subnet = net.subnet :=
    Json.map_str_inj (Json.field_eq "subnet" h (by simp) (by simp))
  have hmtu : net'.mtu.map Json.num = net.mtu.map Json.num :=
    Json.field_eq "mtu" h (by simp) (by simp)
  have hvlan : net'.vlan.map Json.num = net.vlan.map Json.num :=
    Json.field_eq "vlan" h (by simp) (by simp)
  have hrouters : net'.connectedRouters.map (fun l => Json.arr (l.map ConnectedRouter.dict)) =
      net.connectedRouters.map fun l => Json.arr (l.map ConnectedRouter.dict) :=
    Json.field_eq "connected_routers" h (by simp) (by simp)
  have hmtu' : net'.mtu = net.mtu := Option.map_injective (fun _ _ => Json.num.inj) hmtu
  have hrouters' : (connectedRouters net').map ConnectedRouter.dict =
      (connectedRouters net).map ConnectedRouter.dict := by
    unfold connectedRouters
    cases hr : net.connectedRouters <;> cases hr' : net'.connectedRouters <;> simp_all
  unfold linkProps bandwidth
  rw [hbandwidth, hdescription, htype, hsubnet, hmtu', hvlan, hrouters']

theorem reviseSpeed_next_none {interfaceId routerId ifaceName bw : String}
    {s : Option PhysicalInterface} :
    (reviseSpeed interfaceId routerId ifaceName bw).next s = none ↔
      ∀ row, s = some row → row.speed = some bw := by
  constructor
  · rintro h row rfl
    have h' : (if row.speed = some bw then none
      else some (speedRow interfaceId routerId ifaceName bw row)) = none := h
    by_contra hspeed
    rw [if_neg hspeed] at h'
    cases h'
  · intro h
    match s with
    | none => rfl
    | some row => exact if_pos (h row rfl)

theorem reviseSpeed_next_some {interfaceId routerId ifaceName bw : String}
    {s : Option PhysicalInterface} {x : PhysicalInterface}
    (h : (reviseSpeed interfaceId routerId ifaceName bw).next s = some x) :
    x.speed = some bw := by
  match s with
  | none => cases h
  | some row =>
    have h' : (if row.speed = some bw then none
      else some (speedRow interfaceId routerId ifaceName bw row)) = some x := h
    split at h'
    · cases h'
    · cases h'
      rfl

/-- The revisions of the interfaces set speeds. -/
theorem mem_plan_physicalInterface {r : Revising} (hr : r ∈ plan env db spec)
    (hn : r.n = .physicalInterface) : ∃ interfaceId routerId ifaceName bw,
      Sets env db spec interfaceId bw ∧
      splitInTwo ":interface:" interfaceId = some (routerId, ifaceName) ∧
      r = reviseSpeed interfaceId routerId ifaceName bw := by
  rcases mem_plan.mp hr with ⟨_, _, rfl⟩ | ⟨_, _, rfl⟩ | ⟨_, _, rfl⟩ | h
  · cases hn
  · cases hn
  · cases hn
  · exact h

theorem speed_put {r : Revising} {interfaceId : String} {s : Option PhysicalInterface}
    {x : PhysicalInterface} (hr : r ∈ plan env db spec)
    (hx : r.at' .physicalInterface (.id interfaceId) s = some x) :
    ∃ bw, Sets env db spec interfaceId bw ∧ x.speed = some bw := by
  by_cases hn : r.n = .physicalInterface
  · obtain ⟨interfaceId', routerId, ifaceName, bw, hsets, -, rfl⟩ :=
      mem_plan_physicalInterface hr hn
    by_cases hk : interfaceId' = interfaceId
    · subst hk
      have hnext := (Revising.at'_self (reviseSpeed interfaceId' routerId ifaceName bw) s).symm.trans
        hx
      exact ⟨bw, hsets, reviseSpeed_next_some hnext⟩
    · have hnone := Revising.at'_of_key_ne (r := reviseSpeed interfaceId' routerId ifaceName bw)
        (k := .id interfaceId) (fun h => hk (Key.id.inj h)) .physicalInterface s
      rw [hnone] at hx
      cases hx
  · rw [Revising.at'_of_table_ne hn] at hx
    cases hx

theorem speed_accepts {r : Revising} {interfaceId : String} {s : Option PhysicalInterface}
    (hr : r ∈ plan env db spec)
    (hs : ∀ bw, Sets env db spec interfaceId bw → ∀ row, s = some row → row.speed = some bw) :
    r.at' .physicalInterface (.id interfaceId) s = none := by
  by_cases hn : r.n = .physicalInterface
  · obtain ⟨interfaceId', routerId, ifaceName, bw, hsets, -, rfl⟩ :=
      mem_plan_physicalInterface hr hn
    by_cases hk : interfaceId' = interfaceId
    · subst hk
      exact (Revising.at'_self (reviseSpeed interfaceId' routerId ifaceName bw) s).trans
        (reviseSpeed_next_none.mpr (hs bw hsets))
    · exact Revising.at'_of_key_ne (r := reviseSpeed interfaceId' routerId ifaceName bw)
        (fun h => hk (Key.id.inj h)) .physicalInterface s
  · exact Revising.at'_of_table_ne hn _ s

/-- The speeds settle unless two links set different ones at a stored interface. -/
theorem acceptedIn_speed : AcceptedIn (plan env db spec) db .physicalInterface ↔
    ∀ interfaceId bw bw', Sets env db spec interfaceId bw → Sets env db spec interfaceId bw' →
      openRow db .physicalInterface (.id interfaceId) ≠ none → bw' = bw := by
  constructor
  · intro h interfaceId bw bw' hsets hsets' hopen
    obtain ⟨row, hrow⟩ : ∃ row, settle (plan env db spec) .physicalInterface (.id interfaceId)
        (openRow db .physicalInterface (.id interfaceId)) = some row := by
      rcases settle_cases (l := plan env db spec) (n := .physicalInterface)
        (k := .id interfaceId) (s := openRow db .physicalInterface (.id interfaceId)) with
        hself | ⟨_, _, _, x, _, hx⟩
      · rw [hself]
        exact Option.ne_none_iff_exists'.mp hopen
      · exact ⟨x, hx⟩
    have hspeed : ∀ b, Sets env db spec interfaceId b → PhysicalInterface.speed row = some b := by
      intro b hb
      obtain ⟨⟨routerId, ifaceName⟩, hsplit⟩ := Option.isSome_iff_exists.mp hb.2.2.2
      have hr := mem_plan.mpr (Or.inr (Or.inr (Or.inr
        ⟨interfaceId, routerId, ifaceName, b, hb, hsplit, rfl⟩)))
      exact reviseSpeed_next_none.mp (h _ hr rfl) row hrow
    exact Option.some.inj ((hspeed bw' hsets').symm.trans (hspeed bw hsets))
  · intro h r hr hn
    obtain ⟨interfaceId, routerId, ifaceName, bw, hsets, -, rfl⟩ :=
      mem_plan_physicalInterface hr hn
    show (reviseSpeed interfaceId routerId ifaceName bw).next (settle (plan env db spec)
      .physicalInterface (.id interfaceId)
      (openRow db .physicalInterface (.id interfaceId))) = none
    by_cases hopen : openRow db .physicalInterface (.id interfaceId) = none
    · -- an interface that is not stored stays away
      have hself : settle (plan env db spec) .physicalInterface (.id interfaceId) none = none :=
        settle_eq_self fun r hr => speed_accepts hr fun _ _ _ h => by cases h
      rw [hopen, hself]
      rfl
    · refine (Revising.at'_self (reviseSpeed interfaceId routerId ifaceName bw) _).symm.trans ?_
      refine settle_accepted (n := .physicalInterface) (k := .id interfaceId)
        (fun r hr s x hx r' hr' => ?_) _ hr
      obtain ⟨b, hb, hspeed⟩ := speed_put hr hx
      refine speed_accepts hr' fun b' hb' row hrow => ?_
      cases hrow
      rw [hspeed, h interfaceId b b' hb hb' hopen]

/-- The revisions accept what they settle on exactly in a stable state. -/
theorem accepted_plan : Accepted (plan env db spec) db ↔ Stable env db spec := by
  rw [accepted_iff]
  constructor
  · intro h
    refine ⟨fun net hnet net' hnet' hname => ?_, acceptedIn_speed.mp (h .physicalInterface)⟩
    have hsubnets := (compares_subnet.acceptedIn_iff fun _ _ _ _ _ _ _ => rfl).mp
      (h .logicalSubnet) net hnet
    refine Option.some.inj (hsubnets.1 net' hnet' ?_)
    exact congrArg (fun name => Key.id ("subnet:" ++ name)) hname
  · intro h n
    cases n with
    | logicalSubnet =>
      refine compares_subnet.acceptedIn (fun net net' hnet hnet' hk => ?_) fun _ _ => rfl
      have hid : "subnet:" ++ net'.name = "subnet:" ++ net.name := Key.id.inj hk
      exact congrArg some (h.networks net hnet net' hnet' (append_right_inj hid))
    | physicalLink =>
      refine compares_link.acceptedIn (fun net net' hnet hnet' hk => ?_) fun _ _ => rfl
      have hid : "link:" ++ net'.name = "link:" ++ net.name := Key.id.inj hk
      have hdict := h.networks net hnet.1 net' hnet'.1 (append_right_inj hid)
      exact congrArg (fun props => (some props, some (env.lower "UP"))) (linkProps_congr hdict)
    | interfaceLink => exact compares_ifaceLink.acceptedIn (fun _ _ _ _ _ => rfl) fun _ _ => rfl
    | physicalInterface => exact acceptedIn_speed.mpr h.speeds
    | _ =>
      intro r hr hn
      rcases mem_plan.mp hr with ⟨_, _, rfl⟩ | ⟨_, _, rfl⟩ | ⟨_, _, rfl⟩ |
        ⟨_, _, _, _, _, _, rfl⟩ <;> cases hn

end Stable

end Infrastructure

end GnnSandbox.Graph
