import GnnSandbox.Graph.Performed

/-!
# What a sync of a host network bridge performs

The revision of the bridge's subnet, then those of its veth pairs. The transaction that
writes the link of a veth pair also writes its edge.
-/

namespace GnnSandbox.Graph

open Scd Effect

namespace Bridge

variable {env : Env} {w : World} {name : ResourceName} {spec : BridgeSpec} {status : BridgeStatus}

/-- The edges are written on the side of their links. -/
def EdgesAside (n : TableName) : Prop := n = .interfaceLink

def reviseSubnet (env : Env) (name : ResourceName) (spec : BridgeSpec) (status : BridgeStatus) :
    Revising :=
  .upsert .logicalSubnet (subnetRow env name spec status) (subnetUnchanged env name spec status)

/-- A veth pair with the names under which it is stored. -/
structure VethEntry where
  vethName : String
  routerPart : String
  interfacePart : String
  data : VethData

namespace VethEntry

def hostVethName (e : VethEntry) : String := "host:veth:" ++ e.vethName

def linkId (e : VethEntry) : String := "link:veth:" ++ e.routerPart ++ ":" ++ e.interfacePart

def bandwidth (e : VethEntry) : String := e.data.bw.getD "none"

def state (e : VethEntry) : String := e.data.state.getD "unknown"

end VethEntry

/-- The entry of a veth pair whose name has two parts. -/
def entryOf (vethData : Option VethData) : Option VethEntry :=
  vethData.bind fun data => (truthy data.veth).bind fun vethName =>
    (rsplitOnce '-' vethName).map fun parts => ⟨vethName, parts.1, parts.2, data⟩

/-- The interface inside the container that the sync finds or makes up. -/
def foundInterface (env : Env) (db : Database) (e : VethEntry) : String :=
  match env.read (containerInterfaces e.routerPart e.interfacePart db) fun v => v.data.id with
  | some v => v.data.id
  | none => "router:" ++ e.routerPart ++ ":interface:" ++ e.interfacePart

def reviseLink (env : Env) (db : Database) (e : VethEntry) : Revising :=
  .upsert .physicalLink
    (vethRow env e.linkId e.hostVethName (foundInterface env db e) e.bandwidth e.state)
    (vethUnchanged e.hostVethName (foundInterface env db e) e.state)

def reviseAssoc (env : Env) (db : Database) (subnetId : String) (e : VethEntry) : Revising :=
  .ensure .subnetAssociation ⟨foundInterface env db e, subnetId, some "Interface"⟩

def planVethPair (env : Env) (db : Database) (subnetId : String) (vethData : Option VethData) :
    List Revising :=
  match entryOf vethData with
  | none => []
  | some e => [reviseLink env db e, reviseAssoc env db subnetId e]

/-- The revisions of `sync_host_network_bridge`. -/
def plan (env : Env) (db : Database) (name : ResourceName) (spec : BridgeSpec)
    (status : BridgeStatus) : List Revising :=
  reviseSubnet env name spec status ::
    (status.vethPairs.getD []).flatMap (planVethPair env db (subnetId name spec))

theorem mem_planVethPair {db : Database} {subnetId : String} {vethData : Option VethData}
    {r : Revising} : r ∈ planVethPair env db subnetId vethData ↔
      ∃ e, entryOf vethData = some e ∧ (r = reviseLink env db e ∨
        r = reviseAssoc env db subnetId e) := by
  unfold planVethPair
  cases entryOf vethData <;> simp

theorem foundInterface_congr {db db' : Database}
    (h : db' .physicalInterface = db .physicalInterface) (e : VethEntry) :
    foundInterface env db' e = foundInterface env db e := by
  unfold foundInterface containerInterfaces
  rw [h]

theorem planVethPair_congr {db db' : Database}
    (h : db' .physicalInterface = db .physicalInterface) (subnetId : String)
    (vethData : Option VethData) :
    planVethPair env db' subnetId vethData = planVethPair env db subnetId vethData := by
  unfold planVethPair reviseLink reviseAssoc
  simp only [foundInterface_congr h]

/-- A lookup changes nothing and finds what the state holds. -/
theorem resolve_eq (hok : env.Reliable) (hsteady : env.Steady) (e : VethEntry) (w : World) :
    (after (resolveContainerInterfaceId env e.routerPart e.interfacePart) w).db = w.db ∧
      result (resolveContainerInterfaceId env e.routerPart e.interfacePart) w =
        foundInterface env w.db e := by
  unfold resolveContainerInterfaceId foundInterface
  rw [after_bind, after_snapshot, result_bind, result_snapshot_eq hok (hsteady.decides _ _), Option.join_some]
  match env.read (containerInterfaces e.routerPart e.interfacePart w.db) fun v => v.data.id with
  | some v => exact ⟨rfl, rfl⟩
  | none => exact ⟨rfl, rfl⟩

/-- A fresh version of a key leaves every key with at most one open version. -/
theorem length_active_renew_le {n : TableName} (fresh : Row n)
    (h : ∀ k, (w.db.active n k).length ≤ 1) (k : Key) :
    ((w.renew env n fresh).active n k).length ≤ 1 := by
  by_cases hk : fresh.key = k
  · rw [← hk, active_renew_self]
    exact le_refl _
  · rw [World.renew, Database.active, Database.set_self, active_insert, if_neg hk, List.append_nil,
      active_closeKey_of_ne (Ne.symm hk)]
    exact h k

theorem renew_self (n : TableName) (fresh : Row n) (env : Env) (w : World) :
    w.renew env n fresh n = insert (env.commitTs w.calls) fresh
      (closeKey Row.key (env.commitTs w.calls) fresh.key (w.db n)) := Database.set_self _ _ _

theorem length_le_renew (n : TableName) (fresh : Row n) (env : Env) (w : World) :
    (w.db n).length ≤ (w.renew env n fresh n).length := by
  rw [renew_self, length_insert, closeKey, length_closeWhere]
  exact Nat.le_succ _

/-- The transaction of a veth link performs its revision, with the edge on the side. -/
theorem performs_sqlUpsertLink (hok : env.Reliable) (hw : Single w.db) (e : VethEntry)
    (containerIfaceId : String) :
    Performs EdgesAside (attempt env (sqlUpsertLink env e.linkId e.hostVethName containerIfaceId
        e.bandwidth e.state)) w
      [.upsert .physicalLink
        (vethRow env e.linkId e.hostVethName containerIfaceId e.bandwidth e.state)
        (vethUnchanged e.hostVethName containerIfaceId e.state)] := by
  refine .cons ?_ (.nil _)
  rw [after_attempt]
  generalize hrow : vethRow env e.linkId e.hostVethName containerIfaceId e.bandwidth e.state = row
  have hkey : Row.key (n := .physicalLink) row = .id e.linkId := by rw [← hrow]; rfl
  have hlink := hw .physicalLink (.id e.linkId)
  have hedge := hw .interfaceLink (.edge containerIfaceId e.linkId)
  by_cases hu : ∃ v, w.db.active .physicalLink (.id e.linkId) = [v] ∧
      vethUnchanged e.hostVethName containerIfaceId e.state v.data = true
  · obtain ⟨v, hv, hu⟩ := hu
    have htx : sqlUpsertLink env e.linkId e.hostVethName containerIfaceId e.bandwidth e.state
        (env.commitTs w.calls) w.db = some w.db := by
      unfold sqlUpsertLink
      rw [hv]
      exact if_pos hu
    rw [(runInTransaction_commit (hok w.calls) htx).2]
    refine .keep (Revising.upsert_next_none.mpr ⟨v.data, ?_, hu⟩)
    show openRow w.db .physicalLink (Row.key (n := .physicalLink) row) = _
    rw [hkey, openRow, hv]
    rfl
  · have hchanged : ∀ v, w.db.active .physicalLink (.id e.linkId) = [v] →
        vethUnchanged e.hostVethName containerIfaceId e.state v.data = false := by
      intro v hv
      rw [← Bool.not_eq_true]
      exact fun h => hu ⟨v, hv, h⟩
    obtain ⟨db, hdb, hcases⟩ := insertLink_spec e.hostVethName containerIfaceId e.bandwidth e.state
      hlink hedge env hchanged
    have htx : sqlUpsertLink env e.linkId e.hostVethName containerIfaceId e.bandwidth e.state
        (env.commitTs w.calls) w.db = some db := by
      unfold sqlUpsertLink
      split
      · next v hv => rw [hchanged v hv, if_neg Bool.false_ne_true, hdb]
      · exact hdb
    rw [(runInTransaction_commit (hok w.calls) htx).2]
    rw [hrow] at hcases
    have hnext : (Revising.upsert .physicalLink row
        (vethUnchanged e.hostVethName containerIfaceId e.state)).next
          (openRow w.db .physicalLink (Row.key (n := .physicalLink) row)) = some row := by
      rw [hkey]
      rcases hv : w.db.active .physicalLink (.id e.linkId) with _ | ⟨v, _ | ⟨u, l⟩⟩
      · rw [openRow, hv]
        rfl
      · rw [openRow, hv]
        exact if_neg (by rw [hchanged v hv]; exact Bool.false_ne_true)
      · rw [hv] at hlink
        simp at hlink
    have htable := renew_self .physicalLink row env w
    have hother : ∀ m, m ≠ .physicalLink → w.renew env .physicalLink row m = w.db m :=
      fun m hm => Database.set_of_ne _ _ hm
    rcases hcases with ⟨rfl, -⟩ | rfl
    · exact .write (env.commitTs w.calls) row hnext rfl htable fun m hm => Or.inl (hother m hm)
    · generalize hw₁ : (⟨w.renew env .physicalLink row, w.calls⟩ : World) = w₁
      have hdb₁ : w₁.db = w.renew env .physicalLink row := by rw [← hw₁]
      have hframe : ∀ m, m ≠ .interfaceLink →
          w₁.renew env .interfaceLink ⟨containerIfaceId, e.linkId⟩ m = w₁.db m :=
        fun m hm => Database.set_of_ne _ _ hm
      refine .write (env.commitTs w.calls) row hnext rfl ?_ fun m hm => ?_
      · exact (hframe .physicalLink (by decide)).trans (by rw [hdb₁]; exact htable)
      · have hm₁ : w₁.db m = w.db m := by rw [hdb₁]; exact hother m hm
        by_cases hm' : m = .interfaceLink
        · subst hm'
          refine Or.inr ⟨rfl, ?_, fun hone => length_active_renew_le _ fun k => ?_⟩
          · rw [← hm₁]
            exact length_le_renew _ _ env w₁
          · rw [Database.active, hm₁]
            exact hone k
        · exact Or.inl ((hframe m hm').trans hm₁)

theorem performs_syncVethPair (hok : env.Reliable) (hsteady : env.Steady) (hw : Single w.db)
    (subnetId : String) (vethData : Option VethData) :
    Performs EdgesAside (syncVethPair env subnetId vethData) w
      (planVethPair env w.db subnetId vethData) := by
  unfold syncVethPair planVethPair entryOf
  match vethData with
  | none => exact Performs.pure ()
  | some data =>
    dsimp only [Option.bind_some]
    match truthy data.veth with
    | none => exact Performs.pure ()
    | some vethName =>
      dsimp only [Option.bind_some]
      match rsplitOnce '-' vethName with
      | none => exact Performs.pure ()
      | some (routerPart, interfacePart) =>
        dsimp only [Option.map_some]
        generalize he : (⟨vethName, routerPart, interfacePart, data⟩ : VethEntry) = e
        obtain ⟨hdb, hfound⟩ := resolve_eq hok hsteady e w
        have hresolve : resolveContainerInterfaceId env routerPart interfacePart =
            resolveContainerInterfaceId env e.routerPart e.interfacePart := by rw [← he]
        rw [hresolve]
        refine Performs.bind_read hdb ?_
        rw [hfound]
        have hw₁ : Single (after (resolveContainerInterfaceId env e.routerPart e.interfacePart)
            w).db := hdb ▸ hw
        generalize after (resolveContainerInterfaceId env e.routerPart e.interfacePart) w = w₁
          at hw₁ ⊢
        have hlink : Performs EdgesAside (attempt env (sqlUpsertLink env e.linkId e.hostVethName
            (foundInterface env w.db e) e.bandwidth e.state)) w₁ [reviseLink env w.db e] :=
          performs_sqlUpsertLink hok hw₁ e _
        have hassoc : Performs EdgesAside
            (syncContainerBridgeAssociation env (foundInterface env w.db e) subnetId)
            (after (attempt env (sqlUpsertLink env e.linkId e.hostVethName
              (foundInterface env w.db e) e.bandwidth e.state)) w₁)
            [reviseAssoc env w.db subnetId e] :=
          (performs_upsert EdgesAside (n := .subnetAssociation) _ (fun _ => true) hok
            (Performed.single hlink hw₁)).2
        subst he
        exact Performs.bind hlink hassoc

theorem mem_plan {db : Database} {r : Revising} : r ∈ plan env db name spec status ↔
    r = reviseSubnet env name spec status ∨ ∃ e, some e ∈ (status.vethPairs.getD []).map entryOf ∧
      (r = reviseLink env db e ∨ r = reviseAssoc env db (subnetId name spec) e) := by
  unfold plan
  simp only [List.mem_cons, List.mem_flatMap, mem_planVethPair, List.mem_map]
  constructor
  · rintro (h | ⟨vethData, hmem, e, he, h⟩)
    · exact Or.inl h
    · exact Or.inr ⟨e, ⟨vethData, hmem, he⟩, h⟩
  · rintro (h | ⟨e, ⟨vethData, hmem, he⟩, h⟩)
    · exact Or.inl h
    · exact Or.inr ⟨vethData, hmem, e, he, h⟩

theorem ne_of_mem_plan {db : Database} {r : Revising} (h : r ∈ plan env db name spec status) :
    r.n ≠ .physicalInterface ∧ r.n ≠ .interfaceLink := by
  rcases mem_plan.mp h with rfl | ⟨e, -, rfl | rfl⟩
  all_goals exact ⟨(nomatch ·), (nomatch ·)⟩

theorem performs (hok : env.Reliable) (hsteady : env.Steady) (hw : Single w.db)
    (name : ResourceName) (spec : BridgeSpec) (status : BridgeStatus) :
    Performs EdgesAside (syncHostNetworkBridge env name spec status) w
      (plan env w.db name spec status) := by
  have hsubnet : result (runInTransaction env (sqlUpsertSubnet env name spec status)) w = true ∧
      Performs EdgesAside (runInTransaction env (sqlUpsertSubnet env name spec status)) w
        [reviseSubnet env name spec status] :=
    performs_upsert EdgesAside (n := .logicalSubnet) _ _ hok hw
  have hifaces := Performed.table_eq (n := .physicalInterface) hsubnet.2 (nomatch ·)
    fun r hr => by
      rw [List.mem_singleton.mp hr]
      exact (nomatch ·)
  refine Performs.bind hsubnet.2 ?_
  rw [hsubnet.1, if_pos rfl]
  refine Performs.loop (· = .physicalInterface) (Performed.single hsubnet.2 hw) ?_ ?_ ?_
  · rintro n rfl
    exact (nomatch ·)
  · intro vethData hv r hr
    have hr' : r ∈ plan env w.db name spec status :=
      List.mem_cons_of_mem _ (List.mem_flatMap.mpr ⟨vethData, hv, hr⟩)
    exact (ne_of_mem_plan hr').1
  · intro vethData _ u hu hreads
    rw [← planVethPair_congr ((hreads _ rfl).trans hifaces)]
    exact performs_syncVethPair hok hsteady hu _ vethData

/-- The sync does not write what its plan depends on. -/
theorem plan_after (hok : env.Reliable) (hsteady : env.Steady) (hw : Single w.db)
    (name : ResourceName) (spec : BridgeSpec) (status : BridgeStatus) :
    plan env (after (syncHostNetworkBridge env name spec status) w).db name spec status =
      plan env w.db name spec status := by
  have hdb := Performed.table_eq (n := .physicalInterface)
    (performs hok hsteady hw name spec status) (nomatch ·) fun _ hr => (ne_of_mem_plan hr).1
  have hplan : planVethPair env (after (syncHostNetworkBridge env name spec status) w).db
      (subnetId name spec) = planVethPair env w.db (subnetId name spec) :=
    funext fun vethData => planVethPair_congr hdb _ vethData
  unfold plan
  rw [hplan]

/-! ## When the revisions are accepted -/

section Stable

variable {db : Database}

/-- The columns of a bridge's subnet that are compared, with the defaults for nulls. -/
def subnetColumns (row : LogicalSubnet) :
    String × Option ℤ × Option String × Option String × String × Json :=
  ((truthy row.operationalState).getD "unknown", some (row.mtu.getD 0),
    some (row.macAddress.getD ""), some (row.bridgeIp.getD ""), row.hostDeviceName.getD "",
    existingProps row)

/-- The values with which they are compared. -/
def subnetComputed (env : Env) (name : ResourceName) (spec : BridgeSpec) (status : BridgeStatus) :
    String × Option ℤ × Option String × Option String × String × Json :=
  (operationalState env status, mtu status, macAddress status, bridgeIp status,
    hostDeviceName name spec, properties spec)

/-- The entries of a bridge's veth pairs. -/
def IsEntry (status : BridgeStatus) (e : VethEntry) : Prop :=
  some e ∈ (status.vethPairs.getD []).map entryOf

/-- The columns of a veth link that are compared. -/
def vethColumns (row : PhysicalLink) : Option String × Option Json := (row.status, row.properties)

/-- The values with which they are compared. -/
def vethComputed (env : Env) (db : Database) (e : VethEntry) : Option String × Option Json :=
  (some e.state, some (vethProperties e.hostVethName (foundInterface env db e)))

/-- The state of the bridge is stored as it is compared, veth pairs of one link compare
alike, and the state of a link is not changed by lowering; or else the stored row is up to
date. -/
structure Stable (env : Env) (db : Database) (name : ResourceName) (spec : BridgeSpec)
    (status : BridgeStatus) : Prop where
  subnet : (operationalState env status ≠ "" ∧ (mtu status).isSome ∧ (macAddress status).isSome ∧
      (bridgeIp status).isSome) ∨
    (openRow db .logicalSubnet (.id (subnetId name spec))).map subnetColumns =
      some (subnetComputed env name spec status)
  links : ∀ e, IsEntry status e →
    (∀ e', IsEntry status e' → e'.linkId = e.linkId →
      vethComputed env db e' = vethComputed env db e) ∧
    (env.lower e.state = e.state ∨
      (openRow db .physicalLink (.id e.linkId)).map vethColumns = some (vethComputed env db e))

theorem compares_subnet : Compares (plan env db name spec status) .logicalSubnet
    (fun _ : Unit => True) (fun _ => subnetRow env name spec status) subnetColumns
    (fun _ => subnetComputed env name spec status)
    fun _ => subnetUnchanged env name spec status := by
  refine ⟨fun r => ⟨?_, ?_⟩, fun _ row => by simp [subnetUnchanged, subnetColumns, subnetComputed]⟩
  · rintro ⟨hr, hn⟩
    rcases mem_plan.mp hr with rfl | ⟨_, _, rfl | rfl⟩
    · exact ⟨(), trivial, rfl⟩
    all_goals cases hn
  · rintro ⟨_, _, rfl⟩
    exact ⟨mem_plan.mpr (Or.inl rfl), rfl⟩

theorem compares_link : Compares (plan env db name spec status) .physicalLink (IsEntry status)
    (fun e => vethRow env e.linkId e.hostVethName (foundInterface env db e) e.bandwidth e.state)
    vethColumns (vethComputed env db)
    fun e => vethUnchanged e.hostVethName (foundInterface env db e) e.state := by
  refine ⟨fun r => ⟨?_, ?_⟩, fun e row => by simp [vethUnchanged, vethColumns, vethComputed]⟩
  · rintro ⟨hr, hn⟩
    rcases mem_plan.mp hr with rfl | ⟨e, he, rfl | rfl⟩
    · cases hn
    · exact ⟨e, he, rfl⟩
    · cases hn
  · rintro ⟨e, he, rfl⟩
    exact ⟨mem_plan.mpr (Or.inr ⟨e, he, Or.inl rfl⟩), rfl⟩

theorem compares_assoc : Compares (plan env db name spec status) .subnetAssociation
    (IsEntry status) (fun e => ⟨foundInterface env db e, subnetId name spec, some "Interface"⟩)
    (fun _ => ()) (fun _ => ()) fun _ _ => true := by
  refine ⟨fun r => ⟨?_, ?_⟩, fun e row => ⟨fun _ => rfl, fun _ => rfl⟩⟩
  · rintro ⟨hr, hn⟩
    rcases mem_plan.mp hr with rfl | ⟨e, he, rfl | rfl⟩
    · cases hn
    · cases hn
    · exact ⟨e, he, rfl⟩
  · rintro ⟨e, he, rfl⟩
    exact ⟨mem_plan.mpr (Or.inr ⟨e, he, Or.inr rfl⟩), rfl⟩

theorem some_getD_eq_iff {α : Type} {a : Option α} {d : α} : some (a.getD d) = a ↔ a.isSome := by
  cases a <;> simp

/-- A null and an empty state are not stored as they are compared. -/
theorem subnetColumns_subnetRow : subnetColumns (subnetRow env name spec status) =
      subnetComputed env name spec status ↔
    operationalState env status ≠ "" ∧ (mtu status).isSome ∧ (macAddress status).isSome ∧
      (bridgeIp status).isSome := by
  have hprops : existingProps (subnetRow env name spec status) = properties spec :=
    existingProps_eq_iff.mpr rfl
  have hstate : (truthy (some (operationalState env status))).getD "unknown" =
      operationalState env status ↔ operationalState env status ≠ "" := by
    unfold truthy
    by_cases hempty : operationalState env status = ""
    · simp [Option.filter_some, hempty]
    · simp [Option.filter_some, hempty]
  unfold subnetColumns subnetComputed
  rw [hprops]
  simp only [subnetRow, Prod.mk.injEq, Option.getD_some, and_true, hstate, some_getD_eq_iff]

theorem vethColumns_vethRow {e : VethEntry} : vethColumns (vethRow env e.linkId e.hostVethName
      (foundInterface env db e) e.bandwidth e.state) = vethComputed env db e ↔
    env.lower e.state = e.state := by
  simp [vethColumns, vethRow, vethComputed]

/-- The revisions accept what they settle on exactly in a stable state. -/
theorem accepted_plan : Accepted (plan env db name spec status) db ↔
    Stable env db name spec status := by
  have hsubnet : AcceptedIn (plan env db name spec status) db .logicalSubnet ↔
      ((operationalState env status ≠ "" ∧ (mtu status).isSome ∧ (macAddress status).isSome ∧
        (bridgeIp status).isSome) ∨
      (openRow db .logicalSubnet (.id (subnetId name spec))).map subnetColumns =
        some (subnetComputed env name spec status)) := by
    rw [compares_subnet.acceptedIn_iff fun _ _ _ _ _ _ => id, ← subnetColumns_subnetRow]
    exact ⟨fun h => (h () trivial).2, fun h _ _ => ⟨fun _ _ _ => rfl, h⟩⟩
  have hlinks : AcceptedIn (plan env db name spec status) db .physicalLink ↔ ∀ e,
      IsEntry status e → (∀ e', IsEntry status e' → e'.linkId = e.linkId →
        vethComputed env db e' = vethComputed env db e) ∧
      (env.lower e.state = e.state ∨
        (openRow db .physicalLink (.id e.linkId)).map vethColumns =
          some (vethComputed env db e)) := by
    rw [compares_link.acceptedIn_iff]
    · refine forall₂_congr fun e _ => and_congr ?_ (or_congr vethColumns_vethRow Iff.rfl)
      refine forall₂_congr fun e' _ => ⟨fun h hid => h (congrArg Key.id hid), fun h hk => ?_⟩
      exact h (Key.id.inj hk)
    · intro e e' _ _ _ hcomp hcol
      have hstate : e'.state = e.state := Option.some.inj (congrArg Prod.fst hcomp)
      have hlower := vethColumns_vethRow.mp hcol
      rw [hstate] at hlower
      exact vethColumns_vethRow.mpr hlower
  rw [accepted_iff]
  constructor
  · intro h
    exact ⟨hsubnet.mp (h .logicalSubnet), hlinks.mp (h .physicalLink)⟩
  · intro h n
    cases n with
    | logicalSubnet => exact hsubnet.mpr h.subnet
    | physicalLink => exact hlinks.mpr h.links
    | subnetAssociation => exact compares_assoc.acceptedIn (fun _ _ _ _ _ => rfl) fun _ _ => rfl
    | _ =>
      intro r hr hn
      rcases mem_plan.mp hr with rfl | ⟨_, _, rfl | rfl⟩ <;> cases hn

end Stable

end Bridge

end GnnSandbox.Graph
