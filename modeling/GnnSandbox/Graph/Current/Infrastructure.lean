import GnnSandbox.Graph.Current.Sound

/-!
# What a sync of a VyOSInfrastructure leaves

`computed` lists what the sync leaves of each key, read off the spec and the routers that
are in the store. Several networks may come to one key, and then the last one counts.
-/

namespace GnnSandbox.Graph

open Scd Effect

namespace Infrastructure

/-- The interface at which a connected router takes part in a link, if the router is in
the store. -/
def attachment (db : Database) (conn : ConnectedRouter) : Option String :=
  match truthy conn.routerName, truthy conn.interface with
  | some routerName, some interfaceName =>
    if (routersNamed routerName db).isEmpty then none
    else some ("router:" ++ routerName ++ ":interface:" ++ interfaceName)
  | _, _ => none

/-- The connected routers of a network that is a link. -/
def linkedRouters (net : Network) : List ConnectedRouter :=
  if 2 ≤ (connectedRouters net).length then connectedRouters net else []

/-- What a network leaves. -/
def computedNetwork (env : Env) (db : Database) (net : Network) :
    (n : TableName) → Key → Option (Row n → Prop)
  | .logicalSubnet, k => if .id (subnetId net) = k then some (· = subnetRow net) else none
  | .physicalLink, k =>
    if 2 ≤ (connectedRouters net).length ∧ .id (linkId net) = k then some (· = linkRow env net)
    else none
  | .interfaceLink, k => (linkedRouters net).reverse.findSome? fun conn =>
      (attachment db conn).bind fun interfaceId =>
        if .edge interfaceId (linkId net) = k then some (· = ifaceLinkRow net interfaceId) else none
  | _, _ => none

/-- What a connected router leaves of its interface, if that is in the store: its speed. -/
def computedSpeed (net : Network) (k : Key) (db : Database) (conn : ConnectedRouter) :
    Option (PhysicalInterface → Prop) :=
  (attachment db conn).bind fun interfaceId =>
    if .id interfaceId = k ∧ bandwidth net ≠ "" ∧ bandwidth net ≠ "unknown" ∧
        (splitInTwo ":interface:" interfaceId).isSome then
      some fun x => x.speed = some (bandwidth net)
    else none

/-- What a sync of `spec` leaves. -/
def computed (env : Env) (db : Database) (spec : VyOSInfrastructure) :
    (n : TableName) → Key → Option (Row n → Prop)
  | .physicalInterface, k =>
    if (db.active .physicalInterface k).isEmpty then none
    else (spec.networks.getD []).reverse.findSome? fun net =>
      (linkedRouters net).reverse.findSome? (computedSpeed net k db)
  | n, k => (spec.networks.getD []).reverse.findSome? fun net => computedNetwork env db net n k

variable {env : Env} {w : World} {name : ResourceName} {spec : VyOSInfrastructure} {net : Network}
  {conn : ConnectedRouter}

/-! ## Rows that are found unchanged -/

/-- The columns of a subnet can be read off its properties. -/
theorem subnetRow_eq_of_dict {net net' : Network} (h : net'.dict = net.dict) :
    subnetRow net' = subnetRow net := by
  have hname : net'.name = net.name :=
    Json.str.inj (Option.some.inj (Json.field_eq "name" h (by simp) (by simp)))
  have hsubnet : net'.subnet = net.subnet :=
    Json.map_str_inj (Json.field_eq "subnet" h (by simp) (by simp))
  have htype : net'.networkType = net.networkType :=
    Json.map_str_inj (Json.field_eq "network_type" h (by simp) (by simp))
  have hdescr : net'.description = net.description :=
    Json.map_str_inj (Json.field_eq "description" h (by simp) (by simp))
  unfold subnetRow subnetId
  rw [hname, hsubnet, htype, hdescr, h]

/-- The bandwidth of a link can be read off its properties. -/
theorem bandwidth_eq_of_linkProps {net net' : Network} (h : linkProps net' = linkProps net) :
    bandwidth net' = bandwidth net :=
  Json.str.inj (Option.some.inj (Json.field_eq "bandwidth" h (by simp) (by simp)))

/-- Nothing but an infrastructure stores the properties of a network. -/
theorem eq_subnetRow_of_unchanged {x : LogicalSubnet} (hx : Written env .logicalSubnet x)
    (h : x.properties = some net.dict) : x = subnetRow net := by
  rcases hx with ⟨net', rfl⟩ | ⟨addrCidr, iface, rfl⟩ | ⟨name, spec, status, rfl⟩
  · exact subnetRow_eq_of_dict (Option.some.inj h)
  · have hdict : Json.obj [] = net.dict := Option.some.inj h
    have hname := net.dict_name
    rw [← hdict] at hname
    cases hname
  · exact absurd (Option.some.inj h).symm (net.dict_ne_properties spec)

/-- Nothing but an infrastructure stores the properties of a link with a bandwidth. -/
theorem eq_linkRow_of_unchanged {x : PhysicalLink} (hx : Written env .physicalLink x)
    (hid : x.id = linkId net) (h : x.properties = some (linkProps net)) : x = linkRow env net := by
  rcases hx with ⟨net', rfl⟩ | ⟨suffix, hostVethName, containerIfaceId, bw, state, rfl⟩
  · have hprops : linkProps net' = linkProps net := Option.some.inj h
    have hname : net'.name = net.name := by
      have hid' : "link:" ++ net'.name = "link:" ++ net.name := hid
      exact append_right_inj hid'
    unfold linkRow linkId
    rw [hname, bandwidth_eq_of_linkProps hprops, hprops]
  · have hprops : Bridge.vethProperties hostVethName containerIfaceId = linkProps net :=
      Option.some.inj h
    have hbw : none = some (Json.str (bandwidth net)) :=
      Json.field_eq "bandwidth" hprops (by simp) (by simp)
    cases hbw

/-! ## Connected routers -/

/-- The lookup finds the router of a name if it is in the store. -/
theorem result_lookup (h : Sound env w) (routerName : String) :
    result (getRouterIdByName env routerName) w =
      if (routersNamed routerName w.db).isEmpty then none else some ("router:" ++ routerName) := by
  by_cases hnil : routersNamed routerName w.db = []
  · rw [if_pos (by simp [hnil])]
    match hres : result (getRouterIdByName env routerName) w with
    | none => rfl
    | some id =>
      obtain ⟨v, hv, -⟩ := result_getRouterIdByName hres
      rw [hnil] at hv
      cases hv
  · rw [if_neg (by simpa using hnil)]
    obtain ⟨v, hv⟩ := result_snapshot_isSome (fun v => v.data.id) h.ok hnil
    have hres : result (getRouterIdByName env routerName) w = some v.data.id :=
      congrArg (fun row => row.join.map fun u : Version Timestamp PhysicalRouter => u.data.id) hv
    have hmem := result_snapshot_mem hv
    simp only [routersNamed, List.mem_filter, Bool.and_eq_true, decide_eq_true_eq] at hmem
    obtain ⟨r, status, -, hrow⟩ := h.written .physicalRouter v hmem.1
    obtain ⟨hid, hname⟩ := Router.routerRow_id hrow
    rw [hres, hid, ← hname, hmem.2.2]

/-- What follows a successful lookup. -/
def connect (env : Env) (net : Network) (interfaceId : String) : Sync Unit := do
  attempt env (sqlUpsertIfaceLink net interfaceId)
  if bandwidth net ≠ "" ∧ bandwidth net ≠ "unknown" then
    syncIfaceSpeedFromBandwidth env interfaceId (bandwidth net)
  else pure ()

/-- A connected router is either passed over, or connected at its interface. -/
theorem syncConnection_cases (h : Sound env w) (net : Network) (conn : ConnectedRouter) :
    (attachment w.db conn = none ∧ (after (syncConnection env net conn) w).db = w.db) ∨
      ∃ interfaceId, attachment w.db conn = some interfaceId ∧
        after (syncConnection env net conn) w =
          after (connect env net interfaceId) ⟨w.db, w.calls + 1⟩ := by
  unfold syncConnection attachment
  match truthy conn.routerName, truthy conn.interface with
  | none, _ => exact Or.inl ⟨rfl, rfl⟩
  | some _, none => exact Or.inl ⟨rfl, rfl⟩
  | some routerName, some interfaceName =>
    dsimp only
    rw [after_bind, after_getRouterIdByName, result_lookup h]
    by_cases hnil : (routersNamed routerName w.db).isEmpty
    · rw [if_pos hnil, if_pos hnil]
      exact Or.inl ⟨rfl, rfl⟩
    · rw [if_neg hnil, if_neg hnil]
      have hid : truthy (some ("router:" ++ routerName)) = some ("router:" ++ routerName) := by
        rw [truthy_eq_some]
        exact ⟨rfl, by simp⟩
      rw [hid]
      exact Or.inr ⟨_, rfl, rfl⟩

/-- Whether a router is in the store depends on the routers alone. -/
theorem attachment_congr {db db' : Database} (h : db' .physicalRouter = db .physicalRouter)
    (conn : ConnectedRouter) : attachment db' conn = attachment db conn := by
  unfold attachment routersNamed
  rw [h]

/-- The edge of a connected router. -/
theorem leaves_connect_edge (h : Sound env w) (net : Network) (interfaceId : String) (k : Key) :
    Leaves .interfaceLink k (connect env net interfaceId) w
      (if .edge interfaceId (linkId net) = k then some (· = ifaceLinkRow net interfaceId)
        else none) := by
  have hedge : Leaves .interfaceLink k (attempt env (sqlUpsertIfaceLink net interfaceId)) w
      (if .edge interfaceId (linkId net) = k then some (· = ifaceLinkRow net interfaceId)
        else none) := by
    refine (leaves_upsert h k (n := .interfaceLink) (P := (· = ifaceLinkRow net interfaceId))
      rfl ?_).attempt
    rintro ⟨source, target⟩ - hkey -
    cases hkey
    rfl
  refine hedge.bind_right ?_
  split
  · have hc : Calls env (Revises (SpeedInserts interfaceId (bandwidth net)))
        (after (attempt env (sqlUpsertIfaceLink net interfaceId)) w) _ := respects_syncSpeed _ _ _
    exact hc.active_eq fun _ _ _ hx => hx.elim
  · rfl

theorem leaves_syncConnection (h : Sound env w) (net : Network) (conn : ConnectedRouter)
    (k : Key) :
    Leaves .interfaceLink k (syncConnection env net conn) w
      ((attachment w.db conn).bind fun interfaceId =>
        if .edge interfaceId (linkId net) = k then some (· = ifaceLinkRow net interfaceId)
        else none) := by
  rcases syncConnection_cases h net conn with ⟨hnone, hdb⟩ | ⟨interfaceId, hsome, hafter⟩
  · rw [hnone, Option.bind_none]
    show (after (syncConnection env net conn) w).db.active _ k = _
    rw [hdb]
  · rw [hsome, Option.bind_some]
    exact (leaves_connect_edge h.read net interfaceId k).congr rfl
      (congrArg (fun w : World => w.db.active .interfaceLink k) hafter)

/-! ## Networks -/

/-- A link's rows are rows of the sync that contains its network. -/
theorem LinkInserts.inserts (hnet : net ∈ spec.networks.getD [])
    (htwo : 2 ≤ (connectedRouters net).length) {db : Database} {n : TableName}
    {row : Option (Row n)} {x : Row n} (h : LinkInserts env net db n row x) :
    (Op.syncInfrastructure name spec).Inserts env db n row x := by
  refine ⟨net, hnet, ?_⟩
  cases n with
  | logicalSubnet => exact h.elim
  | _ => exact ⟨htwo, h⟩

theorem ConnectionInserts.link {db : Database} {n : TableName} {row : Option (Row n)} {x : Row n}
    (h : ConnectionInserts net db n row x) : LinkInserts env net db n row x := by
  cases n with
  | physicalLink => exact h.elim
  | _ => exact h

/-- The world after the subnet of a network. -/
theorem sound_subnet (h : Sound env w) (name : ResourceName)
    (hnet : net ∈ spec.networks.getD []) :
    Sound env (after (attempt env (sqlUpsertSubnet net)) w) := by
  have hc : Calls env (Revises (NetworkInserts env net)) w
      (after (attempt env (sqlUpsertSubnet net)) w) :=
    Respects.bind (respects_upsert fun _ _ => rfl) (fun _ => Respects.pure ()) w
  exact h.calls (.syncInfrastructure name spec) hc fun _ _ _ _ hx => ⟨net, hnet, hx⟩

/-- The world after the link of a network. -/
theorem sound_link (h : Sound env w) (name : ResourceName) (hnet : net ∈ spec.networks.getD [])
    (htwo : 2 ≤ (connectedRouters net).length) :
    Sound env (after (attempt env (sqlUpsertLink env net)) w) := by
  have hc : Calls env (Revises (LinkInserts env net)) w
      (after (attempt env (sqlUpsertLink env net)) w) :=
    Respects.bind (respects_upsert fun _ _ => rfl) (fun _ => Respects.pure ()) w
  exact h.calls (.syncInfrastructure name spec) hc fun _ _ _ _ hx =>
    LinkInserts.inserts hnet htwo hx

/-- The routers of a network settle a view as the last of them that does, when its subnet
and its link leave the view alone. -/
theorem settles_connections (h : Sound env w) (name : ResourceName)
    (hnet : net ∈ spec.networks.getD []) {δ π : Type} {φ : World → δ} {H : π → δ → Prop}
    {e : Database → ConnectedRouter → Option π}
    (hcongr : ∀ db db' : Database, db' .physicalRouter = db .physicalRouter → e db' = e db)
    (hsubnet : ∀ v, φ (after (attempt env (sqlUpsertSubnet net)) v) = φ v)
    (hlink : ∀ v, φ (after (attempt env (sqlUpsertLink env net)) v) = φ v)
    (hconn : ∀ w, Sound env w → ∀ conn,
      Settles φ H (syncConnection env net conn) w (e w.db conn)) :
    Settles φ H (syncNetwork env net) w ((linkedRouters net).reverse.findSome? (e w.db)) := by
  unfold syncNetwork linkedRouters
  refine Settles.bind_left (hsubnet w) ?_
  have hsound := sound_subnet h name hnet
  have hrouters : (after (attempt env (sqlUpsertSubnet net)) w).db .physicalRouter =
      w.db .physicalRouter := upsert_table_eq _ _ _ (by decide)
  by_cases htwo : 2 ≤ (connectedRouters net).length
  · rw [if_pos htwo, if_pos htwo]
    refine Settles.bind_left (hlink _) ?_
    have hsound' := sound_link hsound name hnet htwo
    refine Settles.loop (I := fun v => Sound env v ∧ v.db .physicalRouter = w.db .physicalRouter)
      (fun conn hmem v hv => ?_) (fun conn _ v hv => ?_)
      ⟨hsound', Eq.trans (upsert_table_eq _ _ _ (by decide)) hrouters⟩
    · have hc : Calls env (Revises (ConnectionInserts net)) v
          (after (syncConnection env net conn) v) := respects_syncConnection hmem v
      refine ⟨hv.1.calls (.syncInfrastructure name spec) hc fun _ _ _ _ hx =>
        LinkInserts.inserts hnet htwo hx.link, ?_⟩
      exact (hc.table_eq (n := .physicalRouter) fun _ _ _ hx => hx).trans hv.2
    · rw [← hcongr _ _ hv.2]
      exact hconn v hv.1 conn
  · rw [if_neg htwo, if_neg htwo]
    exact Settles.pure ()

/-- A network leaves what is computed for it. -/
theorem leaves_syncNetwork (h : Sound env w) (name : ResourceName)
    (hnet : net ∈ spec.networks.getD []) {n : TableName} (hn : n ≠ .physicalInterface) (k : Key) :
    Leaves n k (syncNetwork env net) w (computedNetwork env w.db net n k) := by
  cases n with
  | logicalSubnet =>
    refine Settles.bind_right (Leaves.attempt (leaves_upsert h k (n := .logicalSubnet)
      (P := (· = subnetRow net)) rfl fun x hx _ hu => ?_)) ?_
    · exact eq_subnetRow_of_unchanged hx (of_decide_eq_true hu)
    · split
      · exact congrArg (Scd.active Row.key k)
          (Calls.table_eq (respects_syncLink _) fun _ _ _ hx => hx)
      · rfl
  | physicalLink =>
    refine Settles.bind_left (congrArg (Scd.active Row.key k)
      (upsert_table_eq _ _ _ (by decide))) ?_
    have hsound := sound_subnet h name hnet
    show Leaves _ _ _ _ (if 2 ≤ (connectedRouters net).length ∧ .id (linkId net) = k then _ else _)
    by_cases htwo : 2 ≤ (connectedRouters net).length
    · rw [if_pos htwo]
      simp only [htwo, true_and]
      refine Settles.bind_right (Leaves.attempt (leaves_upsert hsound k (n := .physicalLink)
        (P := (· = linkRow env net)) rfl fun x hx hkey hu => ?_)) ?_
      · exact eq_linkRow_of_unchanged hx (Key.id.inj hkey) (of_decide_eq_true hu).1
      · exact congrArg (Scd.active Row.key k) (Calls.table_eq
          (Respects.loop (fun conn hconn => respects_syncConnection hconn) _) fun _ _ _ hx => hx)
    · rw [if_neg htwo, if_neg fun hand => htwo hand.1]
      exact Settles.pure ()
  | interfaceLink =>
    refine settles_connections h name hnet
      (e := fun db conn => (attachment db conn).bind fun interfaceId =>
        if .edge interfaceId (linkId net) = k then some (· = ifaceLinkRow net interfaceId) else none)
      (fun db db' hdb => ?_) (fun v => ?_) (fun v => ?_) fun v hv conn => ?_
    · funext conn
      rw [attachment_congr hdb]
    · exact congrArg (Scd.active Row.key k) (upsert_table_eq _ _ _ (by decide))
    · exact congrArg (Scd.active Row.key k) (upsert_table_eq _ _ _ (by decide))
    · exact leaves_syncConnection hv net conn k
  | physicalInterface => exact absurd rfl hn
  | _ =>
    refine leaves_of_table_eq ?_ k
    have hc : Calls env (Revises (NetworkInserts env net)) w (after (syncNetwork env net) w) :=
      respects_syncNetwork w
    exact hc.table_eq fun _ _ _ hx => hx.2

/-! ## Speeds -/

/-- Whatever open versions the interface has, a run leaves them in `P`, or leaves them alone. -/
abbrev LeavesSpeed (k : Key) (m : Sync Unit) (w : World) :
    Option (PhysicalInterface → Prop) → Prop :=
  Settles (fun w : World => w.db.active .physicalInterface k) (fun P l => ∀ v ∈ l, P v.data) m w

theorem leaves_syncSpeed (hw : WellFormed env w) (hok : env.fails w.calls = false)
    (interfaceId bw : String) (k : Key) :
    LeavesSpeed k (syncIfaceSpeedFromBandwidth env interfaceId bw) w
      (if .id interfaceId = k ∧ bw ≠ "" ∧ bw ≠ "unknown" ∧
          (splitInTwo ":interface:" interfaceId).isSome then
        some fun x => x.speed = some bw
      else none) := by
  by_cases hk : Key.id interfaceId = k
  · subst hk
    unfold syncIfaceSpeedFromBandwidth
    by_cases hbw : bw = "" ∨ bw = "unknown"
    · rw [if_pos hbw, if_neg (by rcases hbw with hbw | hbw <;> simp [hbw])]
      exact Settles.pure ()
    · rw [if_neg hbw]
      rw [not_or] at hbw
      match hsplit : splitInTwo ":interface:" interfaceId with
      | none =>
        rw [if_neg (by simp)]
        exact Settles.pure ()
      | some (routerId, ifaceName) =>
        rw [if_pos ⟨rfl, hbw.1, hbw.2, rfl⟩]
        show ∀ v ∈ (after (runInTransaction env (sqlSyncSpeed interfaceId routerId ifaceName bw))
          w).db.active .physicalInterface (.id interfaceId), PhysicalInterface.speed v.data = some bw
        rcases (runInTransaction_revise hok (hw.one .physicalInterface _)).2 with
          ⟨hnil, -, hafter⟩ | ⟨x, -, hnext, -⟩ | ⟨v, hv, hnext, hafter⟩ | ⟨v, x, hv, hnext, hafter⟩
        · rw [sqlSyncSpeed, hafter, hnil]
          intro v hv
          cases hv
        · cases hnext
        · rw [sqlSyncSpeed, hafter, hv]
          intro u hu
          rw [List.mem_singleton] at hu
          subst hu
          by_contra hspeed
          dsimp only at hnext
          rw [if_neg hspeed] at hnext
          cases hnext
        · rw [sqlSyncSpeed, hafter]
          dsimp only at hnext
          split at hnext
          · cases hnext
          · cases hnext
            intro u hu
            unfold Database.active at hu
            dsimp only at hu
            have hkey : Row.key (n := .physicalInterface)
                (speedRow interfaceId routerId ifaceName bw v.data) = .id interfaceId := rfl
            rw [Database.set_self, active_insert, active_closeKey_self, List.nil_append,
              if_pos hkey, List.mem_singleton] at hu
            subst hu
            rfl
  · rw [if_neg fun hand => hk hand.1]
    have hc : Calls env (Revises (SpeedInserts interfaceId bw)) w
        (after (syncIfaceSpeedFromBandwidth env interfaceId bw) w) := respects_syncSpeed _ _ w
    refine hc.active_eq ?_
    rintro db row x ⟨old, -, routerId, ifaceName, -, rfl⟩
    exact hk

theorem leaves_syncConnection_speed (h : Sound env w) (net : Network) (conn : ConnectedRouter)
    (k : Key) :
    LeavesSpeed k (syncConnection env net conn) w (computedSpeed net k w.db conn) := by
  unfold computedSpeed
  rcases syncConnection_cases h net conn with ⟨hnone, hdb⟩ | ⟨interfaceId, hsome, hafter⟩
  · rw [hnone, Option.bind_none]
    exact leaves_of_table_eq (congrArg (fun db => db .physicalInterface) hdb) k
  · rw [hsome, Option.bind_some]
    refine Settles.congr (m := connect env net interfaceId) (s := ⟨w.db, w.calls + 1⟩) ?_ rfl
      (congrArg (fun w : World => w.db.active .physicalInterface k) hafter)
    refine Settles.bind_left (congrArg (Scd.active Row.key k)
      (upsert_table_eq _ _ _ (by decide))) ?_
    have hc : Calls env _ ⟨w.db, w.calls + 1⟩
        (after (attempt env (sqlUpsertIfaceLink net interfaceId)) ⟨w.db, w.calls + 1⟩) :=
      respects_upsert_fresh _ _ _ _
    split
    · refine leaves_syncSpeed ?_ (h.read.reliable _ hc.calls_le) interfaceId (bandwidth net) k
      exact h.read.wellFormed.calls (hc.imp fun _ _ _ hr => hr.writes.steps)
    · next hbw =>
      rw [if_neg fun hand => hbw ⟨hand.2.1, hand.2.2.1⟩]
      exact Settles.pure ()

/-- What is computed for a network depends on the routers in the store alone. -/
theorem computedNetwork_congr {db db' : Database} (h : db' .physicalRouter = db .physicalRouter)
    (net : Network) (n : TableName) (k : Key) :
    computedNetwork env db' net n k = computedNetwork env db net n k := by
  cases n with
  | interfaceLink =>
    show (linkedRouters net).reverse.findSome? _ = (linkedRouters net).reverse.findSome? _
    congr 1
    funext conn
    rw [attachment_congr h]
  | _ => rfl

theorem computedSpeed_congr {db db' : Database} (h : db' .physicalRouter = db .physicalRouter)
    (net : Network) (k : Key) : computedSpeed net k db' = computedSpeed net k db := by
  funext conn
  unfold computedSpeed
  rw [attachment_congr h]

end Infrastructure

open Infrastructure in
/-- A sync of the infrastructure leaves what it computes. -/
theorem leaves_syncVyosInfrastructure {env : Env} {w : World} (h : Sound env w)
    (name : ResourceName) (spec : VyOSInfrastructure) (n : TableName) (k : Key) :
    Leaves n k (syncVyosInfrastructure env spec) w (computed env w.db spec n k) := by
  have hkeep : ∀ net ∈ spec.networks.getD [], ∀ v,
      Sound env v ∧ v.db .physicalRouter = w.db .physicalRouter →
      Sound env (after (syncNetwork env net) v) ∧
        (after (syncNetwork env net) v).db .physicalRouter = w.db .physicalRouter := by
    rintro net hnet v ⟨hv, hrouters⟩
    have hc : Calls env (Revises (NetworkInserts env net)) v (after (syncNetwork env net) v) :=
      respects_syncNetwork v
    refine ⟨hv.calls (.syncInfrastructure name spec) hc fun _ _ _ _ hx => ⟨net, hnet, hx⟩, ?_⟩
    exact (hc.table_eq (n := .physicalRouter) fun _ _ _ hx => hx.2).trans hrouters
  by_cases hn : n = .physicalInterface
  · subst hn
    have hspeed : LeavesSpeed k (syncVyosInfrastructure env spec) w
        ((spec.networks.getD []).reverse.findSome? fun net =>
          (linkedRouters net).reverse.findSome? (computedSpeed net k w.db)) := by
      refine Settles.loop hkeep (fun net hnet v hv => ?_) ⟨h, rfl⟩
      rw [← computedSpeed_congr hv.2]
      refine settles_connections hv.1 name hnet (fun _ _ hdb => computedSpeed_congr hdb net k)
        (fun v => ?_) (fun v => ?_) fun v hv conn => leaves_syncConnection_speed hv net conn k
      · exact congrArg (Scd.active Row.key k) (upsert_table_eq _ _ _ (by decide))
      · exact congrArg (Scd.active Row.key k) (upsert_table_eq _ _ _ (by decide))
    have hc : Calls env (Revises (Infrastructure.Inserts env spec)) w
        (after (syncVyosInfrastructure env spec) w) := respects_syncVyosInfrastructure env spec w
    show Leaves _ _ _ _ (if (w.db.active .physicalInterface k).isEmpty then none else _)
    by_cases hnil : w.db.active .physicalInterface k = []
    · -- setting a speed never adds an interface
      rw [if_pos (by simp [hnil])]
      show _ = w.db.active .physicalInterface k
      rw [hnil]
      by_contra hne
      rcases hc.key_of_active hne with hne | ⟨v, -, x, ⟨net, -, -, interfaceId, old, hold, -⟩, -⟩
      · exact hne hnil
      · cases hold
    · rw [if_neg (by simpa using hnil)]
      have hne := hc.active_ne_nil hnil
      have hone := (h.calls (.syncInfrastructure name spec) hc fun _ _ _ _ hx => hx).wellFormed.one
        .physicalInterface k
      generalize (spec.networks.getD []).reverse.findSome? (fun net =>
        (linkedRouters net).reverse.findSome? (computedSpeed net k w.db)) = o at hspeed ⊢
      cases o with
      | none => exact hspeed
      | some P =>
        obtain ⟨v, hv⟩ := List.length_eq_one_iff.mp
          (le_antisymm hone (List.length_pos_of_ne_nil hne))
        have hmem : v ∈ (after (syncVyosInfrastructure env spec) w).db.active
            .physicalInterface k := by
          rw [hv]
          exact List.mem_singleton_self v
        exact ⟨v, hv, hspeed v hmem⟩
  · have hloop : Leaves n k (syncVyosInfrastructure env spec) w
        ((spec.networks.getD []).reverse.findSome? fun net =>
          computedNetwork env w.db net n k) := by
      refine Settles.loop hkeep (fun net hnet v hv => ?_) ⟨h, rfl⟩
      rw [← computedNetwork_congr hv.2]
      exact leaves_syncNetwork hv.1 name hnet hn k
    cases n with
    | physicalInterface => exact absurd rfl hn
    | _ => exact hloop

end GnnSandbox.Graph
