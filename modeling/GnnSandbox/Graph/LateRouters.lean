import GnnSandbox.Graph.Current.Op
import GnnSandbox.Graph.Plans.Infrastructure
import GnnSandbox.Graph.Plans.Router

/-!
# An infrastructure and its routers, once each

The sync of an infrastructure attaches an interface to a link only when the router is
in the store; the sync of a router attaches nothing. Where the links of the
infrastructure end at none of the routers that are new, each sync performs the same
revisions wherever it stands in the order.
-/

namespace GnnSandbox.Graph

open Scd Effect

/-- The syncs of an infrastructure and of some routers, once each. -/
def syncsOf (name : ResourceName) (spec : VyOSInfrastructure) (routers : List VyOSRouter) :
    List Op := .syncInfrastructure name spec :: routers.map .syncRouter

/-- The rows that are open for a key, without their timestamps. -/
def openRows (db : Database) (n : TableName) (k : Key) : List (Row n) :=
  (db.active n k).map Version.data

theorem openRows_eq {db : Database} (h : Single db) (n : TableName) (k : Key) :
    openRows db n k = (openRow db n k).toList := by
  unfold openRows openRow
  have hlen := h n k
  cases hactive : db.active n k with
  | nil => rfl
  | cons v vs =>
    rw [hactive, List.length_cons] at hlen
    rw [List.eq_nil_of_length_eq_zero (Nat.le_zero.mp (Nat.le_of_succ_le_succ hlen))]
    rfl

theorem openRow_of_mem {db : Database} (h : Single db) {n : TableName} {k : Key} {x : Row n}
    (hx : x ∈ openRows db n k) : openRow db n k = some x := by
  rw [openRows_eq h, Option.mem_toList] at hx
  exact hx

namespace Infrastructure

/-- The bandwidth is one that interfaces take over. -/
def KnowsBandwidth (net : Network) : Prop := bandwidth net ≠ "" ∧ bandwidth net ≠ "unknown"

/-- The network is a link with an end at this interface. -/
def EndsAt (net : Network) (router iface : String) : Prop :=
  ∃ conn ∈ linkedRouters net, truthy conn.routerName = some router ∧
    truthy conn.interface = some iface

end Infrastructure

namespace Router

/-- The router's row can be computed. -/
def Syncs (env : Env) (r : VyOSRouter) : Prop :=
  ∃ status, routerStatus r = some status ∧ (routerRow env r status).isSome = true

/-- The first interface with this address. -/
def firstAt (r : VyOSRouter) (addr : String) : Option InterfaceSpec :=
  (r.spec.interfaces.getD []).find? fun iface => addrCidr iface = some addr

end Router

/-- Of the routers nothing is open that their syncs or their links read. -/
structure Unsynced (db : Database) (routers : List VyOSRouter) : Prop where
  rows : ∀ r ∈ routers, db.active .physicalRouter (.id (Router.routerId r)) = []
  edges : ∀ r ∈ routers, ∀ iface linkId,
    db.active .interfaceLink (.edge (Router.routerId r ++ ":interface:" ++ iface) linkId) = []

/-- No link ends at a router whose row its sync can write. -/
def NoLateLink (env : Env) (spec : VyOSInfrastructure) (routers : List VyOSRouter) : Prop :=
  ∀ net ∈ spec.networks.getD [], ∀ r ∈ routers, Router.Syncs env r →
    ∀ iface, ¬Infrastructure.EndsAt net r.metadata.name iface

/-! ## What the syncs read -/

section Reads

variable {env : Env} {db : Database} {w w₀ : World}

/-- The open routers of a name are the open versions of its key. -/
theorem routersNamed_eq_active (hw : ∀ v ∈ db .physicalRouter, Written env .physicalRouter v.data)
    (name : String) : Infrastructure.routersNamed name db =
      db.active .physicalRouter (.id ("router:" ++ name)) := by
  refine List.filter_congr fun v hv => ?_
  obtain ⟨r, status, -, hrow⟩ := hw v hv
  obtain ⟨hid, hname⟩ := Router.routerRow_id hrow
  have hkey : Row.key (n := .physicalRouter) v.data = Key.id ("router:" ++ r.metadata.name) :=
    congrArg Key.id hid
  rw [hkey, hname]
  exact congrArg (v.isActive && ·) (decide_eq_decide.mpr
    ⟨fun h => by rw [h], fun h => append_right_inj (Key.id.inj h)⟩)

/-- Without an open edge an interface has no link. -/
theorem linksOf_eq_nil {interfaceId : String}
    (h : ∀ linkId, db.active .interfaceLink (.edge interfaceId linkId) = []) :
    Router.linksOf interfaceId db = [] := by
  rw [Router.linksOf, List.flatMap_eq_nil_iff]
  intro e he
  rw [List.mem_filter, Bool.and_eq_true, decide_eq_true_eq] at he
  obtain ⟨hmem, hactive, hid⟩ := he
  have hkey : Row.key (n := .interfaceLink) e.data = Key.edge interfaceId e.data.linkId := by
    rw [← hid]
    rfl
  have hopen := Version.isActive_iff.mp hactive
  exact absurd hkey (active_eq_nil_iff.mp (h e.data.linkId) e hmem hopen)

end Reads

/-! ## What the runs keep -/

/-- What the syncs of a spec and its routers leave as it was in `db`. -/
structure LateKept (env : Env) (db : Database) (spec : VyOSInfrastructure)
    (routers : List VyOSRouter) (w : World) : Prop where
  sound : Sound env w
  named : ∀ net ∈ spec.networks.getD [], ∀ router iface,
    Infrastructure.EndsAt net router iface →
      w.db.active .physicalRouter (.id ("router:" ++ router)) =
        db.active .physicalRouter (.id ("router:" ++ router))
  edges : ∀ r ∈ routers, ∀ iface linkId,
    w.db.active .interfaceLink (.edge (Router.routerId r ++ ":interface:" ++ iface) linkId) = []
  stale : ∀ r ∈ routers, ¬Router.Syncs env r →
    w.db.active .physicalRouter (.id (Router.routerId r)) = []

/-- The revisions of a sync, wherever it stands in the order. -/
def lateRevisions (env : Env) (db : Database) : Op → List Revising
  | .syncInfrastructure _ spec => Infrastructure.plan env db spec
  | .syncRouter r => Router.plan env Database.empty r
  | _ => []

namespace LateKept

variable {env : Env} {db : Database} {spec : VyOSInfrastructure} {routers : List VyOSRouter}
  {w : World} {r : VyOSRouter}

theorem single (h : LateKept env db spec routers w) : Single w.db :=
  fun n k => h.sound.wellFormed.one n k

/-- The rows of one name are at most one, so there is no choice among them. -/
theorem reads_infrastructure (h : LateKept env db spec routers w) :
    Infrastructure.Reads env w.db spec := by
  intro net _ conn _ name _
  refine env.decides_of_length_le _ ?_
  rw [routersNamed_eq_active (h.sound.written .physicalRouter)]
  exact h.single _ _

/-- The infrastructure finds the routers that it would have found at first. -/
theorem plan_infrastructure (h : LateKept env db spec routers w)
    (hdb : ∀ v ∈ db .physicalRouter, Written env .physicalRouter v.data) :
    Infrastructure.plan env w.db spec = Infrastructure.plan env db spec := by
  refine List.flatMap_congr fun net hnet => ?_
  unfold Infrastructure.planNetwork
  by_cases htwo : 2 ≤ (Infrastructure.connectedRouters net).length
  · rw [if_pos htwo, if_pos htwo]
    have hconn : ∀ conn ∈ Infrastructure.connectedRouters net,
        Infrastructure.connectionId env w.db conn = Infrastructure.connectionId env db conn := by
      intro conn hconn
      unfold Infrastructure.connectionId
      cases hrouter : truthy conn.routerName with
      | none => rfl
      | some router =>
        cases hiface : truthy conn.interface with
        | none => rfl
        | some iface =>
          have hends : Infrastructure.EndsAt net router iface := by
            refine ⟨conn, ?_, hrouter, hiface⟩
            rw [Infrastructure.linkedRouters, if_pos htwo]
            exact hconn
          have hnamed : Infrastructure.routersNamed router w.db =
              Infrastructure.routersNamed router db := by
            rw [routersNamed_eq_active (h.sound.written .physicalRouter),
              routersNamed_eq_active hdb, h.named net hnet router iface hends]
          simp only [Option.bind_some, Infrastructure.foundRouter, hnamed]
    have hplan : (Infrastructure.connectedRouters net).flatMap
        (Infrastructure.planConnection env w.db net) =
          (Infrastructure.connectedRouters net).flatMap
            (Infrastructure.planConnection env db net) := by
      refine List.flatMap_congr fun conn hmem => ?_
      rw [Infrastructure.planConnection, hconn conn hmem, Infrastructure.planConnection]
    rw [hplan]
  · rw [if_neg htwo, if_neg htwo]

theorem linksOf_eq_nil (h : LateKept env db spec routers w) (hr : r ∈ routers)
    (iface : InterfaceSpec) : Router.linksOf (Router.ifaceId r iface) w.db = [] :=
  GnnSandbox.Graph.linksOf_eq_nil (h.edges r hr (Router.ifaceName iface))

theorem reads_router (h : LateKept env db spec routers w) (hr : r ∈ routers) :
    Router.Reads env w.db r := by
  intro iface _
  refine env.decides_of_length_le _ ?_
  rw [h.linksOf_eq_nil hr]
  exact Nat.zero_le 1

/-- A router finds no link at its interfaces, and when its row cannot be written none. -/
theorem plan_router (h : LateKept env db spec routers w) (hr : r ∈ routers) :
    Router.plan env w.db r = Router.plan env Database.empty r := by
  have hspeed : ∀ iface, Router.foundSpeed env w.db r iface =
      Router.foundSpeed env Database.empty r iface := by
    intro iface
    have hempty : Router.linksOf (Router.ifaceId r iface) Database.empty = [] := rfl
    rw [Router.foundSpeed, h.linksOf_eq_nil hr, Router.foundSpeed, hempty]
  have hifaces : ∀ status, Router.planInterfaces env w.db r status =
      Router.planInterfaces env Database.empty r status := by
    intro status
    refine List.flatMap_congr fun iface _ => ?_
    unfold Router.planInterface Router.reviseIface
    rw [hspeed]
  unfold Router.plan
  cases hs : Router.routerStatus r with
  | none => rfl
  | some status =>
    dsimp only
    cases hrow : Router.routerRow env r status with
    | some row =>
      dsimp only
      rw [hifaces]
    | none =>
      have hnot : ¬Router.Syncs env r := by
        rintro ⟨status', hs', hrow'⟩
        rw [hs, Option.some.injEq] at hs'
        rw [← hs', hrow] at hrow'
        cases hrow'
      have hstale : ∀ db' : Database, db'.active .physicalRouter (.id (Router.routerId r)) = [] →
          Router.isCurrent env db' r status = false := by
        intro db' hnil
        rw [Router.isCurrent, openRow, hnil]
        rfl
      dsimp only
      rw [hstale w.db (h.stale r hr hnot), hstale Database.empty rfl]
      rfl

/-- What follows when the rows that the calls insert name none of the routers. -/
theorem calls {w' : World} (h : LateKept env db spec routers w) {S : Admissible}
    (hc : Calls env (Revises S) w w') (hsound : Sound env w')
    (hnamed : ∀ net ∈ spec.networks.getD [], ∀ router iface,
      Infrastructure.EndsAt net router iface → ∀ db' row x, S db' .physicalRouter row x →
        x.id ≠ "router:" ++ router)
    (hedges : ∀ r ∈ routers, ∀ iface linkId,
      w'.db.active .interfaceLink (.edge (Router.routerId r ++ ":interface:" ++ iface) linkId) = [])
    (hstale : ∀ r ∈ routers, ¬Router.Syncs env r → ∀ db' row x, S db' .physicalRouter row x →
      x.id ≠ Router.routerId r) : LateKept env db spec routers w' where
  sound := hsound
  named net hnet router iface hends := by
    rw [← h.named net hnet router iface hends]
    exact hc.active_eq fun db' row x hx hkey =>
      hnamed net hnet router iface hends db' row x hx (Key.id.inj hkey)
  edges := hedges
  stale r hr hnot := by
    rw [← h.stale r hr hnot]
    exact hc.active_eq fun db' row x hx hkey => hstale r hr hnot db' row x hx (Key.id.inj hkey)

/-- The infrastructure attaches none of the routers. -/
theorem step_infrastructure (h : LateKept env db spec routers w)
    (hlate : NoLateLink env spec routers) (name : ResourceName) :
    LateKept env db spec routers (after (syncVyosInfrastructure env spec) w) := by
  have hc : Calls env (Revises (Infrastructure.Inserts env spec)) w
      (after (syncVyosInfrastructure env spec) w) := respects_syncVyosInfrastructure env spec w
  have hnone : ∀ db' row x, ¬Infrastructure.Inserts env spec db' .physicalRouter row x :=
    fun _ _ _ hx => by
      obtain ⟨_, -, hx⟩ := hx
      exact hx.2
  refine h.calls hc (h.sound.calls (.syncInfrastructure name spec) hc fun _ _ _ _ hx => hx)
    (fun _ _ _ _ _ db' row x hx => absurd hx (hnone db' row x)) (fun r hr iface linkId => ?_)
    (fun _ _ _ db' row x hx => absurd hx (hnone db' row x))
  by_contra hopen
  rcases (hc.sees hnone).key_of_active hopen with hbefore | ⟨v, -, x, ⟨hrouters, hx⟩, hkey⟩
  · exact hbefore (h.edges r hr iface linkId)
  · obtain ⟨net, hnet, htwo, conn, hconn, id, hattach, rfl⟩ := hx
    obtain ⟨routerName, interfaceName, hrouter, hiface, u, hu, rfl⟩ := hattach
    -- the row that was found is that of a router of the set
    rw [Infrastructure.routersNamed, hrouters] at hu
    have hwritten := h.sound.written .physicalRouter
    have hactive := hu
    rw [← Infrastructure.routersNamed, routersNamed_eq_active hwritten] at hactive
    obtain ⟨hmem, hopen', hukey⟩ := mem_active.mp hactive
    obtain ⟨r', status, -, hrow⟩ := hwritten u hmem
    obtain ⟨hid, -⟩ := Router.routerRow_id hrow
    have hname : routerName = r'.metadata.name.val := by
      have hkey' : u.data.id = "router:" ++ routerName := Key.id.inj hukey
      exact append_right_inj (hkey'.symm.trans hid)
    have hedge : u.data.id ++ ":interface:" ++ interfaceName =
        Router.routerId r ++ ":interface:" ++ iface := (Key.edge.inj hkey).1
    rw [hid] at hedge
    have hsame := (interfaceId_inj r'.metadata.name.property r.metadata.name.property hedge).1
    have hrouterName : routerName = r.metadata.name.val := hname.trans hsame
    by_cases hsyncs : Router.Syncs env r
    · refine hlate net hnet r hr hsyncs interfaceName ⟨conn, ?_, hrouterName ▸ hrouter, hiface⟩
      rw [Infrastructure.linkedRouters, if_pos htwo]
      exact hconn
    · have hnil := h.stale r hr hsyncs
      rw [Router.routerId, ← hrouterName] at hnil
      rw [hnil] at hactive
      cases hactive

/-- A router adds its row when that can be computed, and attaches nothing. -/
theorem step_router (h : LateKept env db spec routers w)
    (hlate : NoLateLink env spec routers) (hset : (routers.map fun r => r.metadata.name).Nodup)
    (hr : r ∈ routers) : LateKept env db spec routers (after (syncPhysicalRouter env r) w) := by
  have hc : Calls env (Revises (Router.Inserts env r)) w
      (after (syncPhysicalRouter env r) w) := respects_syncPhysicalRouter env r w
  have hrow : ∀ db' row x, Router.Inserts env r db' .physicalRouter row x →
      Router.Syncs env r ∧ x.id = Router.routerId r := by
    rintro db' row x ⟨status, hs, hx⟩
    exact ⟨⟨status, hs, by rw [hx]; rfl⟩, (Router.routerRow_id hx).1⟩
  refine h.calls hc (h.sound.calls (.syncRouter r) hc fun _ _ _ _ hx => hx) ?_ ?_ ?_
  · intro net hnet router iface hends db' row x hx hid
    obtain ⟨hsyncs, hxid⟩ := hrow db' row x hx
    have hname : r.metadata.name.val = router := append_right_inj (hxid.symm.trans hid)
    exact hlate net hnet r hr hsyncs iface (hname ▸ hends)
  · intro r' hr' iface linkId
    have htable : (after (syncPhysicalRouter env r) w).db .interfaceLink = w.db .interfaceLink :=
      hc.table_eq fun _ _ _ hx => hx
    rw [Database.active, htable]
    exact h.edges r' hr' iface linkId
  · intro r' hr' hnot db' row x hx hid
    obtain ⟨hsyncs, hxid⟩ := hrow db' row x hx
    have hname : r.metadata.name.val = r'.metadata.name.val :=
      append_right_inj (hxid.symm.trans hid)
    have heq : r = r' := List.inj_on_of_nodup_map hset hr hr' (Subtype.ext hname)
    exact hnot (heq ▸ hsyncs)

/-- **One sync** performs its revisions wherever it stands, and keeps what they depend on. -/
theorem step (h : LateKept env db spec routers w) (hok : env.Reliable)
    (hdb : ∀ v ∈ db .physicalRouter, Written env .physicalRouter v.data)
    (hlate : NoLateLink env spec routers) (hset : (routers.map fun r => r.metadata.name).Nodup)
    {name : ResourceName} {op : Op} (hop : op ∈ syncsOf name spec routers) :
    LateKept env db spec routers (after (op.exec env) w) ∧
      ∀ n k, openRow (after (op.exec env) w).db n k =
        settle (lateRevisions env db op) n k (openRow w.db n k) := by
  rcases List.mem_cons.mp hop with rfl | hop
  · refine ⟨h.step_infrastructure hlate name, fun n k => ?_⟩
    have hperforms := Infrastructure.performs hok h.reads_infrastructure h.single
    rw [h.plan_infrastructure hdb] at hperforms
    exact Performed.openRow_eq hperforms (not_noSide n) k
  · obtain ⟨r, hr, rfl⟩ := List.mem_map.mp hop
    refine ⟨h.step_router hlate hset hr, fun n k => ?_⟩
    have hperforms := Router.performs hok (h.reads_router hr) h.single
    rw [h.plan_router hr] at hperforms
    exact Performed.openRow_eq hperforms (not_noSide n) k

/-- **A run of the syncs** in any order makes its revisions one after another. -/
theorem run (h : LateKept env db spec routers w) (hok : env.Reliable)
    (hdb : ∀ v ∈ db .physicalRouter, Written env .physicalRouter v.data)
    (hlate : NoLateLink env spec routers) (hset : (routers.map fun r => r.metadata.name).Nodup)
    {name : ResourceName} {ops : List Op} (hops : ∀ op ∈ ops, op ∈ syncsOf name spec routers) :
    LateKept env db spec routers (runFrom env w ops) ∧ ∀ n k,
      openRow (runFrom env w ops).db n k =
        ops.foldl (fun s op => settle (lateRevisions env db op) n k s) (openRow w.db n k) := by
  induction ops generalizing w with
  | nil => exact ⟨h, fun _ _ => rfl⟩
  | cons op ops ih =>
    obtain ⟨hkept, hrows⟩ := h.step hok hdb hlate hset (hops op List.mem_cons_self)
    obtain ⟨hafter, hrest⟩ := ih hkept fun op' hop' => hops op' (List.mem_cons_of_mem _ hop')
    refine ⟨hafter, fun n k => ?_⟩
    rw [runFrom_cons, List.foldl_cons, ← hrows n k]
    exact hrest n k

end LateKept

/-- A reachable store in which nothing of the routers is open. -/
theorem lateKept_of_unsynced {env : Env} (hok : env.Reliable) (ops : List Op)
    {routers : List VyOSRouter} (h : Unsynced (run env ops).db routers)
    (spec : VyOSInfrastructure) :
    LateKept env (run env ops).db spec routers (run env ops) :=
  ⟨sound_run fun i _ => hok i, fun _ _ _ _ _ => rfl, h.edges, fun r hr _ => h.rows r hr⟩

/-! ## What the revisions are about -/

section Keys

variable {env : Env} {db : Database} {spec : VyOSInfrastructure} {r : VyOSRouter}
  {l : List Revising} {n : TableName} {k : Key} {s : Option (Row n)}

theorem settle_of_untouched (h : ∀ v ∈ l, v.n = n → v.k ≠ k) : settle l n k s = s := by
  refine settle_eq_self fun v hv => ?_
  by_cases hn : v.n = n
  · exact Revising.at'_of_key_ne (h v hv hn) n s
  · exact Revising.at'_of_table_ne hn k s

/-- A row that a router's interfaces would not replace. -/
def OfInterface (x : LogicalSubnet) : Prop := x.properties = some (.obj [])

instance instDecidableOfInterface (x : LogicalSubnet) : Decidable (OfInterface x) :=
  inferInstanceAs (Decidable (x.properties = some (.obj [])))

/-- The row of a router's interface, unless there is one of an interface. -/
def keepOr (s : Option LogicalSubnet) (row : LogicalSubnet) : Option LogicalSubnet :=
  if s.any (fun x => decide (OfInterface x)) = true then s else some row

theorem keepOr_of_any {s : Option LogicalSubnet}
    (h : s.any (fun x => decide (OfInterface x)) = true) (row : LogicalSubnet) : keepOr s row = s :=
  if_pos h

theorem any_keepOr (s : Option LogicalSubnet) (addr : String) (iface : InterfaceSpec) :
    (keepOr s (Router.subnetRow addr iface)).any (fun x => decide (OfInterface x)) = true := by
  unfold keepOr
  split
  · assumption
  · rfl

/-- An interface is about the subnet of its address. -/
theorem settle_planInterface (env : Env) (db : Database) (r : VyOSRouter) (status addr : String)
    (iface : InterfaceSpec) (s : Option LogicalSubnet) :
    settle (Router.planInterface env db r status iface) .logicalSubnet (.id ("subnet:" ++ addr)) s =
      if Router.addrCidr iface = some addr then keepOr s (Router.subnetRow addr iface) else s := by
  by_cases haddr : Router.addrCidr iface = some addr
  · rw [if_pos haddr]
    unfold Router.planInterface
    rw [haddr]
    have hnext : (Router.reviseSubnet addr iface).at' .logicalSubnet (.id ("subnet:" ++ addr)) s =
        (Router.reviseSubnet addr iface).next s :=
      Revising.at'_self (Router.reviseSubnet addr iface) s
    have hne : (Router.reviseIface env db r status iface).n ≠ .logicalSubnet := by
      show TableName.physicalInterface ≠ .logicalSubnet
      decide
    have hne' : (Revising.ensure .subnetAssociation (Router.assocRow r iface addr)).n ≠
        .logicalSubnet := by
      show TableName.subnetAssociation ≠ .logicalSubnet
      decide
    have hiface := fun s : Option LogicalSubnet =>
      Revising.at'_of_table_ne hne (.id ("subnet:" ++ addr)) s
    have hassoc := fun s : Option LogicalSubnet =>
      Revising.at'_of_table_ne hne' (.id ("subnet:" ++ addr)) s
    simp only [settle, List.foldl_cons, List.foldl_nil, hiface, hassoc, hnext, Option.none_or]
    cases s with
    | none => rfl
    | some x =>
      show (if decide (x.properties = some (.obj [])) = true then none
        else some (Router.subnetRow addr iface)).or (some x) = _
      unfold keepOr OfInterface
      by_cases hx : x.properties = some (.obj [])
      · simp [hx]
      · simp [hx]
  · rw [if_neg haddr]
    refine settle_of_untouched fun v hv hn hk => ?_
    rcases Router.mem_planInterface.mp hv with rfl | ⟨addr', haddr', rfl | rfl⟩
    · cases hn
    · have heq : addr' = addr := append_right_inj (Key.id.inj hk)
      exact haddr (heq ▸ haddr')
    · cases hn

/-- A router's interfaces leave the subnet of an address with the row of the first one
that has it, unless a row of an interface was there. -/
theorem settle_planInterfaces (db : Database) (status addr : String) (ifaces : List InterfaceSpec)
    (s : Option LogicalSubnet) :
    settle (ifaces.flatMap (Router.planInterface env db r status)) .logicalSubnet
        (.id ("subnet:" ++ addr)) s =
      (ifaces.find? fun iface => Router.addrCidr iface = some addr).elim s fun iface =>
        keepOr s (Router.subnetRow addr iface) := by
  induction ifaces generalizing s with
  | nil => rfl
  | cons iface ifaces ih =>
    rw [List.flatMap_cons, settle, List.foldl_append]
    have hhead := settle_planInterface env db r status addr iface s
    rw [settle] at hhead
    rw [hhead, ← settle, ih]
    by_cases haddr : Router.addrCidr iface = some addr
    · rw [if_pos haddr, List.find?_cons_of_pos (by simpa using haddr)]
      -- the row that is there now stays
      cases ifaces.find? fun iface => Router.addrCidr iface = some addr with
      | none => rfl
      | some iface' => exact keepOr_of_any (any_keepOr s addr iface) _
    · rw [if_neg haddr, List.find?_cons_of_neg (by simpa using haddr)]

end Keys

end GnnSandbox.Graph
