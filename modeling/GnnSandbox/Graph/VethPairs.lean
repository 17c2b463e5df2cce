import GnnSandbox.Graph.VethNames

/-!
# Veth pairs and the interfaces they are attached to

A pass over a veth pair attaches its link and the bridge's subnet to the interface that
the lookup returns. The edge of the link is only looked at when the link gets a new
version. So in a store where every lookup is determined, and no link lies without its
edge, a run over any veth pairs attaches each to its own interface and to nothing else.
-/

namespace GnnSandbox.Graph

open Scd Effect

/-- The veth pair of an interface, as a bridge reports it. -/
structure PortVeth where
  port : Port
  state : Option String
  bw : Option String

def PortVeth.data (e : PortVeth) : VethData := ⟨some e.port.vethName, e.state, e.bw⟩

/-- The store after `sync_veth_pairs`. -/
def afterVeths (env : Env) (subnetId : String) (veths : List PortVeth) (w : World) : World :=
  after (Bridge.syncVethPairs env subnetId (veths.map fun e => some e.data)) w

/-- The link of the interface's veth pair and the subnet are attached to the interface. -/
structure Attached (w : World) (subnetId : String) (p : Port) : Prop where
  link : Holds w .physicalLink (.id p.linkId) fun x =>
    x.properties = some (Bridge.vethProperties p.hostVethName p.id)
  edge : w.db.active .interfaceLink (.edge p.id p.linkId) ≠ []
  association : w.db.active .subnetAssociation (.edge p.id subnetId) ≠ []

/-- The link of the interface's veth pair does not lie in the store without its edge. -/
def LinkHasEdge (db : Database) (p : Port) : Prop :=
  ∀ v ∈ db.active .physicalLink (.id p.linkId), v.data.status.isSome = true →
    v.data.properties = some (Bridge.vethProperties p.hostVethName p.id) →
      db.active .interfaceLink (.edge p.id p.linkId) ≠ []

/-- A sync opens no second version of a key. -/
theorem Calls.single {env : Env} {S : Admissible} {w w' : World} (h : Calls env (Revises S) w w')
    (hw : Single w.db) : Single w'.db :=
  h.invariant (I := fun v => Single v.db)
    (fun _ _ hv hc n k => (hc.2 n).length_active_le (hv n k)) hw

namespace Bridge

/-- The rows that a veth pair inserts whose lookup returned this interface. -/
def AttachInserts (linkId interfaceId subnetId : String) : Admissible
  | _, .physicalLink, _, x => PhysicalLink.id x = linkId
  | _, .interfaceLink, _, x => x = ⟨interfaceId, linkId⟩
  | _, .subnetAssociation, _, x => x = ⟨interfaceId, subnetId, some "Interface"⟩
  | _, _, _, _ => False

variable {env : Env} {w : World}

/-! ## One veth pair -/

/-- The link of a veth pair, once the lookup has returned an interface. -/
def attachLink (env : Env) (e : PortVeth) (interfaceId : String) : Sync Unit :=
  attempt env (sqlUpsertLink env e.port.linkId e.port.hostVethName interfaceId
    (e.bw.getD "none") (e.state.getD "unknown"))

/-- What follows the lookup. -/
def attach (env : Env) (e : PortVeth) (subnetId interfaceId : String) : Sync Unit := do
  attachLink env e interfaceId
  syncContainerBridgeAssociation env interfaceId subnetId

theorem after_syncVethPair (hok : env.Reliable) (w : World) (subnetId : String) (e : PortVeth) :
    ∃ id, Resolves w.db e.port.parts.1 e.port.parts.2 id ∧
      id = result (resolveContainerInterfaceId env e.port.parts.1 e.port.parts.2) w ∧
      after (syncVethPair env subnetId (some e.data)) w =
        after (attach env e subnetId id) ⟨w.db, w.calls + 1⟩ := by
  obtain ⟨hresolves, hafter⟩ := resolve_spec (hok w.calls) e.port.parts.1 e.port.parts.2
  refine ⟨_, hresolves, rfl, ?_⟩
  have htruthy : truthy e.data.veth = some e.port.vethName :=
    truthy_eq_some.mpr ⟨rfl, e.port.vethName_ne_empty⟩
  unfold syncVethPair
  dsimp only
  rw [htruthy]
  dsimp only
  rw [e.port.rsplitOnce_eq_parts]
  dsimp only
  rw [after_bind, hafter]
  rfl

/-- A link that is found unchanged is left alone, with or without its edge. -/
theorem sqlUpsertLink_of_unchanged (hok : env.Reliable) {linkId : String}
    {v : Version Timestamp PhysicalLink} (hv : w.db.active .physicalLink (.id linkId) = [v])
    {hostVethName interfaceId state : String}
    (hu : vethUnchanged hostVethName interfaceId state v.data = true) (bandwidth : String) :
    after (attempt env (sqlUpsertLink env linkId hostVethName interfaceId bandwidth state)) w =
      ⟨w.db, w.calls + 1⟩ := by
  have htx : sqlUpsertLink env linkId hostVethName interfaceId bandwidth state
      (env.commitTs w.calls) w.db = some w.db := by
    unfold sqlUpsertLink
    rw [hv]
    exact if_pos hu
  rw [after_attempt, (runInTransaction_commit (hok w.calls) htx).2]

/-- The transaction of a veth link leaves the link with its properties, and with its edge
unless the link was found unchanged. -/
theorem sqlUpsertLink_attaches (hok : env.Reliable) (h : Single w.db)
    (linkId hostVethName interfaceId bandwidth state : String) :
    Holds (after (attempt env (sqlUpsertLink env linkId hostVethName interfaceId bandwidth
        state)) w) .physicalLink (.id linkId)
      (fun x => x.properties = some (vethProperties hostVethName interfaceId)) ∧
    ((after (attempt env (sqlUpsertLink env linkId hostVethName interfaceId bandwidth
        state)) w).db.active .interfaceLink (.edge interfaceId linkId) ≠ [] ∨
      ∃ v ∈ w.db.active .physicalLink (.id linkId),
        vethUnchanged hostVethName interfaceId state v.data = true) := by
  have hone := h .physicalLink (.id linkId)
  by_cases hsame : ∃ v, w.db.active .physicalLink (.id linkId) = [v] ∧
      vethUnchanged hostVethName interfaceId state v.data = true
  · obtain ⟨v, hv, hu⟩ := hsame
    rw [sqlUpsertLink_of_unchanged hok hv hu]
    refine ⟨⟨v, hv, ?_⟩, Or.inr ⟨v, by rw [hv]; exact List.mem_singleton_self v, hu⟩⟩
    simp only [vethUnchanged, Bool.decide_and, Bool.and_eq_true, decide_eq_true_eq] at hu
    exact hu.2
  · have hchanged : ∀ v, w.db.active .physicalLink (.id linkId) = [v] →
        vethUnchanged hostVethName interfaceId state v.data = false := by
      intro v hv
      rw [Bool.eq_false_iff]
      exact fun hu => hsame ⟨v, hv, hu⟩
    obtain ⟨db, hdb, hcases⟩ := insertLink_spec hostVethName interfaceId bandwidth state hone
      (h .interfaceLink _) env hchanged
    have htx : sqlUpsertLink env linkId hostVethName interfaceId bandwidth state
        (env.commitTs w.calls) w.db = some db := by
      unfold sqlUpsertLink
      split
      · next v hv =>
        rw [if_neg (by rw [hchanged v hv]; exact Bool.false_ne_true)]
        exact hdb
      · exact hdb
    rw [after_attempt, (runInTransaction_commit (hok w.calls) htx).2]
    generalize hrow : vethRow env linkId hostVethName interfaceId bandwidth state = row at hcases
    have hkey : Row.key (n := .physicalLink) row = .id linkId := by rw [← hrow]; rfl
    have hprops : row.properties = some (vethProperties hostVethName interfaceId) := by
      rw [← hrow]; rfl
    have hlink := active_renew_self .physicalLink row env w
    rw [hkey] at hlink
    rcases hcases with ⟨rfl, hedge⟩ | rfl
    · have hframe : w.renew env .physicalLink row .interfaceLink = w.db .interfaceLink :=
        Database.set_of_ne _ _ (by decide)
      refine ⟨⟨_, hlink, hprops⟩, Or.inl ?_⟩
      show Scd.active Row.key _ (w.renew env .physicalLink row .interfaceLink) ≠ []
      rw [hframe]
      exact hedge
    · have hframe : World.renew env ⟨w.renew env .physicalLink row, w.calls⟩ .interfaceLink
          ⟨interfaceId, linkId⟩ .physicalLink = w.renew env .physicalLink row .physicalLink :=
        Database.set_of_ne _ _ (by decide)
      refine ⟨⟨_, (congrArg (Scd.active Row.key _) hframe).trans hlink, hprops⟩, Or.inl ?_⟩
      · have hnew := active_renew_self .interfaceLink ⟨interfaceId, linkId⟩ env
          ⟨w.renew env .physicalLink row, w.calls⟩
        exact fun hnil => List.cons_ne_nil _ _ (hnew.symm.trans hnil)

theorem respects_attachLink (env : Env) (e : PortVeth) (subnetId interfaceId : String) :
    Respects (Calls env (Revises (AttachInserts e.port.linkId interfaceId subnetId)))
      (attachLink env e interfaceId) :=
  Respects.bind (respects_runInTransaction (Revises.refl _) fun _ _ _ h =>
    sqlUpsertLink_spec (fun _ => rfl) (fun _ => rfl) h) fun _ => Respects.pure ()

theorem respects_attach (env : Env) (e : PortVeth) (subnetId interfaceId : String) :
    Respects (Calls env (Revises (AttachInserts e.port.linkId interfaceId subnetId)))
      (attach env e subnetId interfaceId) :=
  Respects.bind (respects_attachLink env e subnetId interfaceId) fun _ =>
    Respects.bind (respects_upsert fun _ _ => rfl) fun _ => Respects.pure ()

/-- The association leaves the other tables as the link left them. -/
theorem attach_frame (env : Env) (e : PortVeth) (subnetId interfaceId : String) (w : World)
    {n : TableName} (hn : n ≠ .subnetAssociation) :
    (after (attach env e subnetId interfaceId) w).db n =
      (after (attachLink env e interfaceId) w).db n := upsert_table_eq _ _ _ hn

/-- The link and the subnet are attached to the interface, up to the edge of a link that
was found unchanged. -/
theorem attach_spec (hok : env.Reliable) (h : Single w.db) (e : PortVeth)
    (subnetId interfaceId : String) :
    Holds (after (attach env e subnetId interfaceId) w) .physicalLink (.id e.port.linkId)
        (fun x => x.properties = some (vethProperties e.port.hostVethName interfaceId)) ∧
      (after (attach env e subnetId interfaceId) w).db.active .subnetAssociation
        (.edge interfaceId subnetId) ≠ [] ∧
      ((after (attach env e subnetId interfaceId) w).db.active .interfaceLink
          (.edge interfaceId e.port.linkId) ≠ [] ∨
        ∃ v ∈ w.db.active .physicalLink (.id e.port.linkId), vethUnchanged e.port.hostVethName
          interfaceId (e.state.getD "unknown") v.data = true) := by
  obtain ⟨hlink, hedge⟩ := sqlUpsertLink_attaches hok h e.port.linkId e.port.hostVethName
    interfaceId (e.bw.getD "none") (e.state.getD "unknown")
  have hsingle : Single (after (attachLink env e interfaceId) w).db :=
    (respects_attachLink env e subnetId interfaceId w).single h
  refine ⟨hlink.congr (congrArg (Scd.active Row.key _) (attach_frame env e _ _ w (by decide))),
    ?_, hedge.imp_left fun hopen => ?_⟩
  · exact (runInTransaction_upsert_holds .subnetAssociation
      ⟨interfaceId, subnetId, some "Interface"⟩ (fun _ => true) (hok _) (hsingle _ _)).ne_nil
  · rw [Database.active, attach_frame env e _ _ w (by decide)]
    exact hopen

end Bridge

/-! ## A run over veth pairs -/

section Run

variable {env : Env} {db : Database} {w : World} {p : Port}

/-- What a run keeps of the store it started from. -/
structure Kept (db : Database) (w : World) : Prop where
  interfaces : w.db .physicalInterface = db .physicalInterface
  single : Single w.db
  linked : ∀ p, OpenPort db p → LinkHasEdge w.db p

/-- The rows that a run over these veth pairs inserts. -/
def VethsInsert (veths : List PortVeth) (subnetId : String) : Admissible := fun db n row x =>
  ∃ e ∈ veths, Bridge.AttachInserts e.port.linkId e.port.id subnetId db n row x

/-- An attached interface stays attached while its link gets no row. -/
theorem Attached.calls {linkId interfaceId subnetId : String} {w' : World}
    (h : Attached w subnetId p) (hne : linkId ≠ p.linkId)
    (hc : Calls env (Revises (Bridge.AttachInserts linkId interfaceId subnetId)) w w') :
    Attached w' subnetId p where
  link := h.link.congr (hc.active_eq fun _ _ _ hx hkey =>
    hne ((Eq.symm hx).trans (Key.id.inj hkey)))
  edge := hc.active_ne_nil h.edge
  association := hc.active_ne_nil h.association

/-- **One veth pair.** Where every lookup is determined it attaches its own interface. -/
theorem Kept.step (hok : env.Reliable) (hdb : Single db)
    (hdet : ∀ p, OpenPort db p → Determined db p) (hw : Kept db w) (subnetId : String)
    (e : PortVeth) (he : OpenPort db e.port) :
    Kept db (after (Bridge.syncVethPair env subnetId (some e.data)) w) ∧
      Attached (after (Bridge.syncVethPair env subnetId (some e.data)) w) subnetId e.port ∧
      Calls env (Revises (Bridge.AttachInserts e.port.linkId e.port.id subnetId)) w
        (after (Bridge.syncVethPair env subnetId (some e.data)) w) := by
  obtain ⟨id, hresolves, -, hafter⟩ := Bridge.after_syncVethPair hok w subnetId e
  have hid : id = e.port.id := by
    refine (Bridge.resolves_own_iff hdb he).mpr (hdet _ he) id ?_
    unfold Bridge.Resolves Bridge.containerInterfaces at hresolves ⊢
    rwa [hw.interfaces] at hresolves
  subst hid
  rw [hafter]
  generalize hw₁ : (⟨w.db, w.calls + 1⟩ : World) = w₁
  have hdb₁ : w₁.db = w.db := by rw [← hw₁]
  obtain ⟨hlink, hassoc, hedge⟩ := Bridge.attach_spec hok (hdb₁ ▸ hw.single) e subnetId e.port.id
  have hcalls := Bridge.respects_attach env e subnetId e.port.id w₁
  generalize after (Bridge.attach env e subnetId e.port.id) w₁ = w₂ at hlink hassoc hedge hcalls ⊢
  have hall : Calls env (Revises (Bridge.AttachInserts e.port.linkId e.port.id subnetId)) w w₂ := by
    refine hcalls.head ⟨by rw [← hw₁], ?_⟩
    rw [hdb₁]
    exact Revises.refl _ _ _
  have hopen : w₂.db.active .interfaceLink (.edge e.port.id e.port.linkId) ≠ [] := by
    rcases hedge with hedge | ⟨v, hv, hu⟩
    · exact hedge
    · -- the link was found unchanged, so its edge was there
      simp only [Bridge.vethUnchanged, Bool.decide_and, Bool.and_eq_true, decide_eq_true_eq] at hu
      rw [hdb₁] at hv
      exact hall.active_ne_nil (hw.linked e.port he v hv (by rw [hu.1]; rfl) hu.2)
  refine ⟨⟨?_, hall.single hw.single, fun q hq => ?_⟩, ⟨hlink, hopen, hassoc⟩, hall⟩
  · exact (hall.table_eq (n := .physicalInterface) fun _ _ _ hx => hx).trans hw.interfaces
  · by_cases hqe : q = e.port
    · subst hqe
      exact fun _ _ _ _ => hopen
    · have hne : e.port.linkId ≠ q.linkId := fun heq =>
        hqe (Bridge.linkId_inj hdb hq he (hdet q hq) (hdet _ he) heq.symm)
      have hlinks : w₂.db.active .physicalLink (.id q.linkId) =
          w.db.active .physicalLink (.id q.linkId) := hall.active_eq fun _ _ _ hx hkey =>
        hne ((Eq.symm hx).trans (Key.id.inj hkey))
      intro v hv hstatus hprops
      rw [hlinks] at hv
      exact hall.active_ne_nil (hw.linked q hq v hv hstatus hprops)

/-- **A run over veth pairs** attaches each to its own interface and inserts nothing else. -/
theorem Kept.run (hok : env.Reliable) (hdb : Single db)
    (hdet : ∀ p, OpenPort db p → Determined db p) (hw : Kept db w) (subnetId : String)
    {veths : List PortVeth} (hveths : ∀ e ∈ veths, OpenPort db e.port) :
    (∀ e ∈ veths, Attached (afterVeths env subnetId veths w) subnetId e.port) ∧
      (∀ p, OpenPort db p → Attached w subnetId p →
        Attached (afterVeths env subnetId veths w) subnetId p) ∧
      Calls env (Revises (VethsInsert veths subnetId)) w (afterVeths env subnetId veths w) := by
  induction veths generalizing w with
  | nil => exact ⟨fun e he => absurd he List.not_mem_nil, fun _ _ h => h, .refl⟩
  | cons e veths ih =>
    have he : OpenPort db e.port := hveths e List.mem_cons_self
    obtain ⟨hkept, hattached, hcalls⟩ := hw.step hok hdb hdet subnetId e he
    obtain ⟨hrest, hkeep, hcalls'⟩ := ih hkept fun e' he' => hveths e' (List.mem_cons_of_mem _ he')
    have hrun : afterVeths env subnetId (e :: veths) w = afterVeths env subnetId veths
        (after (Bridge.syncVethPair env subnetId (some e.data)) w) := rfl
    rw [hrun]
    refine ⟨fun e' he' => ?_, fun p hp hw' => hkeep p hp ?_, ?_⟩
    · rcases List.mem_cons.mp he' with rfl | he'
      · exact hkeep _ he hattached
      · exact hrest e' he'
    · by_cases hpe : p = e.port
      · rw [hpe]
        exact hattached
      · refine hw'.calls (fun heq => hpe ?_) hcalls
        exact Bridge.linkId_inj hdb hp he (hdet p hp) (hdet _ he) heq.symm
    · refine (hcalls.imp fun _ _ _ h => h.imp fun _ _ _ hx => ?_).trans
        (hcalls'.imp fun _ _ _ h => h.imp fun _ _ _ hx => ?_)
      · exact ⟨e, List.mem_cons_self, hx⟩
      · obtain ⟨e', he', hx⟩ := hx
        exact ⟨e', List.mem_cons_of_mem _ he', hx⟩

end Run

/-! ## Which stores attach every veth pair to its own interface -/

/-- Whatever rows the lookups return, a run over veth pairs of open interfaces attaches
each to its own interface and no other interface to anything. Two interfaces have two links. -/
structure VethsResolve (db : Database) : Prop where
  attached : ∀ (env : Env) (calls : ℕ) (subnetId : String) (veths : List PortVeth),
    env.Reliable → (∀ e ∈ veths, OpenPort db e.port) →
      ∀ e ∈ veths, Attached (afterVeths env subnetId veths ⟨db, calls⟩) subnetId e.port
  distinct : ∀ p q, OpenPort db p → OpenPort db q → p.linkId = q.linkId → p = q
  others : ∀ (env : Env) (calls : ℕ) (subnetId : String) (veths : List PortVeth),
    env.Reliable → (∀ e ∈ veths, OpenPort db e.port) →
      (∀ interfaceId linkId, db.active .interfaceLink (.edge interfaceId linkId) = [] →
        (afterVeths env subnetId veths ⟨db, calls⟩).db.active .interfaceLink
          (.edge interfaceId linkId) ≠ [] →
            ∃ e ∈ veths, interfaceId = e.port.id ∧ linkId = e.port.linkId) ∧
      ∀ entityId id, db.active .subnetAssociation (.edge entityId id) = [] →
        (afterVeths env subnetId veths ⟨db, calls⟩).db.active .subnetAssociation
          (.edge entityId id) ≠ [] → ∃ e ∈ veths, entityId = e.port.id ∧ id = subnetId

/-- Calls that succeed and reads that return the row of this id when they can. -/
def Env.returning (id : String) : Env :=
  { Env.plain with
    pick := fun _ ids => if id ∈ ids then ids.idxOf id else 0
    pick_lt := by
      intro _ ids hne
      split
      · next hmem => exact List.idxOf_lt_length_of_mem hmem
      · exact List.length_pos_of_ne_nil hne }

section Resolve

variable {db : Database} {p : Port}

/-- Any interface that the lookup may return is the one that some reads return. -/
theorem Bridge.result_resolve_returning {a b id : String} (h : Resolves db a b id) (calls : ℕ) :
    result (resolveContainerInterfaceId (Env.returning id) a b) ⟨db, calls⟩ = id := by
  have hresolves : Resolves db a b
      (result (resolveContainerInterfaceId (Env.returning id) a b) ⟨db, calls⟩) :=
    (resolve_spec (w := ⟨db, calls⟩) rfl a b).1
  rcases h with ⟨v, hv, rfl⟩ | ⟨hnil, rfl⟩
  · generalize hids : (containerInterfaces a b db).map (fun v => v.data.id) = ids
    have hmem : v.data.id ∈ ids := hids ▸ List.mem_map_of_mem hv
    have hpick : (Env.returning v.data.id).pick calls ids = ids.idxOf v.data.id := if_pos hmem
    have hid : ids[ids.idxOf v.data.id]? = some v.data.id := List.getElem?_idxOf hmem
    rw [← hids, List.getElem?_map, hids, Option.map_eq_some_iff] at hid
    obtain ⟨u, hu, huid⟩ := hid
    have hrow : result (snapshot (Env.returning v.data.id) (containerInterfaces a b)
        fun v => v.data.id) ⟨db, calls⟩ = some (some u) := by
      rw [← hu, ← hpick, ← hids]
      rfl
    rw [resolveContainerInterfaceId, result_bind, hrow]
    exact huid
  · rcases hresolves with ⟨v, hv, -⟩ | ⟨-, heq⟩
    · rw [hnil] at hv
      cases hv
    · exact heq

theorem Bridge.vethProperties_inj {host host' id id' : String}
    (h : vethProperties host id = vethProperties host' id') : id = id' :=
  Json.str.inj (Option.some.inj (Json.field_eq "container_interface" h (by simp) (by simp)))

theorem VethsResolve.determined (h : VethsResolve db) (hdb : Single db) (hp : OpenPort db p) :
    Determined db p := by
  refine (Bridge.resolves_own_iff hdb hp).mp fun id hid => ?_
  have hok : (Env.returning id).Reliable := fun _ => rfl
  let e : PortVeth := ⟨p, none, none⟩
  have hveths : ∀ e' ∈ [e], OpenPort db e'.port := fun e' he' => by
    rw [List.mem_singleton.mp he']
    exact hp
  have hown := (h.attached (Env.returning id) 0 "" [e] hok hveths e List.mem_cons_self).link
  obtain ⟨id', -, hid', hafter⟩ := Bridge.after_syncVethPair hok ⟨db, 0⟩ "" e
  have hlookup : id' = id := hid'.trans (Bridge.result_resolve_returning hid 0)
  have hrun : afterVeths (Env.returning id) "" [e] ⟨db, 0⟩ =
      after (Bridge.syncVethPair (Env.returning id) "" (some e.data)) ⟨db, 0⟩ := rfl
  rw [hrun, hafter, hlookup] at hown
  obtain ⟨v, hv, hprops⟩ := hown
  obtain ⟨⟨u, hu, hprops'⟩, -⟩ := Bridge.attach_spec hok (w := ⟨db, 0 + 1⟩) hdb e "" id
  have hvu : v = u := by
    have heq := hv.symm.trans hu
    exact (List.cons.inj heq).1
  rw [hvu] at hprops
  exact Bridge.vethProperties_inj (Option.some.inj (hprops'.symm.trans hprops))

theorem VethsResolve.linkHasEdge (h : VethsResolve db) (hdb : Single db) (hp : OpenPort db p) :
    LinkHasEdge db p := by
  intro v hv hstatus hprops
  obtain ⟨state, hstate⟩ := Option.isSome_iff_exists.mp hstatus
  -- a report of the stored state finds the link unchanged
  let e : PortVeth := ⟨p, some state, none⟩
  have hok : Env.plain.Reliable := fun _ => rfl
  have hveths : ∀ e' ∈ [e], OpenPort db e'.port := fun e' he' => by
    rw [List.mem_singleton.mp he']
    exact hp
  have hedge := (h.attached Env.plain 0 "" [e] hok hveths e List.mem_cons_self).edge
  obtain ⟨id, hid, -, hafter⟩ := Bridge.after_syncVethPair hok ⟨db, 0⟩ "" e
  have hown : id = p.id :=
    (Bridge.resolves_own_iff hdb hp).mpr (h.determined hdb hp) id hid
  have hrun : afterVeths Env.plain "" [e] ⟨db, 0⟩ =
      after (Bridge.syncVethPair Env.plain "" (some e.data)) ⟨db, 0⟩ := rfl
  rw [hrun, hafter, hown, Database.active, Bridge.attach_frame _ _ _ _ _ (by decide)] at hedge
  have hone : db.active .physicalLink (.id p.linkId) = [v] := by
    obtain ⟨u, hu⟩ := List.length_eq_one_iff.mp
      (Nat.le_antisymm (hdb _ _) (List.length_pos_of_mem hv))
    rw [hu, List.mem_singleton] at hv
    rw [hu, hv]
  have hunchanged : Bridge.vethUnchanged p.hostVethName p.id state v.data = true := by
    simp [Bridge.vethUnchanged, hstate, hprops]
  have hsame := Bridge.sqlUpsertLink_of_unchanged (w := ⟨db, 0 + 1⟩) hok hone hunchanged "none"
  have hframe : after (Bridge.attachLink Env.plain e p.id) ⟨db, 0 + 1⟩ = ⟨db, 0 + 1 + 1⟩ := hsame
  rw [hframe] at hedge
  exact hedge

end Resolve

/-- **Which stores attach every veth pair to its own interface.** Those in which the
lookup for each open interface is determined and no link of its veth pair lies without
its edge. -/
theorem veths_resolve_iff (db : Database) (hdb : Single db) :
    VethsResolve db ↔ ∀ p, OpenPort db p → Determined db p ∧ LinkHasEdge db p := by
  constructor
  · exact fun h p hp => ⟨h.determined hdb hp, h.linkHasEdge hdb hp⟩
  · intro h
    have hdet : ∀ p, OpenPort db p → Determined db p := fun p hp => (h p hp).1
    have hkept : ∀ calls, Kept db ⟨db, calls⟩ := fun _ => ⟨rfl, hdb, fun p hp => (h p hp).2⟩
    refine ⟨fun env calls subnetId veths hok hveths => ?_, fun p q hp hq heq => ?_,
      fun env calls subnetId veths hok hveths => ?_⟩
    · exact ((hkept calls).run hok hdb hdet subnetId hveths).1
    · exact Bridge.linkId_inj hdb hp hq (hdet p hp) (hdet q hq) heq
    · obtain ⟨-, -, hcalls⟩ := (hkept calls).run hok hdb hdet subnetId hveths
      constructor
      · intro interfaceId linkId hnil hopen
        rcases hcalls.key_of_active hopen with hbefore | ⟨_, -, x, ⟨e, he, hx⟩, hkey⟩
        · exact absurd hnil hbefore
        · have hx' : x = ⟨e.port.id, e.port.linkId⟩ := hx
          subst hx'
          obtain ⟨rfl, rfl⟩ := Key.edge.inj hkey
          exact ⟨e, he, rfl, rfl⟩
      · intro entityId id hnil hopen
        rcases hcalls.key_of_active hopen with hbefore | ⟨_, -, x, ⟨e, he, hx⟩, hkey⟩
        · exact absurd hnil hbefore
        · have hx' : x = ⟨e.port.id, subnetId, some "Interface"⟩ := hx
          subst hx'
          obtain ⟨rfl, rfl⟩ := Key.edge.inj hkey
          exact ⟨e, he, rfl, rfl⟩

/-! ## Routers that share eight characters -/

/-- A store in which these interfaces are open. -/
def stocked (ports : List Port) : Database :=
  Database.empty.set .physicalInterface <| ports.map fun p =>
    ⟨⟨p.id, p.routerId, p.interface, some "1G", some "ethernet", none, none, some "up"⟩, 0, none⟩

theorem openPort_stocked {ports : List Port} {p : Port} :
    OpenPort (stocked ports) p ↔ p ∈ ports := by
  constructor
  · rintro ⟨v, hv, -, hid, -⟩
    obtain ⟨q, hq, rfl⟩ := List.mem_map.mp hv
    rw [← Port.id_inj.mp hid]
    exact hq
  · exact fun hp => ⟨_, List.mem_map_of_mem hp, rfl, rfl, rfl, rfl⟩

theorem single_stocked {ports : List Port} (h : ports.Nodup) : Single (stocked ports) := by
  intro n k
  by_cases hn : n = .physicalInterface
  · subst hn
    have hkeys : ((stocked ports) .physicalInterface).Pairwise
        fun u v => Row.key u.data ≠ Row.key v.data :=
      List.pairwise_map.mpr (h.imp fun hne heq => hne (Port.id_inj.mp (Key.id.inj heq)))
    have hopen : ((stocked ports).active .physicalInterface k).Pairwise
        fun u v => Row.key u.data ≠ Row.key v.data := hkeys.filter _
    rcases hactive : (stocked ports).active .physicalInterface k with _ | ⟨u, _ | ⟨v, l⟩⟩
    · exact Nat.zero_le 1
    · exact Nat.le_refl 1
    · have hmem : ∀ x ∈ u :: v :: l, Row.key x.data = k := fun x hx =>
        (mem_active.mp (hactive ▸ hx)).2.2
      rw [hactive] at hopen
      have hne := List.rel_of_pairwise_cons hopen List.mem_cons_self
      exact absurd ((hmem u (by simp)).trans (hmem v (by simp)).symm) hne
  · rw [Database.active, stocked, Database.set_of_ne _ _ hn]
    exact Nat.zero_le 1

namespace Sample

def peRouter1 : Port := ⟨⟨"pe-router1", by decide⟩, "eth1"⟩

def peRouter2 : Port := ⟨⟨"pe-router2", by decide⟩, "eth1"⟩

def ceRouter1 : Port := ⟨⟨"ce-router1", by decide⟩, "eth1"⟩

end Sample

open Sample

/-- Two routers with different prefixes. -/
theorem veths_resolve_pe_ce : VethsResolve (stocked [peRouter1, ceRouter1]) := by
  refine (veths_resolve_iff _ (single_stocked (by decide))).mpr fun p hp => ?_
  have hdet : ∀ q ∈ [peRouter1, ceRouter1], '-' ∉ q.interface.toList ∧
      (∀ v ∈ (stocked [peRouter1, ceRouter1]) .physicalInterface, v.isActive = true →
        v.data.name = q.interface → like v.data.routerId q.pattern = true → v.data.id = q.id) ∧
      like q.routerId q.pattern = true := by
    decide
  obtain ⟨hundashed, halone, hlike⟩ := hdet p (openPort_stocked.mp hp)
  exact ⟨⟨hundashed, halone, Or.inl hlike⟩, fun v hv => absurd hv List.not_mem_nil⟩

/-- Two routers with one prefix: the veth pair of the second one's interface is attached
to the first one's, and the two interfaces have one link. -/
theorem veth_of_another_router :
    (∃ e : PortVeth, e.port = peRouter2 ∧ OpenPort (stocked [peRouter1, peRouter2]) e.port ∧
      (afterVeths Env.plain "subnet:core" [e] ⟨stocked [peRouter1, peRouter2], 0⟩).db.active
        .subnetAssociation (.edge peRouter2.id "subnet:core") = [] ∧
      (afterVeths Env.plain "subnet:core" [e] ⟨stocked [peRouter1, peRouter2], 0⟩).db.active
        .subnetAssociation (.edge peRouter1.id "subnet:core") ≠ []) ∧
      peRouter1.linkId = peRouter2.linkId ∧ ¬VethsResolve (stocked [peRouter1, peRouter2]) := by
  have h₁ : OpenPort (stocked [peRouter1, peRouter2]) peRouter1 :=
    openPort_stocked.mpr List.mem_cons_self
  have h₂ : OpenPort (stocked [peRouter1, peRouter2]) peRouter2 :=
    openPort_stocked.mpr (List.mem_cons_of_mem _ List.mem_cons_self)
  have hlink : peRouter1.linkId = peRouter2.linkId := by decide +kernel
  refine ⟨⟨⟨peRouter2, some "up", none⟩, rfl, h₂, ?_, ?_⟩, hlink, fun h => ?_⟩
  · decide +kernel
  · decide +kernel
  · exact absurd (h.distinct _ _ h₁ h₂ hlink) (by decide)

end GnnSandbox.Graph
