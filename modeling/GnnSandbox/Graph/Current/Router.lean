import GnnSandbox.Graph.Current.Sound

/-!
# What a sync of a VyOSRouter leaves

The sync writes the router's row first and then each interface with the subnet of its
address and the association to it. `computed` lists what it leaves of each key. The
subnet of an address is kept whatever its description says, and the row of an interface
whose router is called `interface` may have been taken apart wrongly before.
-/

namespace GnnSandbox.Graph

open Scd Effect

namespace Router

/-! ## What is computed -/

/-- The speed of an interface: that of some link it is attached to, if there is one. -/
def SpeedOf (db : Database) (r : VyOSRouter) (iface : InterfaceSpec) (speed : String) : Prop :=
  if ifaceName iface = "lo" then speed = "N/A"
  else (linksOf (ifaceId r iface) db = [] ∧ speed = speedFrom iface none) ∨
    ∃ link ∈ linksOf (ifaceId r iface) db, speed = speedFrom iface (some link)

/-- The row of an interface, as far as the change test vouches for it. -/
def IfaceCurrent (env : Env) (db : Database) (r : VyOSRouter) (status : String)
    (iface : InterfaceSpec) (x : PhysicalInterface) : Prop :=
  ∃ speed, SpeedOf db r iface speed ∧
    { x with routerId := routerId r, name := ifaceName iface } =
      ifaceRow env r status iface speed ∧
    (r.metadata.name.val ≠ "interface" → x = ifaceRow env r status iface speed)

/-- The row of an interface's subnet, whichever interface its description names. -/
def SubnetCurrent (addr : String) (x : LogicalSubnet) : Prop :=
  ∃ iface, x = subnetRow addr iface

/-- What an interface leaves. -/
def computedInterface (env : Env) (db : Database) (r : VyOSRouter) (status : String)
    (iface : InterfaceSpec) : (n : TableName) → Key → Option (Row n → Prop)
  | .physicalInterface, k =>
    if .id (ifaceId r iface) = k then some (IfaceCurrent env db r status iface) else none
  | .logicalSubnet, k => (addrCidr iface).bind fun addr =>
      if .id ("subnet:" ++ addr) = k then some (SubnetCurrent addr) else none
  | .subnetAssociation, k => (addrCidr iface).bind fun addr =>
      if .edge (ifaceId r iface) ("subnet:" ++ addr) = k then some (· = assocRow r iface addr)
      else none
  | _, _ => none

/-- What a sync of `r` leaves. -/
def computed (env : Env) (db : Database) (r : VyOSRouter) (n : TableName) (k : Key) :
    Option (Row n → Prop) :=
  (routerStatus r).bind fun status =>
    match n with
    | .physicalRouter =>
      if .id (routerId r) = k then some fun x => routerRow env r status = some x else none
    | n => (r.spec.interfaces.getD []).reverse.findSome? fun iface =>
        computedInterface env db r status iface n k

/-! ## Rows that are found unchanged -/

variable {env : Env} {w : World} {r : VyOSRouter} {status : String} {iface : InterfaceSpec}

/-- The row of a router is computed from the part of the resource that is stored. -/
theorem routerRow_congr {r' : VyOSRouter} {status' : String}
    (hbody : sanitizeK8sBody r' = sanitizeK8sBody r)
    (hstatus : env.lower status' = env.lower status) :
    routerRow env r' status' = routerRow env r status := by
  have hspec : r'.spec = r.spec := by simpa using congrArg Body.spec hbody
  have hname : r'.metadata.name = r.metadata.name := by
    simpa using congrArg (fun b : VyOSRouter => b.metadata.name) hbody
  have hlabels : r'.metadata.labels = r.metadata.labels := by
    simpa using congrArg (fun b : VyOSRouter => b.metadata.labels) hbody
  unfold routerRow routerId Metadata.label
  rw [hspec, hname, hlabels, hstatus, hbody]

theorem routerRow_of_unchanged {x : PhysicalRouter} (hx : Written env .physicalRouter x)
    (hu : routerUnchanged env r status x = true) :
    routerRow env r status = some x := by
  obtain ⟨r', status', -, hx⟩ := hx
  simp only [routerUnchanged, decide_eq_true_eq, Bool.decide_and, Bool.and_eq_true] at hu
  have hcolumns := hx
  unfold routerRow at hcolumns
  simp only [Option.bind_eq_bind, Option.bind_eq_some_iff, Option.pure_def,
    Option.some.injEq] at hcolumns
  obtain ⟨lat, -, lon, -, hcolumns⟩ := hcolumns
  rw [← hcolumns] at hu
  rw [← hx]
  exact (routerRow_congr (Option.some.inj hu.1) (Option.some.inj hu.2)).symm

/-- The id of an interface tells its router and its name. -/
theorem ifaceId_inj {name name' : ResourceName} {a a' : String}
    (h : "router:" ++ name ++ ":interface:" ++ a = "router:" ++ name' ++ ":interface:" ++ a') :
    name = name' ∧ a = a' := by
  simp only [String.append_assoc] at h
  have htail := append_right_inj h
  have hlist := congrArg String.toList htail
  simp only [String.toList_append] at hlist
  have hcolon : (":interface:" : String).toList = ':' :: "interface:".toList := rfl
  rw [hcolon, List.cons_append, List.cons_append] at hlist
  obtain ⟨hname, hrest⟩ := append_sep_inj name.property name'.property hlist
  refine ⟨Subtype.ext (String.toList_inj.mp hname), ?_⟩
  exact String.toList_inj.mp (List.append_cancel_left hrest)

theorem ifaceCurrent_of_unchanged {x : PhysicalInterface} {speed : String} {db : Database}
    (hx : InterfaceShape env x) (hid : x.id = ifaceId r iface) (hspeed : SpeedOf db r iface speed)
    (hu : x.speed = some speed ∧ x.mediaType = some (mediaType iface) ∧
      x.ipAddress = some (ipAddress iface) ∧
      x.macAddress = some ((ifaceData iface).mac.getD "") ∧
      x.status = some (ifaceStatus r status iface)) :
    IfaceCurrent env db r status iface x := by
  obtain ⟨name, ifname, hshape, hparts, status', hstatus⟩ := hx
  obtain ⟨hs, hm, hip, hmac, hst⟩ := hu
  -- what is stored is lowered, so what equals it is too
  have hlower : env.lower (ifaceStatus r status iface) = ifaceStatus r status iface := by
    have heq : env.lower status' = ifaceStatus r status iface :=
      Option.some.inj (hstatus.symm.trans hst)
    rw [← heq, env.lower_lower]
  obtain ⟨hname, rfl⟩ := ifaceId_inj (hshape.symm.trans hid)
  subst hname
  have hrow : { x with routerId := routerId r, name := ifaceName iface } =
      ifaceRow env r status iface speed := by
    unfold ifaceRow
    rw [hlower, ← hs, ← hm, ← hip, ← hmac, ← hst, ← hid]
  refine ⟨speed, hspeed, hrow, fun hne => ?_⟩
  obtain ⟨hrouter, hifname⟩ := hparts hne
  rw [← hrow]
  cases x
  cases hrouter
  cases hifname
  rfl

theorem subnetCurrent_of_unchanged {x : LogicalSubnet} {addr : String}
    (hx : Written env .logicalSubnet x) (hid : x.id = "subnet:" ++ addr)
    (hu : x.properties = some (.obj [])) : SubnetCurrent addr x := by
  rcases hx with ⟨net, rfl⟩ | ⟨addr', iface, rfl⟩ | ⟨name, spec, status, rfl⟩
  · have hname := net.dict_name
    have hdict : net.dict = .obj [] := Option.some.inj hu
    rw [hdict] at hname
    cases hname
  · have haddr : "subnet:" ++ addr' = "subnet:" ++ addr := hid
    exact ⟨iface, by rw [append_right_inj haddr]⟩
  · have hprops : Bridge.properties spec = .obj [] := Option.some.inj hu
    simp [Bridge.properties, Json.ofFields] at hprops

/-! ## Interfaces -/

/-- The lookup of a speed reads the store. -/
theorem lookupSpeed_spec (r : VyOSRouter) (iface : InterfaceSpec)
    (hok : env.fails w.calls = false) :
    SpeedOf w.db r iface (result (lookupSpeed env r iface) w) ∧
      (after (lookupSpeed env r iface) w).db = w.db := by
  unfold lookupSpeed SpeedOf
  by_cases hlo : ifaceName iface = "lo"
  · rw [if_pos hlo, if_pos hlo]
    exact ⟨rfl, rfl⟩
  · rw [if_neg hlo, if_neg hlo]
    refine ⟨?_, ?_⟩
    · rw [result_bind, result_pure]
      by_cases hnil : linksOf (ifaceId r iface) w.db = []
      · refine Or.inl ⟨hnil, ?_⟩
        match hres : result (snapshot env (linksOf (ifaceId r iface)) PhysicalLink.id) w with
        | none | some none => rfl
        | some (some link) =>
          have hmem := result_snapshot_mem hres
          rw [hnil] at hmem
          cases hmem
      · obtain ⟨link, hres⟩ := result_snapshot_isSome PhysicalLink.id hok hnil
        refine Or.inr ⟨link, result_snapshot_mem hres, ?_⟩
        rw [hres]
        rfl
    · rw [after_bind, after_pure, after_snapshot]

/-- The lookup of a speed keeps a world sound. -/
theorem sound_lookupSpeed (r : VyOSRouter) (iface : InterfaceSpec) (h : Sound env w) :
    Sound env (after (lookupSpeed env r iface) w) := by
  have hc : Calls env (Revises fun _ _ _ _ => False) w (after (lookupSpeed env r iface) w) :=
    respects_lookupSpeed w
  exact h.calls (.syncRouter r) hc fun _ _ _ _ hx => hx.elim

theorem ifaceRow_written (r : VyOSRouter) (status : String) (iface : InterfaceSpec)
    (speed : String) :
    Written env .physicalInterface (ifaceRow env r status iface speed) :=
  ⟨r.metadata.name, ifaceName iface, rfl, fun _ => ⟨rfl, rfl⟩, _, rfl⟩

/-- What follows the row of an interface. -/
def syncAddress (env : Env) (r : VyOSRouter) (iface : InterfaceSpec) : Sync Unit :=
  match addrCidr iface with
  | none => pure ()
  | some addr => do
    let created ← runInTransaction env (sqlUpsertSubnet addr iface)
    if created then attempt env (sqlUpsertSubnetAssoc r iface addr) else pure ()

/-- The subnet and the association leave the other tables alone. -/
theorem syncAddress_table_eq {n : TableName} (hsubnet : n ≠ .logicalSubnet)
    (hassoc : n ≠ .subnetAssociation) :
    (after (syncAddress env r iface) w).db n = w.db n := by
  unfold syncAddress
  match addrCidr iface with
  | none => rfl
  | some addr =>
    dsimp only
    rw [after_bind]
    split
    · exact Eq.trans (upsert_table_eq _ _ _ hassoc) (upsert_table_eq _ _ _ hsubnet)
    · exact upsert_table_eq _ _ _ hsubnet

theorem leaves_syncAddress (h : Sound env w) {n : TableName} (hn : n ≠ .physicalInterface)
    (db : Database) (k : Key) :
    Leaves n k (syncAddress env r iface) w (computedInterface env db r status iface n k) := by
  cases n with
  | physicalInterface => exact absurd rfl hn
  | logicalSubnet =>
    unfold syncAddress computedInterface
    match haddr : addrCidr iface with
    | none => exact Settles.pure ()
    | some addr =>
      dsimp only
      rw [Option.bind_some]
      refine Settles.bind_right (leaves_upsert h k (n := .logicalSubnet)
        (P := SubnetCurrent addr) ⟨iface, rfl⟩ fun x hx hkey hu => ?_) ?_
      · exact subnetCurrent_of_unchanged hx (Key.id.inj hkey) (of_decide_eq_true hu)
      · split
        · exact congrArg (Scd.active Row.key k) (upsert_table_eq _ _ _ (by decide))
        · rfl
  | subnetAssociation =>
    unfold syncAddress computedInterface
    match haddr : addrCidr iface with
    | none => exact Settles.pure ()
    | some addr =>
      have hres : result (runInTransaction env (sqlUpsertSubnet addr iface)) w = true :=
        (runInTransaction_upsert _ _ _ h.ok (h.wellFormed.one _ _)).1
      have hwritten : Written env .logicalSubnet (subnetRow addr iface) :=
        Or.inr (Or.inl ⟨addr, iface, rfl⟩)
      have hsubnet : Sound env (after (runInTransaction env (sqlUpsertSubnet addr iface)) w) :=
        h.upsert hwritten _
      dsimp only
      rw [Option.bind_some]
      refine Settles.bind_left (congrArg (Scd.active Row.key k)
        (upsert_table_eq _ _ _ (by decide))) ?_
      rw [hres, if_pos rfl]
      refine Leaves.attempt (leaves_upsert hsubnet k (n := .subnetAssociation)
        (P := (· = assocRow r iface addr)) rfl fun x hx hkey _ => ?_)
      obtain ⟨-, htype⟩ := hx
      obtain ⟨entityId, subnetId, entityType⟩ := x
      cases hkey
      cases htype
      rfl
  | _ => exact leaves_of_table_eq (syncAddress_table_eq (by decide) (by decide)) k

/-- An interface leaves what is computed for it. -/
theorem leaves_syncInterface (h : Sound env w) (n : TableName) (k : Key) :
    Leaves n k (syncInterface env r status iface) w
      (computedInterface env w.db r status iface n k) := by
  obtain ⟨hspeed, hdb⟩ := lookupSpeed_spec r iface h.ok
  have hlookup := sound_lookupSpeed r iface h
  refine Settles.bind_left (congrArg (fun db : Database => db.active n k) hdb) ?_
  generalize result (lookupSpeed env r iface) w = speed at hspeed ⊢
  have hiface := hlookup.upsert (ifaceRow_written r status iface speed) fun row : PhysicalInterface =>
      row.speed = some speed ∧ row.mediaType = some (mediaType iface) ∧
        row.ipAddress = some (ipAddress iface) ∧
        row.macAddress = some ((ifaceData iface).mac.getD "") ∧
        row.status = some (ifaceStatus r status iface)
  by_cases hn : n = .physicalInterface
  · subst hn
    refine Settles.bind_right (Leaves.attempt (leaves_upsert hlookup k (n := .physicalInterface)
      (P := IfaceCurrent env w.db r status iface) ⟨speed, hspeed, rfl, fun _ => rfl⟩
      fun x hx hkey hu => ?_)) ?_
    · exact ifaceCurrent_of_unchanged hx (Key.id.inj hkey) hspeed (of_decide_eq_true hu)
    · exact congrArg (Scd.active Row.key k) (syncAddress_table_eq (by decide) (by decide))
  · refine Settles.bind_left (congrArg (Scd.active Row.key k) (upsert_table_eq _ _ _ hn)) ?_
    exact leaves_syncAddress hiface hn w.db k

/-- Of the store an interface only looks at the links it is attached to. -/
theorem computedInterface_congr {db db' : Database}
    (hedge : db' .interfaceLink = db .interfaceLink) (hlink : db' .physicalLink = db .physicalLink)
    (n : TableName) (k : Key) :
    computedInterface env db' r status iface n k = computedInterface env db r status iface n k := by
  have hspeed : SpeedOf db' r iface = SpeedOf db r iface := by
    unfold SpeedOf linksOf
    rw [hedge, hlink]
  cases n with
  | physicalInterface =>
    unfold computedInterface IfaceCurrent
    rw [hspeed]
  | _ => rfl

/-- The row of the router. -/
theorem leaves_sqlUpsertRouter (h : Sound env w) {row : PhysicalRouter}
    (hrow : routerRow env r status = some row) (k : Key) :
    result (runInTransaction env (sqlUpsertRouter env r status)) w = true ∧
      (∀ n' : TableName, n' ≠ .physicalRouter →
        (after (runInTransaction env (sqlUpsertRouter env r status)) w).db n' = w.db n') ∧
      Leaves .physicalRouter k (runInTransaction env (sqlUpsertRouter env r status)) w
        (if .id (routerId r) = k then some fun x => routerRow env r status = some x else none) := by
  have hkey : Row.key (n := .physicalRouter) row = .id (routerId r) :=
    congrArg Key.id (routerRow_id hrow).1
  unfold sqlUpsertRouter
  rw [hrow]
  dsimp only
  refine ⟨(runInTransaction_upsert _ _ _ h.ok (h.wellFormed.one _ _)).1, fun n' hn' => ?_, ?_⟩
  · exact upsert_table_eq _ _ _ hn'
  · rw [← hkey]
    refine leaves_upsert h k (n := .physicalRouter) rfl fun x hx _ hu => ?_
    exact (hrow.symm.trans (routerRow_of_unchanged hx hu))

end Router

open Router in
/-- A sync of a router whose coordinates are numbers leaves what it computes. -/
theorem leaves_syncPhysicalRouter {env : Env} {w : World} (h : Sound env w) (r : VyOSRouter)
    (hrow : ∀ status ∈ routerStatus r, (routerRow env r status).isSome) (n : TableName) (k : Key) :
    Leaves n k (syncPhysicalRouter env r) w (computed env w.db r n k) := by
  unfold syncPhysicalRouter computed
  match hs : routerStatus r with
  | none => exact Settles.pure ()
  | some status =>
    obtain ⟨row, hrow⟩ := Option.isSome_iff_exists.mp (hrow status hs)
    obtain ⟨hres, htables, hrouter⟩ := leaves_sqlUpsertRouter h hrow k
    dsimp only
    rw [Option.bind_some]
    have hsound : Sound env (after (runInTransaction env (sqlUpsertRouter env r status)) w) := by
      have hc : Calls env (Revises (Router.Inserts env r)) w
          (after (runInTransaction env (sqlUpsertRouter env r status)) w) :=
        respects_runInTransaction (Revises.refl _) (fun _ _ _ hdb => sqlUpsertRouter_spec hs hdb) w
      exact h.calls (.syncRouter r) hc fun _ _ _ _ hx => hx
    by_cases hn : n = .physicalRouter
    · subst hn
      refine Settles.bind_right hrouter ?_
      rw [hres, if_pos rfl]
      exact congrArg (Scd.active Row.key k) (Calls.table_eq
        (Respects.loop (fun iface hi => respects_syncInterface hs hi) _) fun _ _ _ hx => hx)
    · have hloop : Leaves n k (forM (r.spec.interfaces.getD []) (syncInterface env r status))
          (after (runInTransaction env (sqlUpsertRouter env r status)) w)
          ((r.spec.interfaces.getD []).reverse.findSome? fun iface =>
            computedInterface env w.db r status iface n k) := by
        refine Settles.loop (I := fun v => Sound env v ∧
          v.db .interfaceLink = w.db .interfaceLink ∧ v.db .physicalLink = w.db .physicalLink)
          (fun iface hi v hv => ?_) (fun iface _ v hv => ?_)
          ⟨hsound, htables _ (by decide), htables _ (by decide)⟩
        · have hc : Calls env (Revises (InterfaceInserts env r)) v
              (after (syncInterface env r status iface) v) := respects_syncInterface hs hi v
          refine ⟨hv.1.calls (.syncRouter r) hc fun _ _ _ _ hx => hx.inserts, ?_, ?_⟩
          · exact (hc.table_eq (n := .interfaceLink) fun _ _ _ hx => hx).trans hv.2.1
          · exact (hc.table_eq (n := .physicalLink) fun _ _ _ hx => hx).trans hv.2.2
        · rw [← computedInterface_congr hv.2.1 hv.2.2]
          exact leaves_syncInterface hv.1 n k
      have hall := Settles.bind_left (m := runInTransaction env (sqlUpsertRouter env r status))
        (f := fun committed => if committed then
          forM (r.spec.interfaces.getD []) (syncInterface env r status) else pure ())
        (congrArg (Scd.active Row.key k) (htables n hn)) (by rw [hres, if_pos rfl]; exact hloop)
      cases n with
      | physicalRouter => exact absurd rfl hn
      | _ => exact hall

end GnnSandbox.Graph
