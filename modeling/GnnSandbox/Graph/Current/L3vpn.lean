import GnnSandbox.Graph.Current.Infrastructure

/-!
# What a sync of a VyOSL3VPN leaves

The change tests compare a stored object with a text, so no stored row ever passes for
unchanged and the sync always leaves the row that it computes. Several entries may come to
one key, and then the last one counts.
-/

namespace GnnSandbox.Graph

open Scd Effect

namespace L3vpn

/-! ## What is computed -/

/-- What a named VRF leaves. -/
def computedVrf (env : Env) (status routerName : String) (router : PeRouter) (vrfName : String)
    (vrf : Vrf) : (n : TableName) → Key → Option (Row n → Prop)
  | .vrf, k =>
    if .id (vrfId routerName vrfName) = k then
      some (· = vrfRow env status routerName ("router:" ++ routerName) vrfName vrf)
    else none
  | .bgpSession, k => (bgpNeighbors router vrfName).reverse.findSome? fun neighbor =>
      (peerIp neighbor).bind fun ip =>
        if .id (bgpId routerName vrfName ip) = k then
          some (· = bgpRow status routerName vrfName ip neighbor)
        else none
  | _, _ => none

/-- What a router leaves, if it is in the store. -/
def computedPeRouter (env : Env) (db : Database) (status : String) (router : PeRouter)
    (n : TableName) (k : Key) : Option (Row n → Prop) :=
  (truthy router.name).bind fun routerName =>
    if (Infrastructure.routersNamed routerName db).isEmpty then none
    else (router.vrfs.getD []).reverse.findSome? fun vrf =>
      (truthy vrf.name).bind fun vrfName =>
        computedVrf env status routerName router vrfName vrf n k

/-- What a sync of `v` leaves. -/
def computed (env : Env) (db : Database) (v : VyOSL3VPN) (n : TableName) (k : Key) :
    Option (Row n → Prop) :=
  (l3vpnStatus v).bind fun status =>
    match n with
    | .l3vpnService => (v.spec.services.getD []).reverse.findSome? fun svc =>
        if .id (vpnId svc.name) = k then some (· = serviceRow env status svc) else none
    | n => (v.spec.routers.getD []).reverse.findSome? fun router =>
        computedPeRouter env db status router n k

variable {env : Env} {w : World} {status routerName vrfName : String} {router : PeRouter}
  {vrf : Vrf}

/-! ## VRFs -/

/-- A stored object never passes for unchanged. -/
theorem ofFields_config_ne {fields fields' : List (String × Option Json)} {config : Option Json}
    (h : config = some (.ofFields fields)) : config ≠ some (Json.ofFields fields').dumps := by
  rw [h]
  exact fun heq => Json.ofFields_ne_dumps _ _ (Option.some.inj heq)

/-- A VRF leaves the row that is computed for it. -/
theorem leaves_sqlUpsertVrf (h : Sound env w) (k : Key) :
    Leaves .vrf k (runInTransaction env (sqlUpsertVrf env status routerName
        ("router:" ++ routerName) vrfName vrf)) w
      (computedVrf env status routerName router vrfName vrf .vrf k) := by
  refine leaves_upsert h k (n := .vrf) rfl fun x hx _ hu => ?_
  obtain ⟨status', routerName', routerId', vrfName', vrf', rfl⟩ := hx
  exact absurd (of_decide_eq_true hu).1 (ofFields_config_ne rfl)

/-- A neighbor leaves the session that is computed for it. -/
theorem leaves_syncNeighbor (h : Sound env w) (neighbor : Neighbor) (k : Key) :
    Leaves .bgpSession k (syncNeighbor env status routerName vrfName neighbor) w
      ((peerIp neighbor).bind fun ip =>
        if .id (bgpId routerName vrfName ip) = k then
          some (· = bgpRow status routerName vrfName ip neighbor)
        else none) := by
  unfold syncNeighbor
  match peerIp neighbor with
  | none => exact Settles.pure ()
  | some ip =>
    refine Leaves.attempt (leaves_upsert h k (n := .bgpSession)
      (P := (· = bgpRow status routerName vrfName ip neighbor)) rfl fun x hx _ hu => ?_)
    obtain ⟨status', routerName', vrfName', ip', neighbor', rfl⟩ := hx
    exact absurd (of_decide_eq_true hu).1 (ofFields_config_ne rfl)

theorem sound_syncNeighbor (h : Sound env w) (neighbor : Neighbor) :
    Sound env (after (syncNeighbor env status routerName vrfName neighbor) w) := by
  unfold syncNeighbor
  match peerIp neighbor with
  | none => exact h
  | some ip =>
    have hwritten : Written env .bgpSession (bgpRow status routerName vrfName ip neighbor) :=
      ⟨status, routerName, vrfName, ip, neighbor, rfl⟩
    exact h.upsert hwritten _

/-- The sessions of a VRF leave the other tables alone. -/
theorem syncNeighbor_table_eq {n : TableName} (hn : n ≠ .bgpSession) (neighbor : Neighbor) :
    (after (syncNeighbor env status routerName vrfName neighbor) w).db n = w.db n := by
  unfold syncNeighbor
  match peerIp neighbor with
  | none => rfl
  | some ip => exact upsert_table_eq _ _ _ hn

theorem syncNeighbors_table_eq {n : TableName} (hn : n ≠ .bgpSession) (l : List Neighbor)
    (w : World) :
    (after (forM l (syncNeighbor env status routerName vrfName)) w).db n = w.db n := by
  refine Triple.loop (I := fun v : World => v.db n = w.db n) (fun neighbor _ v hv => ?_) w rfl
  exact (syncNeighbor_table_eq hn neighbor).trans hv

/-- A VRF leaves what is computed for it. -/
theorem leaves_syncVrf (h : Sound env w) (n : TableName) (k : Key) :
    Leaves n k (syncVrf env status routerName ("router:" ++ routerName) router vrf) w
      ((truthy vrf.name).bind fun vrfName =>
        computedVrf env status routerName router vrfName vrf n k) := by
  unfold syncVrf
  match truthy vrf.name with
  | none => exact Settles.pure ()
  | some vrfName =>
    dsimp only
    rw [Option.bind_some]
    have hwritten : Written env .vrf
        (vrfRow env status routerName ("router:" ++ routerName) vrfName vrf) :=
      ⟨status, routerName, "router:" ++ routerName, vrfName, vrf, rfl⟩
    have hsound : Sound env (after (runInTransaction env (sqlUpsertVrf env status routerName
        ("router:" ++ routerName) vrfName vrf)) w) := h.upsert hwritten _
    have hres : result (runInTransaction env (sqlUpsertVrf env status routerName
        ("router:" ++ routerName) vrfName vrf)) w = true :=
      (runInTransaction_upsert _ _ _ h.ok (h.wellFormed.one _ _)).1
    cases n with
    | vrf =>
      refine Settles.bind_right (leaves_sqlUpsertVrf h k) ?_
      rw [hres, if_pos rfl]
      exact congrArg (Scd.active Row.key k) (syncNeighbors_table_eq (by decide) _ _)
    | bgpSession =>
      refine Settles.bind_left (congrArg (Scd.active Row.key k)
        (upsert_table_eq _ _ _ (by decide))) ?_
      rw [hres, if_pos rfl]
      exact Settles.loop (I := Sound env) (fun neighbor _ v hv => sound_syncNeighbor hv neighbor)
        (fun neighbor _ v hv => leaves_syncNeighbor hv neighbor k) hsound
    | _ =>
      refine leaves_of_table_eq ?_ k
      rw [after_bind, hres, if_pos rfl]
      exact (syncNeighbors_table_eq (by decide) _ _).trans (upsert_table_eq _ _ _ (by decide))

/-! ## Routers -/

theorem sound_syncVrf (h : Sound env w) {v : VyOSL3VPN} (hs : status ∈ l3vpnStatus v)
    (hrouter : router ∈ v.spec.routers.getD []) (hname : truthy router.name = some routerName)
    {u : Version Timestamp PhysicalRouter}
    (hu : u ∈ Infrastructure.routersNamed routerName w.db) (hvrf : vrf ∈ router.vrfs.getD []) :
    Sound env (after (syncVrf env status routerName u.data.id router vrf) w) ∧
      (after (syncVrf env status routerName u.data.id router vrf) w).db .physicalRouter =
        w.db .physicalRouter := by
  have hc : Calls env (Revises (VrfInserts env status routerName u.data.id router)) w
      (after (syncVrf env status routerName u.data.id router vrf) w) := respects_syncVrf hvrf w
  refine ⟨h.calls (.syncL3vpn v) (hc.sees (m := .physicalRouter) fun _ _ _ hx => hx)
    fun db n row x hx => ?_, hc.table_eq fun _ _ _ hx => hx⟩
  have hmem : u ∈ Infrastructure.routersNamed routerName db := by
    rw [Infrastructure.routersNamed, hx.1]
    exact hu
  cases n with
  | l3vpnService => exact hx.2.elim
  | _ => exact ⟨status, hs, router, hrouter, routerName, hname, u, hmem, hx.2⟩

/-- The id of a stored router is built from its name. -/
theorem id_of_mem_routersNamed (h : Sound env w) {u : Version Timestamp PhysicalRouter}
    (hu : u ∈ Infrastructure.routersNamed routerName w.db) : u.data.id = "router:" ++ routerName := by
  simp only [Infrastructure.routersNamed, List.mem_filter, Bool.and_eq_true,
    decide_eq_true_eq] at hu
  obtain ⟨r, status, -, hrow⟩ := h.written .physicalRouter u hu.1
  obtain ⟨hid, hname⟩ := Router.routerRow_id hrow
  rw [hid, ← hname, hu.2.2]

/-- A router leaves what is computed for it. -/
theorem leaves_syncPeRouter (h : Sound env w) {v : VyOSL3VPN} (hs : status ∈ l3vpnStatus v)
    (hrouter : router ∈ v.spec.routers.getD []) (n : TableName) (k : Key) :
    Leaves n k (syncPeRouter env status router) w (computedPeRouter env w.db status router n k) := by
  unfold syncPeRouter computedPeRouter
  cases hname : truthy router.name with
  | none => exact Settles.pure ()
  | some routerName =>
    dsimp only
    rw [Option.bind_some]
    have hafter := Infrastructure.after_getRouterIdByName env routerName w
    refine Settles.bind_left (by rw [hafter]) ?_
    rw [hafter, Infrastructure.result_lookup h]
    by_cases hnil : (Infrastructure.routersNamed routerName w.db).isEmpty
    · rw [if_pos hnil, if_pos hnil]
      exact Settles.pure ()
    · rw [if_neg hnil, if_neg hnil]
      obtain ⟨u, hu⟩ := List.exists_mem_of_ne_nil _ (by simpa using hnil)
      have hid : truthy (some ("router:" ++ routerName)) = some u.data.id := by
        rw [truthy_eq_some, id_of_mem_routersNamed h hu]
        exact ⟨rfl, by simp⟩
      rw [hid]
      have hloop := Settles.loop (l := router.vrfs.getD []) (s := (⟨w.db, w.calls + 1⟩ : World))
        (φ := fun w : World => w.db.active n k)
        (H := fun (P : Row n → Prop) l => ∃ v : Version Timestamp (Row n), l = [v] ∧ P v.data)
        (I := fun v => Sound env v ∧ v.db .physicalRouter = w.db .physicalRouter)
        (f := syncVrf env status routerName u.data.id router)
        (e := fun vrf => (truthy vrf.name).bind fun vrfName =>
          computedVrf env status routerName router vrfName vrf n k)
        (fun vrf hvrf v' hv' => ?_) (fun vrf _ v' hv' => ?_) ⟨h.read, rfl⟩
      · exact hloop
      · have hmem : u ∈ Infrastructure.routersNamed routerName v'.db := by
          rw [Infrastructure.routersNamed, hv'.2]
          exact hu
        have hstep := sound_syncVrf hv'.1 hs hrouter hname hmem hvrf
        exact ⟨hstep.1, hstep.2.trans hv'.2⟩
      · rw [id_of_mem_routersNamed h hu]
        exact leaves_syncVrf hv'.1 n k

end L3vpn

open L3vpn in
/-- A sync of a VPN leaves what it computes. -/
theorem leaves_syncL3vpnService {env : Env} {w : World} (h : Sound env w) (v : VyOSL3VPN)
    (n : TableName) (k : Key) :
    Leaves n k (syncL3vpnService env v) w (computed env w.db v n k) := by
  unfold syncL3vpnService computed
  match hs : l3vpnStatus v with
  | none => exact Settles.pure ()
  | some status =>
    dsimp only
    rw [Option.bind_some]
    have hservice : ∀ svc ∈ v.spec.services.getD [], ∀ u, Sound env u →
        Sound env (after (attempt env (sqlUpsertL3vpn env status svc)) u) := by
      intro svc _ u hu
      have hwritten : Written env .l3vpnService (serviceRow env status svc) := ⟨status, svc, rfl⟩
      exact hu.upsert hwritten _
    have hservices : Sound env (after (forM (v.spec.services.getD []) fun svc =>
        attempt env (sqlUpsertL3vpn env status svc)) w) :=
      Triple.loop (I := Sound env) hservice w h
    have htables : ∀ n' : TableName, n' ≠ .l3vpnService →
        (after (forM (v.spec.services.getD []) fun svc =>
          attempt env (sqlUpsertL3vpn env status svc)) w).db n' = w.db n' := by
      intro n' hn'
      refine Triple.loop (I := fun u : World => u.db n' = w.db n') (fun svc _ u hu => ?_) w rfl
      exact Eq.trans (upsert_table_eq _ _ _ hn') hu
    have hpe : ∀ router ∈ v.spec.routers.getD [], ∀ u, Calls env (Revises (PeInserts env status
        router)) u (after (syncPeRouter env status router) u) :=
      fun router _ u => respects_syncPeRouter u
    by_cases hn : n = .l3vpnService
    · subst hn
      refine Settles.bind_right (Settles.loop (I := Sound env) hservice (fun svc _ u hu => ?_) h) ?_
      · refine Leaves.attempt (leaves_upsert hu k (n := .l3vpnService)
          (P := (· = serviceRow env status svc)) rfl fun x hx _ hunch => ?_)
        obtain ⟨status', svc', rfl⟩ := hx
        exact absurd (of_decide_eq_true hunch).1 (ofFields_config_ne rfl)
      · refine congrArg (Scd.active Row.key k) (Triple.loop
          (I := fun u : World => u.db .l3vpnService = _) (fun router hrouter u hu => ?_) _ rfl)
        refine ((hpe router hrouter u).table_eq ?_).trans hu
        rintro db row x ⟨_, _, _, _, hx⟩
        exact hx
    · have hloop : Leaves n k (forM (v.spec.routers.getD []) (syncPeRouter env status))
          (after (forM (v.spec.services.getD []) fun svc =>
            attempt env (sqlUpsertL3vpn env status svc)) w)
          ((v.spec.routers.getD []).reverse.findSome? fun router =>
            computedPeRouter env w.db status router n k) := by
        refine Settles.loop (I := fun u => Sound env u ∧
          u.db .physicalRouter = w.db .physicalRouter) (fun router hrouter u hu => ?_)
          (fun router hrouter u hu => ?_) ⟨hservices, htables _ (by decide)⟩
        · refine ⟨hu.1.calls (.syncL3vpn v) (hpe router hrouter u) fun db m row x hx => ?_, ?_⟩
          · cases m with
            | l3vpnService =>
              obtain ⟨_, _, _, _, hx⟩ := hx
              exact hx.elim
            | _ => exact ⟨status, hs, router, hrouter, hx⟩
          · refine ((hpe router hrouter u).table_eq ?_).trans hu.2
            rintro db row x ⟨_, _, _, _, hx⟩
            exact hx
        · have hcongr : computedPeRouter env u.db status router n k =
              computedPeRouter env w.db status router n k := by
            unfold computedPeRouter Infrastructure.routersNamed
            rw [hu.2]
          rw [← hcongr]
          exact leaves_syncPeRouter hu.1 hs hrouter n k
      have hall : Leaves n k (do
            forM (v.spec.services.getD []) fun svc => attempt env (sqlUpsertL3vpn env status svc)
            forM (v.spec.routers.getD []) (syncPeRouter env status)) w
          ((v.spec.routers.getD []).reverse.findSome? fun router =>
            computedPeRouter env w.db status router n k) :=
        Settles.bind_left (congrArg (Scd.active Row.key k) (htables n hn)) hloop
      cases n with
      | l3vpnService => exact absurd rfl hn
      | _ => exact hall

end GnnSandbox.Graph
