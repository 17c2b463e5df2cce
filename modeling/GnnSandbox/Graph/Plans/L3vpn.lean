import GnnSandbox.Graph.Plans.Infrastructure

/-!
# What a sync of a VyOSL3VPN performs

The revisions of the services, then those of the VRFs and sessions of the routers that
are found. All of them compare the stored object with a text, which they never store.
-/

namespace GnnSandbox.Graph

open Scd Effect

namespace L3vpn

variable {env : Env} {w : World} {v : VyOSL3VPN} {status : String}

def reviseService (env : Env) (status : String) (svc : Service) : Revising :=
  .upsert .l3vpnService (serviceRow env status svc) fun row : L3VPNService =>
    row.config = some svc.dict.dumps ∧ row.status = some (env.lower status)

def reviseVrf (env : Env) (status routerName routerId vrfName : String) (vrf : Vrf) : Revising :=
  .upsert .vrf (vrfRow env status routerName routerId vrfName vrf) fun row : VRF =>
    row.config = some vrf.dict.dumps ∧ row.status = some (env.lower (vrfStatus status))

def reviseBgp (status routerName vrfName peerIp : String) (n : Neighbor) : Revising :=
  .upsert .bgpSession (bgpRow status routerName vrfName peerIp n) fun row : BGPSession =>
    row.config = some n.dict.dumps ∧ row.status = some (bgpStatus status)

def planNeighbor (status routerName vrfName : String) (n : Neighbor) : List Revising :=
  match peerIp n with
  | none => []
  | some peerIp => [reviseBgp status routerName vrfName peerIp n]

def planVrf (env : Env) (status routerName routerId : String) (router : PeRouter) (vrf : Vrf) :
    List Revising :=
  match truthy vrf.name with
  | none => []
  | some vrfName => reviseVrf env status routerName routerId vrfName vrf ::
      (bgpNeighbors router vrfName).flatMap (planNeighbor status routerName vrfName)

def planPeRouter (env : Env) (db : Database) (status : String) (router : PeRouter) :
    List Revising :=
  match truthy router.name with
  | none => []
  | some routerName =>
    match Infrastructure.foundRouter env db routerName with
    | none => []
    | some routerId => (router.vrfs.getD []).flatMap (planVrf env status routerName routerId router)

/-- The revisions of `sync_l3vpn_service`. -/
def plan (env : Env) (db : Database) (v : VyOSL3VPN) : List Revising :=
  match l3vpnStatus v with
  | none => []
  | some status =>
    ((v.spec.services.getD []).flatMap fun svc => [reviseService env status svc]) ++
      (v.spec.routers.getD []).flatMap (planPeRouter env db status)

theorem mem_planNeighbor {routerName vrfName : String} {n : Neighbor} {r : Revising} :
    r ∈ planNeighbor status routerName vrfName n ↔
      ∃ ip, peerIp n = some ip ∧ r = reviseBgp status routerName vrfName ip n := by
  unfold planNeighbor
  cases peerIp n <;> simp

theorem mem_planVrf {routerName routerId : String} {router : PeRouter} {vrf : Vrf}
    {r : Revising} : r ∈ planVrf env status routerName routerId router vrf ↔
      ∃ vrfName, truthy vrf.name = some vrfName ∧
        (r = reviseVrf env status routerName routerId vrfName vrf ∨
          ∃ n ∈ bgpNeighbors router vrfName, ∃ ip, peerIp n = some ip ∧
            r = reviseBgp status routerName vrfName ip n) := by
  unfold planVrf
  cases truthy vrf.name with
  | none => simp
  | some vrfName => simp [mem_planNeighbor]

theorem planPeRouter_congr {db db' : Database} (h : db' .physicalRouter = db .physicalRouter)
    (router : PeRouter) : planPeRouter env db' status router = planPeRouter env db status router := by
  unfold planPeRouter
  simp only [Infrastructure.foundRouter_congr h]

theorem ne_physicalRouter_of_mem_planPeRouter {db : Database} {router : PeRouter} {r : Revising}
    (h : r ∈ planPeRouter env db status router) : r.n ≠ .physicalRouter := by
  unfold planPeRouter at h
  split at h
  · cases h
  · split at h
    · cases h
    · obtain ⟨vrf, -, h⟩ := List.mem_flatMap.mp h
      obtain ⟨vrfName, -, rfl | ⟨n, -, ip, -, rfl⟩⟩ := mem_planVrf.mp h
      · exact (nomatch ·)
      · exact (nomatch ·)

theorem performs_syncVrf (hok : env.Reliable) (hw : Single w.db)
    (routerName routerId : String) (router : PeRouter) (vrf : Vrf) :
    Performs noSide (syncVrf env status routerName routerId router vrf) w
      (planVrf env status routerName routerId router vrf) := by
  unfold syncVrf planVrf
  match truthy vrf.name with
  | none => exact Performs.pure ()
  | some vrfName =>
    have hvrf : result (runInTransaction env
          (sqlUpsertVrf env status routerName routerId vrfName vrf)) w = true ∧
        Performs noSide (runInTransaction env
          (sqlUpsertVrf env status routerName routerId vrfName vrf)) w
          [reviseVrf env status routerName routerId vrfName vrf] :=
      performs_upsert noSide (n := .vrf) _ _ hok hw
    refine Performs.bind hvrf.2 ?_
    rw [hvrf.1, if_pos rfl]
    refine Performs.loop noSide (Performed.single hvrf.2 hw) (fun n _ => not_noSide n)
      (fun _ _ r _ => not_noSide r.n) fun n _ u hu _ => ?_
    unfold syncNeighbor planNeighbor
    match peerIp n with
    | none => exact Performs.pure ()
    | some ip => exact (performs_upsert noSide (n := .bgpSession) _ _ hok hu).2

theorem performs_syncPeRouter (hok : env.Reliable) (hsteady : env.Steady) (hw : Single w.db)
    (router : PeRouter) :
    Performs noSide (syncPeRouter env status router) w (planPeRouter env w.db status router) := by
  unfold syncPeRouter planPeRouter
  match truthy router.name with
  | none => exact Performs.pure ()
  | some routerName =>
    dsimp only
    have hread := Infrastructure.after_getRouterIdByName env routerName w
    refine Performs.bind_read (by rw [hread]) ?_
    rw [Infrastructure.truthy_result_getRouterIdByName hok (hsteady.decides _ _), hread]
    match Infrastructure.foundRouter env w.db routerName with
    | none => exact Performs.pure ()
    | some routerId =>
      exact Performs.loop (w := ⟨w.db, w.calls + 1⟩) noSide hw (fun n _ => not_noSide n)
        (fun _ _ r _ => not_noSide r.n)
        fun vrf _ u hu _ => performs_syncVrf hok hu routerName routerId router vrf

theorem performs (hok : env.Reliable) (hsteady : env.Steady) (hw : Single w.db)
    (v : VyOSL3VPN) : Performs noSide (syncL3vpnService env v) w (plan env w.db v) := by
  unfold syncL3vpnService plan
  match l3vpnStatus v with
  | none => exact Performs.pure ()
  | some status =>
    have hservices : Performs noSide
        (forM (v.spec.services.getD []) fun svc => attempt env (sqlUpsertL3vpn env status svc)) w
        ((v.spec.services.getD []).flatMap fun svc => [reviseService env status svc]) :=
      Performs.loop noSide hw (fun n _ => not_noSide n) (fun _ _ r _ => not_noSide r.n)
        fun svc _ u hu _ => (performs_upsert noSide (n := .l3vpnService) _ _ hok hu).2
    have hrouters := Performed.table_eq (n := .physicalRouter) hservices id fun r hr => by
      obtain ⟨svc, -, hr⟩ := List.mem_flatMap.mp hr
      rw [List.mem_singleton.mp hr]
      exact (nomatch ·)
    refine Performs.bind hservices ?_
    refine Performs.loop (· = .physicalRouter) (Performed.single hservices hw)
      (fun n _ => not_noSide n) (fun _ _ r hr => ne_physicalRouter_of_mem_planPeRouter hr)
      fun router _ u hu hreads => ?_
    rw [← planPeRouter_congr ((hreads _ rfl).trans hrouters)]
    exact performs_syncPeRouter hok hsteady hu router

theorem ne_physicalRouter_of_mem_plan {db : Database} {r : Revising} (h : r ∈ plan env db v) :
    r.n ≠ .physicalRouter := by
  unfold plan at h
  split at h
  · cases h
  · rcases List.mem_append.mp h with h | h
    · obtain ⟨svc, -, h⟩ := List.mem_flatMap.mp h
      rw [List.mem_singleton.mp h]
      exact (nomatch ·)
    · obtain ⟨router, -, h⟩ := List.mem_flatMap.mp h
      exact ne_physicalRouter_of_mem_planPeRouter h

/-- The sync does not write what its plan depends on. -/
theorem plan_after (hok : env.Reliable) (hsteady : env.Steady) (hw : Single w.db)
    (v : VyOSL3VPN) : plan env (after (syncL3vpnService env v) w).db v = plan env w.db v := by
  have hdb := Performed.table_eq (n := .physicalRouter) (performs hok hsteady hw v) id
    fun _ hr => ne_physicalRouter_of_mem_plan hr
  have hplan : ∀ status, planPeRouter env (after (syncL3vpnService env v) w).db status =
      planPeRouter env w.db status := fun status => funext fun router => planPeRouter_congr hdb router
  unfold plan
  simp only [hplan]

/-! ## When the revisions are accepted -/

section Stable

variable {db : Database}

/-- A VRF of a router that is found, with the names under which it is stored. -/
structure VrfEntry where
  status : String
  routerName : String
  routerId : String
  vrfName : String
  router : PeRouter
  vrf : Vrf

/-- The sync gets to a VRF. -/
structure IsVrf (env : Env) (db : Database) (v : VyOSL3VPN) (e : VrfEntry) : Prop where
  status : l3vpnStatus v = some e.status
  router : e.router ∈ v.spec.routers.getD []
  name : truthy e.router.name = some e.routerName
  found : Infrastructure.foundRouter env db e.routerName = some e.routerId
  vrf : HasVrf e.router e.vrfName e.vrf

/-- The sync gets to a service. -/
def IsService (v : VyOSL3VPN) (p : String × Service) : Prop :=
  l3vpnStatus v = some p.1 ∧ p.2 ∈ v.spec.services.getD []

/-- The sync gets to a session of a VRF with a peer. -/
def IsSession (env : Env) (db : Database) (v : VyOSL3VPN) (p : VrfEntry × Neighbor × String) :
    Prop :=
  IsVrf env db v p.1 ∧ p.2.1 ∈ bgpNeighbors p.1.router p.1.vrfName ∧ peerIp p.2.1 = some p.2.2

/-- Every service, VRF and session that the sync gets to is stored with the text of its
object and its present status. -/
structure Stable (env : Env) (db : Database) (v : VyOSL3VPN) : Prop where
  services : ∀ p, IsService v p → (openRow db .l3vpnService (.id (vpnId p.2.name))).map
      (fun row : L3VPNService => (row.config, row.status)) =
    some (some p.2.dict.dumps, some (env.lower p.1))
  vrfs : ∀ e, IsVrf env db v e → (openRow db .vrf (.id (vrfId e.routerName e.vrfName))).map
      (fun row : VRF => (row.config, row.status)) =
    some (some e.vrf.dict.dumps, some (env.lower (vrfStatus e.status)))
  sessions : ∀ p, IsSession env db v p →
    (openRow db .bgpSession (.id (bgpId p.1.routerName p.1.vrfName p.2.2))).map
      (fun row : BGPSession => (row.config, row.status)) =
    some (some p.2.1.dict.dumps, some (bgpStatus p.1.status))

theorem mem_planPeRouter {router : PeRouter} {r : Revising} :
    r ∈ planPeRouter env db status router ↔ ∃ routerName routerId,
      truthy router.name = some routerName ∧
      Infrastructure.foundRouter env db routerName = some routerId ∧
      ∃ vrf ∈ router.vrfs.getD [], r ∈ planVrf env status routerName routerId router vrf := by
  unfold planPeRouter
  cases truthy router.name with
  | none => simp
  | some routerName =>
    cases hid : Infrastructure.foundRouter env db routerName with
    | none => simp [hid]
    | some routerId => simp [hid]

theorem mem_plan {r : Revising} : r ∈ plan env db v ↔
    (∃ p, IsService v p ∧ r = reviseService env p.1 p.2) ∨
    (∃ e, IsVrf env db v e ∧ r = reviseVrf env e.status e.routerName e.routerId e.vrfName e.vrf) ∨
    ∃ p, IsSession env db v p ∧
      r = reviseBgp p.1.status p.1.routerName p.1.vrfName p.2.2 p.2.1 := by
  constructor
  · intro h
    unfold plan at h
    split at h
    · cases h
    · next status hs =>
      rcases List.mem_append.mp h with h | h
      · obtain ⟨svc, hsvc, h⟩ := List.mem_flatMap.mp h
        exact Or.inl ⟨(status, svc), ⟨hs, hsvc⟩, List.mem_singleton.mp h⟩
      · obtain ⟨router, hrouter, h⟩ := List.mem_flatMap.mp h
        obtain ⟨routerName, routerId, hname, hid, vrf, hvrf, h⟩ := mem_planPeRouter.mp h
        obtain ⟨vrfName, hvrfName, h⟩ := mem_planVrf.mp h
        have he : IsVrf env db v ⟨status, routerName, routerId, vrfName, router, vrf⟩ :=
          ⟨hs, hrouter, hname, hid, hvrf, hvrfName⟩
        rcases h with rfl | ⟨n, hn, ip, hip, rfl⟩
        · exact Or.inr (Or.inl ⟨_, he, rfl⟩)
        · exact Or.inr (Or.inr ⟨(_, n, ip), ⟨he, hn, hip⟩, rfl⟩)
  · rintro (⟨p, ⟨hs, hsvc⟩, rfl⟩ | ⟨e, he, rfl⟩ | ⟨p, ⟨he, hn, hip⟩, rfl⟩)
    · unfold plan
      rw [hs]
      exact List.mem_append_left _ (List.mem_flatMap.mpr ⟨p.2, hsvc, List.mem_singleton.mpr rfl⟩)
    · unfold plan
      rw [he.status]
      refine List.mem_append_right _ (List.mem_flatMap.mpr ⟨e.router, he.router, ?_⟩)
      refine mem_planPeRouter.mpr ⟨_, _, he.name, he.found, e.vrf, he.vrf.1, ?_⟩
      exact mem_planVrf.mpr ⟨_, he.vrf.2, Or.inl rfl⟩
    · unfold plan
      rw [he.status]
      refine List.mem_append_right _ (List.mem_flatMap.mpr ⟨p.1.router, he.router, ?_⟩)
      refine mem_planPeRouter.mpr ⟨_, _, he.name, he.found, p.1.vrf, he.vrf.1, ?_⟩
      exact mem_planVrf.mpr ⟨_, he.vrf.2, Or.inr ⟨p.2.1, hn, p.2.2, hip, rfl⟩⟩

theorem compares_service : Compares (plan env db v) .l3vpnService (IsService v)
    (fun p => serviceRow env p.1 p.2) (fun row => (row.config, row.status))
    (fun p => (some p.2.dict.dumps, some (env.lower p.1))) fun p row =>
      decide (row.config = some p.2.dict.dumps ∧ row.status = some (env.lower p.1)) := by
  refine ⟨fun r => ⟨?_, ?_⟩, fun p row => by simp⟩
  · rintro ⟨hr, hn⟩
    rcases mem_plan.mp hr with h | ⟨_, _, rfl⟩ | ⟨_, _, rfl⟩
    · exact h
    all_goals cases hn
  · rintro ⟨p, hp, rfl⟩
    exact ⟨mem_plan.mpr (Or.inl ⟨p, hp, rfl⟩), rfl⟩

theorem compares_vrf : Compares (plan env db v) .vrf (IsVrf env db v)
    (fun e => vrfRow env e.status e.routerName e.routerId e.vrfName e.vrf)
    (fun row => (row.config, row.status))
    (fun e => (some e.vrf.dict.dumps, some (env.lower (vrfStatus e.status)))) fun e row =>
      decide (row.config = some e.vrf.dict.dumps ∧
        row.status = some (env.lower (vrfStatus e.status))) := by
  refine ⟨fun r => ⟨?_, ?_⟩, fun e row => by simp⟩
  · rintro ⟨hr, hn⟩
    rcases mem_plan.mp hr with ⟨_, _, rfl⟩ | h | ⟨_, _, rfl⟩
    · cases hn
    · exact h
    · cases hn
  · rintro ⟨e, he, rfl⟩
    exact ⟨mem_plan.mpr (Or.inr (Or.inl ⟨e, he, rfl⟩)), rfl⟩

theorem compares_session : Compares (plan env db v) .bgpSession (IsSession env db v)
    (fun p => bgpRow p.1.status p.1.routerName p.1.vrfName p.2.2 p.2.1)
    (fun row => (row.config, row.status))
    (fun p => (some p.2.1.dict.dumps, some (bgpStatus p.1.status))) fun p row =>
      decide (row.config = some p.2.1.dict.dumps ∧ row.status = some (bgpStatus p.1.status)) := by
  refine ⟨fun r => ⟨?_, ?_⟩, fun p row => by simp⟩
  · rintro ⟨hr, hn⟩
    rcases mem_plan.mp hr with ⟨_, _, rfl⟩ | ⟨_, _, rfl⟩ | h
    · cases hn
    · cases hn
    · exact h
  · rintro ⟨p, hp, rfl⟩
    exact ⟨mem_plan.mpr (Or.inr (Or.inr ⟨p, hp, rfl⟩)), rfl⟩

/-- What is stored is an object and never the text of one. -/
theorem config_ne {fields : List (String × Option Json)} {a : Json}
    {s t : Option String} : (some (Json.ofFields fields), s) ≠ (some a.dumps, t) := by
  intro h
  exact Json.ofFields_ne_dumps fields a (Option.some.inj (congrArg Prod.fst h))

/-- The revisions accept what they settle on exactly in a stable state. -/
theorem accepted_plan : Accepted (plan env db v) db ↔ Stable env db v := by
  rw [accepted_iff]
  constructor
  · intro h
    refine ⟨?_, ?_, ?_⟩
    · exact (compares_service.acceptedIn_iff_openRow fun _ _ => config_ne).mp (h .l3vpnService)
    · exact (compares_vrf.acceptedIn_iff_openRow fun _ _ => config_ne).mp (h .vrf)
    · exact (compares_session.acceptedIn_iff_openRow fun _ _ => config_ne).mp (h .bgpSession)
  · intro h n
    cases n with
    | l3vpnService =>
      exact (compares_service.acceptedIn_iff_openRow fun _ _ => config_ne).mpr h.services
    | vrf => exact (compares_vrf.acceptedIn_iff_openRow fun _ _ => config_ne).mpr h.vrfs
    | bgpSession =>
      exact (compares_session.acceptedIn_iff_openRow fun _ _ => config_ne).mpr h.sessions
    | _ =>
      intro r hr hn
      rcases mem_plan.mp hr with ⟨_, _, rfl⟩ | ⟨_, _, rfl⟩ | ⟨_, _, rfl⟩ <;> cases hn

end Stable

end L3vpn

end GnnSandbox.Graph
