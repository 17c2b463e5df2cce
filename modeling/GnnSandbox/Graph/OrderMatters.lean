import GnnSandbox.Graph.SpeedOrder

/-!
# Where the order of the syncs matters

A run with the infrastructure first and one with it last end differently as soon as a link
ends at a router whose row its sync writes, or a router's interface has the name of a
network as its address. Two runs that start with different routers leave the subnet of an
address they share with different descriptions.
-/

namespace GnnSandbox.Graph

open Scd Effect

/-! ## What a list of revisions puts in place -/

section Reaches

variable {l : List Revising} {n : TableName} {k : Key} {P : Row n → Prop}

/-- A revision of the key leaves a row with the property. -/
def Reaches (v : Revising) (n : TableName) (k : Key) (P : Row n → Prop) : Prop :=
  ∀ s, ∃ x, (v.at' n k s).or s = some x ∧ P x

theorem settle_of_reached (hstep : ∀ v ∈ l, v.n = n → v.k = k → Reaches v n k P)
    {s : Option (Row n)} (hs : (∃ x, s = some x ∧ P x) ∨ Touches l n k) :
    ∃ x, settle l n k s = some x ∧ P x := by
  induction l generalizing s with
  | nil =>
    rcases hs with hs | ⟨v, hv, -⟩
    · exact hs
    · cases hv
  | cons v l ih =>
    refine ih (fun v' hv' => hstep v' (List.mem_cons_of_mem _ hv')) ?_
    by_cases hv : v.n = n ∧ v.k = k
    · exact Or.inl (hstep v List.mem_cons_self hv.1 hv.2 s)
    · have hself : (v.at' n k s).or s = s := by
        have hnone : v.at' n k s = none := by
          by_cases hn : v.n = n
          · exact Revising.at'_of_key_ne (fun hk => hv ⟨hn, hk⟩) n s
          · exact Revising.at'_of_table_ne hn k s
        rw [hnone, Option.none_or]
      dsimp only
      rw [hself]
      rcases hs with hs | ⟨v', hv', hn, hk⟩
      · exact Or.inl hs
      · rcases List.mem_cons.mp hv' with rfl | hv'
        · exact absurd ⟨hn, hk⟩ hv
        · exact Or.inr ⟨v', hv', hn, hk⟩

/-- An upsert leaves its own row or one that passes its test. -/
theorem reaches_upsert {fresh : Row n} {unchanged : Row n → Bool} (hfresh : P fresh)
    (hsame : ∀ x, unchanged x = true → P x) :
    Reaches (.upsert n fresh unchanged) n fresh.key P := by
  intro s
  have hnext : (Revising.upsert n fresh unchanged).at' n fresh.key s =
      (Revising.upsert n fresh unchanged).next s :=
    Revising.at'_self (Revising.upsert n fresh unchanged) s
  rw [hnext]
  cases hs : (Revising.upsert n fresh unchanged).next s with
  | none =>
    obtain ⟨x, rfl, hx⟩ := Revising.upsert_next_none.mp hs
    exact ⟨x, rfl, hsame x hx⟩
  | some x => exact ⟨x, rfl, Revising.upsert_next_some hs ▸ hfresh⟩

theorem reaches_ensure (fresh : Row n) :
    Reaches (.ensure n fresh) n fresh.key fun _ => True :=
  reaches_upsert trivial fun _ _ => trivial

end Reaches

/-! ## The infrastructure first and last -/

section Edge

variable {env : Env} {db : Database} {spec : VyOSInfrastructure} {routers : List VyOSRouter}
  {r : VyOSRouter} {w : World}

/-- A sync of a router that can write its row leaves one. -/
theorem exists_row_of_syncs (db : Database) (hsyncs : Router.Syncs env r) (hr : r ∈ routers)
    (s : Option PhysicalRouter) :
    ∃ x, (routers.map Op.syncRouter).foldl (fun s op => settle (lateRevisions env db op)
      .physicalRouter (.id (Router.routerId r)) s) s = some x := by
  have hflat : (routers.map Op.syncRouter).foldl (fun s op => settle (lateRevisions env db op)
      .physicalRouter (.id (Router.routerId r)) s) s =
        settle ((routers.map Op.syncRouter).flatMap (lateRevisions env db)) .physicalRouter
          (.id (Router.routerId r)) s := List.foldl_flatMap.symm
  rw [hflat]
  have hstep : ∀ v ∈ (routers.map Op.syncRouter).flatMap (lateRevisions env db),
      v.n = .physicalRouter → v.k = .id (Router.routerId r) →
        Reaches v .physicalRouter (.id (Router.routerId r)) fun _ => True := by
    intro v hv hn hk
    obtain ⟨op, hop, hv⟩ := List.mem_flatMap.mp hv
    obtain ⟨r', -, rfl⟩ := List.mem_map.mp hop
    obtain ⟨status, -, ⟨row, -, rfl⟩ | ⟨-, hv⟩⟩ := Router.mem_plan.mp hv
    · rw [← hk]
      exact reaches_upsert trivial fun _ _ => trivial
    · obtain ⟨iface, -, hv⟩ := List.mem_flatMap.mp hv
      rcases Router.mem_planInterface.mp hv with rfl | ⟨addr, -, rfl | rfl⟩ <;> cases hn
  obtain ⟨status, hs, hrow⟩ := hsyncs
  obtain ⟨row, hrow⟩ := Option.isSome_iff_exists.mp hrow
  have ht : Touches ((routers.map Op.syncRouter).flatMap (lateRevisions env db)) .physicalRouter
      (.id (Router.routerId r)) := by
    refine ⟨.upsert .physicalRouter row (Router.routerUnchanged env r status), ?_, rfl,
      congrArg Key.id (Router.routerRow_id hrow).1⟩
    exact List.mem_flatMap.mpr ⟨.syncRouter r, List.mem_map.mpr ⟨r, hr, rfl⟩,
      Router.mem_plan.mpr ⟨status, hs, Or.inl ⟨row, hrow, rfl⟩⟩⟩
  obtain ⟨x, hx, -⟩ := settle_of_reached hstep (Or.inr ht)
  exact ⟨x, hx⟩

/-- Without networks no link ends anywhere. -/
theorem noLateLink_of_networks_none : NoLateLink env ⟨none⟩ routers := fun _ hnet => by
  cases hnet

/-- A synced router is found, and its interface is that of the connection. -/
theorem connectionId_of_openRow (hdb : ∀ v ∈ db .physicalRouter, Written env .physicalRouter v.data)
    (hsingle : Single db) {x : PhysicalRouter} {conn : ConnectedRouter} {iface : String}
    (hx : openRow db .physicalRouter (.id (Router.routerId r)) = some x)
    (hrouter : truthy conn.routerName = some r.metadata.name.val)
    (hiface : truthy conn.interface = some iface) :
    Infrastructure.connectionId env db conn =
      some (Router.routerId r ++ ":interface:" ++ iface) := by
  obtain ⟨v, hv, rfl⟩ := Option.map_eq_some_iff.mp hx
  have hmem := List.mem_of_head? hv
  have hactive : Infrastructure.routersNamed r.metadata.name db =
      db.active .physicalRouter (.id (Router.routerId r)) := routersNamed_eq_active hdb _
  have hid : v.data.id = Router.routerId r := Key.id.inj (mem_active.mp hmem).2.2
  have hfound : Infrastructure.foundRouter env db r.metadata.name = some (Router.routerId r) := by
    have hlen := hsingle .physicalRouter (.id (Router.routerId r))
    rw [Infrastructure.foundRouter, hactive, truthy_eq_some]
    cases hrows : db.active .physicalRouter (.id (Router.routerId r)) with
    | nil =>
      rw [hrows] at hmem
      cases hmem
    | cons u us =>
      rw [hrows, List.length_cons] at hlen
      have hus : us = [] :=
        List.eq_nil_of_length_eq_zero (Nat.le_zero.mp (Nat.le_of_succ_le_succ hlen))
      rw [hrows, List.head?_cons, Option.some.injEq] at hv
      rw [hus, hv]
      have hdecides : env.Decides [v] fun v => v.data.id :=
        env.decides_of_length_le _ (Nat.le_refl 1)
      have hread := hdecides 0
      have hzero : env.pick 0 ([v].map fun v => v.data.id) = 0 :=
        Nat.lt_one_iff.mp (env.pick_lt 0 _ (List.cons_ne_nil _ _))
      rw [← hread, hzero]
      refine ⟨congrArg some hid, fun hempty => ?_⟩
      have hlength := congrArg String.length hempty
      rw [Router.routerId, String.length_append] at hlength
      exact absurd hlength (by simp)
  rw [Infrastructure.connectionId, hrouter, hiface, Option.bind_some, Option.bind_some, hfound]
  rfl

/-- **The infrastructure last** attaches the interface of a router that was synced. -/
theorem exists_edge_of_last (h : LateKept env db ⟨none⟩ routers w) (hok : env.Reliable)
    (hdb : ∀ v ∈ db .physicalRouter, Written env .physicalRouter v.data)
    (hset : (routers.map fun r => r.metadata.name).Nodup) (name : ResourceName)
    {net : Network} (hnet : net ∈ spec.networks.getD []) (hr : r ∈ routers)
    (hsyncs : Router.Syncs env r) {iface : String}
    (hends : Infrastructure.EndsAt net r.metadata.name iface) :
    openRow (runFrom env w (routers.map Op.syncRouter ++ [.syncInfrastructure name spec])).db
      .interfaceLink (.edge (Router.routerId r ++ ":interface:" ++ iface)
        (Infrastructure.linkId net)) ≠ none := by
  have hmem : ∀ op ∈ routers.map Op.syncRouter, op ∈ syncsOf name ⟨none⟩ routers :=
    fun op hop => List.mem_cons_of_mem _ hop
  obtain ⟨hafter, hrow⟩ := h.run hok hdb noLateLink_of_networks_none hset hmem
  obtain ⟨x, hx⟩ := exists_row_of_syncs db hsyncs hr
    (openRow w.db .physicalRouter (.id (Router.routerId r)))
  rw [← hrow] at hx
  obtain ⟨conn, hconn, hrouter, hiface⟩ := hends
  have htwo : 2 ≤ (Infrastructure.connectedRouters net).length := by
    by_contra htwo
    rw [Infrastructure.linkedRouters, if_neg htwo] at hconn
    cases hconn
  rw [Infrastructure.linkedRouters, if_pos htwo] at hconn
  have hid := connectionId_of_openRow (hafter.sound.written .physicalRouter) hafter.single hx
    hrouter hiface
  have hreads : Infrastructure.Reads env (runFrom env w (routers.map Op.syncRouter)).db spec := by
    intro net _ conn _ name _
    refine env.decides_of_length_le _ ?_
    rw [routersNamed_eq_active (hafter.sound.written .physicalRouter)]
    exact hafter.single _ _
  have hperforms := Infrastructure.performs hok hreads hafter.single
  rw [runFrom_append]
  have hopen := Performed.openRow_eq hperforms (not_noSide .interfaceLink)
    (.edge (Router.routerId r ++ ":interface:" ++ iface) (Infrastructure.linkId net))
  have hstep : ∀ v ∈ Infrastructure.plan env (runFrom env w (routers.map Op.syncRouter)).db spec,
      v.n = .interfaceLink → v.k = .edge (Router.routerId r ++ ":interface:" ++ iface)
        (Infrastructure.linkId net) → Reaches v .interfaceLink
          (.edge (Router.routerId r ++ ":interface:" ++ iface) (Infrastructure.linkId net))
          fun _ => True := by
    intro v hv hn hk
    rcases Infrastructure.mem_plan.mp hv with ⟨_, -, rfl⟩ | ⟨_, -, rfl⟩ | ⟨p, -, rfl⟩ |
      ⟨_, _, _, _, -, -, rfl⟩
    · cases hn
    · cases hn
    · rw [← hk]
      exact reaches_ensure _
    · cases hn
  obtain ⟨y, hy, -⟩ := settle_of_reached hstep (Or.inr ⟨_, Infrastructure.mem_plan.mpr
    (Or.inr (Or.inr (Or.inl ⟨(net, _), ⟨hnet, htwo, conn, hconn, hid⟩, rfl⟩))), rfl, rfl⟩)
  intro hnone
  cases hnone.symm.trans (hopen.trans hy)

/-- **The infrastructure first** finds none of the routers, and no router attaches itself. -/
theorem no_edge_of_first (h : LateKept env db ⟨none⟩ routers w) (hok : env.Reliable)
    (hnew : Unsynced w.db routers) (name : ResourceName) (spec : VyOSInfrastructure)
    (hr : r ∈ routers) (iface linkId : String) :
    (runFrom env w (.syncInfrastructure name spec :: routers.map Op.syncRouter)).db.active
      .interfaceLink (.edge (Router.routerId r ++ ":interface:" ++ iface) linkId) = [] := by
  have hreads : Infrastructure.Reads env w.db spec := by
    intro net _ conn _ name _
    refine env.decides_of_length_le _ ?_
    rw [routersNamed_eq_active (h.sound.written .physicalRouter)]
    exact h.single _ _
  have hperforms := Infrastructure.performs hok hreads h.single
  have hopen := Performed.openRow_eq hperforms (not_noSide .interfaceLink)
    (.edge (Router.routerId r ++ ":interface:" ++ iface) linkId)
  rw [settle_of_untouched] at hopen
  · have hfirst : (after (syncVyosInfrastructure env spec) w).db.active .interfaceLink
        (.edge (Router.routerId r ++ ":interface:" ++ iface) linkId) = [] := by
      rw [openRow, openRow, hnew.edges r hr iface linkId] at hopen
      exact List.head?_eq_none_iff.mp (Option.map_eq_none_iff.mp hopen)
    rw [runFrom_cons]
    have hkeep : ∀ ops : List Op, (∀ op ∈ ops, ∃ r, op = .syncRouter r) → ∀ w : World,
        (runFrom env w ops).db .interfaceLink = w.db .interfaceLink := by
      intro ops
      induction ops with
      | nil => exact fun _ _ => rfl
      | cons op ops ih =>
        intro hops w
        obtain ⟨r, rfl⟩ := hops op List.mem_cons_self
        have hc : Calls env (Revises (Router.Inserts env r)) w
          (after (syncPhysicalRouter env r) w) := respects_syncPhysicalRouter env r w
        rw [runFrom_cons, ih (fun op' hop' => hops op' (List.mem_cons_of_mem _ hop'))]
        exact hc.table_eq fun _ _ _ hx => hx
    have htable := hkeep (routers.map Op.syncRouter)
      (fun op hop => (List.mem_map.mp hop).imp fun _ h => h.2.symm)
      (after (syncVyosInfrastructure env spec) w)
    rw [Database.active, Op.exec, htable]
    exact hfirst
  · intro v hv hn hk
    rcases Infrastructure.mem_plan.mp hv with ⟨_, -, rfl⟩ | ⟨_, -, rfl⟩ |
      ⟨p, ⟨-, -, conn, -, hid⟩, rfl⟩ | ⟨_, _, _, _, -, -, rfl⟩
    · cases hn
    · cases hn
    · -- an interface that is found is one of an open router
      obtain ⟨router, i, hactive, hp⟩ := connectionId_eq (h.sound.written .physicalRouter) hid
      have hedge : p.2 = Router.routerId r ++ ":interface:" ++ iface := (Key.edge.inj hk).1
      have hsame := (interfaceId_inj router.property r.metadata.name.property
        (hp.symm.trans hedge)).1
      rw [hsame] at hactive
      exact hactive (hnew.rows r hr)
    · cases hn

end Edge

/-! ## What an order that makes no difference needs -/

section Necessary

variable {env : Env} {ops₀ : List Op} {name : ResourceName} {spec : VyOSInfrastructure}
  {routers : List VyOSRouter} {r r' : VyOSRouter}

/-- No link ends at a router whose row is written. -/
theorem OrderFree.links (hok : env.Reliable) (hnew : Unsynced (run env ops₀).db routers)
    (hset : (routers.map fun r => r.metadata.name).Nodup)
    (h : OrderFree env (run env ops₀) name spec routers) : NoLateLink env spec routers := by
  intro net hnet r hr hsyncs iface hends
  have hkept := lateKept_of_unsynced hok ops₀ hnew ⟨none⟩
  have hlast := exists_edge_of_last hkept hok (hkept.sound.written .physicalRouter) hset name hnet
    hr hsyncs hends
  have hfirst := no_edge_of_first hkept hok hnew name spec hr iface
    (Infrastructure.linkId net)
  have hrows := h.rows _ (syncsOf name spec routers) (List.perm_append_singleton _ _)
    (List.Perm.refl _) .interfaceLink
    (.edge (Router.routerId r ++ ":interface:" ++ iface) (Infrastructure.linkId net))
  have hnil : openRows (runFrom env (run env ops₀) (syncsOf name spec routers)).db .interfaceLink
      (.edge (Router.routerId r ++ ":interface:" ++ iface) (Infrastructure.linkId net)) = [] :=
    List.map_eq_nil_iff.mpr hfirst
  rw [hnil] at hrows
  apply hlast
  rw [openRow, List.map_eq_nil_iff.mp hrows]
  rfl

/-- No link with a known bandwidth ends at an interface. -/
theorem OrderFree.speeds_apart (hok : env.Reliable) (hnew : Unsynced (run env ops₀).db routers)
    (h : OrderFree env (run env ops₀) name spec routers) {net : Network}
    (hnet : net ∈ spec.networks.getD []) (hknown : Infrastructure.KnowsBandwidth net)
    (hr : r ∈ routers) {iface : InterfaceSpec} (hiface : iface ∈ r.spec.interfaces.getD [])
    (hlo : Router.ifaceName iface ≠ "lo") :
    ¬Infrastructure.EndsAt net r.metadata.name (Router.ifaceName iface) := by
  intro hends
  have hkept := lateKept_of_unsynced hok ops₀ hnew ⟨none⟩
  have hfirst := no_edge_of_first hkept hok hnew name spec hr (Router.ifaceName iface)
    (Infrastructure.linkId net)
  obtain ⟨hopen, -⟩ := h.speeds (syncsOf name spec routers) (List.Perm.refl _) r hr iface hiface
    hlo net hnet hends hknown
  exact hopen hfirst

/-- What a network leaves in its subnet is not a row of an interface. -/
theorem settle_infrastructure_subnet (env : Env) (db : Database) {net : Network}
    (hnet : net ∈ spec.networks.getD []) (s : Option LogicalSubnet) :
    ∃ x, settle (Infrastructure.plan env db spec) .logicalSubnet (.id ("subnet:" ++ net.name)) s =
      some x ∧ ¬OfInterface x := by
  have hdict : ∀ net : Network, net.dict ≠ .obj [] := by
    intro net h
    have hname := net.dict_name
    rw [h] at hname
    cases hname
  refine settle_of_reached (fun v hv hn hk => ?_)
    (Or.inr ⟨_, Infrastructure.mem_plan.mpr (Or.inl ⟨net, hnet, rfl⟩), rfl, rfl⟩)
  rcases Infrastructure.mem_plan.mp hv with ⟨net', -, rfl⟩ | ⟨_, -, rfl⟩ | ⟨_, -, rfl⟩ |
    ⟨_, _, _, _, -, -, rfl⟩
  · rw [← hk]
    refine reaches_upsert (fun hof => hdict net' (Option.some.inj hof)) fun x hx hof => ?_
    have hprops : x.properties = some net'.dict := of_decide_eq_true hx
    exact hdict net' (Option.some.inj (hprops.symm.trans hof))
  all_goals cases hn

/-- The first router of an order, the rest of it with the infrastructure, in any order. -/
theorem exists_perm_first (name : ResourceName) (spec : VyOSInfrastructure) (hr : r ∈ routers) :
    ∃ rest : List VyOSRouter, (∀ r' ∈ rest, r' ∈ routers) ∧
      (.syncRouter r :: .syncInfrastructure name spec :: rest.map Op.syncRouter).Perm
        (syncsOf name spec routers) ∧
      (.syncInfrastructure name spec :: (rest.map Op.syncRouter ++ [.syncRouter r])).Perm
        (syncsOf name spec routers) := by
  obtain ⟨before, later, rfl⟩ := List.append_of_mem hr
  have hperm : (before ++ r :: later).Perm (r :: (before ++ later)) := List.perm_middle
  refine ⟨before ++ later, fun r' hr' => hperm.mem_iff.mpr (List.mem_cons_of_mem _ hr'), ?_, ?_⟩
  · exact (List.Perm.swap _ _ _).trans ((hperm.symm.map Op.syncRouter).cons _)
  · exact (((List.perm_append_singleton _ _).trans (hperm.symm.map Op.syncRouter))).cons _

/-- So the revisions end alike in every order. -/
theorem OrderFree.foldl_eq (hok : env.Reliable) (hnew : Unsynced (run env ops₀).db routers)
    (hset : (routers.map fun r => r.metadata.name).Nodup)
    (h : OrderFree env (run env ops₀) name spec routers) {ops ops' : List Op}
    (hops : ops.Perm (syncsOf name spec routers)) (hops' : ops'.Perm (syncsOf name spec routers))
    (n : TableName) (k : Key) :
    ops.foldl (fun s op => settle (lateRevisions env (run env ops₀).db op) n k s)
        (openRow (run env ops₀).db n k) =
      ops'.foldl (fun s op => settle (lateRevisions env (run env ops₀).db op) n k s)
        (openRow (run env ops₀).db n k) := by
  have hkept := lateKept_of_unsynced hok ops₀ hnew spec
  have hwritten := hkept.sound.written .physicalRouter
  have hlinks := h.links hok hnew hset
  obtain ⟨-, hrows⟩ := hkept.run hok hwritten hlinks hset fun op hop => hops.mem_iff.mp hop
  obtain ⟨-, hrows'⟩ := hkept.run hok hwritten hlinks hset fun op hop => hops'.mem_iff.mp hop
  have hhead : ∀ db : Database, openRow db n k = (openRows db n k).head? :=
    fun _ => List.head?_map.symm
  rw [← hrows, ← hrows', hhead, hhead, h.rows ops ops' hops hops' n k]

/-- No router's interface has the name of a network as its address. -/
theorem OrderFree.networks (hok : env.Reliable) (hnew : Unsynced (run env ops₀).db routers)
    (hset : (routers.map fun r => r.metadata.name).Nodup)
    (h : OrderFree env (run env ops₀) name spec routers) {net : Network}
    (hnet : net ∈ spec.networks.getD []) (hr : r ∈ routers) (hsyncs : Router.Syncs env r) :
    Router.firstAt r net.name = none := by
  by_contra hsome
  obtain ⟨iface, hfirst⟩ := Option.ne_none_iff_exists'.mp hsome
  obtain ⟨rest, -, -, hlast⟩ := exists_perm_first name spec hr
  have hperm := List.perm_append_singleton (Op.syncInfrastructure name spec)
    (routers.map Op.syncRouter)
  have heq := h.foldl_eq hok hnew hset hperm hlast .logicalSubnet (.id ("subnet:" ++ net.name))
  rw [List.foldl_append, ← List.cons_append, List.foldl_append] at heq
  generalize List.foldl _ _ (List.map Op.syncRouter routers) = s₁ at heq
  generalize List.foldl _ _ (_ :: List.map Op.syncRouter rest) = s₂ at heq
  -- the infrastructure last leaves the network's row, the router last that of an interface
  obtain ⟨x, hx, hnot⟩ := settle_infrastructure_subnet env (run env ops₀).db hnet s₁
  have hrouter := settle_router_subnet hsyncs net.name s₂
  rw [hfirst, Option.elim_some] at hrouter
  have hany := any_keepOr s₂ net.name iface
  rw [← hrouter] at hany
  have hsame : settle (Router.plan env Database.empty r) .logicalSubnet
      (.id ("subnet:" ++ net.name)) s₂ = some x := heq.symm.trans hx
  rw [hsame, Option.any_some] at hany
  exact hnot (of_decide_eq_true hany)

/-- The router that is synced first gives the subnet of an address its row. -/
theorem OrderFree.foldl_first (hok : env.Reliable) (hnew : Unsynced (run env ops₀).db routers)
    (hset : (routers.map fun r => r.metadata.name).Nodup)
    (h : OrderFree env (run env ops₀) name spec routers) (hr : r ∈ routers)
    (hsyncs : Router.Syncs env r) {addr : String} {iface : InterfaceSpec}
    (hfirst : iface ∈ Router.firstAt r addr)
    (hfree : ¬∃ x ∈ openRows (run env ops₀).db .logicalSubnet (.id ("subnet:" ++ addr)),
      OfInterface x) :
    (syncsOf name spec routers).foldl (fun s op => settle
        (lateRevisions env (run env ops₀).db op) .logicalSubnet (.id ("subnet:" ++ addr)) s)
        (openRow (run env ops₀).db .logicalSubnet (.id ("subnet:" ++ addr))) =
      some (Router.subnetRow addr iface) := by
  obtain ⟨rest, -, hperm, -⟩ := exists_perm_first name spec hr
  rw [h.foldl_eq hok hnew hset (List.Perm.refl _) hperm, List.foldl_cons]
  have hrow : settle (lateRevisions env (run env ops₀).db (.syncRouter r)) .logicalSubnet
      (.id ("subnet:" ++ addr))
      (openRow (run env ops₀).db .logicalSubnet (.id ("subnet:" ++ addr))) =
        some (Router.subnetRow addr iface) := by
    have hrouter := settle_router_subnet hsyncs addr
      (openRow (run env ops₀).db .logicalSubnet (.id ("subnet:" ++ addr)))
    rw [Option.mem_def.mp hfirst, Option.elim_some] at hrouter
    refine hrouter.trans (if_neg fun hany => hfree ?_)
    obtain ⟨x, hx, hof⟩ := (Option.any_eq_true ..).mp hany
    refine ⟨x, ?_, of_decide_eq_true hof⟩
    exact List.mem_of_head? (List.head?_map.trans hx)
  rw [hrow]
  refine foldl_eq_self_of_fixed fun op hop => ?_
  rcases List.mem_cons.mp hop with rfl | hop
  · refine settle_of_untouched fun v hv hn hk => ?_
    rcases Infrastructure.mem_plan.mp hv with ⟨net, hnet, rfl⟩ | ⟨_, -, rfl⟩ | ⟨_, -, rfl⟩ |
      ⟨_, _, _, _, -, -, rfl⟩
    · have hname : net.name = addr := append_right_inj (Key.id.inj hk)
      have hnone := h.networks hok hnew hset hnet hr hsyncs
      rw [hname, Option.mem_def.mp hfirst] at hnone
      cases hnone
    all_goals cases hn
  · obtain ⟨r', -, rfl⟩ := List.mem_map.mp hop
    exact settle_router_of_ofInterface rfl

/-- **An order that makes no difference** has the infrastructure and the routers apart. -/
theorem OrderFree.apart (hok : env.Reliable) (hnew : Unsynced (run env ops₀).db routers)
    (hset : (routers.map fun r => r.metadata.name).Nodup)
    (h : OrderFree env (run env ops₀) name spec routers) :
    Apart env (run env ops₀).db spec routers where
  links := h.links hok hnew hset
  speeds _ hnet hknown _ hr _ hiface hlo := h.speeds_apart hok hnew hnet hknown hr hiface hlo
  networks _ hnet _ hr hsyncs := h.networks hok hnew hset hnet hr hsyncs
  addresses addr := by
    by_cases hof : ∃ x ∈ openRows (run env ops₀).db .logicalSubnet (.id ("subnet:" ++ addr)),
      OfInterface x
    · exact Or.inl hof
    · refine Or.inr fun r hr r' hr' hsyncs hsyncs' iface hiface iface' hiface' => ?_
      have hrow := h.foldl_first hok hnew hset hr hsyncs hiface hof
      have hrow' := h.foldl_first hok hnew hset hr' hsyncs' hiface' hof
      have hsame : Router.subnetRow addr iface = Router.subnetRow addr iface' :=
        Option.some.inj (hrow.symm.trans hrow')
      have hdescription := congrArg LogicalSubnet.description hsame
      exact append_right_inj (Option.some.inj hdescription)

end Necessary

/-- **Whether the order matters.** From any reachable store in which nothing of the routers
is open, the syncs of an infrastructure and of its routers, once each, end alike in every
order and with every speed in place exactly when they are apart. -/
theorem orderFree_iff_apart (env : Env) (hok : env.Reliable) (ops₀ : List Op)
    (name : ResourceName) (spec : VyOSInfrastructure) (routers : List VyOSRouter)
    (hnew : Unsynced (run env ops₀).db routers)
    (hset : (routers.map fun r => r.metadata.name).Nodup) :
    OrderFree env (run env ops₀) name spec routers ↔ Apart env (run env ops₀).db spec routers :=
  ⟨fun h => h.apart hok hnew hset, fun h => h.orderFree hok hnew hset name⟩

theorem unsynced_empty (env : Env) (routers : List VyOSRouter) :
    Unsynced (run env []).db routers := ⟨fun _ _ => rfl, fun _ _ _ _ => rfl⟩

/-- A router and an infrastructure whose network connects nothing. -/
theorem orderFree_isolated : OrderFree Env.plain (run Env.plain []) Sample.core Sample.isolated
    [Sample.router Sample.r1 "10.0.0.1/30"] := by
  have hends : ∀ net ∈ Sample.isolated.networks.getD [], ∀ router iface,
      ¬Infrastructure.EndsAt net router iface := by
    intro net hnet router iface h
    rw [List.mem_singleton.mp hnet] at h
    obtain ⟨conn, hconn, -⟩ := h
    cases hconn
  refine (orderFree_iff_apart Env.plain (fun _ => rfl) [] Sample.core Sample.isolated
    [Sample.router Sample.r1 "10.0.0.1/30"] (unsynced_empty _ _)
    (List.nodup_singleton _)).mpr ⟨?_, ?_, ?_, ?_⟩
  · exact fun net hnet r _ _ iface => hends net hnet _ iface
  · exact fun net hnet _ r _ iface _ _ => hends net hnet _ _
  · intro net hnet r hr _
    rw [List.mem_singleton.mp hnet, List.mem_singleton.mp hr]
    decide +kernel
  · refine fun addr => Or.inr fun r hr r' hr' _ _ iface hiface iface' hiface' => ?_
    rw [List.mem_singleton.mp hr] at hiface
    rw [List.mem_singleton.mp hr'] at hiface'
    rw [Option.mem_unique hiface hiface']

/-- Two routers of a link with a known bandwidth: with the infrastructure first nothing
attaches their interfaces, with the routers first it does. -/
theorem late_routers_stay_detached :
    (runFrom Env.plain World.empty (syncsOf Sample.core Sample.infrastructure
        [Sample.router Sample.r1 "10.0.0.1/30", Sample.router Sample.r2 "10.0.0.2/30"])).db.active
      .interfaceLink (.edge "router:r1:interface:eth1" "link:core") = [] ∧
    (runFrom Env.plain World.empty [.syncRouter (Sample.router Sample.r1 "10.0.0.1/30"),
        .syncRouter (Sample.router Sample.r2 "10.0.0.2/30"),
        .syncInfrastructure Sample.core Sample.infrastructure]).db.active
      .interfaceLink (.edge "router:r1:interface:eth1" "link:core") ≠ [] ∧
    ¬OrderFree Env.plain World.empty Sample.core Sample.infrastructure
      [Sample.router Sample.r1 "10.0.0.1/30", Sample.router Sample.r2 "10.0.0.2/30"] := by
  have hfirst : (runFrom Env.plain World.empty (syncsOf Sample.core Sample.infrastructure
      [Sample.router Sample.r1 "10.0.0.1/30",
        Sample.router Sample.r2 "10.0.0.2/30"])).db.active .interfaceLink
          (.edge "router:r1:interface:eth1" "link:core") = [] := by decide +kernel
  refine ⟨hfirst, by decide +kernel, fun h => ?_⟩
  have hends : Infrastructure.EndsAt Sample.network "r1" "eth1" :=
    ⟨_, List.mem_cons_self, rfl, rfl⟩
  have hknown : Infrastructure.KnowsBandwidth Sample.network := by
    constructor <;> decide
  obtain ⟨hopen, -⟩ := h.speeds _ (List.Perm.refl _) _ List.mem_cons_self _ List.mem_cons_self
    (by decide) _ List.mem_cons_self hends hknown
  exact hopen hfirst

end GnnSandbox.Graph
