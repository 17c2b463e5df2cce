import GnnSandbox.Graph.Current.Op
import GnnSandbox.Graph.Frame

/-!
# What stays open

The syncs of an infrastructure, of routers and of a VPN only go through what the resource
lists, and close nothing that it no longer lists. So what is open is everything that any
spec synced so far has listed, whether a later one still does or not.
-/

namespace GnnSandbox.Graph

open Scd Effect

namespace Op

/-- The keys that a resource lists, by the state of the store before its sync. -/
def Derives (db : Database) : Op → TableName → Key → Prop
  | syncInfrastructure _ spec, .logicalSubnet, k =>
    ∃ net ∈ spec.networks.getD [], .id (Infrastructure.subnetId net) = k
  | syncInfrastructure _ spec, .physicalLink, k =>
    ∃ net ∈ spec.networks.getD [], 2 ≤ (Infrastructure.connectedRouters net).length ∧
      .id (Infrastructure.linkId net) = k
  | syncInfrastructure _ spec, .interfaceLink, k =>
    ∃ net ∈ spec.networks.getD [], ∃ conn ∈ Infrastructure.linkedRouters net,
      ∃ interfaceId, Infrastructure.attachment db conn = some interfaceId ∧
        .edge interfaceId (Infrastructure.linkId net) = k
  | syncRouter r, .physicalRouter, k =>
    (Router.routerStatus r).isSome ∧ .id (Router.routerId r) = k
  | syncRouter r, .physicalInterface, k =>
    (Router.routerStatus r).isSome ∧
      ∃ iface ∈ r.spec.interfaces.getD [], .id (Router.ifaceId r iface) = k
  | syncRouter r, .logicalSubnet, k =>
    (Router.routerStatus r).isSome ∧ ∃ iface ∈ r.spec.interfaces.getD [],
      ∃ addr ∈ Router.addrCidr iface, .id ("subnet:" ++ addr) = k
  | syncRouter r, .subnetAssociation, k =>
    (Router.routerStatus r).isSome ∧ ∃ iface ∈ r.spec.interfaces.getD [],
      ∃ addr ∈ Router.addrCidr iface, .edge (Router.ifaceId r iface) ("subnet:" ++ addr) = k
  | syncL3vpn v, .l3vpnService, k =>
    (L3vpn.l3vpnStatus v).isSome ∧ ∃ svc ∈ v.spec.services.getD [], .id (L3vpn.vpnId svc.name) = k
  | syncL3vpn v, .vrf, k =>
    (L3vpn.l3vpnStatus v).isSome ∧ ∃ router ∈ v.spec.routers.getD [],
      ∃ routerName ∈ truthy router.name, Infrastructure.routersNamed routerName db ≠ [] ∧
        ∃ vrfName vrf, L3vpn.HasVrf router vrfName vrf ∧
          .id (L3vpn.vrfId routerName vrfName) = k
  | syncL3vpn v, .bgpSession, k =>
    (L3vpn.l3vpnStatus v).isSome ∧ ∃ router ∈ v.spec.routers.getD [],
      ∃ routerName ∈ truthy router.name, Infrastructure.routersNamed routerName db ≠ [] ∧
        ∃ vrfName vrf, L3vpn.HasVrf router vrfName vrf ∧
          ∃ neighbor ∈ L3vpn.bgpNeighbors router vrfName, ∃ ip ∈ L3vpn.peerIp neighbor,
            .id (L3vpn.bgpId routerName vrfName ip) = k
  | _, _, _ => False

/-- A sync of an infrastructure, of a router or of a VPN. -/
def isTopology : Op → Bool
  | syncInfrastructure .. | syncRouter _ | syncL3vpn _ => true
  | _ => false

theorem isSync_of_isTopology {op : Op} (h : op.isTopology = true) : op.isSync = true := by
  cases op with
  | syncInfrastructure | syncRouter | syncL3vpn => rfl
  | _ => cases h

variable {env : Env} {db : Database} {n : TableName} {k : Key}

/-! ## What is listed is computed -/

theorem isSome_findSome?_reverse {α β : Type} {f : α → Option β} {l : List α} {a : α}
    (ha : a ∈ l) (h : (f a).isSome) : (l.reverse.findSome? f).isSome := by
  rw [List.findSome?_isSome_iff]
  exact ⟨a, List.mem_reverse.mpr ha, h⟩

theorem Derives.computed_infrastructure {name : ResourceName} {spec : VyOSInfrastructure}
    (h : Derives db (syncInfrastructure name spec) n k) :
    (Infrastructure.computed env db spec n k).isSome := by
  cases n with
  | logicalSubnet =>
    obtain ⟨net, hnet, hk⟩ := h
    refine isSome_findSome?_reverse hnet ?_
    show (if _ then _ else _ : Option _).isSome
    rw [if_pos hk]
    rfl
  | physicalLink =>
    obtain ⟨net, hnet, htwo, hk⟩ := h
    refine isSome_findSome?_reverse hnet ?_
    show (if _ then _ else _ : Option _).isSome
    rw [if_pos ⟨htwo, hk⟩]
    rfl
  | interfaceLink =>
    obtain ⟨net, hnet, conn, hconn, interfaceId, hattach, hk⟩ := h
    refine isSome_findSome?_reverse hnet (isSome_findSome?_reverse hconn ?_)
    rw [hattach, Option.bind_some, if_pos hk]
    rfl
  | _ => exact h.elim

theorem Derives.computed_router {r : VyOSRouter} (h : Derives db (syncRouter r) n k) :
    (Router.computed env db r n k).isSome := by
  unfold Router.computed
  cases n with
  | physicalRouter =>
    obtain ⟨hs, hk⟩ := h
    obtain ⟨status, hs⟩ := Option.isSome_iff_exists.mp hs
    rw [hs, Option.bind_some, if_pos hk]
    rfl
  | physicalInterface =>
    obtain ⟨hs, iface, hi, hk⟩ := h
    obtain ⟨status, hs⟩ := Option.isSome_iff_exists.mp hs
    rw [hs, Option.bind_some]
    refine isSome_findSome?_reverse hi ?_
    show (if _ then _ else _ : Option _).isSome
    rw [if_pos hk]
    rfl
  | logicalSubnet | subnetAssociation =>
    obtain ⟨hs, iface, hi, addr, haddr, hk⟩ := h
    obtain ⟨status, hs⟩ := Option.isSome_iff_exists.mp hs
    rw [hs, Option.bind_some]
    refine isSome_findSome?_reverse hi ?_
    unfold Router.computedInterface
    dsimp only
    rw [Option.mem_def.mp haddr, Option.bind_some, if_pos hk]
    rfl
  | _ => exact h.elim

theorem Derives.computed_l3vpn {v : VyOSL3VPN} (h : Derives db (syncL3vpn v) n k) :
    (L3vpn.computed env db v n k).isSome := by
  unfold L3vpn.computed
  cases n with
  | l3vpnService =>
    obtain ⟨hs, svc, hsvc, hk⟩ := h
    obtain ⟨status, hs⟩ := Option.isSome_iff_exists.mp hs
    rw [hs, Option.bind_some]
    refine isSome_findSome?_reverse hsvc ?_
    rw [if_pos hk]
    rfl
  | vrf =>
    obtain ⟨hs, router, hrouter, routerName, hname, hne, vrfName, vrf, ⟨hvrf, hvrfName⟩, hk⟩ := h
    obtain ⟨status, hs⟩ := Option.isSome_iff_exists.mp hs
    rw [hs, Option.bind_some]
    refine isSome_findSome?_reverse hrouter ?_
    unfold L3vpn.computedPeRouter
    rw [Option.mem_def.mp hname, Option.bind_some, if_neg (by simpa using hne)]
    refine isSome_findSome?_reverse hvrf ?_
    rw [hvrfName, Option.bind_some]
    show (if _ then _ else _ : Option _).isSome
    rw [if_pos hk]
    rfl
  | bgpSession =>
    obtain ⟨hs, router, hrouter, routerName, hname, hne, vrfName, vrf, ⟨hvrf, hvrfName⟩, neighbor,
      hneighbor, ip, hip, hk⟩ := h
    obtain ⟨status, hs⟩ := Option.isSome_iff_exists.mp hs
    rw [hs, Option.bind_some]
    refine isSome_findSome?_reverse hrouter ?_
    unfold L3vpn.computedPeRouter
    rw [Option.mem_def.mp hname, Option.bind_some, if_neg (by simpa using hne)]
    refine isSome_findSome?_reverse hvrf ?_
    rw [hvrfName, Option.bind_some]
    refine isSome_findSome?_reverse hneighbor ?_
    rw [Option.mem_def.mp hip, Option.bind_some, if_pos hk]
    rfl
  | _ => exact h.elim

/-- A sync computes something for each key that its resource lists. -/
theorem Derives.computed {op : Op} (h : op.Derives db n k) (env : Env) :
    (op.computed env db n k).isSome := by
  cases op with
  | syncInfrastructure name spec => exact computed_infrastructure h
  | syncRouter r => exact computed_router h
  | syncL3vpn v => exact computed_l3vpn h
  | _ => exact h.elim

/-! ## What is inserted is listed -/

theorem attachment_of_attaches {conn : ConnectedRouter} {interfaceId : String}
    (hw : ∀ v ∈ db .physicalRouter, Written env .physicalRouter v.data)
    (h : Infrastructure.Attaches db conn interfaceId) :
    Infrastructure.attachment db conn = some interfaceId := by
  obtain ⟨routerName, interfaceName, hrouter, hiface, v, hv, rfl⟩ := h
  have hne : ¬(Infrastructure.routersNamed routerName db).isEmpty = true := by
    rw [List.isEmpty_iff]
    exact List.ne_nil_of_mem hv
  simp only [Infrastructure.routersNamed, List.mem_filter, Bool.and_eq_true,
    decide_eq_true_eq] at hv
  obtain ⟨r, status, -, hrow⟩ := hw v hv.1
  obtain ⟨hid, hname⟩ := Router.routerRow_id hrow
  unfold Infrastructure.attachment
  rw [hrouter, hiface]
  dsimp only
  rw [if_neg hne, hid, ← hname, hv.2.2]

/-- A row that adds a key is one of a key that the resource lists. -/
theorem Inserts.derives {op : Op} {x : Row n} (htop : op.isTopology = true)
    (hw : ∀ v ∈ db .physicalRouter, Written env .physicalRouter v.data)
    (h : op.Inserts env db n none x) : op.Derives db n x.key := by
  cases op with
  | syncInfrastructure name spec =>
    obtain ⟨net, hnet, h⟩ := h
    cases n with
    | logicalSubnet => cases h; exact ⟨net, hnet, rfl⟩
    | physicalLink => obtain ⟨htwo, rfl⟩ := h; exact ⟨net, hnet, htwo, rfl⟩
    | interfaceLink =>
      obtain ⟨htwo, conn, hconn, interfaceId, hattach, rfl⟩ := h
      refine ⟨net, hnet, conn, ?_, interfaceId, attachment_of_attaches hw hattach, rfl⟩
      rw [Infrastructure.linkedRouters, if_pos htwo]
      exact hconn
    | physicalInterface =>
      obtain ⟨-, interfaceId, old, hold, -⟩ := h
      cases hold
    | _ => exact h.2.elim
  | syncRouter r =>
    cases n with
    | physicalRouter =>
      obtain ⟨status, hs, hrow⟩ := h
      exact ⟨Option.isSome_of_mem hs, congrArg Key.id (Router.routerRow_id hrow).1.symm⟩
    | physicalInterface =>
      obtain ⟨status, hs, iface, hi, speed, rfl⟩ := h
      exact ⟨Option.isSome_of_mem hs, iface, hi, rfl⟩
    | logicalSubnet | subnetAssociation =>
      obtain ⟨hs, iface, hi, addr, haddr, rfl⟩ := h
      exact ⟨hs, iface, hi, addr, haddr, rfl⟩
    | _ => exact h.elim
  | syncL3vpn v =>
    cases n with
    | l3vpnService =>
      obtain ⟨status, hs, svc, hsvc, rfl⟩ := h
      exact ⟨Option.isSome_of_mem hs, svc, hsvc, rfl⟩
    | vrf =>
      obtain ⟨status, hs, router, hrouter, routerName, hname, u, hu, vrfName, vrf, hvrf, rfl⟩ := h
      exact ⟨Option.isSome_of_mem hs, router, hrouter, routerName, hname, List.ne_nil_of_mem hu,
        vrfName, vrf, hvrf, rfl⟩
    | bgpSession =>
      obtain ⟨status, hs, router, hrouter, routerName, hname, u, hu, vrfName, vrf, hvrf, neighbor,
        hneighbor, ip, hip, rfl⟩ := h
      exact ⟨Option.isSome_of_mem hs, router, hrouter, routerName, hname, List.ne_nil_of_mem hu,
        vrfName, vrf, hvrf, neighbor, hneighbor, ip, hip, rfl⟩
    | _ =>
      obtain ⟨_, _, _, _, _, _, _, _, h⟩ := h
      exact h.elim
  | _ => cases htop

/-- What a resource lists depends on the routers in the store, which other syncs leave alone. -/
theorem Derives.congr {op : Op} {db' : Database} (h : op.Derives db' n k)
    (hrouters : (∃ r, op = syncRouter r) ∨ db' .physicalRouter = db .physicalRouter) :
    op.Derives db n k := by
  rcases hrouters with ⟨r, rfl⟩ | hrouters
  · cases n <;> exact h
  · cases op with
    | syncInfrastructure name spec =>
      cases n with
      | interfaceLink =>
        obtain ⟨net, hnet, conn, hconn, interfaceId, hattach, hk⟩ := h
        rw [Infrastructure.attachment_congr hrouters] at hattach
        exact ⟨net, hnet, conn, hconn, interfaceId, hattach, hk⟩
      | _ => exact h
    | syncL3vpn v =>
      have hnamed : ∀ name, Infrastructure.routersNamed name db' =
          Infrastructure.routersNamed name db := fun name => by
        rw [Infrastructure.routersNamed, hrouters, Infrastructure.routersNamed]
      cases n with
      | vrf =>
        obtain ⟨hs, router, hrouter, routerName, hname, hne, hrest⟩ := h
        rw [hnamed] at hne
        exact ⟨hs, router, hrouter, routerName, hname, hne, hrest⟩
      | bgpSession =>
        obtain ⟨hs, router, hrouter, routerName, hname, hne, hrest⟩ := h
        rw [hnamed] at hne
        exact ⟨hs, router, hrouter, routerName, hname, hne, hrest⟩
      | _ => exact h
    | _ => cases n <;> exact h

/-- Only the sync of a router writes routers. -/
theorem routers_eq_of_calls {op : Op} {w w' : World} (htop : op.isTopology = true)
    (h : Calls env (Revises (op.Inserts env)) w w') :
    (∃ r, op = syncRouter r) ∨ w'.db .physicalRouter = w.db .physicalRouter := by
  cases op with
  | syncRouter r => exact Or.inl ⟨r, rfl⟩
  | syncInfrastructure name spec =>
    exact Or.inr (h.table_eq fun _ _ _ ⟨_, _, hx⟩ => hx.2)
  | syncL3vpn v =>
    refine Or.inr (h.table_eq ?_)
    rintro db row x ⟨_, _, _, _, _, _, _, _, hx⟩
    exact hx
  | _ => cases htop

/-- After a sync exactly what was open and what its resource lists is open. -/
theorem active_ne_nil_iff {op : Op} {w : World} (hw : Sound env w) (htop : op.isTopology = true)
    (hrows : op.Computes env) :
    (after (op.exec env) w).db.active n k ≠ [] ↔
      w.db.active n k ≠ [] ∨ op.Derives w.db n k := by
  have hc : Calls env (Revises (op.Inserts env)) w (after (op.exec env) w) :=
    respects_of_isSync env (isSync_of_isTopology htop) w
  constructor
  · intro hk
    rcases hc.key_of_active hk with hk | ⟨v, hv, x, hx, rfl⟩
    · exact Or.inl hk
    · have hwritten := hw.written.calls (hv.imp fun _ _ _ hr => hr.writes.steps)
      exact Or.inr ((Inserts.derives htop (hwritten .physicalRouter) hx).congr
        (routers_eq_of_calls htop hv))
  · rintro (hk | hk)
    · exact hc.active_ne_nil hk
    · obtain ⟨P, hP⟩ := Option.isSome_iff_exists.mp (hk.computed env)
      exact (settles_computed hw hrows hP).ne_nil

end Op

/-! ## Runs -/

/-- **What is open is what was ever listed.** In every run of syncs of infrastructures,
routers and VPNs all of whose calls commit, a key is open exactly when one of the specs
synced so far listed it. -/
theorem open_iff_listed (env : Env) (hok : env.Reliable) (ops : List Op)
    (htop : ∀ op ∈ ops, op.isTopology = true) (hrows : ∀ op ∈ ops, op.Computes env)
    (n : TableName) (k : Key) :
    (run env ops).db.active n k ≠ [] ↔
      ∃ pre op post, ops = pre ++ op :: post ∧ op.Derives (run env pre).db n k := by
  induction ops using List.reverseRecOn with
  | nil => simp [run, World.empty, Database.empty, Database.active]
  | append_singleton ops op ih =>
    have hsound : Sound env (run env ops) := sound_run fun i _ => hok i
    have hstep : run env (ops ++ [op]) = after (op.exec env) (run env ops) := run_append env ops [op]
    rw [hstep, Op.active_ne_nil_iff hsound (htop op (by simp)) (hrows op (by simp)),
      ih (fun op' hop' => htop op' (by simp [hop'])) fun op' hop' => hrows op' (by simp [hop'])]
    constructor
    · rintro (⟨pre, op', post, rfl, hder⟩ | hder)
      · exact ⟨pre, op', post ++ [op], by simp, hder⟩
      · exact ⟨ops, op, [], rfl, hder⟩
    · rintro ⟨pre, op', post, hops, hder⟩
      rcases List.eq_nil_or_concat post with rfl | ⟨post, last, rfl⟩
      · obtain ⟨rfl, hop⟩ := List.append_inj' hops rfl
        cases hop
        exact Or.inr hder
      · have hsplit : ops ++ [op] = (pre ++ op' :: post) ++ [last] := by
          rw [hops]
          simp
        obtain ⟨rfl, -⟩ := List.append_inj' hsplit rfl
        exact Or.inl ⟨pre, op', post, rfl, hder⟩

/-- What is open is what the latest spec of each resource lists. -/
def FollowsLatest (env : Env) (ops : List Op) : Prop :=
  ∀ n k, (run env ops).db.active n k ≠ [] ↔ ∃ pre op post, ops = pre ++ op :: post ∧
    (∀ op' ∈ post, op'.resource ≠ op.resource) ∧ op.Derives (run env pre).db n k

/-- The theorem for a network that is taken out of its infrastructure. -/
theorem open_iff_listed_sample :
    (run Env.plain [.syncInfrastructure Sample.core Sample.isolated,
        .syncInfrastructure Sample.core ⟨some []⟩]).db.active .logicalSubnet
      (.id "subnet:core") ≠ [] := by
  refine (open_iff_listed Env.plain (fun _ => rfl) _ ?_ ?_ .logicalSubnet (.id "subnet:core")).mpr
    ⟨[], _, _, rfl, _, List.mem_singleton_self _, rfl⟩
  · decide
  · intro op hop
    simp only [List.mem_cons, List.not_mem_nil, or_false] at hop
    rcases hop with rfl | rfl <;> trivial

/-- The subnet of a network that is taken out of its infrastructure stays open. -/
theorem removed_network_stays_open :
    ¬FollowsLatest Env.plain [.syncInfrastructure Sample.core Sample.isolated,
      .syncInfrastructure Sample.core ⟨some []⟩] := by
  intro h
  obtain ⟨pre, op, post, hops, hlatest, hder⟩ := (h .logicalSubnet (.id "subnet:core")).mp (by decide)
  match pre with
  | [] =>
    cases hops
    exact hlatest _ (List.mem_singleton_self _) rfl
  | [_] =>
    cases hops
    obtain ⟨net, hnet, -⟩ := hder
    cases hnet
  | _ :: _ :: _ => simp at hops

end GnnSandbox.Graph
