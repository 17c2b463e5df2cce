import GnnSandbox.Graph.LateRouters
import GnnSandbox.Graph.Converge
import GnnSandbox.Graph.Follows
import Mathlib.Data.List.Perm.Basic

/-!
# The order in which an infrastructure and its routers are synced

The two controllers are meant to fill in each other's gaps. An infrastructure that comes
before a router does not attach its interface to a link, and nothing attaches it later;
so the order matters as soon as a link ends at a router that is new. It also matters
where two of the resources write one subnet.
-/

namespace GnnSandbox.Graph

open Scd Effect

/-- Whatever the order, the syncs end with the same open rows, and each interface at an
end of a link whose bandwidth is known ends attached to it and with it as its speed. -/
structure OrderFree (env : Env) (w : World) (name : ResourceName) (spec : VyOSInfrastructure)
    (routers : List VyOSRouter) : Prop where
  rows : ∀ ops ops' : List Op, ops.Perm (syncsOf name spec routers) →
    ops'.Perm (syncsOf name spec routers) → ∀ n k,
      openRows (runFrom env w ops).db n k = openRows (runFrom env w ops').db n k
  speeds : ∀ ops : List Op, ops.Perm (syncsOf name spec routers) → ∀ r ∈ routers,
    ∀ iface ∈ r.spec.interfaces.getD [], Router.ifaceName iface ≠ "lo" →
      ∀ net ∈ spec.networks.getD [],
        Infrastructure.EndsAt net r.metadata.name (Router.ifaceName iface) →
        Infrastructure.KnowsBandwidth net →
          (runFrom env w ops).db.active .interfaceLink
            (.edge (Router.ifaceId r iface) (Infrastructure.linkId net)) ≠ [] ∧
          ∃ x ∈ openRows (runFrom env w ops).db .physicalInterface
            (.id (Router.ifaceId r iface)), x.speed = some (Infrastructure.bandwidth net)

/-- No link ends at a router whose row can be written, nor with a known bandwidth at an
interface of the other routers; no interface has the name of a network as its address;
and first interfaces with one address have one name, unless the subnet of the address is
already that of an interface. -/
structure Apart (env : Env) (db : Database) (spec : VyOSInfrastructure)
    (routers : List VyOSRouter) : Prop where
  links : NoLateLink env spec routers
  speeds : ∀ net ∈ spec.networks.getD [], Infrastructure.KnowsBandwidth net → ∀ r ∈ routers,
    ∀ iface ∈ r.spec.interfaces.getD [], Router.ifaceName iface ≠ "lo" →
      ¬Infrastructure.EndsAt net r.metadata.name (Router.ifaceName iface)
  networks : ∀ net ∈ spec.networks.getD [], ∀ r ∈ routers, Router.Syncs env r →
    Router.firstAt r net.name = none
  addresses : ∀ addr, (∃ x ∈ openRows db .logicalSubnet (.id ("subnet:" ++ addr)), OfInterface x) ∨
    ∀ r ∈ routers, ∀ r' ∈ routers, Router.Syncs env r → Router.Syncs env r' →
      ∀ iface ∈ Router.firstAt r addr, ∀ iface' ∈ Router.firstAt r' addr,
        Router.ifaceName iface = Router.ifaceName iface'

/-! ## Orders that make no difference -/

section Sufficient

variable {env : Env} {db : Database} {spec : VyOSInfrastructure} {routers : List VyOSRouter}
  {r r' : VyOSRouter} {n : TableName} {k : Key}

/-- The keys of a router's revisions. -/
theorem mem_router_plan {v : Revising} (hv : v ∈ Router.plan env Database.empty r) :
    Router.Syncs env r ∧
      ((v.n = .physicalRouter ∧ v.k = .id (Router.routerId r)) ∨
      (∃ iface, v.n = .physicalInterface ∧ v.k = .id (Router.ifaceId r iface)) ∨
      (∃ addr, v.n = .logicalSubnet ∧ v.k = .id ("subnet:" ++ addr) ∧
        (Router.firstAt r addr).isSome = true) ∨
      ∃ iface subnetId, v.n = .subnetAssociation ∧
        v.k = .edge (Router.ifaceId r iface) subnetId) := by
  obtain ⟨status, hs, h⟩ := Router.mem_plan.mp hv
  rcases h with ⟨row, hrow, rfl⟩ | ⟨hrow, hv⟩
  · exact ⟨⟨status, hs, by rw [hrow]; rfl⟩,
      Or.inl ⟨rfl, congrArg Key.id (Router.routerRow_id hrow).1⟩⟩
  · have hsome : (Router.routerRow env r status).isSome = true := by
      rcases hrow with hrow | hrow
      · exact hrow
      · cases hrow
    refine ⟨⟨status, hs, hsome⟩, Or.inr ?_⟩
    obtain ⟨iface, hiface, hv⟩ := List.mem_flatMap.mp hv
    rcases Router.mem_planInterface.mp hv with rfl | ⟨addr, haddr, rfl | rfl⟩
    · exact Or.inl ⟨iface, rfl, rfl⟩
    · refine Or.inr (Or.inl ⟨addr, rfl, rfl, ?_⟩)
      rw [Router.firstAt, List.find?_isSome]
      exact ⟨iface, hiface, by simpa using haddr⟩
    · exact Or.inr (Or.inr ⟨iface, _, rfl, rfl⟩)

/-- Ids of interfaces of different routers differ. -/
theorem ifaceId_ne (hne : r.metadata.name ≠ r'.metadata.name) (iface iface' : InterfaceSpec) :
    Router.ifaceId r iface ≠ Router.ifaceId r' iface' := fun h =>
  hne (Subtype.ext
    (interfaceId_inj r.metadata.name.property r'.metadata.name.property h).1)

/-- Routers of different names only meet in the subnets. -/
theorem router_plans_meet (hne : r.metadata.name ≠ r'.metadata.name) {v v' : Revising}
    (hv : v ∈ Router.plan env Database.empty r) (hv' : v' ∈ Router.plan env Database.empty r')
    (hn : v.n = v'.n) (hk : v.k = v'.k) : v.n = .logicalSubnet := by
  have hrouter : Router.routerId r ≠ Router.routerId r' := fun h =>
    hne (Subtype.ext (append_right_inj h))
  obtain ⟨-, ⟨h, hvk⟩ | ⟨iface, h, hvk⟩ | ⟨addr, h, -⟩ | ⟨iface, s, h, hvk⟩⟩ := mem_router_plan hv
  · obtain ⟨-, ⟨h', hvk'⟩ | ⟨iface', h', -⟩ | ⟨addr', h', -⟩ | ⟨iface', s', h', -⟩⟩ :=
      mem_router_plan hv'
    · rw [hvk, hvk'] at hk
      exact absurd (Key.id.inj hk) hrouter
    all_goals rw [h, h'] at hn; cases hn
  · obtain ⟨-, ⟨h', -⟩ | ⟨iface', h', hvk'⟩ | ⟨addr', h', -⟩ | ⟨iface', s', h', -⟩⟩ :=
      mem_router_plan hv'
    · rw [h, h'] at hn
      cases hn
    · rw [hvk, hvk'] at hk
      exact absurd (Key.id.inj hk) (ifaceId_ne hne iface iface')
    all_goals rw [h, h'] at hn; cases hn
  · exact h
  · obtain ⟨-, ⟨h', -⟩ | ⟨iface', h', -⟩ | ⟨addr', h', -⟩ | ⟨iface', s', h', hvk'⟩⟩ :=
      mem_router_plan hv'
    · rw [h, h'] at hn
      cases hn
    · rw [h, h'] at hn
      cases hn
    · rw [h, h'] at hn
      cases hn
    · rw [hvk, hvk'] at hk
      exact absurd (Key.edge.inj hk).1 (ifaceId_ne hne iface iface')

/-- The interfaces that an infrastructure finds are those of open routers. -/
theorem connectionId_eq (hdb : ∀ v ∈ db .physicalRouter, Written env .physicalRouter v.data)
    {conn : ConnectedRouter} {interfaceId : String}
    (h : Infrastructure.connectionId env db conn = some interfaceId) :
    ∃ (router : ResourceName) (iface : String),
      db.active .physicalRouter (.id ("router:" ++ router)) ≠ [] ∧
        interfaceId = "router:" ++ router ++ ":interface:" ++ iface := by
  simp only [Infrastructure.connectionId, Option.bind_eq_some_iff, Option.map_eq_some_iff] at h
  obtain ⟨routerName, -, interfaceName, -, routerId, hfound, rfl⟩ := h
  obtain ⟨hread, -⟩ := truthy_eq_some.mp hfound
  obtain ⟨v, hv, rfl⟩ := Option.map_eq_some_iff.mp hread
  have hmem := List.mem_of_getElem? hv
  rw [routersNamed_eq_active hdb] at hmem
  obtain ⟨hvdb, -, hkey⟩ := mem_active.mp hmem
  obtain ⟨r, status, -, hrow⟩ := hdb v hvdb
  obtain ⟨hid, -⟩ := Router.routerRow_id hrow
  have hname : routerName = r.metadata.name.val := by
    have hkey' : v.data.id = "router:" ++ routerName := Key.id.inj hkey
    exact append_right_inj (hkey'.symm.trans hid)
  refine ⟨r.metadata.name, interfaceName, ?_, by rw [hid]⟩
  rw [← hname]
  exact List.ne_nil_of_mem hmem

/-- The infrastructure meets a new router in a subnet only. -/
theorem infrastructure_meets (hdb : ∀ v ∈ db .physicalRouter, Written env .physicalRouter v.data)
    (hnew : db.active .physicalRouter (.id (Router.routerId r)) = []) {v v' : Revising}
    (hv : v ∈ Infrastructure.plan env db spec) (hv' : v' ∈ Router.plan env Database.empty r)
    (hn : v.n = v'.n) (hk : v.k = v'.k) :
    ∃ net ∈ spec.networks.getD [], (Router.firstAt r net.name).isSome = true := by
  obtain ⟨-, hkeys⟩ := mem_router_plan hv'
  rcases Infrastructure.mem_plan.mp hv with ⟨net, hnet, rfl⟩ | ⟨net, -, rfl⟩ |
    ⟨p, -, rfl⟩ | ⟨interfaceId, _, _, bw, ⟨⟨net, ⟨-, -, conn, -, hid⟩, -⟩, -⟩, -, rfl⟩
  · rcases hkeys with ⟨h, -⟩ | ⟨_, h, -⟩ | ⟨addr, -, hvk, hsome⟩ | ⟨_, _, h, -⟩
    · rw [h] at hn
      cases hn
    · rw [h] at hn
      cases hn
    · have heq : net.name = addr := append_right_inj (Key.id.inj (hk.trans hvk))
      exact ⟨net, hnet, heq ▸ hsome⟩
    · rw [h] at hn
      cases hn
  · rcases hkeys with ⟨h, -⟩ | ⟨_, h, -⟩ | ⟨_, h, -⟩ | ⟨_, _, h, -⟩ <;>
    · rw [h] at hn
      cases hn
  · rcases hkeys with ⟨h, -⟩ | ⟨_, h, -⟩ | ⟨_, h, -⟩ | ⟨_, _, h, -⟩ <;>
    · rw [h] at hn
      cases hn
  · rcases hkeys with ⟨h, -⟩ | ⟨iface, -, hvk⟩ | ⟨_, h, -⟩ | ⟨_, _, h, -⟩
    · rw [h] at hn
      cases hn
    · obtain ⟨router, i, hopen, rfl⟩ := connectionId_eq hdb hid
      have hsame := (interfaceId_inj router.property r.metadata.name.property
        (Key.id.inj (hk.trans hvk))).1
      rw [hsame] at hopen
      exact absurd hnew hopen
    · rw [h] at hn
      cases hn
    · rw [h] at hn
      cases hn

/-- One of the revisions is of this row. -/
def Touches (l : List Revising) (n : TableName) (k : Key) : Prop := ∃ v ∈ l, v.n = n ∧ v.k = k

theorem settle_of_not_touches {l : List Revising} (h : ¬Touches l n k) (s : Option (Row n)) :
    settle l n k s = s :=
  settle_of_untouched fun v hv hn hk => h ⟨v, hv, hn, hk⟩

/-- What a router makes of the subnet of an address. -/
theorem settle_router_subnet (hsyncs : Router.Syncs env r) (addr : String)
    (s : Option LogicalSubnet) :
    settle (Router.plan env Database.empty r) .logicalSubnet (.id ("subnet:" ++ addr)) s =
      (Router.firstAt r addr).elim s fun iface => keepOr s (Router.subnetRow addr iface) := by
  obtain ⟨status, hs, hrow⟩ := hsyncs
  obtain ⟨row, hrow⟩ := Option.isSome_iff_exists.mp hrow
  unfold Router.plan
  rw [hs]
  dsimp only
  rw [hrow]
  have hne : (Revising.upsert .physicalRouter row (Router.routerUnchanged env r status)).n ≠
      .logicalSubnet := by
    show TableName.physicalRouter ≠ .logicalSubnet
    decide
  have hhead := Revising.at'_of_table_ne hne (.id ("subnet:" ++ addr)) s
  show settle (Router.planInterfaces env Database.empty r status) .logicalSubnet
    (.id ("subnet:" ++ addr)) ((Revising.at' _ .logicalSubnet _ s).or s) = _
  rw [hhead, Option.none_or]
  exact settle_planInterfaces Database.empty status addr _ s

/-- The revisions of two routers commute, but for first interfaces of different names. -/
theorem router_plans_commute (hset : (routers.map fun r => r.metadata.name).Nodup)
    (hr : r ∈ routers) (hr' : r' ∈ routers)
    (haddr : ∀ addr, n = .logicalSubnet → k = .id ("subnet:" ++ addr) → Router.Syncs env r →
      Router.Syncs env r' → ∀ iface ∈ Router.firstAt r addr, ∀ iface' ∈ Router.firstAt r' addr,
        Router.ifaceName iface = Router.ifaceName iface') (s : Option (Row n)) :
    settle (Router.plan env Database.empty r') n k
        (settle (Router.plan env Database.empty r) n k s) =
      settle (Router.plan env Database.empty r) n k
        (settle (Router.plan env Database.empty r') n k s) := by
  by_cases hsame : r = r'
  · rw [hsame]
  have hne : r.metadata.name ≠ r'.metadata.name := fun h =>
    hsame (List.inj_on_of_nodup_map hset hr hr' h)
  by_cases hv : Touches (Router.plan env Database.empty r) n k
  · by_cases hv' : Touches (Router.plan env Database.empty r') n k
    · obtain ⟨v, hv, rfl, rfl⟩ := hv
      obtain ⟨v', hv', hn, hk⟩ := hv'
      have hsubnet := router_plans_meet hne hv hv' hn.symm hk.symm
      obtain ⟨hsyncs, hkeys⟩ := mem_router_plan hv
      obtain ⟨hsyncs', -⟩ := mem_router_plan hv'
      obtain ⟨w, k, next⟩ := v
      dsimp only at hsubnet
      subst hsubnet
      rcases hkeys with ⟨h, -⟩ | ⟨_, h, -⟩ | ⟨addr, -, rfl, -⟩ | ⟨_, _, h, -⟩
      · cases h
      · cases h
      · dsimp only at s haddr ⊢
        rw [settle_router_subnet hsyncs, settle_router_subnet hsyncs',
          settle_router_subnet hsyncs', settle_router_subnet hsyncs]
        cases hfirst : Router.firstAt r addr with
        | none => rfl
        | some iface =>
          cases hfirst' : Router.firstAt r' addr with
          | none => rfl
          | some iface' =>
            have hname := haddr addr rfl rfl hsyncs hsyncs' iface hfirst iface' hfirst'
            have hrow : Router.subnetRow addr iface' = Router.subnetRow addr iface := by
              unfold Router.subnetRow
              rw [hname]
            simp only [Option.elim_some, hrow]
      · cases h
    · rw [settle_of_not_touches hv', settle_of_not_touches hv']
  · rw [settle_of_not_touches hv, settle_of_not_touches hv]

theorem foldl_eq_self_of_fixed {α β : Type} {f : α → β → α} {a : α} {l : List β}
    (h : ∀ b ∈ l, f a b = a) : l.foldl f a = a := by
  induction l with
  | nil => rfl
  | cons b l ih =>
    rw [List.foldl_cons, h b List.mem_cons_self]
    exact ih fun b' hb' => h b' (List.mem_cons_of_mem _ hb')

/-- A subnet of an interface is one that no router replaces. -/
theorem settle_router_of_ofInterface {addr : String} {x : LogicalSubnet} (hx : OfInterface x) :
    settle (Router.plan env Database.empty r) .logicalSubnet (.id ("subnet:" ++ addr)) (some x) =
      some x := by
  by_cases hsyncs : Router.Syncs env r
  · rw [settle_router_subnet hsyncs]
    cases Router.firstAt r addr with
    | none => rfl
    | some iface =>
      have hany : (some x).any (fun x => decide (OfInterface x)) = true := by
        rw [Option.any_some, decide_eq_true_eq]
        exact hx
      exact keepOr_of_any hany _
  · exact settle_of_untouched fun v hv _ _ => hsyncs (mem_router_plan hv).1

/-- Where the infrastructure revises a key no new router does. -/
theorem Apart.not_touches (h : Apart env db spec routers)
    (hwritten : ∀ v ∈ db .physicalRouter, Written env .physicalRouter v.data)
    (hnew : Unsynced db routers) (ht : Touches (Infrastructure.plan env db spec) n k)
    (hr : r ∈ routers) : ¬Touches (Router.plan env Database.empty r) n k := by
  rintro ⟨v', hv', hn', hk'⟩
  obtain ⟨v, hv, hn, hk⟩ := ht
  obtain ⟨net, hnet, hsome⟩ := infrastructure_meets hwritten (hnew.rows r hr) hv hv'
    (hn.trans hn'.symm) (hk.trans hk'.symm)
  rw [h.networks net hnet r hr (mem_router_plan hv').1] at hsome
  cases hsome

/-- Where the infrastructure revises the key, or the subnet is not yet that of an interface,
the syncs commute. -/
theorem Apart.settle_comm (h : Apart env db spec routers)
    (hwritten : ∀ v ∈ db .physicalRouter, Written env .physicalRouter v.data)
    (hnew : Unsynced db routers) (hset : (routers.map fun r => r.metadata.name).Nodup)
    (hfree : Touches (Infrastructure.plan env db spec) n k ∨
      ∀ addr, n = .logicalSubnet → k = .id ("subnet:" ++ addr) →
        ¬∃ x ∈ openRows db .logicalSubnet (.id ("subnet:" ++ addr)), OfInterface x)
    {name : ResourceName} {op op' : Op} (hop : op ∈ syncsOf name spec routers)
    (hop' : op' ∈ syncsOf name spec routers) (s : Option (Row n)) :
    settle (lateRevisions env db op') n k (settle (lateRevisions env db op) n k s) =
      settle (lateRevisions env db op) n k (settle (lateRevisions env db op') n k s) := by
  have hwith : ∀ r ∈ routers, ∀ s : Option (Row n),
      settle (Router.plan env Database.empty r) n k
          (settle (Infrastructure.plan env db spec) n k s) =
        settle (Infrastructure.plan env db spec) n k
          (settle (Router.plan env Database.empty r) n k s) := by
    intro r hr s
    by_cases ht : Touches (Infrastructure.plan env db spec) n k
    · have hnot := h.not_touches hwritten hnew ht hr
      rw [settle_of_not_touches hnot, settle_of_not_touches hnot]
    · rw [settle_of_not_touches ht, settle_of_not_touches ht]
  rcases List.mem_cons.mp hop with rfl | hop
  · rcases List.mem_cons.mp hop' with rfl | hop'
    · rfl
    · obtain ⟨r, hr, rfl⟩ := List.mem_map.mp hop'
      exact hwith r hr s
  · obtain ⟨r, hr, rfl⟩ := List.mem_map.mp hop
    rcases List.mem_cons.mp hop' with rfl | hop'
    · exact (hwith r hr s).symm
    · obtain ⟨r', hr', rfl⟩ := List.mem_map.mp hop'
      rcases hfree with ht | hfree
      · have hnot := h.not_touches hwritten hnew ht hr
        show settle (Router.plan env Database.empty r') n k
          (settle (Router.plan env Database.empty r) n k s) = _
        rw [settle_of_not_touches hnot]
        exact (settle_of_not_touches hnot _).symm
      · refine router_plans_commute hset hr hr' (fun addr hn hk hsyncs hsyncs' => ?_) s
        rcases h.addresses addr with hof | hnames
        · exact absurd hof (hfree addr hn hk)
        · exact hnames r hr r' hr' hsyncs hsyncs'

/-- **The revisions end alike in every order.** -/
theorem Apart.foldl_eq (h : Apart env db spec routers) (hdb : Single db)
    (hwritten : ∀ v ∈ db .physicalRouter, Written env .physicalRouter v.data)
    (hnew : Unsynced db routers) (hset : (routers.map fun r => r.metadata.name).Nodup)
    {name : ResourceName} {ops ops' : List Op} (hops : ops.Perm (syncsOf name spec routers))
    (hops' : ops'.Perm (syncsOf name spec routers)) (n : TableName) (k : Key) :
    ops.foldl (fun s op => settle (lateRevisions env db op) n k s) (openRow db n k) =
      ops'.foldl (fun s op => settle (lateRevisions env db op) n k s) (openRow db n k) := by
  have hcomm (hfree : Touches (Infrastructure.plan env db spec) n k ∨
      ∀ addr, n = .logicalSubnet → k = .id ("subnet:" ++ addr) →
        ¬∃ x ∈ openRows db .logicalSubnet (.id ("subnet:" ++ addr)), OfInterface x) :
      ops.foldl (fun s op => settle (lateRevisions env db op) n k s) (openRow db n k) =
        ops'.foldl (fun s op => settle (lateRevisions env db op) n k s) (openRow db n k) := by
    refine (hops.trans hops'.symm).foldl_eq' (fun op hop op' hop' s => ?_) _
    exact h.settle_comm hwritten hnew hset hfree (hops.mem_iff.mp hop) (hops.mem_iff.mp hop') s
  by_cases ht : Touches (Infrastructure.plan env db spec) n k
  · exact hcomm (Or.inl ht)
  by_cases hfix : n = .logicalSubnet ∧ ∃ addr, k = .id ("subnet:" ++ addr) ∧
      ∃ x ∈ openRows db .logicalSubnet (.id ("subnet:" ++ addr)), OfInterface x
  · -- the subnet of an interface stays through all the syncs
    obtain ⟨rfl, addr, rfl, x, hx, hof⟩ := hfix
    have hopen : openRow db .logicalSubnet (.id ("subnet:" ++ addr)) = some x :=
      openRow_of_mem hdb hx
    have hall : ∀ ops : List Op, ops.Perm (syncsOf name spec routers) → ops.foldl (fun s op =>
        settle (lateRevisions env db op) .logicalSubnet (.id ("subnet:" ++ addr)) s) (some x) =
          some x := by
      intro ops hops
      refine foldl_eq_self_of_fixed fun op hop => ?_
      rcases List.mem_cons.mp (hops.mem_iff.mp hop) with rfl | hop
      · exact settle_of_not_touches ht _
      · obtain ⟨r, -, rfl⟩ := List.mem_map.mp hop
        exact settle_router_of_ofInterface hof
    rw [hopen, hall ops hops, hall ops' hops']
  · exact hcomm (Or.inr fun addr hn hk hof => hfix ⟨hn, addr, hk, hof⟩)

/-- **Apart is enough**: whatever the order, the same rows are open. -/
theorem Apart.orderFree {ops₀ : List Op} (hok : env.Reliable)
    (hnew : Unsynced (run env ops₀).db routers)
    (hset : (routers.map fun r => r.metadata.name).Nodup)
    (h : Apart env (run env ops₀).db spec routers) (name : ResourceName) :
    OrderFree env (run env ops₀) name spec routers := by
  have hkept := lateKept_of_unsynced hok ops₀ hnew spec
  have hwritten := hkept.sound.written .physicalRouter
  have hrun (ops : List Op) (hops : ops.Perm (syncsOf name spec routers)) :=
    hkept.run hok hwritten h.links hset fun op hop => hops.mem_iff.mp hop
  constructor
  · intro ops ops' hops hops' n k
    obtain ⟨hafter, hrows⟩ := hrun ops hops
    obtain ⟨hafter', hrows'⟩ := hrun ops' hops'
    rw [openRows_eq hafter.single, openRows_eq hafter'.single, hrows, hrows',
      h.foldl_eq hkept.single hwritten hnew hset hops hops']
  · intro ops _ r hr iface hiface hlo net hnet hends hknown
    exact absurd hends (h.speeds net hnet hknown r hr iface hiface hlo)

end Sufficient

end GnnSandbox.Graph
