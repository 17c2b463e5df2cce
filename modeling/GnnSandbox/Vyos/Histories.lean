import GnnSandbox.Lib.Transition
import GnnSandbox.Vyos.WellFormed

/-!
# Scripts over the history of a network

The names of VRFs stand in four places of the spec of a router, which the handlers of the three
layers change on their own. Each of them keeps the references closed under a condition on what it
is given and on what it finds.

1. `Protocols.CompletedBy`: a patch of the protocols leaves no variable undefined.
2. `closed_infrastructure`, `closed_underlay`, `closed_vpn`, `closed_deleteVpn`: one step.
3. `scripts_wellFormed`: in a run of such steps every script is well formed.
-/

namespace GnnSandbox.Vyos

open MergePatch Overwrite Transition

/-! ## Protocols -/

namespace Protocols

/-- `protocols.static.routes` -/
def routes (p : Protocols) : List Route := (p.static.bind Static.routes).getD []

/-- `protocols.mpls.ldp.router_id` -/
def ldpRouterId (p : Protocols) : Option String := (p.mpls.bind Mpls.ldp).bind Ldp.routerId

/-- The variables of the protocols that the template reads without a default are defined. -/
structure Complete (p : Protocols) : Prop where
  ospf : p.ospf.isSome = true → (p.ospf.bind Ospf.routerId).isSome = true
  bgp : p.bgp.isSome = true →
    (p.bgp.bind Bgp.asNumber).isSome = true ∧ (p.bgp.bind Bgp.routerId).isSome = true
  mpls : (p.mpls.bind Mpls.enabled).getD false = true → p.ldpRouterId.isSome = true

/-- A patch gives the identifiers that the protocols lack. -/
structure CompletedBy (p q : Protocols) : Prop where
  ospf : q.ospf.isSome = true →
    ((q.ospf.bind Ospf.routerId).or (p.ospf.bind Ospf.routerId)).isSome = true
  bgp : q.bgp.isSome = true →
    ((q.bgp.bind Bgp.asNumber).or (p.bgp.bind Bgp.asNumber)).isSome = true ∧
      ((q.bgp.bind Bgp.routerId).or (p.bgp.bind Bgp.routerId)).isSome = true
  mpls : q.mpls.isSome = true →
    ((q.mpls.bind Mpls.enabled).or (p.mpls.bind Mpls.enabled)).getD false = true →
      (q.ldpRouterId.or p.ldpRouterId).isSome = true

variable {p q : Protocols}

theorem routes_merge (p q : Protocols) :
    (Record.merge p q).routes = (q.static.bind Static.routes).getD p.routes := by
  change ((object p.static q.static).bind Static.routes).getD [] = _
  rw [bind_object _ _ rfl fun _ _ => rfl, getD_value]
  rfl

theorem ospfRouterId_merge (p q : Protocols) : (Record.merge p q).ospf.bind Ospf.routerId =
    (q.ospf.bind Ospf.routerId).or (p.ospf.bind Ospf.routerId) :=
  bind_object _ _ rfl fun _ _ => rfl

theorem asNumber_merge (p q : Protocols) : (Record.merge p q).bgp.bind Bgp.asNumber =
    (q.bgp.bind Bgp.asNumber).or (p.bgp.bind Bgp.asNumber) :=
  bind_object _ _ rfl fun _ _ => rfl

theorem bgpRouterId_merge (p q : Protocols) : (Record.merge p q).bgp.bind Bgp.routerId =
    (q.bgp.bind Bgp.routerId).or (p.bgp.bind Bgp.routerId) :=
  bind_object _ _ rfl fun _ _ => rfl

theorem mplsEnabled_merge (p q : Protocols) : (Record.merge p q).mpls.bind Mpls.enabled =
    (q.mpls.bind Mpls.enabled).or (p.mpls.bind Mpls.enabled) :=
  bind_object _ _ rfl fun _ _ => rfl

theorem ldp_object (t p : Option Mpls) :
    (object t p).bind Mpls.ldp = object (t.bind Mpls.ldp) (p.bind Mpls.ldp) := by
  cases p with
  | none => rfl
  | some p => cases t <;> simp [object, Record.merge, Record.empty]

theorem ldpRouterId_merge (p q : Protocols) :
    (Record.merge p q).ldpRouterId = q.ldpRouterId.or p.ldpRouterId := by
  change ((object p.mpls q.mpls).bind Mpls.ldp).bind Ldp.routerId = _
  rw [ldp_object]
  exact bind_object _ _ rfl fun _ _ => rfl

/-- A record that may be absent is there after a patch if it was, or is in the patch. -/
theorem object_cases {α : Type} [Record α] (t p : Option α) :
    p = none ∧ object t p = t ∨ p.isSome = true := by
  cases p with
  | none => exact .inl ⟨rfl, rfl⟩
  | some p => exact .inr rfl

theorem complete_merge (hp : p.Complete) (h : p.CompletedBy q) :
    (Record.merge p q).Complete where
  ospf := by
    intro hsome
    rcases object_cases p.ospf q.ospf with ⟨-, hkept⟩ | hq
    · change (object p.ospf q.ospf).isSome = true at hsome
      change ((object p.ospf q.ospf).bind _).isSome = true
      rw [hkept] at hsome ⊢
      exact hp.ospf hsome
    · rw [ospfRouterId_merge]
      exact h.ospf hq
  bgp := by
    intro hsome
    rcases object_cases p.bgp q.bgp with ⟨-, hkept⟩ | hq
    · change (object p.bgp q.bgp).isSome = true at hsome
      change ((object p.bgp q.bgp).bind _).isSome = true ∧
        ((object p.bgp q.bgp).bind _).isSome = true
      rw [hkept] at hsome ⊢
      exact hp.bgp hsome
    · rw [asNumber_merge, bgpRouterId_merge]
      exact h.bgp hq
  mpls := by
    rw [mplsEnabled_merge, ldpRouterId_merge]
    rcases object_cases p.mpls q.mpls with ⟨hq, -⟩ | hq
    · rw [ldpRouterId, hq]
      exact hp.mpls
    · exact h.mpls hq

/-- Complete protocols complete all others. -/
theorem completedBy_of_complete (hp : p.Complete) (hq : q.Complete) : p.CompletedBy q where
  ospf hsome := by
    rw [Option.isSome_or, hq.ospf hsome, Bool.true_or]
  bgp hsome := by
    rw [Option.isSome_or, Option.isSome_or, (hq.bgp hsome).1, (hq.bgp hsome).2]
    exact ⟨rfl, rfl⟩
  mpls _ henabled := by
    rw [Option.isSome_or, Bool.or_eq_true]
    cases hm : q.mpls.bind Mpls.enabled with
    | none =>
      rw [hm] at henabled
      exact .inr (hp.mpls henabled)
    | some enabled =>
      rw [hm] at henabled
      exact .inl (hq.mpls (by rw [hm]; exact henabled))

theorem complete_empty : ({} : Protocols).Complete :=
  ⟨fun h => (nomatch h), fun h => (nomatch h), fun h => (nomatch h)⟩

theorem complete_combine {patches : List Protocols} (h : ∀ q ∈ patches, q.Complete) :
    (combine patches).Complete := by
  induction patches with
  | nil => exact complete_empty
  | cons q patches ih =>
    rw [List.forall_mem_cons] at h
    rw [combine_cons]
    exact complete_merge h.1 (completedBy_of_complete h.1 (ih h.2))

end Protocols

/-- The variables are defined that the template reads without a default. -/
theorem Vars.complete_iff {v : Vars} : v.Complete ↔
    (∀ w ∈ v.vrfs, w.rd.isSome → v.protocols.bgp.isSome) ∧ v.protocols.Complete := by
  have hospf : (∀ o ∈ v.protocols.ospf, o.routerId.isSome) ↔
      (v.protocols.ospf.isSome = true → (v.protocols.ospf.bind Ospf.routerId).isSome = true) := by
    cases v.protocols.ospf <;> simp
  have hbgp : (∀ b ∈ v.protocols.bgp, b.asNumber.isSome ∧ b.routerId.isSome) ↔
      (v.protocols.bgp.isSome = true → (v.protocols.bgp.bind Bgp.asNumber).isSome = true ∧
        (v.protocols.bgp.bind Bgp.routerId).isSome = true) := by
    cases v.protocols.bgp <;> simp
  constructor
  · exact fun h => ⟨h.rd, hospf.mp h.ospf, hbgp.mp h.bgp, h.mpls⟩
  · exact fun h => ⟨h.1, hospf.mpr h.2.ospf, hbgp.mpr h.2.bgp, h.2.mpls⟩

/-! ## References to VRFs -/

/-- The VRFs of static routes and of BGP are among these. -/
structure Protocols.RefersTo (p : Protocols) (names : List String) : Prop where
  routes : ∀ r ∈ p.routes, r.via.isSome = true → ∀ vrf ∈ r.vrf, vrf ∈ names
  bgpVrfs : ∀ b ∈ p.bgpVrfs, b.name ∈ names

theorem bgpVrfs_eq (p : Protocols) : p.bgpVrfs = (p.bgp.bind Bgp.vrfs).getD [] := by
  obtain ⟨_, _ | b, _, _⟩ := p <;> rfl

theorem Vars.closed_iff {v : Vars} : v.Closed ↔
    (∀ i ∈ v.ethernets, ∀ vrf ∈ i.vrf, vrf ∈ v.vrfNames) ∧ v.protocols.RefersTo v.vrfNames := by
  have hvrfs : v.bgpVrfs = v.protocols.bgpVrfs := (bgpVrfs_eq v.protocols).symm
  constructor
  · exact fun h => ⟨h.interfaces, h.routes, hvrfs ▸ h.bgpVrfs⟩
  · exact fun h => ⟨h.1, h.2.routes, hvrfs ▸ h.2.bgpVrfs⟩

/-- The script of the variables renders and is well formed. -/
structure Vars.Sound (v : Vars) : Prop where
  complete : v.Complete
  closed : v.Closed

section Names

variable {p q : Protocols} {names names' : List String}

theorem Protocols.RefersTo.mono (h : p.RefersTo names) (hsubset : ∀ name ∈ names, name ∈ names') :
    p.RefersTo names' :=
  ⟨fun r hr hvia vrf hvrf => hsubset vrf (h.routes r hr hvia vrf hvrf),
    fun b hb => hsubset b.name (h.bgpVrfs b hb)⟩

/-- A patch gives lists or leaves those that there are. -/
theorem refersTo_merge_of (hq : q.RefersTo names)
    (hroutes : q.static.bind Static.routes = none →
      ∀ r ∈ p.routes, r.via.isSome = true → ∀ vrf ∈ r.vrf, vrf ∈ names)
    (hvrfs : q.bgp.bind Bgp.vrfs = none → ∀ b ∈ p.bgpVrfs, b.name ∈ names) :
    (Record.merge p q).RefersTo names := by
  refine ⟨fun r hr => ?_, fun b hb => ?_⟩
  · rw [Protocols.routes_merge] at hr
    have hgiven := hq.routes r
    unfold Protocols.routes at hgiven
    cases hroutes' : q.static.bind Static.routes with
    | none =>
      rw [hroutes'] at hr
      exact hroutes hroutes' r hr
    | some routes =>
      rw [hroutes'] at hr hgiven
      exact hgiven hr
  · rw [bgpVrfs_merge] at hb
    have hgiven := hq.bgpVrfs b
    rw [bgpVrfs_eq] at hgiven
    cases hvrfs' : q.bgp.bind Bgp.vrfs with
    | none =>
      rw [hvrfs'] at hb
      exact hvrfs hvrfs' b hb
    | some vrfs =>
      rw [hvrfs'] at hb hgiven
      exact hgiven hb

theorem refersTo_merge (hp : p.RefersTo names) (hq : q.RefersTo names) :
    (Record.merge p q).RefersTo names :=
  refersTo_merge_of hq (fun _ => hp.routes) fun _ => hp.bgpVrfs

end Names

/-! ## Interfaces -/

/-- What decides whether and where an interface is configured. -/
def Interface.key (i : Interface) : String × Option ℕ := (i.name, i.vlan)

theorem mem_interfaces_of_mem_ethernets {v : Vars} {i : Interface} (h : i ∈ v.ethernets) :
    i ∈ v.interfaces := by
  rcases mem_ethernets.mp h with h | h
  · exact (mem_vlanInterfaces.mp h).1
  · exact (mem_physicalInterfaces.mp h).1

/-- Whether an interface is configured does not depend on VRFs. -/
theorem mem_ethernets_of_key {v v' : Vars} {i i' : Interface}
    (hkeys : v'.interfaces.map Interface.key = v.interfaces.map Interface.key)
    (hi : i ∈ v.interfaces) (hkey : i.key = i'.key) (hi' : i' ∈ v'.ethernets) :
    i ∈ v.ethernets := by
  obtain ⟨hname, hvlan⟩ := Prod.mk.inj hkey
  rcases mem_ethernets.mp hi' with hi' | hi'
  · obtain ⟨-, hlo, hsome⟩ := mem_vlanInterfaces.mp hi'
    exact mem_ethernets.mpr (.inl (mem_vlanInterfaces.mpr ⟨hi, hname ▸ hlo, hvlan ▸ hsome⟩))
  · obtain ⟨-, hlo, hnone, hparent⟩ := mem_physicalInterfaces.mp hi'
    refine mem_ethernets.mpr (.inr (mem_physicalInterfaces.mpr
      ⟨hi, hname ▸ hlo, hvlan ▸ hnone, fun hin => hparent ?_⟩))
    -- a trunk of the one list is a trunk of the other
    obtain ⟨j, hj, hjname⟩ := mem_vlanParents.mp hin
    obtain ⟨hjmem, hjlo, hjsome⟩ := mem_vlanInterfaces.mp hj
    have hjkey : j.key ∈ v'.interfaces.map Interface.key := hkeys ▸ List.mem_map_of_mem hjmem
    obtain ⟨k, hk, hkkey⟩ := List.mem_map.mp hjkey
    obtain ⟨hkname, hkvlan⟩ := Prod.mk.inj hkkey
    exact mem_vlanParents.mpr ⟨k, mem_vlanInterfaces.mpr
      ⟨hk, hkname ▸ hjlo, hkvlan ▸ hjsome⟩, hkname.trans (hjname.trans hname)⟩

theorem map_key_assignAll (as : List (String × String)) (l : List Interface) :
    (assignAll l as).map Interface.key = l.map Interface.key := by
  induction as generalizing l with
  | nil => rfl
  | cons a as ih =>
    have hfirst : (assignFirst l a).map Interface.key = l.map Interface.key := by
      refine map_modifyFirst (fun i => ?_) l
      rfl
    exact (ih _).trans hfirst

/-- An interface keeps its VRF or is assigned one. -/
theorem mem_assignAll {as : List (String × String)} {l : List Interface} {i' : Interface}
    (h : i' ∈ assignAll l as) : ∃ i ∈ l, i.key = i'.key ∧
      (i'.vrf = i.vrf ∨ ∃ a ∈ as, a.1 = i.name ∧ i'.vrf = some a.2) := by
  induction as generalizing l with
  | nil => exact ⟨i', h, rfl, .inl rfl⟩
  | cons a as ih =>
    obtain ⟨j, hj, hkey, hvrf⟩ := ih h
    have hvrf' : i'.vrf = j.vrf ∨ ∃ b ∈ a :: as, b.1 = j.name ∧ i'.vrf = some b.2 := by
      rcases hvrf with hvrf | ⟨b, hb, hvrf⟩
      · exact .inl hvrf
      · exact .inr ⟨b, List.mem_cons_of_mem a hb, hvrf⟩
    rcases mem_of_mem_modifyFirst hj with hj | ⟨i, hi, hname, rfl⟩
    · exact ⟨j, hj, hkey, hvrf'⟩
    · refine ⟨i, hi, hkey, ?_⟩
      rcases hvrf' with hvrf | hvrf
      · exact .inr ⟨a, List.mem_cons_self, (of_decide_eq_true hname).symm, hvrf⟩
      · exact .inr hvrf

/-! ## The infrastructure -/

/-- `vrfs` of an entry, by name. -/
def RouterDef.vrfNames (router : RouterDef) : List String := (router.vrfs.getD []).map (·.name)

/-- The protocols that an infrastructure gives a router. -/
def Topology.given (infra : Topology) (name : String) : Protocols :=
  combine ((infra.routerList.filter fun r => r.name = name).map generateRouterProtocols)

/-- An entry of the infrastructure lists the VRFs that the router mentions afterwards, in the
interfaces and protocols it gives and in the protocols that it leaves. -/
structure RouterDef.Fits (networks : List NetworkDef) (router : RouterDef) (q : Protocols)
    (v : Vars) : Prop where
  interfaces : ∀ i ∈ (generateVyosRouter networks router).extravars.ethernets, ∀ vrf ∈ i.vrf,
    vrf ∈ router.vrfNames
  given : q.RefersTo router.vrfNames
  routes : q.static.bind Static.routes = none →
    ∀ r ∈ v.protocols.routes, r.via.isSome = true → ∀ vrf ∈ r.vrf, vrf ∈ router.vrfNames
  bgpVrfs : q.bgp.bind Bgp.vrfs = none → ∀ b ∈ v.protocols.bgpVrfs, b.name ∈ router.vrfNames
  rd : (∃ w ∈ router.vrfs.getD [], w.rd.isSome = true) →
    v.protocols.bgp.isSome = true ∨ q.bgp.isSome = true

/-- What an infrastructure gives a router. -/
theorem patched_infrastructure {infra : Topology} {name : String} {router : RouterDef}
    (h : infra.lastEntry name = some router) (v : Vars) :
    (v.patched (infra.patches name)).interfaces =
        generateRouterInterfaces router infra.networkList ∧
      (v.patched (infra.patches name)).vrfs = router.vrfs.getD [] ∧
      (v.patched (infra.patches name)).protocols =
        Record.merge v.protocols (infra.given name) := by
  have hentry : (infra.routerList.filter fun r => r.name = name).getLast? = some router := h
  rw [patches_eq]
  refine ⟨?_, ?_, ?_⟩
  · simp only [Vars.patched, List.map_map, Function.comp_def, Spec.patch, generateVyosRouter,
      latest_map_some, hentry]
    rfl
  · simp only [Vars.patched, List.map_map, Function.comp_def, Spec.patch, generateVyosRouter,
      latest_map_some, hentry]
    rfl
  · have hcombine := getD_combine_map_some
      ((infra.routerList.filter fun r => r.name = name).map generateRouterProtocols)
    rw [List.map_map] at hcombine
    refine congrArg (Record.merge v.protocols) (Eq.trans ?_ hcombine)
    rw [List.map_map]
    rfl

theorem complete_generateRouterProtocols (router : RouterDef) :
    (generateRouterProtocols router).Complete where
  ospf := by
    change (Option.map _ _).isSome = true → ((Option.map _ _).bind _).isSome = true
    cases (router.protocols.getD {}).ospf.filter fun o => o.enabled.getD false <;> simp [ospfConfig]
  bgp := by
    change (Option.map _ _).isSome = true → ((Option.map _ _).bind _).isSome = true ∧
      ((Option.map _ _).bind _).isSome = true
    cases (router.protocols.getD {}).bgp.filter fun b => b.enabled.getD false <;> simp [bgpConfig]
  mpls := by
    change ((Option.map _ _).bind _).getD false = true →
      (((Option.map _ _).bind _).bind _).isSome = true
    cases (router.protocols.getD {}).mpls.filter fun m => m.enabled.getD false <;>
      simp [mplsConfig]

theorem sound_infrastructure {infra : Topology} {name : String} {v : Vars} (h : v.Sound)
    (hfits : ∀ r ∈ infra.lastEntry name, r.Fits infra.networkList (infra.given name) v) :
    (v.patched (infra.patches name)).Sound := by
  cases hlast : infra.lastEntry name with
  | none =>
    have hnone : infra.routerList.filter (fun r => r.name = name) = [] :=
      List.getLast?_eq_none_iff.mp hlast
    rw [patches_eq, hnone, List.map_nil, patched_nil]
    exact h
  | some router =>
    have hfits := hfits router hlast
    obtain ⟨hinterfaces, hvrfs, hprotocols⟩ := patched_infrastructure hlast v
    generalize v.patched (infra.patches name) = v' at hinterfaces hvrfs hprotocols
    have hgiven : (infra.given name).Complete := by
      refine Protocols.complete_combine fun q hq => ?_
      obtain ⟨r, -, rfl⟩ := List.mem_map.mp hq
      exact complete_generateRouterProtocols r
    have hcomplete := (Vars.complete_iff.mp h.complete).2
    have hnames : v'.vrfNames = router.vrfNames := by
      unfold Vars.vrfNames RouterDef.vrfNames
      rw [hvrfs]
    refine ⟨Vars.complete_iff.mpr ⟨fun w hw hrd => ?_, ?_⟩, Vars.closed_iff.mpr ⟨?_, ?_⟩⟩
    · rw [hprotocols]
      exact isSome_object.mpr (hfits.rd ⟨w, hvrfs ▸ hw, hrd⟩)
    · rw [hprotocols]
      exact Protocols.complete_merge hcomplete (Protocols.completedBy_of_complete hcomplete hgiven)
    · -- which interfaces are configured depends on the interfaces alone
      have heth : v'.ethernets = (generateVyosRouter infra.networkList router).extravars.ethernets := by
        have hv (u u' : Vars) (hu : u.interfaces = u'.interfaces) : u.ethernets = u'.ethernets := by
          unfold Vars.ethernets Vars.physicalInterfaces Vars.vlanParents Vars.vlanInterfaces
          rw [hu]
        exact hv _ _ hinterfaces
      rw [heth, hnames]
      exact hfits.interfaces
    · rw [hnames, hprotocols]
      exact refersTo_merge_of hfits.given hfits.routes hfits.bgpVrfs

/-! ## The underlay -/

/-- A patch of the protocols completes what it touches, and its routes and BGP VRFs are in VRFs of
these names. -/
structure Protocols.Fits (q p : Protocols) (names : List String) : Prop where
  completed : p.CompletedBy q
  refersTo : q.RefersTo names

theorem sound_underlay {u : Underlay} {name : String} {v : Vars} (h : v.Sound)
    (hfits : (u.given name).Fits v.protocols v.vrfNames) :
    (v.patched (u.patches name)).Sound := by
  obtain ⟨hrd, hcomplete⟩ := Vars.complete_iff.mp h.complete
  obtain ⟨hinterfaces, hrefers⟩ := Vars.closed_iff.mp h.closed
  rw [patched_underlay]
  refine ⟨Vars.complete_iff.mpr ⟨fun w hw hsome => ?_, ?_⟩, Vars.closed_iff.mpr ⟨hinterfaces, ?_⟩⟩
  · exact isSome_object.mpr (.inl (hrd w hw hsome))
  · exact Protocols.complete_merge hcomplete hfits.completed
  · exact refersTo_merge hrefers hfits.refersTo

/-! ## The VPNs -/

/-- A VPN declares the VRFs of its BGP, its PE routers have BGP, and the protocols of its CE
routers fit. -/
structure L3vpn.Fits (vpn : L3vpn) (name : String) (v : Vars) : Prop where
  declared : ∀ r ∈ vpn.peEntries name, ∀ vrf ∈ r.bgpVrfNames, vrf ∈ r.vrfNames
  bgp : vpn.peEntries name ≠ [] → v.protocols.bgp.isSome = true
  given : (vpn.given name).Fits v.protocols (v.vrfNames ++ vpn.vrfNames name)

/-- The BGP VRFs that PE entries give do not count for what the template needs. -/
theorem complete_withBgpVrfs {p : Protocols} (h : p.Complete) (hbgp : p.bgp.isSome = true)
    (vrfs : List BgpVrf) : (p.withBgpVrfs vrfs).Complete := by
  obtain ⟨b, hb⟩ := Option.isSome_iff_exists.mp hbgp
  refine ⟨h.ospf, fun _ => ?_, h.mpls⟩
  have hids := h.bgp hbgp
  rw [hb] at hids
  unfold Protocols.withBgpVrfs
  rw [hb]
  exact hids

theorem completedBy_withBgpVrfs {p q : Protocols} (h : p.CompletedBy q) (vrfs : List BgpVrf) :
    (p.withBgpVrfs vrfs).CompletedBy q := by
  refine ⟨h.ospf, fun hq => ?_, h.mpls⟩
  have hids := h.bgp hq
  unfold Protocols.withBgpVrfs
  cases hb : p.bgp with
  | none =>
    rw [hb] at hids
    exact hids
  | some b =>
    rw [hb] at hids
    exact hids

section Provided

variable {p q : Protocols} {entries : List PeRouter}

theorem complete_provided (h : p.Complete) (hbgp : entries ≠ [] → p.bgp.isSome = true) :
    (p.provided entries).Complete := by
  by_cases hentries : entries = []
  · rw [Protocols.provided, if_pos hentries]
    exact h
  · rw [provided_of_ne_nil hentries]
    exact complete_withBgpVrfs h (hbgp hentries) _

theorem completedBy_provided (h : p.CompletedBy q) : (p.provided entries).CompletedBy q := by
  unfold Protocols.provided
  split
  · exact h
  · exact completedBy_withBgpVrfs h _

theorem refersTo_provided {names : List String} (h : p.RefersTo names)
    (hentries : ∀ r ∈ entries, ∀ vrf ∈ r.bgpVrfNames, vrf ∈ names) :
    (p.provided entries).RefersTo names := by
  refine ⟨fun r hr => h.routes r ?_, fun b hb => ?_⟩
  · unfold Protocols.provided at hr
    split at hr <;> exact hr
  · by_cases hnil : entries = []
    · rw [Protocols.provided, if_pos hnil] at hb
      exact h.bgpVrfs b hb
    · rw [provided_of_ne_nil hnil, bgpVrfs_withBgpVrfs] at hb
      rcases mem_of_mem_overwriteAll hb with hb | ⟨layer, hlayer, hb⟩
      · exact h.bgpVrfs b hb
      · obtain ⟨r, hr, rfl⟩ := List.mem_map.mp hlayer
        exact hentries r hr b.name (List.mem_map_of_mem hb)

end Provided

theorem mem_vrfNames_onVars {vpn : L3vpn} {name : String} {v : Vars} {vrf : String} :
    vrf ∈ (vpn.onVars name v).vrfNames ↔ vrf ∈ v.vrfNames ++ vpn.vrfNames name := by
  unfold Vars.vrfNames
  rw [List.mem_append, ← keysOf_routerVrfs]
  exact mem_map_overwriteAll

theorem mem_vrfNames_of_assigns {vpn : L3vpn} {name : String} {a : String × String}
    (h : a ∈ (vpn.peEntries name).flatMap PeRouter.assigns) : a.2 ∈ vpn.vrfNames name := by
  obtain ⟨r, hr, ha⟩ := List.mem_flatMap.mp h
  obtain ⟨w, hw, ha⟩ := List.mem_flatMap.mp ha
  obtain ⟨i, -, rfl⟩ := List.mem_map.mp ha
  exact List.mem_flatMap.mpr ⟨r, hr, List.mem_map_of_mem hw⟩

theorem sound_vpn {vpn : L3vpn} {name : String} {v : Vars} (h : v.Sound)
    (hfits : vpn.Fits name v) : (vpn.onVars name v).Sound := by
  obtain ⟨hrd, hcomplete⟩ := Vars.complete_iff.mp h.complete
  obtain ⟨hinterfaces, hrefers⟩ := Vars.closed_iff.mp h.closed
  refine ⟨Vars.complete_iff.mpr ⟨fun w hw hsome => ?_, ?_⟩, Vars.closed_iff.mpr ⟨?_, ?_⟩⟩
  · have hbgp : v.protocols.bgp.isSome = true := by
      rcases mem_of_mem_overwriteAll hw with hw | ⟨layer, hlayer, -⟩
      · exact hrd w hw hsome
      · obtain ⟨r, hr, -⟩ := List.mem_map.mp hlayer
        exact hfits.bgp (List.ne_nil_of_mem hr)
    exact isSome_object.mpr (.inl (isSome_bgp_provided hbgp))
  · exact Protocols.complete_merge (complete_provided hcomplete hfits.bgp)
      (completedBy_provided hfits.given.completed)
  · intro i' hi' vrf hvrf
    rw [mem_vrfNames_onVars, List.mem_append]
    have hmem : i' ∈ (vpn.onVars name v).interfaces := mem_interfaces_of_mem_ethernets hi'
    obtain ⟨i, hi, hkey, hsame | ⟨a, ha, -, hgiven⟩⟩ := mem_assignAll hmem
    · have hi := mem_ethernets_of_key (map_key_assignAll _ _) hi hkey hi'
      exact .inl (hinterfaces i hi vrf (hsame ▸ hvrf))
    · obtain rfl := Option.some.inj (hgiven.symm.trans hvrf)
      exact .inr (mem_vrfNames_of_assigns ha)
  · have hnames : ∀ vrf ∈ v.vrfNames ++ vpn.vrfNames name, vrf ∈ (vpn.onVars name v).vrfNames :=
      fun vrf => mem_vrfNames_onVars.mpr
    refine refersTo_merge (refersTo_provided ?_ fun r hr vrf hvrf => ?_)
      (hfits.given.refersTo.mono hnames)
    · exact hrefers.mono fun vrf hvrf => hnames vrf (List.mem_append_left _ hvrf)
    · exact hnames vrf (List.mem_append_right _
        (List.mem_flatMap.mpr ⟨r, hr, hfits.declared r hr vrf hvrf⟩))

/-! ## Deleting a VPN -/

/-- Deleting a VPN takes its VRFs from everything that refers to them: the router has BGP, the
interfaces in them are named by the VPN, and no static route is in one. -/
structure L3vpn.Clears (vpn : L3vpn) (name : String) (v : Vars) : Prop where
  bgp : vpn.cleanedEntries name ≠ [] → v.protocols.bgp.isSome = true
  interfaces : ∀ i ∈ v.ethernets, ∀ vrf ∈ i.vrf,
    vrf ∈ (vpn.cleanedEntries name).flatMap PeRouter.vrfNames →
      i.name ∈ (vpn.cleanedEntries name).flatMap PeRouter.assignedInterfaces
  routes : ∀ r ∈ v.protocols.routes, r.via.isSome = true → ∀ vrf ∈ r.vrf,
    vrf ∉ (vpn.cleanedEntries name).flatMap PeRouter.vrfNames

theorem mem_vrfNames_cleared {v : Vars} {assigned names : List String} {vrf : String}
    (h : vrf ∈ v.vrfNames) (hnot : vrf ∉ names) : vrf ∈ (v.cleared assigned names).vrfNames := by
  obtain ⟨w, hw, rfl⟩ := List.mem_map.mp h
  exact List.mem_map_of_mem (mem_without.mpr ⟨hw, hnot⟩)

theorem map_key_cleared (v : Vars) (assigned names : List String) :
    (v.cleared assigned names).interfaces.map Interface.key =
      v.interfaces.map Interface.key := by
  unfold Vars.cleared
  rw [List.map_map]
  refine List.map_congr_left fun i _ => ?_
  by_cases h : i.name ∈ assigned <;> simp [h, Interface.key]

theorem sound_clear {vpn : L3vpn} {name : String} {v : Vars} (h : v.Sound)
    (hclears : vpn.Clears name v) : (vpn.clear name v).Sound := by
  by_cases hentries : vpn.cleanedEntries name = []
  · rw [L3vpn.clear, if_pos hentries]
    exact h
  obtain ⟨hbgp, hleft, hroutes⟩ := hclears
  obtain ⟨-, hcomplete⟩ := Vars.complete_iff.mp h.complete
  obtain ⟨hinterfaces, hrefers⟩ := Vars.closed_iff.mp h.closed
  rw [L3vpn.clear, if_neg hentries]
  generalize (vpn.cleanedEntries name).flatMap PeRouter.vrfNames = names at *
  generalize (vpn.cleanedEntries name).flatMap PeRouter.assignedInterfaces = assigned at *
  refine ⟨Vars.complete_iff.mpr ⟨fun _ _ _ => rfl, ?_⟩, Vars.closed_iff.mpr ⟨?_, ?_, ?_⟩⟩
  · exact complete_withBgpVrfs hcomplete (hbgp hentries) _
  · intro i' hi' vrf hvrf
    obtain ⟨i, hi, hcleared⟩ := List.mem_map.mp (mem_interfaces_of_mem_ethernets hi')
    by_cases hname : i.name ∈ assigned
    · rw [if_pos hname] at hcleared
      subst hcleared
      cases hvrf
    · rw [if_neg hname] at hcleared
      subst hcleared
      have hi := mem_ethernets_of_key (map_key_cleared v assigned names) hi rfl hi'
      exact mem_vrfNames_cleared (hinterfaces i hi vrf hvrf) fun hin => hname (hleft i hi vrf hvrf hin)
  · intro r hr hvia vrf hvrf
    exact mem_vrfNames_cleared (hrefers.routes r hr hvia vrf hvrf) (hroutes r hr hvia vrf hvrf)
  · intro b hb
    obtain ⟨hb, hnot⟩ := mem_without.mp hb
    exact mem_vrfNames_cleared (hrefers.bgpVrfs b hb) hnot

/-! ## Runs -/

/-- A change of a resource of one of the layers; creating and updating are the same. -/
inductive Change where
  | infrastructure (spec : Topology)
  | underlay (spec : Underlay)
  | vpn (spec : L3vpn)
  | deleteVpn (spec : L3vpn)

/-- The routers after the handler of a change. -/
def Change.step (routers : Routers) : Change → Option Routers
  | .infrastructure spec => some (applyInfrastructure spec routers)
  | .underlay spec => some (applyUnderlay spec routers)
  | .vpn spec => some (applyVpn spec routers)
  | .deleteVpn spec => some (Vyos.deleteVpn spec routers)

/-- The variables of a router about which nothing is known yet. -/
def noVars : Vars where
  routerHostname := ""
  interfaces := []
  vrfs := []
  protocols := {}
  services := {}

/-- What a change names on each router fits what it finds there. -/
def Change.Fits (routers : Routers) : Change → Prop
  | .infrastructure spec => ∀ name ∈ spec.routerList.map (·.name), ∀ r ∈ spec.lastEntry name,
      r.Fits spec.networkList (spec.given name) ((routers.vars name).getD noVars)
  | .underlay spec => ∀ name ∈ (spec.routers.getD []).map (·.name), ∀ v ∈ routers.vars name,
      (spec.given name).Fits v.protocols v.vrfNames
  | .vpn spec => ∀ name ∈ (spec.routers.getD []).map (·.name) ++
        (spec.ceRouters.getD []).map (·.name),
      ∀ v ∈ routers.vars name, spec.Fits name v
  | .deleteVpn spec => ∀ name ∈ (spec.routers.getD []).map (·.name), ∀ v ∈ routers.vars name,
      spec.Clears name v

/-- Every router has a script, and it is well formed. -/
def Routers.Renders (routers : Routers) : Prop :=
  ∀ name, ∀ spec ∈ routers name, ∀ mode, ∃ script ∈ spec.script mode, WellFormed script

/-- The variables of every router are sound. -/
def Routers.Sound (routers : Routers) : Prop := ∀ name, ∀ v ∈ routers.vars name, v.Sound

section Steps

variable {routers : Routers}

theorem sound_noVars : noVars.Sound where
  complete := ⟨fun _ h => (nomatch h), fun _ h => (nomatch h), fun _ h => (nomatch h),
    fun h => (nomatch h)⟩
  closed := ⟨fun _ h => (nomatch h), fun _ h => (nomatch h), fun _ h => (nomatch h)⟩

theorem fits_empty (p : Protocols) (names : List String) : ({} : Protocols).Fits p names where
  completed := ⟨fun h => (nomatch h), fun h => (nomatch h), fun h => (nomatch h)⟩
  refersTo := ⟨fun _ h => (nomatch h), fun _ h => (nomatch h)⟩

theorem patched_cons (v : Vars) (p : SpecPatch) (ps : List SpecPatch) :
    v.patched (p :: ps) = (v.patched [p]).patched ps := by
  have hnil {β : Type} : latest ([] : List (Option β)) = none := rfl
  have hobject {α : Type} [Record α] (t q : Option α) :
      (Record.merge t q).getD Record.empty =
        Record.merge (t.getD Record.empty) (q.getD Record.empty) := getD_object t q
  unfold Vars.patched
  simp only [List.map_cons, List.map_nil, latest_cons, combine_cons, combine_nil, hnil,
    Record.merge_empty, getD_value, value_none, Vars.mk.injEq, true_and, and_true]
  refine ⟨?_, ?_⟩
  · refine (congrArg (Record.merge v.protocols) (hobject _ _)).trans ?_
    exact (Record.merge_assoc v.protocols _ _).symm
  · refine (congrArg (Record.merge v.services) (hobject _ _)).trans ?_
    exact (Record.merge_assoc v.services _ _).symm

/-- A new router is the empty one after its first patch. -/
theorem vars_createVyosRouter (routers : Routers) (router : String × Spec) (name : String) :
    (createVyosRouter routers router).vars name = if name = router.1 then
      some (((routers.vars name).getD noVars).patched [router.2.patch]) else routers.vars name := by
  unfold createVyosRouter Routers.vars
  by_cases h : name = router.1
  · simp only [if_pos h, Option.map_some]
    cases routers name with
    | none =>
      let empty : Spec := { hostname := "", routerId := "" }
      have hnew : router.2.extravars = (empty.patched router.2.patch).extravars := by
        simp [Spec.extravars, Spec.patched, Spec.patch, empty]
      exact congrArg some (hnew.trans (extravars_foldl_patched empty [router.2.patch]))
    | some spec => exact congrArg some (extravars_foldl_patched spec [router.2.patch])
  · simp only [if_neg h]

theorem vars_foldl_createVyosRouter (generated : List (String × Spec)) (routers : Routers)
    (name : String) : (generated.foldl createVyosRouter routers).vars name =
      if generated.filter (fun r => r.1 = name) = [] then routers.vars name
      else some (((routers.vars name).getD noVars).patched
        ((generated.filter fun r => r.1 = name).map fun r => r.2.patch)) := by
  induction generated generalizing routers with
  | nil => rfl
  | cons r generated ih =>
    rw [List.foldl_cons, ih, vars_createVyosRouter]
    by_cases hr : r.1 = name
    · rw [List.filter_cons_of_pos (by simpa using hr), if_pos hr.symm,
        if_neg (List.cons_ne_nil r _), List.map_cons, Option.getD_some]
      split
      · rename_i hnil
        rw [hnil, List.map_nil]
      · rw [← patched_cons]
    · rw [List.filter_cons_of_neg (by simpa using hr), if_neg (Ne.symm hr)]

theorem sound_applyInfrastructure {spec : Topology} (h : routers.Sound)
    (hfits : (Change.infrastructure spec).Fits routers) :
    (applyInfrastructure spec routers).Sound := by
  intro name v hv
  rw [applyInfrastructure, vars_foldl_createVyosRouter] at hv
  split at hv
  · exact h name v hv
  · obtain rfl := Option.some.inj hv
    refine sound_infrastructure ?_ fun r hr => hfits name ?_ r hr
    · cases hvars : routers.vars name with
      | none => exact sound_noVars
      | some v => exact h name v hvars
    · obtain ⟨hmem, hname⟩ := List.mem_filter.mp (List.mem_of_getLast? hr)
      exact List.mem_map.mpr ⟨r, hmem, of_decide_eq_true hname⟩

theorem sound_applyUnderlay {spec : Underlay} (h : routers.Sound)
    (hfits : (Change.underlay spec).Fits routers) : (applyUnderlay spec routers).Sound := by
  intro name v' hv'
  rw [Routers.vars, applyUnderlay_apply, Option.map_map] at hv'
  obtain ⟨s, hs, rfl⟩ := Option.map_eq_some_iff.mp hv'
  have hv : s.extravars ∈ routers.vars name := Option.mem_map_of_mem _ hs
  rw [Function.comp_apply, extravars_foldl_patched]
  refine sound_underlay (h name _ hv) ?_
  by_cases hname : name ∈ (spec.routers.getD []).map (·.name)
  · exact hfits name hname _ hv
  · -- the underlay gives nothing to a router that it does not list
    have hnone : spec.entries name = [] := by
      refine List.filter_eq_nil_iff.mpr fun r hr hrname => hname ?_
      exact List.mem_map.mpr ⟨r, hr, of_decide_eq_true hrname⟩
    rw [Underlay.given, hnone]
    exact fits_empty _ _

theorem sound_applyVpn {spec : L3vpn} (h : routers.Sound)
    (hfits : (Change.vpn spec).Fits routers) : (applyVpn spec routers).Sound := by
  intro name v' hv'
  rw [Routers.vars, applyVpn_apply, Option.map_map] at hv'
  obtain ⟨s, hs, rfl⟩ := Option.map_eq_some_iff.mp hv'
  have hv : s.extravars ∈ routers.vars name := Option.mem_map_of_mem _ hs
  rw [Function.comp_apply, extravars_effect]
  refine sound_vpn (h name _ hv) ?_
  by_cases hname : name ∈ (spec.routers.getD []).map (·.name) ++
      (spec.ceRouters.getD []).map (·.name)
  · exact hfits name hname _ hv
  · rw [List.mem_append, not_or] at hname
    have hpe : spec.peEntries name = [] := by
      refine List.filter_eq_nil_iff.mpr fun r hr hrname => hname.1 ?_
      exact List.mem_map.mpr ⟨r, hr, of_decide_eq_true hrname⟩
    have hce : spec.ceEntries name = [] := by
      refine List.filter_eq_nil_iff.mpr fun r hr hrname => hname.2 ?_
      exact List.mem_map.mpr ⟨r, hr, of_decide_eq_true hrname⟩
    refine ⟨fun r hr => ?_, fun hne => (hne hpe).elim, ?_⟩
    · rw [hpe] at hr
      cases hr
    · rw [L3vpn.given, hce]
      exact fits_empty _ _

theorem sound_deleteVpn {spec : L3vpn} (h : routers.Sound)
    (hfits : (Change.deleteVpn spec).Fits routers) : (deleteVpn spec routers).Sound := by
  intro name v' hv'
  rw [vars_deleteVpn] at hv'
  obtain ⟨v, hv, rfl⟩ := Option.map_eq_some_iff.mp hv'
  refine sound_clear (h name v hv) ?_
  by_cases hname : name ∈ (spec.routers.getD []).map (·.name)
  · exact hfits name hname v hv
  · have hnone : spec.cleanedEntries name = [] := by
      unfold L3vpn.cleanedEntries
      split
      · rfl
      · refine List.filter_eq_nil_iff.mpr fun r hr hrname => hname ?_
        exact List.mem_map.mpr ⟨r, hr, of_decide_eq_true hrname⟩
    refine ⟨fun hne => (hne hnone).elim, fun _ _ _ _ hin => ?_, fun _ _ _ _ _ hin => ?_⟩
    all_goals
      rw [hnone] at hin
      cases hin

theorem sound_step (c : Change) {routers' : Routers} (h : routers.Sound) (hfits : c.Fits routers)
    (hstep : c.step routers = some routers') : routers'.Sound := by
  cases c with
  | infrastructure spec =>
    obtain rfl := Option.some.inj hstep
    exact sound_applyInfrastructure h hfits
  | underlay spec =>
    obtain rfl := Option.some.inj hstep
    exact sound_applyUnderlay h hfits
  | vpn spec =>
    obtain rfl := Option.some.inj hstep
    exact sound_applyVpn h hfits
  | deleteVpn spec =>
    obtain rfl := Option.some.inj hstep
    exact sound_deleteVpn h hfits

end Steps

/-- Sound variables give well-formed scripts. -/
theorem Routers.Sound.renders {routers : Routers} (h : routers.Sound) : routers.Renders := by
  intro name spec hspec mode
  have hsound : spec.extravars.Sound := h name _ (Option.mem_map_of_mem _ hspec)
  refine ⟨spec.extravars.commands mode, ?_, wellFormed_of_closed rfl hsound.closed mode⟩
  exact if_pos hsound.complete

/-- **Scripts over the history of a network.** When the resources that are created, updated and
deleted fit what they find, every router has a well-formed script after each handler. -/
theorem scripts_wellFormed {changes : List Change}
    (h : Throughout Change.step Change.Fits (fun _ => none) changes) :
    Always Change.step Routers.Renders (fun _ => none) changes := by
  rintro before after routers rfl hrun
  have hsound : routers.Sound := by
    refine run_invariant (fun s c s' hs hfits => sound_step c hs hfits) ?_ ?_ hrun
    · rintro name v ⟨⟩
    · exact ((throughout_append hrun).mp h).1
  exact hsound.renders

/-! ## Runs in the sandbox -/

instance (p q : Protocols) : Decidable (p.CompletedBy q) :=
  decidable_of_iff (_ ∧ _ ∧ _) ⟨fun h => ⟨h.1, h.2.1, h.2.2⟩, fun h => ⟨h.ospf, h.bgp, h.mpls⟩⟩

instance (p : Protocols) (names : List String) : Decidable (p.RefersTo names) :=
  decidable_of_iff (_ ∧ _) ⟨fun h => ⟨h.1, h.2⟩, fun h => ⟨h.routes, h.bgpVrfs⟩⟩

instance (q p : Protocols) (names : List String) : Decidable (q.Fits p names) :=
  decidable_of_iff (_ ∧ _) ⟨fun h => ⟨h.1, h.2⟩, fun h => ⟨h.completed, h.refersTo⟩⟩

instance (networks : List NetworkDef) (router : RouterDef) (q : Protocols) (v : Vars) :
    Decidable (router.Fits networks q v) :=
  decidable_of_iff (_ ∧ _ ∧ _ ∧ _ ∧ _) ⟨fun h => ⟨h.1, h.2.1, h.2.2.1, h.2.2.2.1, h.2.2.2.2⟩,
    fun h => ⟨h.interfaces, h.given, h.routes, h.bgpVrfs, h.rd⟩⟩

instance (vpn : L3vpn) (name : String) (v : Vars) : Decidable (vpn.Fits name v) :=
  decidable_of_iff (_ ∧ _ ∧ _) ⟨fun h => ⟨h.1, h.2.1, h.2.2⟩,
    fun h => ⟨h.declared, h.bgp, h.given⟩⟩

instance (vpn : L3vpn) (name : String) (v : Vars) : Decidable (vpn.Clears name v) :=
  decidable_of_iff (_ ∧ _ ∧ _) ⟨fun h => ⟨h.1, h.2.1, h.2.2⟩,
    fun h => ⟨h.bgp, h.interfaces, h.routes⟩⟩

instance (routers : Routers) (c : Change) : Decidable (c.Fits routers) := by
  cases c <;> dsimp only [Change.Fits] <;> infer_instance

/-- A PE router on the management network and on the networks of two customers. -/
def twoCustomers : Topology where
  networks := some
    [{ name := "mgmt", subnet := .management,
       networkType := some "management",
       connectedRouters := some [⟨"pe1", "eth0", 3232266763⟩] },
     { name := "pe1-ce1", subnet := .customer,
       connectedRouters := some [⟨"pe1", "eth1", 2886763009⟩] },
     { name := "pe1-ce2", subnet := .secondCustomer,
       connectedRouters := some [⟨"pe1", "eth2", 2886763265⟩] }]
  routers := some
    [{ name := "pe1", hostname := "pe1", routerId := "10.0.0.1",
       interfaces := some [⟨"eth0", "mgmt", none, none, none⟩, ⟨"eth1", "pe1-ce1", none, none, none⟩,
         ⟨"eth2", "pe1-ce2", none, none, none⟩] }]

def bgpUnderlay : Underlay where
  routers := some
    [{ name := "pe1",
       protocols := some { bgp := some { asNumber := some 65001, routerId := some "10.0.0.1" } } }]

/-- A VPN with one VRF on an interface of the PE router. -/
def vpnOn (interface : String) : L3vpn where
  routers := some
    [{ name := "pe1",
       vrfs := some [⟨{ name := "BLUE_SPOKE", table := 102, rd := some "65001:102" },
         some [interface]⟩],
       bgp := some { vrfs := some [{ name := "BLUE_SPOKE" }] } }]

/-- The VPN comes and goes, and the infrastructure is updated. -/
theorem sample_scripts_wellFormed : Always Change.step Routers.Renders (fun _ => none)
    [.infrastructure twoCustomers, .underlay bgpUnderlay, .vpn (vpnOn "eth1"),
      .deleteVpn (vpnOn "eth1"), .infrastructure twoCustomers] :=
  scripts_wellFormed (by decide)

/-- The command with the table of a VRF is not this one. -/
def createsNot (vrf : String) : Command → Bool
  | .set ["vrf", "name", name, "table", _] => name ≠ vrf
  | _ => true

theorem not_renders {routers : Routers} {name vrf : String} {p : Path}
    (hsome : (routers name).isSome = true) (hvrf : mentionedVrf p = some vrf)
    (h : ∀ spec ∈ routers name, ∀ script ∈ spec.script .update,
      .set p ∈ script ∧ script.all (createsNot vrf) = true) : ¬routers.Renders := by
  intro hrenders
  obtain ⟨spec, hspec⟩ := Option.isSome_iff_exists.mp hsome
  obtain ⟨script, hscript, hwell⟩ := hrenders name spec hspec .update
  obtain ⟨hp, hnot⟩ := h spec hspec script hscript
  obtain ⟨table, htable⟩ := hwell p hp vrf hvrf
  exact absurd (List.all_eq_true.mp hnot _ htable) (by simp [createsNot])

/-- A VPN whose VRF moves to another interface leaves it on the first one, also when the VPN is
deleted. The script then mentions a VRF that it does not create. -/
theorem moved_vrf_stays :
    twoCustomers.Valid ∧
      (∀ v ∈ (applyUnderlay bgpUnderlay (applyInfrastructure twoCustomers fun _ => none)).vars "pe1",
        ∃ b ∈ v.protocols.bgp, b.asNumber.isSome = true ∧ b.routerId.isSome = true) ∧
      (∀ port ∈ ["eth1", "eth2"], ∀ r ∈ (vpnOn port).routers.getD [],
        (∀ vrf ∈ r.bgpVrfNames, vrf ∈ r.vrfNames) ∧ ∀ i ∈ r.assignedInterfaces,
          ∃ entry ∈ twoCustomers.interfaceNames, entry.1 = r.name ∧ i ∈ entry.2) ∧
      ¬Always Change.step Routers.Renders (fun _ => none)
        [.infrastructure twoCustomers, .underlay bgpUnderlay, .vpn (vpnOn "eth1"),
          .vpn (vpnOn "eth2"), .deleteVpn (vpnOn "eth2")] := by
  refine ⟨by decide, by decide, by decide, fun h => ?_⟩
  have hrenders := h _ [] _ (List.append_nil _).symm rfl
  exact @not_renders _ "pe1" "BLUE_SPOKE" ["interfaces", "ethernet", "eth1", "vrf", "BLUE_SPOKE"]
    rfl rfl (by decide) hrenders

end GnnSandbox.Vyos
