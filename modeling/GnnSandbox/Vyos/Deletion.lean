import GnnSandbox.Lib.MergePatch
import GnnSandbox.Vyos.Effects

/-!
# Deleting a VPN after creating it

The delete handler promises to reverse what the create handler applied. It filters the VRFs and the
BGP VRFs by the names of the VRFs alone, clears every interface that the VPN assigns, and sends
CE routers an empty object, which a merge patch takes as no change. `vpn_restored_iff` says when the
routers are as before.
-/

namespace GnnSandbox.Vyos

open MergePatch Overwrite

/-! ## The content of protocols -/

instance : Content Static where
  Same t t' := SameList t.routes t'.routes
  New t p := NewList t.routes p.routes
  Blank _ p := BlankList p.routes
  same_refl _ := rfl
  same_merge_iff h := sameList_value_iff h

instance : Content Ospf where
  Same t t' := t.routerId = t'.routerId ∧ SameList t.areas t'.areas ∧
    SameList t.passiveInterfaces t'.passiveInterfaces
  New t p := NewValue t.routerId p.routerId ∧ NewList t.areas p.areas ∧
    NewList t.passiveInterfaces p.passiveInterfaces
  Blank _ p := p.routerId = none ∧ BlankList p.areas ∧ BlankList p.passiveInterfaces
  same_refl _ := ⟨rfl, rfl, rfl⟩
  same_merge_iff h := and_congr (value_eq_self_iff h.1)
    (and_congr (sameList_value_iff h.2.1) (sameList_value_iff h.2.2))

instance : Content Bgp where
  Same t t' := t.asNumber = t'.asNumber ∧ t.routerId = t'.routerId ∧
    t.routeReflector = t'.routeReflector ∧ SameList t.neighbors t'.neighbors ∧
    SameList t.vrfs t'.vrfs ∧ SameList t.addressFamilies t'.addressFamilies
  New t p := NewValue t.asNumber p.asNumber ∧ NewValue t.routerId p.routerId ∧
    NewValue t.routeReflector p.routeReflector ∧ NewList t.neighbors p.neighbors ∧
    NewList t.vrfs p.vrfs ∧ NewList t.addressFamilies p.addressFamilies
  Blank _ p := p.asNumber = none ∧ p.routerId = none ∧ p.routeReflector = none ∧
    BlankList p.neighbors ∧ BlankList p.vrfs ∧ BlankList p.addressFamilies
  same_refl _ := ⟨rfl, rfl, rfl, rfl, rfl, rfl⟩
  same_merge_iff h := and_congr (value_eq_self_iff h.1) (and_congr (value_eq_self_iff h.2.1)
    (and_congr (value_eq_self_iff h.2.2.1) (and_congr (sameList_value_iff h.2.2.2.1)
      (and_congr (sameList_value_iff h.2.2.2.2.1) (sameList_value_iff h.2.2.2.2.2)))))

instance : Content Ldp where
  Same t t' := t.routerId = t'.routerId ∧ SameList t.interfaces t'.interfaces
  New t p := NewValue t.routerId p.routerId ∧ NewList t.interfaces p.interfaces
  Blank _ p := p.routerId = none ∧ BlankList p.interfaces
  same_refl _ := ⟨rfl, rfl⟩
  same_merge_iff h := and_congr (value_eq_self_iff h.1) (sameList_value_iff h.2)

instance : Content Mpls where
  Same t t' := t.enabled = t'.enabled ∧ SameObject t.ldp t'.ldp
  New t p := NewValue t.enabled p.enabled ∧ NewObject t.ldp p.ldp
  Blank t p := p.enabled = none ∧ BlankObject t.ldp p.ldp
  same_refl t := ⟨rfl, sameObject_refl t.ldp⟩
  same_merge_iff h := and_congr (value_eq_self_iff h.1) (sameObject_object_iff h.2)

instance : Content Protocols where
  Same t t' := SameObject t.ospf t'.ospf ∧ SameObject t.bgp t'.bgp ∧ SameObject t.mpls t'.mpls ∧
    SameObject t.static t'.static
  New t p := NewObject t.ospf p.ospf ∧ NewObject t.bgp p.bgp ∧ NewObject t.mpls p.mpls ∧
    NewObject t.static p.static
  Blank t p := BlankObject t.ospf p.ospf ∧ BlankObject t.bgp p.bgp ∧ BlankObject t.mpls p.mpls ∧
    BlankObject t.static p.static
  same_refl t := ⟨sameObject_refl t.ospf, sameObject_refl t.bgp, sameObject_refl t.mpls,
    sameObject_refl t.static⟩
  same_merge_iff h := and_congr (sameObject_object_iff h.1) (and_congr (sameObject_object_iff h.2.1)
    (and_congr (sameObject_object_iff h.2.2.1) (sameObject_object_iff h.2.2.2)))

/-! ## BGP without its VRFs -/

def Bgp.withoutVrfs (b : Bgp) : Bgp := { b with vrfs := none }

def Protocols.withoutVrfs (p : Protocols) : Protocols := { p with bgp := p.bgp.map Bgp.withoutVrfs }

section

variable {p q : Protocols}

/-- The content of protocols is that without the VRFs of BGP, and these. -/
theorem same_iff : Content.Same p q ↔
    Content.Same p.withoutVrfs q.withoutVrfs ∧ p.bgpVrfs = q.bgpVrfs := by
  obtain ⟨_, _ | b, _, _⟩ := p <;> obtain ⟨_, _ | b', _, _⟩ := q
  all_goals simp only [Content.Same, Protocols.withoutVrfs, Protocols.bgpVrfs, SameObject,
    Bgp.withoutVrfs, SameList, Option.map_none, Option.map_some, Option.getD_none,
    Option.getD_some, and_true, true_and, false_and, and_false]
  tauto

theorem withoutVrfs_merge (p q : Protocols) :
    (Record.merge p q).withoutVrfs = Record.merge p.withoutVrfs q.withoutVrfs := by
  obtain ⟨_, _ | b, _, _⟩ := p <;> obtain ⟨_, _ | b', _, _⟩ := q <;> rfl

theorem new_withoutVrfs (h : Content.New p q) : Content.New p.withoutVrfs q.withoutVrfs := by
  obtain ⟨hospf, hbgp, hmpls, hstatic⟩ := h
  refine ⟨hospf, fun r hr => ?_, hmpls, hstatic⟩
  obtain ⟨b, hb, rfl⟩ := Option.map_eq_some_iff.mp hr
  obtain ⟨hnumber, hid, hreflector, hneighbors, -, hfamilies⟩ := hbgp b hb
  have hnone : NewList (none : Option (List BgpVrf)) none := fun _ => rfl
  obtain ⟨_, _ | b', _, _⟩ := p
  · exact ⟨hnumber, hid, hreflector, hneighbors, hnone, hfamilies⟩
  · exact ⟨hnumber, hid, hreflector, hneighbors, hnone, hfamilies⟩

/-- Where BGP VRFs are given, there are none yet. -/
theorem bgpVrfs_of_new {vrfs : List BgpVrf} (h : Content.New p q)
    (hgiven : q.bgp.bind Bgp.vrfs = some vrfs) : p.bgpVrfs = [] := by
  obtain ⟨b, hb, hvrfs⟩ := Option.bind_eq_some_iff.mp hgiven
  obtain ⟨-, -, -, -, hnew, -⟩ := h.2.1 b hb
  exact hnew (by rw [hvrfs]; rfl)

end

/-! ## Creating and deleting -/

/-- An interface without its VRF, if its name is among these. -/
def Interface.cleared (assigned : List String) (i : Interface) : Interface :=
  if i.name ∈ assigned then { i with vrf := none } else i

/-- The interfaces that a VPN assigns on a router. -/
def L3vpn.assigned (vpn : L3vpn) (name : String) : List String :=
  (vpn.peEntries name).flatMap PeRouter.assignedInterfaces

/-- The BGP VRFs that a router has after the create handler, next to those it had. -/
def L3vpn.bgpVrfs (vpn : L3vpn) (name : String) : List BgpVrf :=
  ((vpn.given name).bgp.bind Bgp.vrfs).getD ((vpn.peEntries name).flatMap PeRouter.bgpVrfList)

theorem map_cleared_assignAll {assigned : List String} {as : List (String × String)}
    (h : ∀ a ∈ as, a.1 ∈ assigned) (l : List Interface) :
    (assignAll l as).map (Interface.cleared assigned) = l.map (Interface.cleared assigned) := by
  induction as generalizing l with
  | nil => rfl
  | cons a as ih =>
    rw [List.forall_mem_cons] at h
    refine (ih h.2 _).trans (map_modifyFirst_of_imp (fun i hi => ?_) l)
    have hname : i.name ∈ assigned := of_decide_eq_true hi ▸ h.1
    simp [Interface.cleared, hname]

theorem assigns_fst {entries : List PeRouter} {a : String × String}
    (h : a ∈ entries.flatMap PeRouter.assigns) :
    a.1 ∈ entries.flatMap PeRouter.assignedInterfaces := by
  obtain ⟨r, hr, ha⟩ := List.mem_flatMap.mp h
  obtain ⟨w, hw, ha⟩ := List.mem_flatMap.mp ha
  obtain ⟨i, hi, rfl⟩ := List.mem_map.mp ha
  exact List.mem_flatMap.mpr ⟨r, hr, List.mem_flatMap.mpr ⟨w, hw, hi⟩⟩

theorem map_cleared_eq_self_iff {assigned : List String} {l : List Interface} :
    l.map (Interface.cleared assigned) = l ↔ ∀ i ∈ l, i.name ∈ assigned → i.vrf = none := by
  have hiff : l.map (Interface.cleared assigned) = l.map id ↔
      ∀ i ∈ l, Interface.cleared assigned i = id i := List.map_inj_left
  rw [List.map_id] at hiff
  refine hiff.trans (forall₂_congr fun i _ => ?_)
  obtain ⟨_, _, _, _, _, _, _, _, _⟩ := i
  unfold Interface.cleared
  split
  · rename_i hname
    simp only [id, Interface.mk.injEq, true_and, and_true]
    exact ⟨fun h _ => h.symm, fun h => (h hname).symm⟩
  · rename_i hname
    exact iff_of_true rfl fun h => (hname h).elim

section Protocols

variable {p q : Protocols} {entries : List PeRouter} {names : List String}

/-- The protocols after a VPN is created and deleted. -/
def Protocols.undone (p : Protocols) (entries : List PeRouter) (q : Protocols)
    (names : List String) : Protocols :=
  if entries = [] then Record.merge (p.provided entries) q
  else (Record.merge (p.provided entries) q).withBgpVrfs
    (without BgpVrf.name names (Record.merge (p.provided entries) q).bgpVrfs)

theorem withoutVrfs_withBgpVrfs (h : p.bgp.isSome = true) (vrfs : List BgpVrf) :
    (p.withBgpVrfs vrfs).withoutVrfs = p.withoutVrfs := by
  obtain ⟨_, _ | b, _, _⟩ := p
  · cases h
  · rfl

/-- Apart from the VRFs of BGP, only the CE entries count. -/
theorem withoutVrfs_undone (h : entries ≠ [] → p.bgp.isSome = true) :
    (p.undone entries q names).withoutVrfs = Record.merge p.withoutVrfs q.withoutVrfs := by
  by_cases hentries : entries = []
  · rw [Protocols.undone, if_pos hentries, hentries, withoutVrfs_merge]
    rfl
  · have hbgp := h hentries
    have hprovided : (p.provided entries).withoutVrfs = p.withoutVrfs := by
      rw [provided_of_ne_nil hentries, withoutVrfs_withBgpVrfs hbgp]
    rw [Protocols.undone, if_neg hentries, withoutVrfs_withBgpVrfs ?_, withoutVrfs_merge, hprovided]
    exact isSome_object.mpr (.inl (isSome_bgp_provided hbgp))

theorem bgpVrfs_undone : (p.undone entries q (entries.flatMap PeRouter.vrfNames)).bgpVrfs =
    without BgpVrf.name (entries.flatMap PeRouter.vrfNames) ((q.bgp.bind Bgp.vrfs).getD
      (overwriteAll BgpVrf.name p.bgpVrfs (entries.map PeRouter.bgpVrfList))) := by
  by_cases hentries : entries = []
  · rw [Protocols.undone, if_pos hentries, hentries, bgpVrfs_merge, List.flatMap_nil,
      without_nil_keys]
    rfl
  · rw [Protocols.undone, if_neg hentries, bgpVrfs_withBgpVrfs, bgpVrfs_merge,
      provided_of_ne_nil hentries, bgpVrfs_withBgpVrfs]

theorem keysOf_bgpVrfs (entries : List PeRouter) :
    keysOf BgpVrf.name (entries.map PeRouter.bgpVrfList) =
      (entries.flatMap PeRouter.bgpVrfList).map (·.name) := by
  rw [keysOf, List.flatMap_map, List.map_flatMap]

/-- The VRFs of BGP are as before when none of them has the name of a VRF of the VPN, and all that
the VPN gave have. -/
theorem bgpVrfs_undone_eq_iff (hnew : Content.New p q)
    (hfresh : ∀ b ∈ p.bgpVrfs, b.name ∉ (entries.flatMap PeRouter.bgpVrfList).map (·.name)) :
    (p.undone entries q (entries.flatMap PeRouter.vrfNames)).bgpVrfs = p.bgpVrfs ↔
      (∀ b ∈ p.bgpVrfs, b.name ∉ entries.flatMap PeRouter.vrfNames) ∧
        ∀ b ∈ (q.bgp.bind Bgp.vrfs).getD (entries.flatMap PeRouter.bgpVrfList),
          b.name ∈ entries.flatMap PeRouter.vrfNames := by
  rw [bgpVrfs_undone]
  cases hgiven : q.bgp.bind Bgp.vrfs with
  | none =>
    rw [← keysOf_bgpVrfs] at hfresh
    rw [Option.getD_none, Option.getD_none, without_overwriteAll_eq_iff hfresh, keysOf_bgpVrfs,
      List.forall_mem_map]
  | some vrfs =>
    rw [bgpVrfs_of_new hnew hgiven, Option.getD_some, Option.getD_some]
    unfold without
    simp

/-- What a VPN leaves of the protocols of a router. -/
theorem same_undone_iff (hnew : Content.New p q)
    (hfresh : ∀ b ∈ p.bgpVrfs, b.name ∉ (entries.flatMap PeRouter.bgpVrfList).map (·.name)) :
    Content.Same (p.undone entries q (entries.flatMap PeRouter.vrfNames)) p ↔
      (entries ≠ [] → p.bgp.isSome = true) ∧ Content.Blank p.withoutVrfs q.withoutVrfs ∧
        (∀ b ∈ p.bgpVrfs, b.name ∉ entries.flatMap PeRouter.vrfNames) ∧
          ∀ b ∈ (q.bgp.bind Bgp.vrfs).getD (entries.flatMap PeRouter.bgpVrfList),
            b.name ∈ entries.flatMap PeRouter.vrfNames := by
  by_cases hbgp : entries ≠ [] → p.bgp.isSome = true
  · rw [and_iff_right hbgp, same_iff, withoutVrfs_undone hbgp,
      Content.same_merge_iff (new_withoutVrfs hnew), bgpVrfs_undone_eq_iff hnew hfresh]
  · -- the handlers leave an object for BGP where there was none
    refine iff_of_false (fun hsame => hbgp fun hentries => ?_) fun h => hbgp h.1
    have hobject : SameObject (p.undone entries q _).bgp p.bgp := hsame.2.1
    rw [Protocols.undone, if_neg hentries] at hobject
    obtain ⟨_, _ | b, _, _⟩ := p
    · exact hobject.elim
    · rfl

end Protocols

/-! ## When the routers are as before -/

/-- A router has the VRFs, interfaces and protocols of another one, up to absent and empty lists. -/
structure Spec.SameContent (spec spec' : Spec) : Prop where
  vrfs : spec.vrfList = spec'.vrfList
  interfaces : spec.interfaceList = spec'.interfaceList
  protocols : Content.Same spec.protocolsDict spec'.protocolsDict

/-- A router has none of the VRFs, BGP VRFs and CE protocols of a VPN. -/
structure L3vpn.Fresh (vpn : L3vpn) (name : String) (spec : Spec) : Prop where
  vrfs : ∀ w ∈ spec.vrfList, w.name ∉ vpn.vrfNames name
  bgpVrfs : ∀ b ∈ spec.protocolsDict.bgpVrfs,
    b.name ∉ ((vpn.peEntries name).flatMap PeRouter.bgpVrfList).map (·.name)
  given : Content.New spec.protocolsDict (vpn.given name)

/-- What a VPN writes into a router is what deleting it takes away: the interfaces that it assigns
have no VRF before, the router of a PE entry has BGP, the BGP VRFs with the name of a VRF of the
VPN are those that it gives, and the CE protocols give nothing. -/
structure L3vpn.Undone (vpn : L3vpn) (name : String) (spec : Spec) : Prop where
  interfaces : ∀ i ∈ spec.interfaceList, i.name ∈ vpn.assigned name → i.vrf = none
  bgp : vpn.peEntries name ≠ [] → spec.protocolsDict.bgp.isSome = true
  given : Content.Blank spec.protocolsDict.withoutVrfs (vpn.given name).withoutVrfs
  otherBgpVrfs : ∀ b ∈ spec.protocolsDict.bgpVrfs, b.name ∉ vpn.vrfNames name
  bgpVrfs : ∀ b ∈ vpn.bgpVrfs name, b.name ∈ vpn.vrfNames name

section Restored

variable {vpn : L3vpn} {name : String}

/-- The protocols of a router that has PE entries are written, whatever these name. -/
theorem clear_eq (hname : name ≠ "") (v : Vars) : vpn.clear name v =
    { v with
      interfaces := v.interfaces.map (Interface.cleared (vpn.assigned name))
      vrfs := without Vrf.name (vpn.vrfNames name) v.vrfs
      protocols := if vpn.peEntries name = [] then v.protocols else v.protocols.withBgpVrfs
        (without BgpVrf.name (vpn.vrfNames name) v.protocols.bgpVrfs) } := by
  have hcleaned : vpn.cleanedEntries name = vpn.peEntries name := if_neg hname
  unfold L3vpn.clear L3vpn.assigned L3vpn.vrfNames
  rw [hcleaned]
  by_cases hentries : vpn.peEntries name = []
  · have hnone : Interface.cleared [] = id := by
      funext i
      simp [Interface.cleared]
    rw [if_pos hentries, if_pos hentries, hentries]
    simp only [List.flatMap_nil, hnone, List.map_id, without_nil_keys]
  · rw [if_neg hentries, if_neg hentries]
    rfl

/-- The variables of a router after a VPN is created and deleted. -/
theorem clear_onVars (hname : name ≠ "") (v : Vars) : vpn.clear name (vpn.onVars name v) =
    { v with
      interfaces := v.interfaces.map (Interface.cleared (vpn.assigned name))
      vrfs := without Vrf.name (vpn.vrfNames name)
        (overwriteAll Vrf.name v.vrfs ((vpn.peEntries name).map PeRouter.routerVrfs))
      protocols := v.protocols.undone (vpn.peEntries name) (vpn.given name) (vpn.vrfNames name) } := by
  have hassigned := @map_cleared_assignAll _ ((vpn.peEntries name).flatMap PeRouter.assigns)
    (fun _ => assigns_fst) v.interfaces
  rw [clear_eq hname, L3vpn.assigned, ← hassigned]
  rfl

theorem vars_applyVpn (vpn : L3vpn) (routers : Routers) (name : String) :
    (applyVpn vpn routers).vars name = (routers.vars name).map (vpn.onVars name) := by
  unfold Routers.vars
  rw [applyVpn_apply, Option.map_map, Option.map_map]
  exact congrArg (Option.map · (routers name)) (funext fun s => extravars_effect vpn name s)

/-- One router is as before exactly when the VPN is undone on it. -/
theorem sameContent_iff {spec spec' : Spec} (hname : name ≠ "") (hfresh : vpn.Fresh name spec)
    (h : spec'.extravars = vpn.clear name (vpn.onVars name spec.extravars)) :
    spec'.SameContent spec ↔ vpn.Undone name spec := by
  rw [clear_onVars hname] at h
  have hvrfs : spec'.vrfList = spec.vrfList := by
    have hkeys : keysOf Vrf.name ((vpn.peEntries name).map PeRouter.routerVrfs) =
        vpn.vrfNames name := keysOf_routerVrfs vpn name
    refine (congrArg Vars.vrfs h).trans ((without_overwriteAll_eq_iff ?_).mpr ⟨hfresh.vrfs, ?_⟩)
    · rw [hkeys]
      exact hfresh.vrfs
    · rw [hkeys]
      exact fun _ => id
  have hinterfaces : spec'.interfaceList = spec.interfaceList ↔
      ∀ i ∈ spec.interfaceList, i.name ∈ vpn.assigned name → i.vrf = none := by
    rw [show spec'.interfaceList = _ from congrArg Vars.interfaces h]
    exact map_cleared_eq_self_iff
  have hdict : spec'.protocolsDict = spec.protocolsDict.undone (vpn.peEntries name)
      (vpn.given name) (vpn.vrfNames name) := congrArg Vars.protocols h
  have hprotocols := same_undone_iff hfresh.given hfresh.bgpVrfs
  change Content.Same (spec.protocolsDict.undone _ _ (vpn.vrfNames name)) _ ↔ _ at hprotocols
  rw [← hdict] at hprotocols
  constructor
  · intro hsame
    obtain ⟨hbgp, hgiven, hother, hbgpVrfs⟩ := hprotocols.mp hsame.protocols
    exact ⟨hinterfaces.mp hsame.interfaces, hbgp, hgiven, hother, hbgpVrfs⟩
  · intro hundone
    exact ⟨hvrfs, hinterfaces.mpr hundone.interfaces,
      hprotocols.mpr ⟨hundone.bgp, hundone.given, hundone.otherBgpVrfs, hundone.bgpVrfs⟩⟩

end Restored

/-- Every router is as before when a VPN is created and deleted. -/
def L3vpn.Restored (vpn : L3vpn) (routers : Routers) : Prop :=
  ∀ name, ∀ spec ∈ routers name, ∃ spec' ∈ deleteVpn vpn (applyVpn vpn routers) name,
    spec'.SameContent spec

/-- **Deleting a VPN undoes creating it**, on routers that have nothing of it, exactly when what it
writes into each router is what deleting it takes away. No resource has an empty name. -/
theorem vpn_restored_iff {vpn : L3vpn} {routers : Routers} (hnamed : routers "" = none)
    (hfresh : ∀ name, ∀ spec ∈ routers name, vpn.Fresh name spec) :
    vpn.Restored routers ↔ ∀ name, ∀ spec ∈ routers name, vpn.Undone name spec := by
  refine forall_congr' fun name => forall₂_congr fun spec hspec => ?_
  have hname : name ≠ "" := by
    rintro rfl
    rw [hnamed] at hspec
    cases hspec
  have hvars := vars_deleteVpn vpn (applyVpn vpn routers) name
  rw [vars_applyVpn, Option.map_map, Routers.vars, Routers.vars, Option.mem_def.mp hspec,
    Option.map_some, Option.map_some] at hvars
  obtain ⟨spec', hspec', hextravars⟩ := Option.map_eq_some_iff.mp hvars
  rw [← sameContent_iff hname (hfresh name spec hspec) hextravars]
  constructor
  · rintro ⟨other, hother, hsame⟩
    obtain rfl := Option.some.inj (hspec'.symm.trans hother)
    exact hsame
  · exact fun hsame => ⟨spec', hspec', hsame⟩

/-- The routers of a namespace with only this one. -/
def onlyRouter (name : String) (spec : Spec) : Routers := fun n => if n = name then some spec else none

theorem eq_of_mem_onlyRouter {name n : String} {spec s : Spec} (h : s ∈ onlyRouter name spec n) :
    n = name ∧ s = spec := by
  unfold onlyRouter at h
  split at h
  · rename_i hn
    exact ⟨hn, (Option.some.inj h).symm⟩
  · cases h

/-- A PE router with BGP and a port for a customer. -/
def peSpec : Spec where
  hostname := "pe1"
  routerId := "10.0.0.1"
  interfaces := some [{ name := "eth1", address := "172.16.1.1/24" }]
  protocols := some { bgp := some { asNumber := some 65001, routerId := some "10.0.0.1" } }

def spokeVpn : L3vpn where
  routers := some
    [{ name := "pe1",
       vrfs := some [⟨{ name := "BLUE_SPOKE", table := 102 }, some ["eth1"]⟩],
       bgp := some { vrfs := some [{ name := "BLUE_SPOKE" }] } }]

/-- The VPN on the PE router comes and goes without a trace. -/
theorem spokeVpn_restored : spokeVpn.Restored (onlyRouter "pe1" peSpec) := by
  refine (vpn_restored_iff rfl fun name spec h => ?_).mpr fun name spec h => ?_
  · obtain ⟨rfl, rfl⟩ := eq_of_mem_onlyRouter h
    refine ⟨by decide, by decide, ?_, ?_, ?_, ?_⟩ <;> rintro _ ⟨⟩
  · obtain ⟨rfl, rfl⟩ := eq_of_mem_onlyRouter h
    refine ⟨by decide, by decide, ⟨?_, ?_, ?_, ?_⟩, by decide, by decide⟩ <;> rintro _ ⟨⟩

/-- A VPN that only gives a CE router its BGP. -/
def ceVpn : L3vpn where
  ceRouters := some
    [{ name := "ce1",
       protocols := some { bgp := some { asNumber := some 65101, routerId := some "10.0.1.1" } } }]

def ceSpec : Spec where
  hostname := "ce1"
  routerId := "10.0.1.1"

/-- The protocols of the CE router stay when the VPN is deleted. -/
theorem ce_protocols_stay :
    (∀ name, ∀ spec ∈ onlyRouter "ce1" ceSpec name, ceVpn.Fresh name spec ∧
      ∀ i ∈ spec.interfaceList, i.vrf = none) ∧
    ¬ceVpn.Restored (onlyRouter "ce1" ceSpec) := by
  refine ⟨fun name spec h => ?_, fun h => ?_⟩
  · obtain ⟨rfl, rfl⟩ := eq_of_mem_onlyRouter h
    refine ⟨⟨by decide, by decide, ?_, ?_, ?_, ?_⟩, by decide⟩
    · rintro _ ⟨⟩
    · rintro b ⟨⟩
      exact ⟨fun _ => rfl, fun _ => rfl, fun _ => rfl, fun _ => rfl, fun _ => rfl, fun _ => rfl⟩
    · rintro _ ⟨⟩
    · rintro _ ⟨⟩
  · obtain ⟨spec', hspec', hsame⟩ := h "ce1" ceSpec rfl
    obtain rfl := Option.some.inj hspec'
    exact hsame.protocols.2.1

end GnnSandbox.Vyos
