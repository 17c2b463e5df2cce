import GnnSandbox.Lib.Overwrite
import GnnSandbox.Vyos.Template
import GnnSandbox.Vyos.Undisturbed

/-!
# What the handlers do to the variables of the template

A handler changes the spec of a router only by the entries of its resource for this router, and the
variables of the template follow. Applying a resource again, changed in values but not in names,
gives what applying it once to the first state gives.
-/

namespace GnnSandbox.Vyos

open MergePatch Overwrite

/-! ## Sequences of patches -/

/-- A record that may be absent, merged and read with its default. -/
theorem getD_object {α : Type} [Record α] (t p : Option α) :
    (object t p).getD Record.empty =
      Record.merge (t.getD Record.empty) (p.getD Record.empty) := by
  cases p <;> simp [object]

/-- The variables after a sequence of patches. -/
def Vars.patched (v : Vars) (patches : List SpecPatch) : Vars :=
  { v with
    routerHostname := (latest (patches.map (·.hostname))).getD v.routerHostname
    interfaces := (latest (patches.map (·.interfaces))).getD v.interfaces
    vrfs := (latest (patches.map (·.vrfs))).getD v.vrfs
    protocols := Record.merge v.protocols ((combine (patches.map SpecPatch.protocols)).getD {})
    services := Record.merge v.services ((combine (patches.map SpecPatch.services)).getD {}) }

@[simp] theorem patched_nil (v : Vars) : v.patched [] = v := by
  have hmerge : Vars.patched v [] =
    { v with
      protocols := Record.merge v.protocols Record.empty
      services := Record.merge v.services Record.empty } := rfl
  rw [hmerge, Record.merge_empty, Record.merge_empty]

theorem getD_value {β : Type} (t p : Option β) (b : β) : (value t p).getD b = p.getD (t.getD b) := by
  cases p <;> rfl

theorem extravars_foldl_patched (spec : Spec) (patches : List SpecPatch) :
    (patches.foldl Spec.patched spec).extravars = spec.extravars.patched patches := by
  have hhost : (patches.foldl Spec.patched spec).hostname =
      (latest (patches.map (·.hostname))).getD spec.hostname := by
    have hfold : some (patches.foldl Spec.patched spec).hostname =
        (patches.map (·.hostname)).foldl value (some spec.hostname) := by
      rw [List.foldl_map]
      refine (List.foldl_hom (fun s : Spec => some s.hostname) fun s p => ?_).symm
      change value (some s.hostname) p.hostname = some (p.hostname.getD s.hostname)
      cases p.hostname <;> rfl
    rw [foldl_value] at hfold
    cases hlatest : latest (patches.map (·.hostname)) <;> simp_all
  have hservices : (patches.foldl Spec.patched spec).services =
      object spec.services (combine (patches.map (·.services))) := by
    refine Eq.trans ?_ (foldl_merge spec.services (patches.map (·.services)))
    rw [List.foldl_map]
    exact (List.foldl_hom Spec.services fun _ _ => rfl).symm
  simp only [Spec.extravars, Vars.patched, Vars.mk.injEq]
  refine ⟨hhost, ?_, ?_, ?_, ?_, trivial⟩
  · rw [interfaces_foldl_patched, getD_value]
  · rw [vrfs_foldl_patched, getD_value]
  · rw [protocols_foldl_patched]
    exact getD_object spec.protocols _
  · rw [hservices]
    exact getD_object spec.services _

/-- The patches give the same fields, and the same objects. -/
structure SameShape (ps ps' : List SpecPatch) : Prop where
  hostname : (latest (ps.map (·.hostname))).isSome → (latest (ps'.map (·.hostname))).isSome
  interfaces : (latest (ps.map (·.interfaces))).isSome → (latest (ps'.map (·.interfaces))).isSome
  vrfs : (latest (ps.map (·.vrfs))).isSome → (latest (ps'.map (·.vrfs))).isSome
  protocols : ps.map (·.protocols) = ps'.map (·.protocols)
  services : ps.map (·.services) = ps'.map (·.services)

theorem getD_getD_of_isSome {β : Type} {p q : Option β} (b : β) (h : p.isSome → q.isSome) :
    q.getD (p.getD b) = q.getD b := by
  cases q with
  | some c => rfl
  | none =>
    cases p with
    | none => rfl
    | some c => exact absurd (h rfl) (by simp)

/-- Patches of the same shape replace what the ones before gave. -/
theorem SameShape.patched_patched {ps ps' : List SpecPatch} (h : SameShape ps ps') (v : Vars) :
    (v.patched ps).patched ps' = v.patched ps' := by
  simp only [Vars.patched, getD_getD_of_isSome _ h.hostname, getD_getD_of_isSome _ h.interfaces,
    getD_getD_of_isSome _ h.vrfs, h.protocols, h.services, Record.merge_assoc, Record.merge_self]

/-- Patches of the protocols alone; the variables do not hold the traffic policy. -/
theorem patched_of_protocols {β : Type} (f : β → SpecPatch) (g : β → Protocols)
    (hf : ∀ e, f e = { protocols := some (g e), trafficPolicy := (f e).trafficPolicy })
    (entries : List β) (v : Vars) :
    v.patched (entries.map f) =
      { v with protocols := Record.merge v.protocols (combine (entries.map g)) } := by
  have hnone {γ : Type} (field : SpecPatch → Option γ) (h : ∀ e, field (f e) = none) :
      latest ((entries.map f).map field) = none := by
    refine latest_eq_none fun x hx => ?_
    rw [List.map_map, List.mem_map] at hx
    obtain ⟨e, -, rfl⟩ := hx
    exact h e
  have hprotocols : (entries.map f).map SpecPatch.protocols = (entries.map g).map some := by
    rw [List.map_map, List.map_map]
    exact List.map_congr_left fun e _ => congrArg SpecPatch.protocols (hf e)
  have hservices : combine ((entries.map f).map SpecPatch.services) = none := by
    refine combine_eq_empty fun x hx => ?_
    rw [List.map_map, List.mem_map] at hx
    obtain ⟨e, -, rfl⟩ := hx
    exact congrArg SpecPatch.services (hf e)
  rw [Vars.patched, hnone _ fun e => congrArg SpecPatch.hostname (hf e),
    hnone _ fun e => congrArg SpecPatch.interfaces (hf e),
    hnone _ fun e => congrArg SpecPatch.vrfs (hf e), hprotocols, hservices]
  have hcombine := getD_combine_map_some (entries.map g)
  exact congrArg₂ (fun p s => { v with protocols := Record.merge v.protocols p, services := s })
    hcombine (Record.merge_empty v.services)

/-- The protocols that an underlay gives a router. -/
def Underlay.given (u : Underlay) (name : String) : Protocols :=
  combine ((u.entries name).map fun r => r.protocols.getD {})

theorem patched_underlay (u : Underlay) (name : String) (v : Vars) :
    v.patched (u.patches name) =
      { v with protocols := Record.merge v.protocols (u.given name) } :=
  patched_of_protocols UnderlayRouter.patch (fun r => r.protocols.getD {}) (fun _ => rfl)
    (u.entries name) v

/-- The entry that gives a router its interfaces. -/
def Topology.lastEntry (topology : Topology) (name : String) : Option RouterDef :=
  (topology.routerList.filter fun r => r.name = name).getLast?

theorem patches_eq (topology : Topology) (name : String) : topology.patches name =
    (topology.routerList.filter fun r => r.name = name).map fun r =>
      (generateVyosRouter topology.networkList r).patch := by
  unfold Topology.patches generateVyosRouters
  rw [List.filter_map, List.map_map]
  rfl

/-- The script that an update renders from variables. -/
def Vars.script (v : Vars) : Option (List Command) :=
  if v.Complete then some (v.commands .update) else none

theorem script_eq (spec : Spec) : spec.script .update = spec.extravars.script := rfl

/-! ## VPNs -/

/-- The PE entries of a VPN for a router. -/
def L3vpn.peEntries (vpn : L3vpn) (name : String) : List PeRouter :=
  (vpn.routers.getD []).filter fun r => r.name = name

/-- The CE entries of a VPN for a router. -/
def L3vpn.ceEntries (vpn : L3vpn) (name : String) : List CeRouter :=
  (vpn.ceRouters.getD []).filter fun r => r.name = name

/-- What a VPN does to the spec of a router. -/
def L3vpn.effect (vpn : L3vpn) (name : String) (spec : Spec) : Spec :=
  ((vpn.ceEntries name).map CeRouter.patch).foldl Spec.patched
    ((vpn.peEntries name).foldl providePe spec)

theorem applyVpn_apply (vpn : L3vpn) (routers : Routers) (name : String) :
    applyVpn vpn routers name = (routers name).map (vpn.effect name) := by
  have hce := foldl_modify CeRouter.name (fun s r => s.patched r.patch) (vpn.ceRouters.getD [])
    ((vpn.routers.getD []).foldl (fun routers r => routers.modify r.name fun s => providePe s r)
      routers) name
  have hpe := foldl_modify PeRouter.name providePe (vpn.routers.getD []) routers name
  refine hce.trans ?_
  rw [hpe, Option.map_map]
  congr 1
  funext s
  rw [L3vpn.effect, List.foldl_map]
  rfl

/-! ### Assignments -/

/-- The first interface of that name gets the VRF. -/
def assignFirst (l : List Interface) (a : String × String) : List Interface :=
  modifyFirst (fun i : Interface => i.name = a.1) (fun i => { i with vrf := some a.2 }) l

/-- Assignments of interfaces to VRFs, one after another. -/
def assignAll (l : List Interface) (as : List (String × String)) : List Interface :=
  as.foldl assignFirst l

/-- The assignments of an entry, each an interface and a VRF. -/
def PeRouter.assigns (router : PeRouter) : List (String × String) :=
  router.vrfList.flatMap fun v => (v.interfaces.getD []).map fun i => (i, v.vrf.name)

theorem assignFirst_same (l : List Interface) (name vrf vrf' : String) :
    assignFirst (assignFirst l (name, vrf)) (name, vrf') = assignFirst l (name, vrf') :=
  modifyFirst_modifyFirst fun _ => rfl

theorem assignFirst_comm (l : List Interface) {a b : String × String} (h : a.1 ≠ b.1) :
    assignFirst (assignFirst l a) b = assignFirst (assignFirst l b) a := by
  refine modifyFirst_comm_of_disjoint (fun i hi => ?_) (fun _ => rfl) fun _ => rfl
  simp only [decide_eq_true_eq] at hi
  simp [hi, h]

/-- An assignment that is made again does not count. -/
theorem assignAll_assignFirst {a : String × String} {as : List (String × String)}
    (h : a.1 ∈ as.map Prod.fst) (l : List Interface) :
    assignAll (assignFirst l a) as = assignAll l as := by
  induction as generalizing l with
  | nil => cases h
  | cons b as ih =>
    change assignAll (assignFirst (assignFirst l a) b) as = assignAll (assignFirst l b) as
    by_cases hab : a.1 = b.1
    · obtain ⟨name, vrf⟩ := a
      obtain ⟨name', vrf'⟩ := b
      obtain rfl : name = name' := hab
      rw [assignFirst_same]
    · rw [assignFirst_comm l hab]
      refine ih ?_ (assignFirst l b)
      rw [List.map_cons, List.mem_cons] at h
      exact h.resolve_left hab

/-- Assignments that are all made again do not count. -/
theorem assignAll_assignAll {as as' : List (String × String)}
    (h : ∀ name ∈ as'.map Prod.fst, name ∈ as.map Prod.fst) (l : List Interface) :
    assignAll (assignAll l as') as = assignAll l as := by
  induction as' generalizing l with
  | nil => rfl
  | cons a as' ih =>
    change assignAll (assignAll (assignFirst l a) as') as = _
    rw [ih fun name hname => h name (List.mem_cons_of_mem _ hname),
      assignAll_assignFirst (h a.1 List.mem_cons_self)]

/-! ### The fields of a PE router -/

theorem interfaceList_assignInterface (vrf : String) (spec : Spec) (interface : String) :
    (assignInterface vrf spec interface).interfaceList =
      assignFirst spec.interfaceList (interface, vrf) := by
  obtain ⟨_, _, _ | l, _, _, _, _⟩ := spec <;> rfl

theorem interfaceList_providePe (spec : Spec) (router : PeRouter) :
    (providePe spec router).interfaceList = assignAll spec.interfaceList router.assigns := by
  have hvrf (s : Spec) (v : VpnVrf) : (assignVrf s v).interfaceList =
      assignAll s.interfaceList ((v.interfaces.getD []).map fun i => (i, v.vrf.name)) := by
    unfold assignVrf assignAll
    rw [List.foldl_map]
    exact (List.foldl_hom Spec.interfaceList
      fun s i => (interfaceList_assignInterface v.vrf.name s i).symm).symm
  have hfold : (providePe spec router).interfaceList = router.vrfList.foldl
      (fun l v => assignAll l ((v.interfaces.getD []).map fun i => (i, v.vrf.name)))
      spec.interfaceList :=
    (List.foldl_hom Spec.interfaceList fun s v => (hvrf s v).symm).symm
  rw [hfold]
  unfold PeRouter.assigns assignAll
  rw [List.foldl_flatMap]

/-- Assigning interfaces changes nothing else. -/
theorem providePe_eq (spec : Spec) (router : PeRouter) :
    providePe spec router = { spec.patched (pePatch spec router) with
      interfaces := (providePe spec router).interfaces } := by
  have hvrf (s : Spec) (v : VpnVrf) : assignVrf s v = { s with
      interfaces := (assignVrf s v).interfaces } := by
    unfold assignVrf
    generalize v.interfaces.getD [] = names
    induction names generalizing s with
    | nil => rfl
    | cons name names ih =>
      rw [List.foldl_cons, ih]
      rfl
  unfold providePe
  generalize spec.patched (pePatch spec router) = s
  generalize router.vrfList = vrfs
  induction vrfs generalizing s with
  | nil => rfl
  | cons v vrfs ih =>
    rw [List.foldl_cons, ih, hvrf]

/-- The VRFs of an entry, as the router gets them. -/
def PeRouter.routerVrfs (router : PeRouter) : List Vrf := router.vrfList.map (·.vrf)

theorem vrfList_providePe (spec : Spec) (router : PeRouter) :
    (providePe spec router).vrfList = overwrite Vrf.name spec.vrfList router.routerVrfs := by
  rw [providePe_eq]
  change mergedVrfs spec router = _
  unfold mergedVrfs overwrite without PeRouter.routerVrfs PeRouter.vrfNames
  rw [List.map_map]
  rfl

/-- The protocols with other VRFs in BGP. -/
def Protocols.withBgpVrfs (p : Protocols) (vrfs : List BgpVrf) : Protocols :=
  { p with bgp := some { p.bgp.getD {} with vrfs := some vrfs } }

/-- `protocols.bgp.vrfs or []` -/
def Protocols.bgpVrfs (p : Protocols) : List BgpVrf := ((p.bgp.getD {}).vrfs).getD []

/-- `spec.protocols or {}` -/
def Spec.protocolsDict (spec : Spec) : Protocols := spec.protocols.getD {}

@[simp] theorem withBgpVrfs_withBgpVrfs (p : Protocols) (vrfs vrfs' : List BgpVrf) :
    (p.withBgpVrfs vrfs).withBgpVrfs vrfs' = p.withBgpVrfs vrfs' := rfl

@[simp] theorem bgpVrfs_withBgpVrfs (p : Protocols) (vrfs : List BgpVrf) :
    (p.withBgpVrfs vrfs).bgpVrfs = vrfs := rfl

theorem bgpVrfs_protocolsDict (spec : Spec) : spec.protocolsDict.bgpVrfs = spec.bgpVrfList := by
  obtain ⟨_, _, _, _, _ | ⟨_, _ | b, _, _⟩, _, _⟩ := spec <;> rfl

/-- The handlers send the whole of BGP again, with other VRFs. -/
theorem getD_object_bgpDict (spec : Spec) (vrfs : List BgpVrf) :
    (object spec.protocols (some { bgp := some { spec.bgpDict with vrfs := some vrfs } })).getD
      Record.empty = spec.protocolsDict.withBgpVrfs vrfs := by
  have hdict : spec.bgpDict = spec.protocolsDict.bgp.getD {} := by
    obtain ⟨_, _, _, _, _ | p, _, _⟩ := spec <;> rfl
  have hbgp : object spec.protocolsDict.bgp (some { spec.bgpDict with vrfs := some vrfs }) =
      some { spec.bgpDict with vrfs := some vrfs } := by
    rw [hdict]
    cases spec.protocolsDict.bgp with
    | none => exact none_object _
    | some b => simp [Record.merge]
  rw [getD_object]
  refine (congrArg (fun b => { spec.protocolsDict with bgp := b }) hbgp).trans ?_
  rw [hdict]
  rfl

theorem protocolsDict_providePe (spec : Spec) (router : PeRouter) :
    (providePe spec router).protocolsDict = spec.protocolsDict.withBgpVrfs
      (overwrite BgpVrf.name spec.protocolsDict.bgpVrfs router.bgpVrfList) := by
  rw [providePe_eq, bgpVrfs_protocolsDict]
  exact getD_object_bgpDict spec _

/-! ### All entries -/

theorem interfaceList_foldl_providePe (entries : List PeRouter) (spec : Spec) :
    (entries.foldl providePe spec).interfaceList =
      assignAll spec.interfaceList (entries.flatMap PeRouter.assigns) := by
  rw [assignAll, List.foldl_flatMap]
  exact (List.foldl_hom Spec.interfaceList fun s r => (interfaceList_providePe s r).symm).symm

theorem vrfList_foldl_providePe (entries : List PeRouter) (spec : Spec) :
    (entries.foldl providePe spec).vrfList =
      overwriteAll Vrf.name spec.vrfList (entries.map PeRouter.routerVrfs) := by
  rw [overwriteAll, List.foldl_map]
  exact (List.foldl_hom Spec.vrfList fun s r => (vrfList_providePe s r).symm).symm

/-- The protocols after PE entries, which write BGP even when they give no VRF. -/
def Protocols.provided (p : Protocols) (entries : List PeRouter) : Protocols :=
  if entries = [] then p
  else p.withBgpVrfs (overwriteAll BgpVrf.name p.bgpVrfs (entries.map PeRouter.bgpVrfList))

theorem provided_of_ne_nil {entries : List PeRouter} (h : entries ≠ []) (p : Protocols) :
    p.provided entries =
      p.withBgpVrfs (overwriteAll BgpVrf.name p.bgpVrfs (entries.map PeRouter.bgpVrfList)) :=
  if_neg h

theorem isSome_bgp_provided {p : Protocols} {entries : List PeRouter} (h : p.bgp.isSome = true) :
    (p.provided entries).bgp.isSome = true := by
  unfold Protocols.provided
  split
  · exact h
  · rfl

theorem protocolsDict_foldl_providePe (entries : List PeRouter) (spec : Spec) :
    (entries.foldl providePe spec).protocolsDict = spec.protocolsDict.provided entries := by
  induction entries generalizing spec with
  | nil => rfl
  | cons r entries ih =>
    rw [List.foldl_cons, ih, protocolsDict_providePe]
    rw [provided_of_ne_nil (List.cons_ne_nil r entries)]
    by_cases h : entries = []
    · rw [h]
      rfl
    · rw [provided_of_ne_nil h]
      rfl

theorem hostname_foldl_providePe (entries : List PeRouter) (spec : Spec) :
    (entries.foldl providePe spec).hostname = spec.hostname ∧
      (entries.foldl providePe spec).services = spec.services := by
  induction entries generalizing spec with
  | nil => exact ⟨rfl, rfl⟩
  | cons r entries ih =>
    rw [List.foldl_cons, (ih _).1, (ih _).2, providePe_eq]
    exact ⟨rfl, rfl⟩

/-- What a VPN does to the variables of a router. -/
def L3vpn.onVars (vpn : L3vpn) (name : String) (v : Vars) : Vars :=
  { v with
    interfaces := assignAll v.interfaces ((vpn.peEntries name).flatMap PeRouter.assigns)
    vrfs := overwriteAll Vrf.name v.vrfs ((vpn.peEntries name).map PeRouter.routerVrfs)
    protocols := Record.merge (v.protocols.provided (vpn.peEntries name))
      (combine ((vpn.ceEntries name).map fun r => r.protocols.getD {})) }

theorem extravars_effect (vpn : L3vpn) (name : String) (spec : Spec) :
    (vpn.effect name spec).extravars = vpn.onVars name spec.extravars := by
  have hhost := hostname_foldl_providePe (vpn.peEntries name) spec
  have hinterfaces := interfaceList_foldl_providePe (vpn.peEntries name) spec
  have hvrfs := vrfList_foldl_providePe (vpn.peEntries name) spec
  have hprotocols := protocolsDict_foldl_providePe (vpn.peEntries name) spec
  rw [L3vpn.effect, extravars_foldl_patched,
    patched_of_protocols CeRouter.patch (fun r => r.protocols.getD {}) fun _ => rfl]
  unfold L3vpn.onVars
  generalize (vpn.peEntries name).foldl providePe spec = provided at *
  change (⟨provided.hostname, provided.interfaceList, provided.vrfList,
    Record.merge provided.protocolsDict _, provided.services.getD {}, none⟩ : Vars) = _
  rw [hhost.1, hhost.2, hinterfaces, hvrfs, hprotocols]
  rfl

/-- The VRFs that the PE entries of a VPN for a router declare. -/
def L3vpn.vrfNames (vpn : L3vpn) (name : String) : List String :=
  (vpn.peEntries name).flatMap PeRouter.vrfNames

theorem keysOf_routerVrfs (vpn : L3vpn) (name : String) :
    keysOf Vrf.name ((vpn.peEntries name).map PeRouter.routerVrfs) = vpn.vrfNames name := by
  unfold keysOf L3vpn.vrfNames PeRouter.routerVrfs PeRouter.vrfNames
  simp only [List.flatMap_map, List.map_map, Function.comp_def]

/-- The protocols that the CE entries of a VPN give a router. -/
def L3vpn.given (vpn : L3vpn) (name : String) : Protocols :=
  combine ((vpn.ceEntries name).map fun r => r.protocols.getD {})

/-! ### Deleting a VPN -/

/-- The variables without some VRFs, and with no VRF in the interfaces of some names. -/
def Vars.cleared (v : Vars) (assigned names : List String) : Vars :=
  { v with
    interfaces := v.interfaces.map fun i => if i.name ∈ assigned then { i with vrf := none } else i
    vrfs := without Vrf.name names v.vrfs
    protocols := v.protocols.withBgpVrfs (without BgpVrf.name names v.protocols.bgpVrfs) }

theorem cleared_cleared (v : Vars) (assigned names assigned' names' : List String) :
    (v.cleared assigned names).cleared assigned' names' =
      v.cleared (assigned ++ assigned') (names ++ names') := by
  unfold Vars.cleared
  simp only [Vars.mk.injEq, without_without, withBgpVrfs_withBgpVrfs, bgpVrfs_withBgpVrfs, and_true,
    true_and, List.map_map]
  refine List.map_congr_left fun i _ => ?_
  by_cases h : i.name ∈ assigned <;> by_cases h' : i.name ∈ assigned' <;> simp [h, h']

theorem extravars_cleanupPe (spec : Spec) (router : PeRouter) :
    (cleanupPe spec router).extravars =
      spec.extravars.cleared router.assignedInterfaces router.vrfNames := by
  have hprotocols := getD_object_bgpDict spec (without BgpVrf.name router.vrfNames spec.bgpVrfList)
  refine (congrArg (fun p => { spec.extravars.cleared router.assignedInterfaces router.vrfNames with
    protocols := p }) hprotocols).trans ?_
  rw [← bgpVrfs_protocolsDict]
  rfl

/-- A clean-up of a CE router leaves its protocols. -/
theorem extravars_cleanupCe (spec : Spec) : (cleanupCe spec).extravars = spec.extravars := by
  have hprotocols : (object spec.protocols (some {})).getD Record.empty =
      spec.protocols.getD Record.empty := by
    rw [getD_object]
    exact Record.merge_empty _
  exact congrArg (fun p => { spec.extravars with protocols := p }) hprotocols

/-- The entries of a VPN for a router, as far as its deletion looks at them. -/
def L3vpn.cleanedEntries (vpn : L3vpn) (name : String) : List PeRouter :=
  if name = "" then [] else vpn.peEntries name

/-- What deleting a VPN does to the variables of a router. -/
def L3vpn.clear (vpn : L3vpn) (name : String) (v : Vars) : Vars :=
  if vpn.cleanedEntries name = [] then v
  else v.cleared ((vpn.cleanedEntries name).flatMap PeRouter.assignedInterfaces)
    ((vpn.cleanedEntries name).flatMap PeRouter.vrfNames)

theorem extravars_foldl_cleanupPe (entries : List PeRouter) (spec : Spec) :
    (entries.foldl cleanupPe spec).extravars = if entries = [] then spec.extravars
      else spec.extravars.cleared (entries.flatMap PeRouter.assignedInterfaces)
        (entries.flatMap PeRouter.vrfNames) := by
  induction entries generalizing spec with
  | nil => rfl
  | cons r entries ih =>
    rw [List.foldl_cons, ih, extravars_cleanupPe, if_neg (List.cons_ne_nil r entries),
      List.flatMap_cons, List.flatMap_cons]
    by_cases h : entries = []
    · rw [if_pos h, h, List.flatMap_nil, List.flatMap_nil, List.append_nil, List.append_nil]
    · rw [if_neg h, cleared_cleared]

/-- The variables of a router. -/
def Routers.vars (routers : Routers) (name : String) : Option Vars :=
  (routers name).map Spec.extravars

/-- Entries without a name are left out. -/
theorem foldl_named {α : Type} (named : α → String) (change : Spec → α → Spec) (entries : List α)
    (routers : Routers) (name : String) :
    (entries.foldl (fun routers r => if named r = "" then routers else
      routers.modify (named r) fun s => change s r) routers) name =
      (routers name).map fun s =>
        (if name = "" then [] else entries.filter fun r => named r = name).foldl change s := by
  induction entries generalizing routers with
  | nil => simp
  | cons r entries ih =>
    rw [List.foldl_cons, ih]
    by_cases hempty : named r = ""
    · rw [if_pos hempty]
      by_cases hname : name = ""
      · rw [if_pos hname, if_pos hname]
      · rw [if_neg hname, if_neg hname, List.filter_cons_of_neg]
        simpa [hempty] using Ne.symm hname
    · rw [if_neg hempty]
      by_cases hname : name = ""
      · simp [Routers.modify, hname, hempty]
      · rw [if_neg hname, if_neg hname]
        by_cases hr : named r = name
        · rw [List.filter_cons_of_pos (by simpa using hr)]
          simp [Routers.modify, hr, Function.comp_def]
        · rw [List.filter_cons_of_neg (by simpa using hr)]
          simp [Routers.modify, Ne.symm hr]

theorem vars_deleteVpn (spec : L3vpn) (routers : Routers) (name : String) :
    (deleteVpn spec routers).vars name = (routers.vars name).map (spec.clear name) := by
  have hce (entries : List CeRouter) (s : Spec) :
      (entries.foldl (fun s _ => cleanupCe s) s).extravars = s.extravars := by
    induction entries generalizing s with
    | nil => rfl
    | cons r entries ih => rw [List.foldl_cons, ih, extravars_cleanupCe]
  have hpe (s : Spec) : ((spec.cleanedEntries name).foldl cleanupPe s).extravars =
      spec.clear name s.extravars := extravars_foldl_cleanupPe _ s
  unfold Routers.vars deleteVpn
  rw [foldl_named CeRouter.name (fun s _ => cleanupCe s), foldl_named PeRouter.name cleanupPe,
    Option.map_map, Option.map_map, Option.map_map]
  refine congrArg (Option.map · (routers name)) (funext fun s => ?_)
  simp only [Function.comp_apply, hce]
  exact hpe s

/-! ### Applying a VPN again -/

/-- The second VPN names on a router what the first one names, and has the same CE entries. -/
structure SameNames (vpn vpn' : L3vpn) (name : String) : Prop where
  entries : vpn.peEntries name ≠ [] → vpn'.peEntries name ≠ []
  assigned : ∀ i ∈ ((vpn.peEntries name).flatMap PeRouter.assigns).map Prod.fst,
    i ∈ ((vpn'.peEntries name).flatMap PeRouter.assigns).map Prod.fst
  vrfs : ∀ k ∈ keysOf Vrf.name ((vpn.peEntries name).map PeRouter.routerVrfs),
    k ∈ keysOf Vrf.name ((vpn'.peEntries name).map PeRouter.routerVrfs)
  bgpVrfs : ∀ k ∈ keysOf BgpVrf.name ((vpn.peEntries name).map PeRouter.bgpVrfList),
    k ∈ keysOf BgpVrf.name ((vpn'.peEntries name).map PeRouter.bgpVrfList)
  ces : vpn'.ceEntries name = vpn.ceEntries name

/-- BGP VRFs after a patch of the protocols. -/
theorem bgpVrfs_merge (p q : Protocols) :
    (Record.merge p q).bgpVrfs = (q.bgp.bind Bgp.vrfs).getD p.bgpVrfs := by
  obtain ⟨_, _ | b, _, _⟩ := q
  · rfl
  · obtain ⟨_, _ | b', _, _⟩ := p <;> obtain ⟨_, _, _, _, _ | vrfs, _⟩ := b <;> rfl

/-- A patch that gives BGP VRFs replaces all others. -/
theorem merge_withBgpVrfs_of_some {q : Protocols} {vrfs : List BgpVrf}
    (h : q.bgp.bind Bgp.vrfs = some vrfs) (p : Protocols) (l l' : List BgpVrf) :
    Record.merge (p.withBgpVrfs l) q = Record.merge (p.withBgpVrfs l') q := by
  obtain ⟨_, _ | b, _, _⟩ := q
  · cases h
  · obtain ⟨_, _, _, _, _ | vrfs', _⟩ := b
    · cases h
    · simp [Record.merge, Protocols.withBgpVrfs]

/-- A patch that gives no BGP VRFs keeps them. -/
theorem merge_withBgpVrfs_of_none {q : Protocols} (h : q.bgp.bind Bgp.vrfs = none) (p : Protocols)
    (l : List BgpVrf) :
    Record.merge (p.withBgpVrfs l) q = (Record.merge (p.withBgpVrfs []) q).withBgpVrfs l := by
  obtain ⟨_, _ | ⟨_, _, _, _, _ | vrfs, _⟩, _, _⟩ := q
  · rfl
  · rfl
  · cases h

/-- A patch that is applied again afterwards does not count. -/
theorem merge_withBgpVrfs_merge (p q : Protocols) (l : List BgpVrf) :
    Record.merge ((Record.merge p q).withBgpVrfs l) q = Record.merge (p.withBgpVrfs l) q := by
  have hbgp : object (some { ((object p.bgp q.bgp).getD {} : Bgp) with vrfs := some l }) q.bgp =
      object (some { (p.bgp.getD {} : Bgp) with vrfs := some l }) q.bgp := by
    obtain ⟨_, _ | b, _, _⟩ := q
    · rfl
    · obtain ⟨_, _ | b', _, _⟩ := p
      · simp [object, Record.merge]
        exact ⟨none_value _, none_value _, none_value _, none_value _, none_value _⟩
      · simp [object, Record.merge]
  simp only [Record.merge, Protocols.withBgpVrfs] at *
  simp only [object_object_self, hbgp]

/-- The protocols written by PE entries, a patch, and both again. -/
theorem provided_merge_provided {entries entries' : List PeRouter}
    (hentries : entries ≠ [] → entries' ≠ [])
    (hkeys : ∀ k ∈ keysOf BgpVrf.name (entries.map PeRouter.bgpVrfList),
      k ∈ keysOf BgpVrf.name (entries'.map PeRouter.bgpVrfList)) (p q : Protocols) :
    Record.merge ((Record.merge (p.provided entries) q).provided entries') q =
      Record.merge (p.provided entries') q := by
  by_cases h' : entries' = []
  · have h : entries = [] := by
      by_contra h
      exact hentries h h'
    simp only [Protocols.provided, if_pos h, if_pos h', Record.merge_assoc, Record.merge_self]
  · have hagain (l : List BgpVrf) : (p.provided entries).withBgpVrfs l = p.withBgpVrfs l := by
      unfold Protocols.provided
      split <;> rfl
    have hlist : overwriteAll BgpVrf.name (p.provided entries).bgpVrfs
        (entries'.map PeRouter.bgpVrfList) =
          overwriteAll BgpVrf.name p.bgpVrfs (entries'.map PeRouter.bgpVrfList) := by
      by_cases h : entries = []
      · rw [h]
        rfl
      · rw [provided_of_ne_nil h]
        exact overwriteAll_overwriteAll hkeys
    rw [provided_of_ne_nil h', provided_of_ne_nil h', merge_withBgpVrfs_merge, hagain, bgpVrfs_merge]
    cases hq : q.bgp.bind Bgp.vrfs with
    | none => rw [Option.getD_none, hlist]
    | some vrfs => exact merge_withBgpVrfs_of_some hq p _ _

/-- **Applying a VPN again** with the same names gives what applying it once gives. -/
theorem SameNames.onVars_onVars {vpn vpn' : L3vpn} {name : String} (h : SameNames vpn vpn' name)
    (v : Vars) : vpn'.onVars name (vpn.onVars name v) = vpn'.onVars name v := by
  simp only [L3vpn.onVars, Vars.mk.injEq, true_and, and_true, h.ces]
  exact ⟨assignAll_assignAll h.assigned v.interfaces, overwriteAll_overwriteAll h.vrfs,
    provided_merge_provided h.entries h.bgpVrfs v.protocols _⟩

end GnnSandbox.Vyos
