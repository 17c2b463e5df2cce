import GnnSandbox.Vyos.Layers

/-!
# What updates of the lower layers leave

The upper layers write VRFs, BGP VRFs, assignments of interfaces, protocols and traffic policies.
An update of the infrastructure sends the whole generated spec of each router again, in which
lists replace lists, and an update of the underlay sends the protocols. `keeps_iff` says exactly
when a sequence of patches leaves what was written.
-/

namespace GnnSandbox.Vyos

open Graph (Json)
open MergePatch

/-! ## What was written -/

/-- What upper layers wrote into a router: the names of VRFs, of BGP VRFs and of assigned
interfaces, the protocols and the fields of traffic policies. -/
structure Writes where
  vrfs : List String
  bgpVrfs : List String
  assigned : List String
  protocols : List Protocols
  policyFields : List String

def Writes.append (w w' : Writes) : Writes where
  vrfs := w.vrfs ++ w'.vrfs
  bgpVrfs := w.bgpVrfs ++ w'.bgpVrfs
  assigned := w.assigned ++ w'.assigned
  protocols := w.protocols ++ w'.protocols
  policyFields := w.policyFields ++ w'.policyFields

/-- The entries of an underlay for a router. -/
def Underlay.entries (u : Underlay) (name : String) : List UnderlayRouter :=
  (u.routers.getD []).filter fun r => r.name = name

/-- What an underlay writes into a router. -/
def Underlay.writes (u : Underlay) (name : String) : Writes where
  vrfs := []
  bgpVrfs := []
  assigned := []
  protocols := (u.entries name).map fun r => r.protocols.getD {}
  policyFields := (u.entries name).flatMap fun r =>
    (r.trafficPolicy.map fun policy => (fieldsOf policy).map Prod.fst).getD []

/-- What VPNs write into a router. -/
def vpnWrites (vpns : List L3vpn) (name : String) : Writes :=
  let pes := (vpns.flatMap fun vpn => vpn.routers.getD []).filter fun r => r.name = name
  let ces := (vpns.flatMap fun vpn => vpn.ceRouters.getD []).filter fun r => r.name = name
  { vrfs := pes.flatMap PeRouter.vrfNames
    bgpVrfs := pes.flatMap PeRouter.bgpVrfNames
    assigned := pes.flatMap PeRouter.assignedInterfaces
    protocols := ces.map fun r => r.protocols.getD {}
    policyFields := [] }

/-! ## What stays -/

/-- The VRFs of that name. -/
def namedVrfs (name : String) (vrfs : List Vrf) : List Vrf := vrfs.filter fun v => v.name = name

/-- The BGP VRFs of that name. -/
def namedBgpVrfs (name : String) (vrfs : List BgpVrf) : List BgpVrf :=
  vrfs.filter fun v => v.name = name

/-- The VRFs of the interfaces of that name. -/
def assignments (name : String) (interfaces : List Interface) : List (Option String) :=
  (interfaces.filter fun i => i.name = name).map (·.vrf)

/-- A field of a traffic policy. -/
def policyField (key : String) (policy : Option Json) : Option Json :=
  policy.bind fun policy => (fieldsOf policy).lookup key

/-- `protocols.bgp.vrfs` -/
def bgpVrfsOf (protocols : Option Protocols) : Option (List BgpVrf) :=
  (protocols.bind Protocols.bgp).bind Bgp.vrfs

/-- What was written into a router is unchanged. -/
structure Kept (w : Writes) (spec spec' : Spec) : Prop where
  vrfs : ∀ name ∈ w.vrfs, namedVrfs name spec'.vrfList = namedVrfs name spec.vrfList
  bgpVrfs : ∀ name ∈ w.bgpVrfs, namedBgpVrfs name spec'.bgpVrfList = namedBgpVrfs name spec.bgpVrfList
  assigned : ∀ name ∈ w.assigned,
    assignments name spec'.interfaceList = assignments name spec.interfaceList
  protocols : ∀ p ∈ w.protocols,
    objectAmong (some p) spec'.protocols = objectAmong (some p) spec.protocols
  policy : ∀ key ∈ w.policyFields,
    policyField key spec'.trafficPolicy = policyField key spec.trafficPolicy

/-- What was written into the routers is unchanged. -/
def AllKept (w : String → Writes) (routers routers' : Routers) : Prop :=
  ∀ name, ∀ spec ∈ routers name, ∃ spec' ∈ routers' name, Kept (w name) spec spec'

/-! ## Patches that leave it -/

/-- A field of a traffic policy after a patch of the policy. -/
def patchedField (key : String) (v : Option Json) : Option Json → Option Json
  | none => v
  | some (.obj patch) => mergeMember v (patch.lookup key)
  | some _ => none

/-- The patches give no other value to what was written. -/
structure Harmless (w : Writes) (spec : Spec) (patches : List SpecPatch) : Prop where
  vrfs : ∀ vrfs ∈ latest (patches.map (·.vrfs)), ∀ name ∈ w.vrfs,
    namedVrfs name vrfs = namedVrfs name spec.vrfList
  bgpVrfs : ∀ vrfs ∈ bgpVrfsOf (combine (patches.map (·.protocols))), ∀ name ∈ w.bgpVrfs,
    namedBgpVrfs name vrfs = namedBgpVrfs name spec.bgpVrfList
  assigned : ∀ interfaces ∈ latest (patches.map (·.interfaces)), ∀ name ∈ w.assigned,
    assignments name interfaces = assignments name spec.interfaceList
  protocols : ∀ p ∈ w.protocols,
    object spec.protocols (objectAmong (some p) (combine (patches.map (·.protocols)))) =
      spec.protocols
  policy : ∀ key ∈ w.policyFields,
    (patches.map (·.trafficPolicy)).foldl (patchedField key) (policyField key spec.trafficPolicy) =
      policyField key spec.trafficPolicy

section

variable {w : Writes} {spec : Spec} {patches : List SpecPatch}

theorem vrfs_foldl_patched :
    (patches.foldl Spec.patched spec).vrfs = value spec.vrfs (latest (patches.map (·.vrfs))) := by
  rw [← foldl_value, List.foldl_map]
  exact (List.foldl_hom Spec.vrfs fun _ _ => rfl).symm

theorem interfaces_foldl_patched :
    (patches.foldl Spec.patched spec).interfaces =
      value spec.interfaces (latest (patches.map (·.interfaces))) := by
  rw [← foldl_value, List.foldl_map]
  exact (List.foldl_hom Spec.interfaces fun _ _ => rfl).symm

theorem protocols_foldl_patched :
    (patches.foldl Spec.patched spec).protocols =
      object spec.protocols (combine (patches.map (·.protocols))) := by
  have hfold := foldl_merge spec.protocols (patches.map (·.protocols))
  refine Eq.trans ?_ hfold
  rw [List.foldl_map]
  exact (List.foldl_hom Spec.protocols fun _ _ => rfl).symm

theorem policy_foldl_patched :
    (patches.foldl Spec.patched spec).trafficPolicy =
      (patches.map (·.trafficPolicy)).foldl mergeMember spec.trafficPolicy := by
  rw [List.foldl_map]
  exact (List.foldl_hom Spec.trafficPolicy fun _ _ => rfl).symm

theorem bgpVrfsOf_object (t p : Option Protocols) :
    bgpVrfsOf (object t p) = value (bgpVrfsOf t) (bgpVrfsOf p) := by
  cases p with
  | none => rfl
  | some p =>
    obtain ⟨ospf, _ | b, mpls, static⟩ := p
    · cases t <;> rfl
    · cases t with
      | none => simp [bgpVrfsOf]
      | some t =>
        obtain ⟨_, _ | b', _, _⟩ := t
        · simp [bgpVrfsOf, Record.merge]
        · rfl

theorem bgpVrfList_eq (spec : Spec) : spec.bgpVrfList = (bgpVrfsOf spec.protocols).getD [] := by
  obtain ⟨_, _, _, _, _ | ⟨_, _ | b, _, _⟩, _, _⟩ := spec <;> rfl

theorem policyField_mergeMember (key : String) (t p : Option Json) :
    policyField key (mergeMember t p) = patchedField key (policyField key t) p := by
  cases p with
  | none => rfl
  | some p =>
    cases p with
    | obj patch =>
      have hnull : (Json.obj patch = .null) = False := by simp
      simp only [mergeMember, hnull, if_false, policyField, Option.bind_some, patchedField]
      rw [mergeJson, fieldsOf, lookup_mergeFields]
      cases t <;> rfl
    | null => rfl
    | _ => simp [mergeMember, policyField, mergeJson, patchedField, fieldsOf]

theorem policyField_foldl (key : String) (t : Option Json) (policies : List (Option Json)) :
    policyField key (policies.foldl mergeMember t) =
      policies.foldl (patchedField key) (policyField key t) :=
  (List.foldl_hom (policyField key) fun t p => (policyField_mergeMember key t p).symm).symm

/-- A list that may be given stays in view exactly when the one given looks the same. -/
theorem forall_value_iff {α β : Type} {names : List String} {view : String → List α → List β}
    (t p : Option (List α)) :
    (∀ name ∈ names, view name ((value t p).getD []) = view name (t.getD [])) ↔
      ∀ l ∈ p, ∀ name ∈ names, view name l = view name (t.getD []) := by
  cases p <;> simp

theorem vrfs_kept_iff :
    (∀ name ∈ w.vrfs, namedVrfs name (patches.foldl Spec.patched spec).vrfList =
        namedVrfs name spec.vrfList) ↔
      ∀ vrfs ∈ latest (patches.map (·.vrfs)), ∀ name ∈ w.vrfs,
        namedVrfs name vrfs = namedVrfs name spec.vrfList := by
  unfold Spec.vrfList
  rw [vrfs_foldl_patched]
  exact forall_value_iff spec.vrfs (latest (patches.map (·.vrfs)))

theorem bgpVrfs_kept_iff :
    (∀ name ∈ w.bgpVrfs, namedBgpVrfs name (patches.foldl Spec.patched spec).bgpVrfList =
        namedBgpVrfs name spec.bgpVrfList) ↔
      ∀ vrfs ∈ bgpVrfsOf (combine (patches.map (·.protocols))), ∀ name ∈ w.bgpVrfs,
        namedBgpVrfs name vrfs = namedBgpVrfs name spec.bgpVrfList := by
  rw [bgpVrfList_eq, bgpVrfList_eq, protocols_foldl_patched, bgpVrfsOf_object]
  exact forall_value_iff (bgpVrfsOf spec.protocols) _

theorem assigned_kept_iff :
    (∀ name ∈ w.assigned, assignments name (patches.foldl Spec.patched spec).interfaceList =
        assignments name spec.interfaceList) ↔
      ∀ interfaces ∈ latest (patches.map (·.interfaces)), ∀ name ∈ w.assigned,
        assignments name interfaces = assignments name spec.interfaceList := by
  unfold Spec.interfaceList
  rw [interfaces_foldl_patched]
  exact forall_value_iff spec.interfaces (latest (patches.map (·.interfaces)))

theorem protocols_kept_iff (p : Protocols) :
    objectAmong (some p) (patches.foldl Spec.patched spec).protocols =
        objectAmong (some p) spec.protocols ↔
      object spec.protocols (objectAmong (some p) (combine (patches.map (·.protocols)))) =
        spec.protocols := by
  rw [protocols_foldl_patched]
  exact objectAmong_object_iff (some p) spec.protocols (combine (patches.map (·.protocols)))

theorem policyField_foldl_patched (key : String) :
    policyField key (patches.foldl Spec.patched spec).trafficPolicy =
      (patches.map (·.trafficPolicy)).foldl (patchedField key)
        (policyField key spec.trafficPolicy) := by
  rw [policy_foldl_patched, policyField_foldl]

/-- **Patches keep what was written** exactly when they give it no other value. -/
theorem kept_foldl_patched_iff :
    Kept w spec (patches.foldl Spec.patched spec) ↔ Harmless w spec patches := by
  constructor
  · intro h
    refine ⟨vrfs_kept_iff.mp h.vrfs, bgpVrfs_kept_iff.mp h.bgpVrfs, assigned_kept_iff.mp h.assigned,
      fun p hp => (protocols_kept_iff p).mp (h.protocols p hp), fun key hkey => ?_⟩
    exact (policyField_foldl_patched key).symm.trans (h.policy key hkey)
  · intro h
    refine ⟨vrfs_kept_iff.mpr h.vrfs, bgpVrfs_kept_iff.mpr h.bgpVrfs,
      assigned_kept_iff.mpr h.assigned,
      fun p hp => (protocols_kept_iff p).mpr (h.protocols p hp), fun key hkey => ?_⟩
    exact (policyField_foldl_patched key).trans (h.policy key hkey)

end

/-! ## The handlers as sequences of patches -/

/-- The patches of an infrastructure for a router. -/
def Topology.patches (infra : Topology) (name : String) : List SpecPatch :=
  ((generateVyosRouters infra).filter fun r => r.1 = name).map fun r => r.2.patch

/-- The patches of an underlay for a router. -/
def Underlay.patches (u : Underlay) (name : String) : List SpecPatch :=
  (u.entries name).map UnderlayRouter.patch

theorem foldl_createVyosRouter {name : String} {spec : Spec} (generated : List (String × Spec))
    {routers : Routers} (h : routers name = some spec) :
    generated.foldl createVyosRouter routers name = some
      (((generated.filter fun r => r.1 = name).map fun r => r.2.patch).foldl Spec.patched spec) := by
  induction generated generalizing routers spec with
  | nil => exact h
  | cons r generated ih =>
    rw [List.foldl_cons]
    by_cases hr : r.1 = name
    · rw [List.filter_cons_of_pos (by simpa using hr), List.map_cons, List.foldl_cons]
      exact ih (by simp [createVyosRouter, hr, h])
    · rw [List.filter_cons_of_neg (by simpa using hr)]
      exact ih (by simp [createVyosRouter, Ne.symm hr, h])

theorem applyInfrastructure_apply (infra : Topology) {routers : Routers} {name : String}
    {spec : Spec} (h : routers name = some spec) :
    applyInfrastructure infra routers name =
      some ((infra.patches name).foldl Spec.patched spec) :=
  foldl_createVyosRouter (generateVyosRouters infra) h

/-- A handler that changes one router after another changes each by its own entries. -/
theorem foldl_modify {α : Type} (named : α → String) (change : Spec → α → Spec) (entries : List α)
    (routers : Routers) (name : String) :
    (entries.foldl (fun routers r => routers.modify (named r) fun s => change s r) routers) name =
      (routers name).map fun s => (entries.filter fun r => named r = name).foldl change s := by
  induction entries generalizing routers with
  | nil => simp
  | cons r entries ih =>
    rw [List.foldl_cons, ih]
    by_cases hr : named r = name
    · rw [List.filter_cons_of_pos (by simpa using hr)]
      simp [Routers.modify, hr, Function.comp_def]
    · rw [List.filter_cons_of_neg (by simpa using hr)]
      simp [Routers.modify, Ne.symm hr]

theorem applyUnderlay_apply (u : Underlay) (routers : Routers) (name : String) :
    applyUnderlay u routers name =
      (routers name).map fun s => (u.patches name).foldl Spec.patched s := by
  have hfold := foldl_modify UnderlayRouter.name (fun s r => s.patched r.patch) (u.routers.getD [])
    routers name
  refine hfold.trans ?_
  congr 1
  funext s
  rw [Underlay.patches, Underlay.entries, List.foldl_map]

/-! ## Main result -/

/-- **What updates of the lower layers leave.** In every state of the routers, updating the
infrastructure leaves what the underlay and the VPNs wrote, and updating the underlay what the
VPNs wrote, exactly when the new generated routers and the new underlay give these fields no
other value. -/
theorem updates_keep_iff (routers : Routers) (underlay newUnderlay : Underlay) (vpns : List L3vpn)
    (newInfra : Topology) :
    (AllKept (fun name => (underlay.writes name).append (vpnWrites vpns name)) routers
        (applyInfrastructure newInfra routers) ∧
      AllKept (vpnWrites vpns) routers (applyUnderlay newUnderlay routers)) ↔
    ∀ name, ∀ spec ∈ routers name,
      Harmless ((underlay.writes name).append (vpnWrites vpns name)) spec (newInfra.patches name) ∧
        Harmless (vpnWrites vpns name) spec (newUnderlay.patches name) := by
  have hinfra (name : String) (spec : Spec) (h : spec ∈ routers name) (w : Writes) :
      (∃ spec' ∈ applyInfrastructure newInfra routers name, Kept w spec spec') ↔
        Harmless w spec (newInfra.patches name) := by
    rw [applyInfrastructure_apply newInfra h, ← kept_foldl_patched_iff]
    simp
  have hunderlay (name : String) (spec : Spec) (h : spec ∈ routers name) (w : Writes) :
      (∃ spec' ∈ applyUnderlay newUnderlay routers name, Kept w spec spec') ↔
        Harmless w spec (newUnderlay.patches name) := by
    rw [applyUnderlay_apply, Option.mem_def.mp h, ← kept_foldl_patched_iff]
    simp
  constructor
  · rintro ⟨hi, hu⟩ name spec h
    exact ⟨(hinfra name spec h _).mp (hi name spec h), (hunderlay name spec h _).mp (hu name spec h)⟩
  · intro h
    exact ⟨fun name spec hs => (hinfra name spec hs _).mpr (h name spec hs).1,
      fun name spec hs => (hunderlay name spec hs _).mpr (h name spec hs).2⟩

/-- A PE router on the management network and on the network of a customer. -/
def peTopology (mtu : Option ℤ) : Topology where
  networks := some
    [{ name := "mgmt", subnet := .management,
       networkType := some "management",
       connectedRouters := some [⟨"pe1", "eth0", 3232266763⟩] },
     { name := "pe1-ce1", subnet := .customer, mtu := mtu,
       vlan := some 320, connectedRouters := some [⟨"pe1", "eth1", 2886763009⟩] }]
  routers := some
    [{ name := "pe1", hostname := "pe1", routerId := "10.0.0.1",
       interfaces := some [⟨"eth0", "mgmt", none, none, none⟩, ⟨"eth1", "pe1-ce1", none, none, none⟩] }]

def peUnderlay : Underlay where
  routers := some
    [{ name := "pe1", protocols := some { ospf := some { routerId := some "10.0.0.1" } } }]

/-- A VPN with one VRF on the PE router. -/
def peVpn : L3vpn where
  routers := some
    [{ name := "pe1",
       vrfs := some [⟨{ name := "BLUE_SPOKE", table := 102 }, some ["eth1"]⟩] }]

/-- The routers of the infrastructure, the underlay and the VPN. -/
def peRouters : Routers :=
  applyVpn peVpn (applyUnderlay peUnderlay (applyInfrastructure (peTopology none) fun _ => none))

/-- An infrastructure that only changes the MTU of a network takes the VRF from the router. -/
theorem mtu_update_drops_vrf :
    (peTopology none).Valid ∧ (peTopology (some 1400)).Valid ∧
      (peTopology none).interfaceNames = (peTopology (some 1400)).interfaceNames ∧
      ¬AllKept (fun name => (peUnderlay.writes name).append (vpnWrites [peVpn] name)) peRouters
        (applyInfrastructure (peTopology (some 1400)) peRouters) := by
  refine ⟨by decide, by decide, by decide, ?_⟩
  intro h
  obtain ⟨spec', hspec', hkept⟩ := h "pe1" _ rfl
  obtain rfl := Option.some.inj hspec'
  exact absurd (hkept.vrfs "BLUE_SPOKE" (by decide)) (by decide)

end GnnSandbox.Vyos
