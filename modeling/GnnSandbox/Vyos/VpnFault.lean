import GnnSandbox.Vyos.Reading

/-!
# Faults of a VRF

Both faults change one VRF of one entry of the first L3VPN, and the restoration changes the first
entry of the router back. What the router gets depends on all entries for it: a later entry or a
CE entry can overwrite the VRF.
-/

namespace GnnSandbox.Vyos

open MergePatch Overwrite
open Operator (NetworkFailure OriginalState Cluster L3vpnSpec VpnRouter)

/-! ## The entries of the resource -/

/-- The VPN with these entries. -/
def Reading.vpnWith (rd : Reading) (spec : L3vpnSpec) (l : List VpnRouter) : L3vpn :=
  rd.vpn { spec with routers := some l }

/-- What an entry names: its router, the interfaces it assigns, its VRFs and its BGP VRFs. -/
def Reading.named (rd : Reading) (r : VpnRouter) :
    String × List String × List String × List String :=
  (r.name, (rd.peRouterOf r).assigns.map Prod.fst, (rd.peRouterOf r).routerVrfs.map (·.name),
    (rd.peRouterOf r).bgpVrfList.map (·.name))

section

variable {rd : Reading} {spec : L3vpnSpec} {l l' : List VpnRouter} {router : String}

theorem peEntries_vpnWith : (rd.vpnWith spec l).peEntries router =
    (l.filter fun r => r.name = router).map rd.peRouterOf := by
  unfold L3vpn.peEntries Reading.vpnWith Reading.vpn
  rw [Option.map_some, Option.getD_some, List.filter_map]
  rfl

theorem filter_named (l : List VpnRouter) : (l.filter fun r => r.name = router).map rd.named =
    (l.map rd.named).filter fun p => p.1 = router := by
  rw [List.filter_map]
  rfl

theorem sameNames_vpnWith (h : l.map rd.named = l'.map rd.named) :
    SameNames (rd.vpnWith spec l) (rd.vpnWith spec l') router := by
  have hfilter : (l.filter fun r => r.name = router).map rd.named =
      (l'.filter fun r => r.name = router).map rd.named := by
    rw [filter_named, filter_named, h]
  have hfield {β : Type} (field : String × List String × List String × List String → β) :
      (l.filter fun r => r.name = router).map (fun r => field (rd.named r)) =
        (l'.filter fun r => r.name = router).map fun r => field (rd.named r) := by
    have hmap := congrArg (List.map field) hfilter
    rwa [List.map_map, List.map_map] at hmap
  constructor
  · rw [peEntries_vpnWith, peEntries_vpnWith]
    intro hne hnil
    have hlength := congrArg List.length hfilter
    rw [List.map_eq_nil_iff.mp hnil] at hlength
    exact hne (List.map_eq_nil_iff.mpr (List.eq_nil_of_length_eq_zero (by simpa using hlength)))
  · intro i hi
    rw [peEntries_vpnWith, List.flatMap_map, List.map_flatMap, List.flatMap_def] at hi ⊢
    exact hfield (fun p => p.2.1) ▸ hi
  · intro k hk
    rw [peEntries_vpnWith, keysOf, List.map_map, List.flatMap_map, List.flatMap_def] at hk ⊢
    exact hfield (fun p => p.2.2.1) ▸ hk
  · intro k hk
    rw [peEntries_vpnWith, keysOf, List.map_map, List.flatMap_map, List.flatMap_def] at hk ⊢
    exact hfield (fun p => p.2.2.2) ▸ hk
  · rfl

end

/-! ## Scripts -/

section

variable {rd : Reading} {nf : NetworkFailure} {c : Cluster} {saved : OriginalState}
  {name : Operator.ResourceName} {spec : L3vpnSpec} {l l' : List VpnRouter} {routers : Routers}

theorem scriptOf_applyVpn (vpn : L3vpn) {router : String} {s : Spec} (h : routers router = some s) :
    scriptOf (applyVpn vpn routers) router = (vpn.onVars router s.extravars).script := by
  rw [scriptOf, applyVpn_apply, h, Option.map_some, Option.bind_some, script_eq, extravars_effect]

/-- What a VPN with the same names did before does not count. -/
theorem scriptOf_applyVpn_applyVpn {vpn vpn' : L3vpn} {router : String}
    (h : SameNames vpn vpn' router) :
    scriptOf (applyVpn vpn' (applyVpn vpn routers)) router =
      scriptOf (applyVpn vpn' routers) router := by
  cases hrouter : routers router with
  | none => simp [scriptOf, applyVpn_apply, hrouter]
  | some s =>
    have happly := applyVpn_apply vpn routers router
    rw [hrouter, Option.map_some] at happly
    rw [scriptOf_applyVpn vpn' happly, extravars_effect, h.onVars_onVars,
      ← scriptOf_applyVpn vpn' hrouter]

theorem propagate_vpn (rd : Reading)
    (htype : nf.failureType = .bgpSessionDown ∨ nf.failureType = .vrfRtMisconfiguration)
    (hfirst : c.l3vpns.first = some (name, spec)) (hsaved : saved.l3vpnName = some name)
    (l : List VpnRouter) (routers : Routers) :
    rd.propagate nf.failureType saved (Cluster.vpnRouters.set l c) routers =
      applyVpn (rd.vpnWith spec l) routers := by
  unfold Reading.propagate Reading.vpnWith
  rcases htype with htype | htype
  · simp only [htype, hsaved, Option.bind_some, Cluster.get?_vpnRouters_set hfirst]
  · simp only [htype, hsaved, Option.bind_some, Cluster.get?_vpnRouters_set hfirst]

/-- A fault of a VRF reaches the router when the entries it leaves change the script, and the
restored entries give the script there was. -/
theorem vpn_reaches_iff
    (htype : nf.failureType = .bgpSessionDown ∨ nf.failureType = .vrfRtMisconfiguration)
    (hfirst : c.l3vpns.first = some (name, spec)) (hsaved : saved.l3vpnName = some name)
    (hrestore : Operator.restoreFailureOperator nf saved (Cluster.vpnRouters.set l c) =
      .ok (Cluster.vpnRouters.set l' c))
    (hnamed : l.map rd.named = l'.map rd.named) :
    FaultReaches rd nf saved (Cluster.vpnRouters.set l c) routers ↔
      ScriptsDiffer nf routers (applyVpn (rd.vpnWith spec l) routers) ∧
        scriptOf (applyVpn (rd.vpnWith spec l') routers) nf.target.router =
          scriptOf routers nf.target.router := by
  unfold FaultReaches
  simp only [propagate_vpn rd htype hfirst hsaved, hrestore, Except.ok.injEq, forall_eq',
    scriptOf_applyVpn_applyVpn (sameNames_vpnWith hnamed)]

/-- A fault that is not changed back does not reach the router. -/
theorem not_vpn_reaches
    (htype : nf.failureType = .bgpSessionDown ∨ nf.failureType = .vrfRtMisconfiguration)
    (hfirst : c.l3vpns.first = some (name, spec)) (hsaved : saved.l3vpnName = some name)
    (hrestore : Operator.restoreFailureOperator nf saved (Cluster.vpnRouters.set l c) =
      .ok (Cluster.vpnRouters.set l c)) :
    ¬FaultReaches rd nf saved (Cluster.vpnRouters.set l c) routers := by
  rw [vpn_reaches_iff htype hfirst hsaved hrestore rfl]
  rintro ⟨hdiffer, hsame⟩
  exact hdiffer.scriptOf_ne hsame

end

/-! ## The variables after a VPN, by its first entry -/

/-- The variables after a VPN whose entries for a router begin with this one. -/
theorem onVars_cons {vpn : L3vpn} {router : String} {pe : PeRouter} {later : List PeRouter}
    (h : vpn.peEntries router = pe :: later) (v : Vars) :
    vpn.onVars router v =
      { v with
        interfaces := assignAll v.interfaces (pe.assigns ++ later.flatMap PeRouter.assigns)
        vrfs := without Vrf.name (pe.routerVrfs.map (·.name) ++
            keysOf Vrf.name (later.map PeRouter.routerVrfs)) v.vrfs ++
          (without Vrf.name (keysOf Vrf.name (later.map PeRouter.routerVrfs)) pe.routerVrfs ++
            overwriteAll Vrf.name [] (later.map PeRouter.routerVrfs))
        protocols := Record.merge (v.protocols.withBgpVrfs
            (without BgpVrf.name (pe.bgpVrfList.map (·.name) ++
                keysOf BgpVrf.name (later.map PeRouter.bgpVrfList)) v.protocols.bgpVrfs ++
              (without BgpVrf.name (keysOf BgpVrf.name (later.map PeRouter.bgpVrfList))
                  pe.bgpVrfList ++
                overwriteAll BgpVrf.name [] (later.map PeRouter.bgpVrfList))))
          (combine ((vpn.ceEntries router).map fun r => r.protocols.getD {})) } := by
  unfold L3vpn.onVars
  rw [h, provided_of_ne_nil (List.cons_ne_nil pe later), List.map_cons, List.map_cons,
    overwriteAll_eq v.vrfs, overwriteAll_eq v.protocols.bgpVrfs, overwriteAll_cons,
    overwriteAll_cons]
  rfl

/-! ## What an entry becomes -/

section

variable (rd : Reading) (r : VpnRouter) (vrf : String)

theorem vrfs_mapVrf (f : Operator.VpnVrf → Operator.VpnVrf) :
    (r.mapVrf vrf f).vrfs.getD [] = modifyFirst (fun v => v.name = vrf) f (r.vrfs.getD []) := by
  obtain ⟨_, _ | vrfs, _, _⟩ := r <;> rfl

theorem assigns_peRouterOf : (rd.peRouterOf r).assigns =
    (r.vrfs.getD []).flatMap fun v =>
      ((rd.vpnVrf v.other).interfaces.getD []).map fun i => (i, v.name) := by
  obtain ⟨_, _ | vrfs, _, _⟩ := r
  · rfl
  · exact List.flatMap_map ..

theorem routerVrfs_peRouterOf : (rd.peRouterOf r).routerVrfs =
    (r.vrfs.getD []).map fun v => (rd.vpnVrfOf v).vrf := by
  obtain ⟨_, _ | vrfs, _, _⟩ := r
  · rfl
  · exact List.map_map

theorem bgpVrfList_peRouterOf : (rd.peRouterOf r).bgpVrfList =
    ((r.bgp.bind Operator.VpnBgp.vrfs).getD []).map rd.bgpVrfOf := by
  obtain ⟨_, _, _ | ⟨_ | vrfs, _⟩, _⟩ := r <;> rfl

/-- The later entries name the VRF exactly when one of them has it. -/
theorem mem_keysOf_routerVrfs {later : List VpnRouter} :
    vrf ∈ keysOf Vrf.name ((later.map rd.peRouterOf).map PeRouter.routerVrfs) ↔
      ∃ e ∈ later, (e.vrf? vrf).isSome := by
  simp only [keysOf, List.map_map, List.flatMap_map, List.mem_flatMap, Function.comp_apply,
    routerVrfs_peRouterOf, List.mem_map, VpnRouter.vrf?, List.find?_isSome, decide_eq_true_eq]
  rfl

theorem mem_keysOf_bgpVrfList {later : List VpnRouter} :
    vrf ∈ keysOf BgpVrf.name ((later.map rd.peRouterOf).map PeRouter.bgpVrfList) ↔
      ∃ e ∈ later, (e.bgpVrf? vrf).isSome := by
  simp only [keysOf, List.map_map, List.flatMap_map, List.mem_flatMap, Function.comp_apply,
    bgpVrfList_peRouterOf, List.mem_map, VpnRouter.bgpVrf?, List.find?_isSome, decide_eq_true_eq]
  simp [Reading.bgpVrfOf]

end

/-! ## The entry that is changed back -/

section

variable {α : Type} {find : VpnRouter → Option α} {l : List VpnRouter} {router : String}
  {r : VpnRouter}

/-- The entry with the VRF is the first one of the router, and is changed back; or the first one
is without the VRF, and stays as it is. -/
theorem changed_back_or (change undo : VpnRouter → VpnRouter)
    (hr : l.find? (fun r => r.name = router ∧ (find r).isSome) = some r)
    (hchange : ∀ r, (change r).name = r.name) (hundo : ∀ r, find r = none → undo r = r) :
    (∃ later, l.filter (fun r => r.name = router) = r :: later ∧
        modifyFirst (fun r => r.name = router ∧ (find r).isSome) change l =
          modifyFirst (fun r => r.name = router) change l) ∨
      (∀ later, l.filter (fun r => r.name = router) ≠ r :: later) ∧
        modifyFirst (fun r => r.name = router) undo
            (modifyFirst (fun r => r.name = router ∧ (find r).isSome) change l) =
          modifyFirst (fun r => r.name = router ∧ (find r).isSome) change l := by
  have hfound := List.find?_some hr
  simp only [Bool.decide_and, Bool.decide_eq_true, Bool.and_eq_true, decide_eq_true_eq] at hfound
  cases hr₀ : l.find? (fun r => r.name = router) with
  | none =>
    have hnone := List.find?_eq_none.mp hr₀ r (List.mem_of_find?_eq_some hr)
    exact absurd hfound.1 (by simpa using hnone)
  | some r₀ =>
    have hname₀ : r₀.name = router := by simpa using List.find?_some hr₀
    have hhead := hr₀
    rw [← List.head?_filter] at hhead
    cases hfind : find r₀ with
    | none =>
      right
      constructor
      · intro later hfilter
        rw [hfilter, List.head?_cons, Option.some.injEq] at hhead
        rw [hhead, hfind] at hfound
        cases hfound.2
      · have hstays := find?_modifyFirst_of_neg (f := change) hr₀
          (p := fun r => r.name = router ∧ (find r).isSome) (by simp [hfind]) fun r => by
            rw [hchange]
        exact (modifyFirst_eq_self_iff hstays).mpr (hundo r₀ hfind)
    | some v =>
      left
      have hsame := find?_of_imp hr₀ (p := fun r => r.name = router ∧ (find r).isSome)
        (by simp [hname₀, hfind]) (by simp +contextual)
      obtain rfl := Option.some.inj (hr.symm.trans hsame)
      obtain ⟨later, hfilter⟩ := List.head?_eq_some_iff.mp hhead
      exact ⟨later, hfilter, modifyFirst_congr_find? hr hr₀⟩

end

/-- The restoration changes the first entry of the router in the injected resource. -/
theorem restoreVpn_set {c : Cluster} {name : Operator.ResourceName} {router : String}
    {l : List VpnRouter} (hname : c.l3vpnName = some name) (hl : Cluster.vpnRouters.get? c = some l)
    (undo : VpnRouter → VpnRouter) (l' : List VpnRouter) :
    Operator.restoreVpn router name undo (Cluster.vpnRouters.set l' c) =
      .ok (Cluster.vpnRouters.set (modifyFirst (fun r => r.name = router) undo l') c) := by
  rw [Operator.restoreVpn_of_name ((Cluster.l3vpnName_set _).trans hname)
    (Cluster.vpnRouters.get?_set _ hl), Cluster.vpnRouters.set_set]

end GnnSandbox.Vyos
