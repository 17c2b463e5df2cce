import GnnSandbox.Vyos.VpnFault

/-!
# The route targets of a VRF in the script of its router

What a VRF imports is one command, if the VRF has a route distinguisher. `rt_reaches_iff` says when
a misconfigured route target reaches the router.
-/

namespace GnnSandbox.Vyos

open MergePatch Overwrite
open ConfigTree (Command.set)
open Operator (NetworkFailure OriginalState Cluster L3vpnSpec VpnRouter)

/-! ## Scripts that differ in the import route targets of a VRF -/

/-- The variables with one of the VRFs importing these route targets. -/
def Vars.importing (v : Vars) (before after : List Vrf) (vrf : Vrf) (rts : List String) : Vars :=
  { v with vrfs := before ++ { vrf with rtImport := some rts } :: after }

section

variable (v : Vars) (before after : List Vrf) (vrf : Vrf) (rts rts' : List String)

/-- The script around the commands of the VRF does not depend on what it imports. -/
theorem commands_importing : ∃ first rest : List Command, ∀ rts,
    (v.importing before after vrf rts).commands .update =
      first ++ (v.vrfSets { vrf with rtImport := some rts }).map Command.set ++ rest := by
  refine ⟨v.deletes.map .delete ++
      (v.systemSets ++ v.interfaceSets ++ before.flatMap v.vrfSets).map Command.set,
    (after.flatMap v.vrfSets ++ v.routes.flatMap routeSets ++ v.ospfSets ++ v.bgpSets ++
      v.mplsSets ++ v.serviceSets ++ v.trafficPolicy.toList.flatMap trafficSets).map Command.set,
    fun rts => ?_⟩
  have hsets : (v.importing before after vrf rts).sets = v.systemSets ++ v.interfaceSets ++
      (before ++ { vrf with rtImport := some rts } :: after).flatMap v.vrfSets ++
      v.routes.flatMap routeSets ++ v.ospfSets ++ v.bgpSets ++ v.mplsSets ++ v.serviceSets ++
      v.trafficPolicy.toList.flatMap trafficSets := rfl
  have hdeletes : (v.importing before after vrf rts).deletes = v.deletes := rfl
  unfold Vars.commands
  rw [hsets, hdeletes, List.flatMap_append, List.flatMap_cons]
  simp only [List.map_append, List.append_assoc]

theorem aboutVrf_of_mem_vrfSets {q : Path} {vrf : Vrf} (h : q ∈ v.vrfSets vrf) :
    aboutVrf vrf.name q = true := by
  unfold Vars.vrfSets Vars.vpnSets at h
  simp only [List.mem_append, List.mem_cons, List.not_mem_nil, or_false, Option.mem_toList,
    Option.map_eq_some_iff] at h
  unfold aboutVrf
  rcases h with (rfl | ⟨_, -, rfl⟩) | h
  · simp
  · simp
  · split at h
    · cases h
    · simp only [List.mem_append, List.mem_cons, List.not_mem_nil, or_false, Option.mem_toList,
        Option.map_eq_some_iff] at h
      rcases h with (((rfl | rfl | rfl) | ⟨_, -, rfl⟩) | ⟨_, -, rfl⟩) | rfl | rfl | rfl <;> simp

/-- What a VRF imports is in one command, if it has a route distinguisher. -/
theorem vrfSets_importing_eq_iff :
    v.vrfSets { vrf with rtImport := some rts } = v.vrfSets { vrf with rtImport := some rts' } ↔
      (vrf.rd.isSome → " ".intercalate rts = " ".intercalate rts') := by
  obtain ⟨name, table, rd, rtExport, _, description⟩ := vrf
  cases rd with
  | none => simp [Vars.vrfSets]
  | some rd => simp [Vars.vrfSets, Vars.vpnSets]

/-- **One command of one VRF.** Two lists of route targets give the same commands about the VRF
exactly when their texts are the same or the VRF has no route distinguisher. -/
theorem filter_commands_importing_iff :
    ((v.importing before after vrf rts).commands .update).filter
          (fun cmd => aboutVrf vrf.name (commandPath cmd)) =
        ((v.importing before after vrf rts').commands .update).filter
          (fun cmd => aboutVrf vrf.name (commandPath cmd)) ↔
      (vrf.rd.isSome → " ".intercalate rts = " ".intercalate rts') := by
  obtain ⟨first, rest, hcommands⟩ := commands_importing v before after vrf
  have hall (rts : List String) :
      ((v.vrfSets { vrf with rtImport := some rts }).map Command.set).filter
          (fun cmd => aboutVrf vrf.name (commandPath cmd)) =
        (v.vrfSets { vrf with rtImport := some rts }).map Command.set := by
    rw [List.filter_eq_self]
    intro cmd hcmd
    obtain ⟨q, hq, rfl⟩ := List.mem_map.mp hcmd
    exact @aboutVrf_of_mem_vrfSets v q { vrf with rtImport := some rts } hq
  rw [hcommands, hcommands, List.filter_append, List.filter_append, List.filter_append,
    List.filter_append, hall, hall, List.append_left_inj, List.append_right_inj,
    List.map_inj_right (fun _ _ => Command.set.inj), vrfSets_importing_eq_iff]

theorem script_importing : (v.importing before after vrf rts).script =
    if (v.importing before after vrf []).Complete then
      some ((v.importing before after vrf rts).commands .update) else none := by
  have hrd (rts : List String) : (∀ w ∈ (v.importing before after vrf rts).vrfs,
      w.rd.isSome → v.protocols.bgp.isSome) ↔
        ∀ w ∈ (v.importing before after vrf []).vrfs, w.rd.isSome → v.protocols.bgp.isSome := by
    unfold Vars.importing
    simp only [List.forall_mem_append, List.forall_mem_cons]
  unfold Vars.script
  refine if_congr ?_ rfl rfl
  exact ⟨fun h => ⟨(hrd rts).mp h.rd, h.ospf, h.bgp, h.mpls⟩,
    fun h => ⟨(hrd rts).mpr h.rd, h.ospf, h.bgp, h.mpls⟩⟩

end

/-! ## Route targets -/

/-- The first entry of the router with these import route targets for its VRF. -/
def withRts (router vrf : String) (rts : List String) (l : List VpnRouter) : List VpnRouter :=
  modifyFirst (fun r => r.name = router)
    (VpnRouter.mapVrf vrf fun v => { v with rtImport := some rts }) l

section

variable {rd : Reading} {spec : L3vpnSpec} {l later : List VpnRouter} {router vrf : String}
  {r : VpnRouter} {v : Operator.VpnVrf}

theorem assigns_mapVrf (r : VpnRouter) (rts : List String) :
    (rd.peRouterOf (r.mapVrf vrf fun v => { v with rtImport := some rts })).assigns =
      (rd.peRouterOf r).assigns := by
  have hassigns := map_modifyFirst (p := fun v : Operator.VpnVrf => v.name = vrf)
    (f := fun v => { v with rtImport := some rts })
    (g := fun v => ((rd.vpnVrf v.other).interfaces.getD []).map fun i => (i, v.name))
    (fun _ => rfl) (r.vrfs.getD [])
  rw [assigns_peRouterOf, assigns_peRouterOf, vrfs_mapVrf, List.flatMap_def, List.flatMap_def,
    hassigns]

theorem routerVrfs_mapVrf_names (r : VpnRouter) (rts : List String) :
    (rd.peRouterOf (r.mapVrf vrf fun v => { v with rtImport := some rts })).routerVrfs.map (·.name) =
      (rd.peRouterOf r).routerVrfs.map (·.name) := by
  have hnames := map_modifyFirst (p := fun v : Operator.VpnVrf => v.name = vrf)
    (f := fun v => { v with rtImport := some rts }) (g := fun v => (rd.vpnVrfOf v).vrf.name)
    (fun _ => rfl) (r.vrfs.getD [])
  rw [routerVrfs_peRouterOf, routerVrfs_peRouterOf, vrfs_mapVrf, List.map_map, List.map_map]
  exact hnames

/-- What an entry names does not change with the route targets. -/
theorem named_mapVrf (r : VpnRouter) (rts : List String) :
    rd.named (r.mapVrf vrf fun v => { v with rtImport := some rts }) = rd.named r := by
  unfold Reading.named
  rw [assigns_mapVrf, routerVrfs_mapVrf_names]
  rfl

theorem map_named_withRts (rts : List String) :
    (withRts router vrf rts l).map rd.named = l.map rd.named :=
  map_modifyFirst (fun r => named_mapVrf r rts) l

theorem name_of_vrf? (rd : Reading) (hv : r.vrf? vrf = some v) : (rd.vpnVrfOf v).vrf.name = vrf :=
  show v.name = vrf by simpa using List.find?_some hv

/-- The VRFs of an entry with other route targets for one of them. -/
theorem routerVrfs_mapVrf (rd : Reading) (hv : r.vrf? vrf = some v) : ∃ before after : List Vrf, ∀ rts,
    (rd.peRouterOf (r.mapVrf vrf fun v => { v with rtImport := some rts })).routerVrfs =
      before ++ { (rd.vpnVrfOf v).vrf with rtImport := some rts } :: after := by
  obtain ⟨before, after, -, hmodify⟩ := exists_modifyFirst_eq hv
  refine ⟨before.map fun v => (rd.vpnVrfOf v).vrf, after.map fun v => (rd.vpnVrfOf v).vrf,
    fun rts => ?_⟩
  rw [routerVrfs_peRouterOf, vrfs_mapVrf, hmodify, List.map_append, List.map_cons]
  rfl

theorem peEntries_withRts (h : l.filter (fun r => r.name = router) = r :: later)
    (rts : List String) : (rd.vpnWith spec (withRts router vrf rts l)).peEntries router =
      rd.peRouterOf (r.mapVrf vrf fun v => { v with rtImport := some rts }) ::
        later.map rd.peRouterOf := by
  have hfilter := filter_modifyFirst_cons
    (f := VpnRouter.mapVrf vrf fun v => { v with rtImport := some rts }) h fun _ => rfl
  rw [peEntries_vpnWith, withRts, hfilter, List.map_cons]

/-- The variables after the VPN, which depend on the route targets only in the VRFs of the entry. -/
theorem onVars_withRts (h : l.filter (fun r => r.name = router) = r :: later) (rts : List String)
    (vars : Vars) : (rd.vpnWith spec (withRts router vrf rts l)).onVars router vars =
      { (rd.vpnWith spec l).onVars router vars with
        vrfs := without Vrf.name ((rd.peRouterOf r).routerVrfs.map (·.name) ++
            keysOf Vrf.name ((later.map rd.peRouterOf).map PeRouter.routerVrfs)) vars.vrfs ++
          (without Vrf.name (keysOf Vrf.name ((later.map rd.peRouterOf).map PeRouter.routerVrfs))
              (rd.peRouterOf (r.mapVrf vrf fun v => { v with rtImport := some rts })).routerVrfs ++
            overwriteAll Vrf.name [] ((later.map rd.peRouterOf).map PeRouter.routerVrfs)) } := by
  have hl : (rd.vpnWith spec l).peEntries router =
      rd.peRouterOf r :: later.map rd.peRouterOf := by
    rw [peEntries_vpnWith, h, List.map_cons]
  rw [onVars_cons hl, onVars_cons (peEntries_withRts h rts), assigns_mapVrf,
    routerVrfs_mapVrf_names]
  rfl

/-- A later entry of the router hides the route targets. -/
theorem onVars_withRts_of_later (h : l.filter (fun r => r.name = router) = r :: later)
    (hv : r.vrf? vrf = some v) (hlater : ∃ e ∈ later, (e.vrf? vrf).isSome)
    (rts rts' : List String) (vars : Vars) :
    (rd.vpnWith spec (withRts router vrf rts l)).onVars router vars =
      (rd.vpnWith spec (withRts router vrf rts' l)).onVars router vars := by
  obtain ⟨before, after, hvrfs⟩ := routerVrfs_mapVrf rd hv
  have hname := name_of_vrf? rd hv
  have hmem := hname ▸ (mem_keysOf_routerVrfs rd vrf).mpr hlater
  have hhidden (rts : List String) := without_middle_of_mem Vrf.name
    (a := { (rd.vpnVrfOf v).vrf with rtImport := some rts }) hmem before after
  rw [onVars_withRts h, onVars_withRts h, hvrfs, hvrfs, hhidden, hhidden]

/-- Without a later entry that has the VRF, the router imports them. -/
theorem onVars_withRts_of_last (rd : Reading) (spec : L3vpnSpec)
    (h : l.filter (fun r => r.name = router) = r :: later)
    (hv : r.vrf? vrf = some v) (hlater : ∀ e ∈ later, e.vrf? vrf = none) (vars : Vars) :
    ∃ before after : List Vrf, ∀ rts,
      (rd.vpnWith spec (withRts router vrf rts l)).onVars router vars =
        ((rd.vpnWith spec l).onVars router vars).importing before after (rd.vpnVrfOf v).vrf rts := by
  obtain ⟨before, after, hvrfs⟩ := routerVrfs_mapVrf rd hv
  have hname := name_of_vrf? rd hv
  have hmem : (rd.vpnVrfOf v).vrf.name ∉
      keysOf Vrf.name ((later.map rd.peRouterOf).map PeRouter.routerVrfs) := by
    rw [hname, mem_keysOf_routerVrfs]
    rintro ⟨e, he, hsome⟩
    rw [hlater e he] at hsome
    cases hsome
  let keys := keysOf Vrf.name ((later.map rd.peRouterOf).map PeRouter.routerVrfs)
  refine ⟨without Vrf.name ((rd.peRouterOf r).routerVrfs.map (·.name) ++ keys) vars.vrfs ++
      without Vrf.name keys before,
    without Vrf.name keys after ++
      overwriteAll Vrf.name [] ((later.map rd.peRouterOf).map PeRouter.routerVrfs), fun rts => ?_⟩
  have hkept := without_middle_of_notMem Vrf.name
    (a := { (rd.vpnVrfOf v).vrf with rtImport := some rts }) hmem before after
  rw [onVars_withRts h, hvrfs, hkept]
  unfold Vars.importing
  simp only [List.append_assoc, List.cons_append, keys]

end

/-! ## Main result -/

/-- The entry that is found with these import route targets for its VRF. -/
def withFoundRts (router vrf : String) (rts : List String) (l : List VpnRouter) : List VpnRouter :=
  modifyFirst (fun r => r.name = router ∧ (r.vrf? vrf).isSome)
    (VpnRouter.mapVrf vrf fun v => { v with rtImport := some rts }) l

/-- The route targets that are restored: those of the VRF, or else the correct one. -/
def rtsRestored (nf : NetworkFailure) (v : Operator.VpnVrf) : Option (List String) :=
  Operator.restoredRts
    { originalRtImport := some (v.rtImport.getD [])
      correctRt := some (nf.parameters.correctRt.getD "65035:1030") } nf.parameters

/-- A misconfigured route target reaches the router from this VRF of this entry: the entry is the
first one of the router and none after it has the VRF, the VRF has a route distinguisher, the route
targets read differently from those that are restored, and the router is up to date with these. If
none can be restored, the scripts have to differ. -/
def RtReachesFrom (rd : Reading) (nf : NetworkFailure) (spec : L3vpnSpec) (l : List VpnRouter)
    (r : VpnRouter) (v : Operator.VpnVrf) (routers : Routers) : Prop :=
  let router := nf.target.router
  let vrf := nf.target.vrf.getD "global"
  let wrong := Operator.misconfiguredRts (nf.parameters.correctRt.getD "65035:1030")
    (nf.parameters.wrongRt.getD "65035:9999") (v.rtImport.getD [])
  match rtsRestored nf v with
  | none =>
    ScriptsDiffer nf routers (applyVpn (rd.vpnWith spec (withFoundRts router vrf wrong l)) routers)
  | some rts =>
    (∃ later, l.filter (fun r => r.name = router) = r :: later ∧
      ∀ e ∈ later, e.vrf? vrf = none) ∧
    (rd.vpnVrfOf v).vrf.rd.isSome ∧ " ".intercalate wrong ≠ " ".intercalate rts ∧
    (scriptOf routers router).isSome ∧
    scriptOf (applyVpn (rd.vpnWith spec (withRts router vrf rts l)) routers) router =
      scriptOf routers router

/-- When a misconfigured route target reaches the router, from the VRF that the injection finds. -/
def RtReaches (rd : Reading) (nf : NetworkFailure) (c : Cluster) (routers : Routers) : Prop :=
  let router := nf.target.router
  let vrf := nf.target.vrf.getD "global"
  ∃ name spec l r v, c.l3vpns.first = some (name, spec) ∧ spec.routers = some l ∧
    l.find? (fun r => r.name = router ∧ (r.vrf? vrf).isSome) = some r ∧ r.vrf? vrf = some v ∧
    RtReachesFrom rd nf spec l r v routers

/-- The scripts with two lists of route targets, when the router is up to date with one of them. -/
theorem scriptsDiffer_withRts_iff (rd : Reading) (spec : L3vpnSpec) (routers : Routers)
    {nf : NetworkFailure} {l later : List VpnRouter} {r : VpnRouter} {v : Operator.VpnVrf}
    (htype : nf.failureType = .vrfRtMisconfiguration)
    (hfilter : l.filter (fun r => r.name = nf.target.router) = r :: later)
    (hv : r.vrf? (nf.target.vrf.getD "global") = some v) (wrong rts : List String)
    (hsync : scriptOf (applyVpn (rd.vpnWith spec
        (withRts nf.target.router (nf.target.vrf.getD "global") rts l)) routers) nf.target.router =
      scriptOf routers nf.target.router) :
    ScriptsDiffer nf routers (applyVpn (rd.vpnWith spec
        (withRts nf.target.router (nf.target.vrf.getD "global") wrong l)) routers) ↔
      (∀ e ∈ later, e.vrf? (nf.target.vrf.getD "global") = none) ∧ (rd.vpnVrfOf v).vrf.rd.isSome ∧
        " ".intercalate wrong ≠ " ".intercalate rts ∧ (scriptOf routers nf.target.router).isSome := by
  generalize hvrf : nf.target.vrf.getD "global" = vrf at *
  have habout : aboutTarget nf =
      fun cmd => aboutVrf (rd.vpnVrfOf v).vrf.name (commandPath cmd) := by
    funext cmd
    unfold aboutTarget
    rw [htype, name_of_vrf? rd hv, hvrf]
  cases hrouter : routers nf.target.router with
  | none =>
    have hnone : ¬(scriptOf routers nf.target.router).isSome := by
      rw [scriptOf, hrouter, Option.bind_none]
      exact Bool.false_ne_true
    exact iff_of_false (fun hdiffer => hnone hdiffer.isSome) fun h => hnone h.2.2.2
  | some s =>
    by_cases hlater : ∀ e ∈ later, e.vrf? vrf = none
    · obtain ⟨before, after, hvars⟩ := onVars_withRts_of_last rd spec hfilter hv hlater
        s.extravars
      have hscript (rts : List String) := (scriptOf_applyVpn (rd.vpnWith spec
        (withRts nf.target.router vrf rts l)) hrouter).trans
          ((congrArg Vars.script (hvars rts)).trans (script_importing _ before after _ rts))
      have hcommands := filter_commands_importing_iff
        ((rd.vpnWith spec l).onVars nf.target.router s.extravars) before after (rd.vpnVrfOf v).vrf
        wrong rts
      unfold ScriptsDiffer
      rw [← hsync, hscript, hscript, habout]
      by_cases hcomplete : (((rd.vpnWith spec l).onVars nf.target.router s.extravars).importing
          before after (rd.vpnVrfOf v).vrf []).Complete
      · simp only [if_pos hcomplete, Option.mem_some_iff, exists_eq_left', ne_eq, hcommands,
          Classical.not_imp, Option.isSome_some, and_true]
        exact (and_iff_right hlater).symm
      · simp [if_neg hcomplete]
    · refine iff_of_false (fun hdiffer => ?_) fun h => hlater h.1
      refine hdiffer.scriptOf_ne (Eq.trans ?_ hsync)
      have hexists : ∃ e ∈ later, (e.vrf? vrf).isSome := by
        simpa only [not_forall, exists_prop, ← ne_eq, ← Option.isSome_iff_ne_none] using hlater
      rw [scriptOf_applyVpn _ hrouter, scriptOf_applyVpn _ hrouter,
        onVars_withRts_of_later hfilter hv hexists wrong rts]

/-- Changing the route targets of a VRF twice, in the first entry of its router. -/
theorem withRts_withRts (router vrf : String) (rts rts' : List String) (l : List VpnRouter) :
    withRts router vrf rts' (withRts router vrf rts l) = withRts router vrf rts' l := by
  have htwice := modifyFirst_modifyFirst (l := l) (p := fun r : VpnRouter => r.name = router)
    (f := VpnRouter.mapVrf vrf fun v => { v with rtImport := some rts })
    (g := VpnRouter.mapVrf vrf fun v => { v with rtImport := some rts' }) fun _ => rfl
  refine htwice.trans (congrArg (modifyFirst _ · l) (funext fun r => ?_))
  exact @Operator.mapVrf_mapVrf vrf (fun v => { v with rtImport := some rts })
    (fun v => { v with rtImport := some rts' }) (fun _ => rfl) r

/-- What the injection leaves, in terms of the route targets alone. -/
theorem modifyFirst_misconfigured {l : List VpnRouter} {r : VpnRouter} {v : Operator.VpnVrf}
    {router vrf : String} (correctRt wrongRt : String)
    (hr : l.find? (fun r => r.name = router ∧ (r.vrf? vrf).isSome) = some r)
    (hv : r.vrf? vrf = some v) :
    modifyFirst (fun r => r.name = router ∧ (r.vrf? vrf).isSome)
        (VpnRouter.mapVrf vrf fun v => { v with
          rtImport := some (Operator.misconfiguredRts correctRt wrongRt (v.rtImport.getD [])) }) l =
      withFoundRts router vrf
        (Operator.misconfiguredRts correctRt wrongRt (v.rtImport.getD [])) l := by
  refine (modifyFirst_eq_iff hr).mpr ?_
  obtain ⟨_, _ | vrfs, _, _⟩ := r
  · rfl
  · have hsame := (modifyFirst_eq_iff hv (f := fun v : Operator.VpnVrf => { v with
        rtImport := some (Operator.misconfiguredRts correctRt wrongRt (v.rtImport.getD [])) })
      (g := fun w : Operator.VpnVrf => { w with
        rtImport := some (Operator.misconfiguredRts correctRt wrongRt (v.rtImport.getD [])) })).mpr rfl
    unfold VpnRouter.mapVrf
    simp only [Option.map_some]
    exact congrArg (fun vrfs => (⟨_, some vrfs, _, _⟩ : VpnRouter)) hsame

/-- **A misconfigured route target reaches the router** exactly in these cases. -/
theorem rt_reaches_iff {rd : Reading} {nf : NetworkFailure} {c injected : Cluster}
    {saved : OriginalState} (htype : nf.failureType = .vrfRtMisconfiguration)
    (h : Operator.injectFailureOperator nf c = .ok (saved, injected)) (routers : Routers) :
    FaultReaches rd nf saved injected routers ↔ RtReaches rd nf c routers := by
  unfold Operator.injectFailureOperator at h
  simp only [htype] at h
  obtain ⟨name, l, r, v, hname, hl, hr, hv, hsaved, rfl⟩ := Operator.injectVpn_ok_iff.mp h
  obtain ⟨⟨name, spec⟩, hfirst, rfl⟩ := Option.map_eq_some_iff.mp hname
  have hspec := (Cluster.vpnRouters_get? hfirst).symm.trans hl
  rw [modifyFirst_misconfigured _ _ hr hv]
  have hrestore (l' : List VpnRouter) : Operator.restoreFailureOperator nf saved
      (Cluster.vpnRouters.set l' c) =
        match rtsRestored nf v with
        | none => .error ("original_state missing original_rt_import and correct_rt — " ++
            "cannot determine what RT to restore. Manual remediation required.")
        | some rts => .ok (Cluster.vpnRouters.set
            (withRts nf.target.router (nf.target.vrf.getD "global") rts l') c) := by
    unfold Operator.restoreFailureOperator Operator.restoreVrfRtMisconfiguration
    simp only [htype, hsaved, Option.some_or, restoreVpn_set hname hl]
    rfl
  have hreaches : RtReaches rd nf c routers ↔ RtReachesFrom rd nf spec l r v routers := by
    constructor
    · rintro ⟨_, _, _, _, _, hfirst', hspec', hr', hv', h⟩
      obtain ⟨-, rfl⟩ := Prod.mk.inj (Option.some.inj (hfirst.symm.trans hfirst'))
      obtain rfl := Option.some.inj (hspec.symm.trans hspec')
      obtain rfl := Option.some.inj (hr.symm.trans hr')
      obtain rfl := Option.some.inj (hv.symm.trans hv')
      exact h
    · intro h
      exact ⟨name, spec, l, r, v, hfirst, hspec, hr, hv, h⟩
  have hname : saved.l3vpnName = some name := by rw [hsaved]
  rw [hreaches]
  unfold RtReachesFrom
  cases hrts : rtsRestored nf v with
  | none =>
    rw [hrts] at hrestore
    unfold FaultReaches
    simp only [propagate_vpn rd (.inr htype) hfirst hname, hrestore]
    exact and_iff_left fun _ herror => by cases herror
  | some rts =>
    simp only [hrts] at hrestore
    generalize Operator.misconfiguredRts (nf.parameters.correctRt.getD "65035:1030")
      (nf.parameters.wrongRt.getD "65035:9999") (v.rtImport.getD []) = wrong at *
    rcases changed_back_or (VpnRouter.mapVrf (nf.target.vrf.getD "global") fun v =>
        { v with rtImport := some wrong })
      (VpnRouter.mapVrf (nf.target.vrf.getD "global") fun v => { v with rtImport := some rts })
      hr (fun _ => rfl) (fun _ => Operator.mapVrf_of_none) with
      ⟨later, hfilter, hsame⟩ | ⟨hother, hkept⟩
    · change withFoundRts _ _ wrong l = withRts _ _ wrong l at hsame
      have hundone := hrestore (withRts nf.target.router (nf.target.vrf.getD "global") wrong l)
      rw [withRts_withRts] at hundone
      rw [hsame, vpn_reaches_iff (.inr htype) hfirst hname hundone
        ((map_named_withRts wrong).trans (map_named_withRts rts).symm)]
      have hdiffer := scriptsDiffer_withRts_iff rd spec routers
        htype hfilter hv wrong rts
      constructor
      · rintro ⟨hscripts, hsync⟩
        obtain ⟨hlater, hdistinguished, hne, hsome⟩ := (hdiffer hsync).mp hscripts
        exact ⟨⟨later, hfilter, hlater⟩, hdistinguished, hne, hsome, hsync⟩
      · rintro ⟨⟨later', hfilter', hlater⟩, hdistinguished, hne, hsome, hsync⟩
        obtain ⟨-, rfl⟩ := List.cons.inj (hfilter.symm.trans hfilter')
        exact ⟨(hdiffer hsync).mpr ⟨hlater, hdistinguished, hne, hsome⟩, hsync⟩
    · have hundone := (hrestore (withFoundRts nf.target.router (nf.target.vrf.getD "global") wrong
        l)).trans (congrArg (fun l => Except.ok (Cluster.vpnRouters.set l c)) hkept)
      refine iff_of_false (not_vpn_reaches (.inr htype) hfirst hname hundone) ?_
      rintro ⟨⟨later, hfilter, -⟩, -⟩
      exact hother later hfilter

end GnnSandbox.Vyos
