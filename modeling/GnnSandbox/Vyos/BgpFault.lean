import GnnSandbox.Vyos.VpnFault

/-!
# The neighbours of a VRF in the script of its router

The neighbours of a VRF follow the first two commands of its BGP instance. `bgp_reaches_iff` says
when a BGP session that goes down reaches the router.
-/

namespace GnnSandbox.Vyos

open Graph (Json)
open MergePatch Overwrite
open ConfigTree (Command.set)
open Operator (NetworkFailure OriginalState Cluster L3vpnSpec VpnRouter)

/-! ## Scripts that differ in the neighbours of a VRF -/

/-- The variables with one of the BGP VRFs having these neighbours. -/
def Vars.peering (v : Vars) (before after : List BgpVrf) (vrf : String) (ns : List Neighbor) :
    Vars :=
  { v with protocols := v.protocols.withBgpVrfs (before ++ ⟨vrf, some ns⟩ :: after) }

section

variable (v : Vars) (before after : List BgpVrf) (vrf : String) (ns : List Neighbor)

theorem deletes_peering :
    (v.peering before after vrf ns).deletes = (v.peering before after vrf []).deletes := by
  have hbgp (ns : List Neighbor) : ¬((v.peering before after vrf ns).protocols.bgp = none ∨
      (v.peering before after vrf ns).protocols.bgp = some {}) := by
    simp [Vars.peering, Protocols.withBgpVrfs]
  unfold Vars.deletes
  rw [if_neg (hbgp ns), if_neg (hbgp [])]
  rfl

/-- What is redistributed, after the neighbours of a VRF. -/
def redistributeConnected (vrf : String) : Path :=
  ["vrf", "name", vrf, "protocols", "bgp", "address-family", "ipv4-unicast", "redistribute",
    "connected"]

/-- The commands before the neighbours of a VRF do not depend on them. -/
theorem commands_peering : ∃ first : List Command, ∀ ns, ∃ rest : List Command,
    (v.peering before after vrf ns).commands .update = first ++
      (ns.flatMap ((v.peering before after vrf []).vrfNeighborSets vrf) ++
        [redistributeConnected vrf]).map Command.set ++ rest := by
  let s := v.peering before after vrf []
  let bgp := ["vrf", "name", vrf, "protocols", "bgp"]
  refine ⟨s.deletes.map .delete ++ (s.systemSets ++ s.interfaceSets ++ s.vrfs.flatMap s.vrfSets ++
      s.routes.flatMap routeSets ++ s.ospfSets ++
      ([["protocols", "bgp", "system-as", toString s.asNumber],
        ["protocols", "bgp", "parameters", "router-id", s.bgpRouterId]] ++
      (if s.routeReflector then [["protocols", "bgp", "parameters", "cluster-id", s.bgpRouterId]]
        else []) ++ s.neighbors.flatMap s.neighborSets ++ s.familySets ++
      before.flatMap s.bgpVrfSets ++ [bgp ++ ["system-as", toString s.asNumber],
        bgp ++ ["parameters", "router-id", s.bgpRouterId]])).map Command.set, fun ns => ?_⟩
  refine ⟨(after.flatMap s.bgpVrfSets ++ (v.peering before after vrf ns).addedSets ++
    (if s.neighbors = [] then []
      else [["protocols", "bgp", "address-family", "ipv4-unicast", "redistribute", "connected"]]) ++
    s.mplsSets ++ s.serviceSets ++ s.trafficPolicy.toList.flatMap trafficSets).map Command.set, ?_⟩
  have hsets : (v.peering before after vrf ns).sets = s.systemSets ++ s.interfaceSets ++
      s.vrfs.flatMap s.vrfSets ++ s.routes.flatMap routeSets ++ s.ospfSets ++
      ([["protocols", "bgp", "system-as", toString s.asNumber],
        ["protocols", "bgp", "parameters", "router-id", s.bgpRouterId]] ++
      (if s.routeReflector then [["protocols", "bgp", "parameters", "cluster-id", s.bgpRouterId]]
        else []) ++ s.neighbors.flatMap s.neighborSets ++ s.familySets ++
      (before ++ ⟨vrf, some ns⟩ :: after).flatMap s.bgpVrfSets ++
      (v.peering before after vrf ns).addedSets ++
      (if s.neighbors = [] then []
        else [["protocols", "bgp", "address-family", "ipv4-unicast", "redistribute",
          "connected"]])) ++
      s.mplsSets ++ s.serviceSets ++ s.trafficPolicy.toList.flatMap trafficSets := rfl
  have hvrf : s.bgpVrfSets ⟨vrf, some ns⟩ = [bgp ++ ["system-as", toString s.asNumber],
      bgp ++ ["parameters", "router-id", s.bgpRouterId]] ++
      (ns.flatMap (s.vrfNeighborSets vrf) ++ [redistributeConnected vrf]) := rfl
  unfold Vars.commands
  rw [hsets, deletes_peering, List.flatMap_append, List.flatMap_cons, hvrf]
  simp only [List.map_append, List.append_assoc]
  rfl

/-- **The first command that differs.** Without its neighbours the VRF has other commands. -/
theorem filter_commands_peering_ne (h : ns ≠ []) :
    ((v.peering before after vrf []).commands .update).filter
        (fun cmd => aboutVrf vrf (commandPath cmd)) ≠
      ((v.peering before after vrf ns).commands .update).filter
        (fun cmd => aboutVrf vrf (commandPath cmd)) := by
  obtain ⟨first, hcommands⟩ := commands_peering v before after vrf
  obtain ⟨rest, hrest⟩ := hcommands []
  obtain ⟨rest', hrest'⟩ := hcommands ns
  obtain ⟨n, ns', rfl⟩ := List.exists_cons_of_ne_nil h
  intro heq
  rw [hrest, hrest', List.flatMap_cons, List.append_assoc, List.append_assoc, List.filter_append,
    List.filter_append first, List.append_cancel_left_eq] at heq
  simp [Vars.vrfNeighborSets, vrfNeighborNode, redistributeConnected, commandPath, aboutVrf] at heq

theorem script_peering : (v.peering before after vrf ns).script =
    if (v.peering before after vrf []).Complete then
      some ((v.peering before after vrf ns).commands .update) else none := by
  have hcomplete (ns ns' : List Neighbor) (h : (v.peering before after vrf ns).Complete) :
      (v.peering before after vrf ns').Complete := by
    refine ⟨h.rd, h.ospf, fun b hb => ?_, h.mpls⟩
    obtain rfl := Option.some.inj hb
    have hbgp := h.bgp
      { v.protocols.bgp.getD {} with vrfs := some (before ++ ⟨vrf, some ns⟩ :: after) } rfl
    exact hbgp
  exact if_congr ⟨hcomplete ns [], hcomplete [] ns⟩ rfl rfl

end

/-! ## Neighbours in the entries -/

/-- The first entry of the router with these neighbours for its VRF. -/
def withNeighbors (router vrf : String) (ns : List Json) (l : List VpnRouter) : List VpnRouter :=
  modifyFirst (fun r => r.name = router)
    (VpnRouter.mapBgpVrf vrf fun v => { v with neighbors := some ns }) l

section

variable {rd : Reading} {spec : L3vpnSpec} {l later : List VpnRouter} {router vrf : String}
  {r : VpnRouter} {v : Operator.BgpVrf}

theorem bgpVrfs_mapBgpVrf (r : VpnRouter) (f : Operator.BgpVrf → Operator.BgpVrf) :
    ((r.mapBgpVrf vrf f).bgp.bind Operator.VpnBgp.vrfs).getD [] =
      modifyFirst (fun v => v.name = vrf) f ((r.bgp.bind Operator.VpnBgp.vrfs).getD []) := by
  obtain ⟨_, _, _ | ⟨_ | vrfs, _⟩, _⟩ := r <;> rfl

theorem bgpVrfList_mapBgpVrf_names (r : VpnRouter) (ns : List Json) :
    (rd.peRouterOf (r.mapBgpVrf vrf fun v => { v with neighbors := some ns })).bgpVrfList.map
      (·.name) = (rd.peRouterOf r).bgpVrfList.map (·.name) := by
  have hnames := map_modifyFirst (p := fun v : Operator.BgpVrf => v.name = vrf)
    (f := fun v => { v with neighbors := some ns }) (g := fun v => (rd.bgpVrfOf v).name)
    (fun _ => rfl) ((r.bgp.bind Operator.VpnBgp.vrfs).getD [])
  rw [bgpVrfList_peRouterOf, bgpVrfList_peRouterOf, bgpVrfs_mapBgpVrf, List.map_map, List.map_map]
  exact hnames

/-- What an entry names does not change with the neighbours. -/
theorem named_mapBgpVrf (r : VpnRouter) (ns : List Json) :
    rd.named (r.mapBgpVrf vrf fun v => { v with neighbors := some ns }) = rd.named r := by
  unfold Reading.named
  rw [bgpVrfList_mapBgpVrf_names]
  rfl

theorem map_named_withNeighbors (ns : List Json) :
    (withNeighbors router vrf ns l).map rd.named = l.map rd.named :=
  map_modifyFirst (fun r => named_mapBgpVrf r ns) l

/-- The BGP VRFs of an entry with other neighbours for one of them. -/
theorem bgpVrfList_mapBgpVrf (rd : Reading) (hv : r.bgpVrf? vrf = some v) : ∃ before after : List BgpVrf, ∀ ns,
    (rd.peRouterOf (r.mapBgpVrf vrf fun v => { v with neighbors := some ns })).bgpVrfList =
      before ++ ⟨vrf, some (ns.map rd.neighbor)⟩ :: after := by
  obtain ⟨before, after, -, hmodify⟩ := exists_modifyFirst_eq hv
  have hname : v.name = vrf := by simpa using List.find?_some hv
  refine ⟨before.map rd.bgpVrfOf, after.map rd.bgpVrfOf, fun ns => ?_⟩
  rw [bgpVrfList_peRouterOf, bgpVrfs_mapBgpVrf, hmodify, List.map_append, List.map_cons, ← hname]
  rfl

theorem peEntries_withNeighbors (h : l.filter (fun r => r.name = router) = r :: later)
    (ns : List Json) : (rd.vpnWith spec (withNeighbors router vrf ns l)).peEntries router =
      rd.peRouterOf (r.mapBgpVrf vrf fun v => { v with neighbors := some ns }) ::
        later.map rd.peRouterOf := by
  have hfilter := filter_modifyFirst_cons
    (f := VpnRouter.mapBgpVrf vrf fun v => { v with neighbors := some ns }) h fun _ => rfl
  rw [peEntries_vpnWith, withNeighbors, hfilter, List.map_cons]

/-- What the CE entries for the router patch together. -/
def Reading.cePatch (rd : Reading) (spec : L3vpnSpec) (router : String) : Protocols :=
  combine (((rd.vpn spec).ceEntries router).map fun r => r.protocols.getD {})

/-- The variables after the VPN, which depend on the neighbours only in the BGP VRFs of the
entry. -/
theorem onVars_withNeighbors (h : l.filter (fun r => r.name = router) = r :: later)
    (ns : List Json) (vars : Vars) :
    (rd.vpnWith spec (withNeighbors router vrf ns l)).onVars router vars =
      { (rd.vpnWith spec l).onVars router vars with
        protocols := Record.merge (vars.protocols.withBgpVrfs
            (without BgpVrf.name ((rd.peRouterOf r).bgpVrfList.map (·.name) ++
                keysOf BgpVrf.name ((later.map rd.peRouterOf).map PeRouter.bgpVrfList))
              vars.protocols.bgpVrfs ++
            (without BgpVrf.name
                (keysOf BgpVrf.name ((later.map rd.peRouterOf).map PeRouter.bgpVrfList))
                (rd.peRouterOf
                  (r.mapBgpVrf vrf fun v => { v with neighbors := some ns })).bgpVrfList ++
              overwriteAll BgpVrf.name [] ((later.map rd.peRouterOf).map PeRouter.bgpVrfList))))
          (rd.cePatch spec router) } := by
  have hl : (rd.vpnWith spec l).peEntries router =
      rd.peRouterOf r :: later.map rd.peRouterOf := by
    rw [peEntries_vpnWith, h, List.map_cons]
  rw [onVars_cons hl, onVars_cons (peEntries_withNeighbors h ns), bgpVrfList_mapBgpVrf_names]
  rfl

/-- A CE entry that gives BGP VRFs hides the neighbours. -/
theorem onVars_withNeighbors_of_ce {vrfs : List BgpVrf}
    (h : l.filter (fun r => r.name = router) = r :: later)
    (hce : (rd.cePatch spec router).bgp.bind Bgp.vrfs = some vrfs) (ns ns' : List Json)
    (vars : Vars) : (rd.vpnWith spec (withNeighbors router vrf ns l)).onVars router vars =
      (rd.vpnWith spec (withNeighbors router vrf ns' l)).onVars router vars := by
  rw [onVars_withNeighbors h, onVars_withNeighbors h]
  exact congrArg (fun p => { (rd.vpnWith spec l).onVars router vars with protocols := p })
    (merge_withBgpVrfs_of_some hce _ _ _)

/-- A later entry of the router hides the neighbours. -/
theorem onVars_withNeighbors_of_later (h : l.filter (fun r => r.name = router) = r :: later)
    (hv : r.bgpVrf? vrf = some v) (hlater : ∃ e ∈ later, (e.bgpVrf? vrf).isSome)
    (ns ns' : List Json) (vars : Vars) :
    (rd.vpnWith spec (withNeighbors router vrf ns l)).onVars router vars =
      (rd.vpnWith spec (withNeighbors router vrf ns' l)).onVars router vars := by
  obtain ⟨before, after, hvrfs⟩ := bgpVrfList_mapBgpVrf rd hv
  have hmem := (mem_keysOf_bgpVrfList rd vrf).mpr hlater
  have hhidden (ns : List Json) := without_middle_of_mem BgpVrf.name
    (a := ⟨vrf, some (ns.map rd.neighbor)⟩) hmem before after
  rw [onVars_withNeighbors h, onVars_withNeighbors h, hvrfs, hvrfs, hhidden, hhidden]

/-- Without a later or CE entry that has the VRF, the router gets them. -/
theorem onVars_withNeighbors_of_last (h : l.filter (fun r => r.name = router) = r :: later)
    (hv : r.bgpVrf? vrf = some v) (hlater : ∀ e ∈ later, e.bgpVrf? vrf = none)
    (hce : (rd.cePatch spec router).bgp.bind Bgp.vrfs = none) (vars : Vars) :
    ∃ (base : Vars) (before after : List BgpVrf), ∀ ns,
      (rd.vpnWith spec (withNeighbors router vrf ns l)).onVars router vars =
        base.peering before after vrf (ns.map rd.neighbor) := by
  obtain ⟨before, after, hvrfs⟩ := bgpVrfList_mapBgpVrf rd hv
  have hmem : vrf ∉ keysOf BgpVrf.name ((later.map rd.peRouterOf).map PeRouter.bgpVrfList) := by
    rw [mem_keysOf_bgpVrfList]
    rintro ⟨e, he, hsome⟩
    rw [hlater e he] at hsome
    cases hsome
  let keys := keysOf BgpVrf.name ((later.map rd.peRouterOf).map PeRouter.bgpVrfList)
  refine ⟨{ (rd.vpnWith spec l).onVars router vars with
      protocols := Record.merge (vars.protocols.withBgpVrfs []) (rd.cePatch spec router) },
    without BgpVrf.name ((rd.peRouterOf r).bgpVrfList.map (·.name) ++ keys)
      vars.protocols.bgpVrfs ++ without BgpVrf.name keys before,
    without BgpVrf.name keys after ++
      overwriteAll BgpVrf.name [] ((later.map rd.peRouterOf).map PeRouter.bgpVrfList),
    fun ns => ?_⟩
  have hkept := without_middle_of_notMem BgpVrf.name
    (a := ⟨vrf, some (ns.map rd.neighbor)⟩) hmem before after
  rw [onVars_withNeighbors h, hvrfs, hkept, merge_withBgpVrfs_of_none hce]
  unfold Vars.peering
  simp only [List.append_assoc, List.cons_append, keys]

end

/-! ## Main result -/

/-- A BGP session that goes down reaches the router from this VRF of this entry: the entry is the
first one of the router, neither a later one nor a CE entry gives the VRF, the VRF has neighbours,
and the router is up to date with the resource. -/
structure BgpReachesFrom (rd : Reading) (nf : NetworkFailure) (spec : L3vpnSpec)
    (l : List VpnRouter) (r : VpnRouter) (v : Operator.BgpVrf) (routers : Routers) : Prop where
  last : ∃ later, l.filter (fun r => r.name = nf.target.router) = r :: later ∧
    ∀ e ∈ later, e.bgpVrf? (nf.target.vrf.getD "global") = none
  ces : (rd.cePatch spec nf.target.router).bgp.bind Bgp.vrfs = none
  neighbors : v.neighbors.getD [] ≠ []
  script : (scriptOf routers nf.target.router).isSome
  sync : scriptOf (applyVpn (rd.vpn spec) routers) nf.target.router =
    scriptOf routers nf.target.router

/-- When a BGP session that goes down reaches the router, from the VRF that the injection finds. -/
def BgpReaches (rd : Reading) (nf : NetworkFailure) (c : Cluster) (routers : Routers) : Prop :=
  let router := nf.target.router
  let vrf := nf.target.vrf.getD "global"
  ∃ name spec l r v, c.l3vpns.first = some (name, spec) ∧ spec.routers = some l ∧
    l.find? (fun r => r.name = router ∧ (r.bgpVrf? vrf).isSome) = some r ∧
    r.bgpVrf? vrf = some v ∧ BgpReachesFrom rd nf spec l r v routers

/-- The scripts without and with neighbours, when the router is up to date with these. -/
theorem scriptsDiffer_withNeighbors_iff (rd : Reading) (spec : L3vpnSpec) (routers : Routers)
    {nf : NetworkFailure} {l later : List VpnRouter} {r : VpnRouter} {v : Operator.BgpVrf}
    (htype : nf.failureType = .bgpSessionDown)
    (hfilter : l.filter (fun r => r.name = nf.target.router) = r :: later)
    (hv : r.bgpVrf? (nf.target.vrf.getD "global") = some v) (ns : List Json)
    (hsync : scriptOf (applyVpn (rd.vpnWith spec
        (withNeighbors nf.target.router (nf.target.vrf.getD "global") ns l)) routers)
        nf.target.router = scriptOf routers nf.target.router) :
    ScriptsDiffer nf routers (applyVpn (rd.vpnWith spec
        (withNeighbors nf.target.router (nf.target.vrf.getD "global") [] l)) routers) ↔
      (∀ e ∈ later, e.bgpVrf? (nf.target.vrf.getD "global") = none) ∧
        (rd.cePatch spec nf.target.router).bgp.bind Bgp.vrfs = none ∧ ns ≠ [] ∧
          (scriptOf routers nf.target.router).isSome := by
  generalize hvrf : nf.target.vrf.getD "global" = vrf at *
  have habout : aboutTarget nf = fun cmd => aboutVrf vrf (commandPath cmd) := by
    funext cmd
    unfold aboutTarget
    rw [htype, hvrf]
  cases hrouter : routers nf.target.router with
  | none =>
    have hnone : ¬(scriptOf routers nf.target.router).isSome := by
      rw [scriptOf, hrouter, Option.bind_none]
      exact Bool.false_ne_true
    exact iff_of_false (fun hdiffer => hnone hdiffer.isSome) fun h => hnone h.2.2.2
  | some s =>
    have hsame (h : ∀ vars, (rd.vpnWith spec
        (withNeighbors nf.target.router vrf [] l)).onVars nf.target.router vars =
          (rd.vpnWith spec (withNeighbors nf.target.router vrf ns l)).onVars nf.target.router vars) :
        ¬ScriptsDiffer nf routers (applyVpn (rd.vpnWith spec
          (withNeighbors nf.target.router vrf [] l)) routers) := by
      intro hdiffer
      refine hdiffer.scriptOf_ne (Eq.trans ?_ hsync)
      rw [scriptOf_applyVpn _ hrouter, scriptOf_applyVpn _ hrouter, h]
    by_cases hlater : ∀ e ∈ later, e.bgpVrf? vrf = none
    · cases hce : (rd.cePatch spec nf.target.router).bgp.bind Bgp.vrfs with
      | some vrfs =>
        exact iff_of_false (hsame fun vars => onVars_withNeighbors_of_ce hfilter hce [] ns vars)
          fun h => by cases h.2.1
      | none =>
        obtain ⟨base, before, after, hvars⟩ := onVars_withNeighbors_of_last hfilter hv hlater hce
          s.extravars
        have hscript (ns : List Json) := (scriptOf_applyVpn (rd.vpnWith spec
          (withNeighbors nf.target.router vrf ns l)) hrouter).trans
            ((congrArg Vars.script (hvars ns)).trans (script_peering base before after vrf _))
        unfold ScriptsDiffer
        rw [← hsync, hscript, hscript, habout, List.map_nil]
        by_cases hcomplete : (base.peering before after vrf []).Complete
        · simp only [if_pos hcomplete, Option.mem_some_iff, exists_eq_left', Option.isSome_some,
            and_true, true_and]
          constructor
          · rintro hne
            refine ⟨hlater, fun hnil => hne ?_⟩
            rw [hnil, List.map_nil]
          · rintro ⟨-, hne⟩
            exact filter_commands_peering_ne base before after vrf _ (by simpa using hne)
        · simp [if_neg hcomplete]
    · have hexists : ∃ e ∈ later, (e.bgpVrf? vrf).isSome := by
        simpa only [not_forall, exists_prop, ← ne_eq, ← Option.isSome_iff_ne_none] using hlater
      exact iff_of_false (hsame fun vars =>
        onVars_withNeighbors_of_later hfilter hv hexists [] ns vars) fun h => hlater h.1

/-- Changing the neighbours of a VRF twice, in the first entry of its router. -/
theorem withNeighbors_withNeighbors (router vrf : String) (ns ns' : List Json)
    (l : List VpnRouter) :
    withNeighbors router vrf ns' (withNeighbors router vrf ns l) = withNeighbors router vrf ns' l := by
  have htwice := modifyFirst_modifyFirst (l := l) (p := fun r : VpnRouter => r.name = router)
    (f := VpnRouter.mapBgpVrf vrf fun v => { v with neighbors := some ns })
    (g := VpnRouter.mapBgpVrf vrf fun v => { v with neighbors := some ns' }) fun _ => rfl
  refine htwice.trans (congrArg (modifyFirst _ · l) (funext fun r => ?_))
  exact @Operator.mapBgpVrf_mapBgpVrf vrf (fun v => { v with neighbors := some ns })
    (fun v => { v with neighbors := some ns' }) (fun _ => rfl) r

/-- The neighbours that there are change nothing. -/
theorem withNeighbors_self {l later : List VpnRouter} {router vrf : String} {r : VpnRouter}
    {v : Operator.BgpVrf} (hfilter : l.filter (fun r => r.name = router) = r :: later)
    (hv : r.bgpVrf? vrf = some v) (hne : v.neighbors.getD [] ≠ []) :
    withNeighbors router vrf (v.neighbors.getD []) l = l := by
  have hr : l.find? (fun r => r.name = router) = some r := by
    rw [← List.head?_filter, hfilter, List.head?_cons]
  refine (modifyFirst_eq_self_iff hr).mpr ((Operator.mapBgpVrf_eq_self_iff hv).mpr ?_)
  obtain ⟨_, _ | ns, _⟩ := v
  · exact absurd rfl hne
  · rfl

/-- **A BGP session that goes down reaches the router** exactly in these cases. -/
theorem bgp_reaches_iff {rd : Reading} {nf : NetworkFailure} {c injected : Cluster}
    {saved : OriginalState} (htype : nf.failureType = .bgpSessionDown)
    (h : Operator.injectFailureOperator nf c = .ok (saved, injected)) (routers : Routers) :
    FaultReaches rd nf saved injected routers ↔ BgpReaches rd nf c routers := by
  unfold Operator.injectFailureOperator at h
  simp only [htype] at h
  obtain ⟨name, l, r, v, hname, hl, hr, hv, hsaved, rfl⟩ := Operator.injectVpn_ok_iff.mp h
  obtain ⟨⟨name, spec⟩, hfirst, rfl⟩ := Option.map_eq_some_iff.mp hname
  have hspec := (Cluster.vpnRouters_get? hfirst).symm.trans hl
  have hreaches : BgpReaches rd nf c routers ↔ BgpReachesFrom rd nf spec l r v routers := by
    constructor
    · rintro ⟨_, _, _, _, _, hfirst', hspec', hr', hv', h⟩
      obtain ⟨-, rfl⟩ := Prod.mk.inj (Option.some.inj (hfirst.symm.trans hfirst'))
      obtain rfl := Option.some.inj (hspec.symm.trans hspec')
      obtain rfl := Option.some.inj (hr.symm.trans hr')
      obtain rfl := Option.some.inj (hv.symm.trans hv')
      exact h
    · intro h
      exact ⟨name, spec, l, r, v, hfirst, hspec, hr, hv, h⟩
  have hvpn : rd.vpnWith spec l = rd.vpn spec := by
    unfold Reading.vpnWith
    rw [← hspec]
  have hsavedName : saved.l3vpnName = some name := by rw [hsaved]
  have hrestore (l' : List VpnRouter) : Operator.restoreFailureOperator nf saved
      (Cluster.vpnRouters.set l' c) = .ok (Cluster.vpnRouters.set (withNeighbors nf.target.router
        (nf.target.vrf.getD "global") (v.neighbors.getD []) l') c) := by
    unfold Operator.restoreFailureOperator Operator.restoreBgpSessionDown
    simp only [htype, hsaved, restoreVpn_set hname hl]
    rfl
  rw [hreaches]
  rcases changed_back_or
      (VpnRouter.mapBgpVrf (nf.target.vrf.getD "global") fun v => { v with neighbors := some [] })
      (VpnRouter.mapBgpVrf (nf.target.vrf.getD "global") fun w =>
        { w with neighbors := some (v.neighbors.getD []) })
      hr (fun _ => rfl) (fun _ => Operator.mapBgpVrf_of_none) with
    ⟨later, hfilter, hsame⟩ | ⟨hother, hkept⟩
  · have hundone := hrestore (withNeighbors nf.target.router (nf.target.vrf.getD "global") [] l)
    rw [withNeighbors_withNeighbors] at hundone
    rw [hsame]
    refine (vpn_reaches_iff (.inl htype) hfirst hsavedName hundone
      ((map_named_withNeighbors []).trans (map_named_withNeighbors _).symm)).trans ?_
    have hdiffer := scriptsDiffer_withNeighbors_iff rd spec routers
      htype hfilter hv (v.neighbors.getD [])
    constructor
    · rintro ⟨hscripts, hsync⟩
      obtain ⟨hlater, hces, hne, hsome⟩ := (hdiffer hsync).mp hscripts
      rw [withNeighbors_self hfilter hv hne, hvpn] at hsync
      exact ⟨⟨later, hfilter, hlater⟩, hces, hne, hsome, hsync⟩
    · rintro ⟨⟨later', hfilter', hlater⟩, hces, hne, hsome, hsync⟩
      obtain ⟨-, rfl⟩ := List.cons.inj (hfilter.symm.trans hfilter')
      rw [← hvpn, ← withNeighbors_self hfilter hv hne] at hsync
      exact ⟨(hdiffer hsync).mpr ⟨hlater, hces, hne, hsome⟩, hsync⟩
  · have hundone := (hrestore _).trans
      (congrArg (fun l => Except.ok (Cluster.vpnRouters.set l c)) hkept)
    refine iff_of_false (not_vpn_reaches (.inl htype) hfirst hsavedName hundone) ?_
    rintro ⟨⟨later, hfilter, -⟩, -, -, -, -⟩
    exact hother later hfilter

end GnnSandbox.Vyos
