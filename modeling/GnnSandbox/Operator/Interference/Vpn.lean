import GnnSandbox.Operator.Interference.Basic

/-!
# Two faults of the L3VPN

Faults of different VRFs are swapped, and so are the two faults of one VRF. Two faults of one type
and one VRF interfere unless they change nothing.
-/

namespace GnnSandbox.Operator

open Cluster

/-! ## Faults of a VRF -/

/-- A fault of a VRF: what it finds, saves and changes in a router entry. -/
structure VpnFault where
  {α : Type}
  router : String
  vrf : String
  find : VpnRouter → Option α
  save : ResourceName → α → OriginalState
  change : VpnRouter → VpnRouter
  restorable : α → Bool → Prop
  change_name : ∀ r, (change r).name = r.name

/-- A failure is injected as the fault says. -/
structure IsVpn (nf : NetworkFailure) (f : VpnFault) : Prop where
  inject : injectFailureOperator nf = injectVpn f.router f.vrf f.find f.save f.change
  restorable : ∀ c, Restorable nf c ↔ ∀ v, c.foundVrf? f.find f.router = some v →
    f.restorable v (c.firstVrf? f.find f.router).isSome

/-- Neither fault of a router sees the other. -/
structure VpnFault.Independent (f g : VpnFault) : Prop where
  findA : ∀ r, f.find (g.change r) = f.find r
  findB : ∀ r, g.find (f.change r) = g.find r
  comm : ∀ r, g.change (f.change r) = f.change (g.change r)

section

variable {A B : NetworkFailure} {f g : VpnFault} {c cA cAB : Cluster}
  {savedA savedB saved : OriginalState} {l : List VpnRouter}

/-- The entry in which the fault finds its VRF. -/
def VpnFault.at (f : VpnFault) (r : VpnRouter) : Bool := r.name = f.router ∧ (f.find r).isSome

theorem VpnFault.at_change (h : f.router = g.router → ∀ r, f.find (g.change r) = f.find r)
    {r : VpnRouter} (hr : g.at r = true) : f.at (g.change r) = f.at r := by
  unfold VpnFault.at at *
  rw [g.change_name]
  simp only [decide_eq_true_eq] at hr
  by_cases hrouter : f.router = g.router
  · rw [h hrouter]
  · simp [hr.1, Ne.symm hrouter]

theorem VpnFault.at_self (h : ∀ r, (f.find (f.change r)).isSome = (f.find r).isSome)
    (r : VpnRouter) : f.at (f.change r) = f.at r := by
  unfold VpnFault.at
  rw [f.change_name, h]

/-- What a fault finds is not changed by one that it does not see. -/
theorem foundVrf?_set (hl : vpnRouters.get? c = some l)
    (h : f.router = g.router → ∀ r, f.find (g.change r) = f.find r) :
    (vpnRouters.set (modifyFirst g.at g.change l) c).foundVrf? f.find f.router =
      c.foundVrf? f.find f.router := by
  unfold Cluster.foundVrf?
  rw [vpnRouters.get?_set _ hl, hl]
  refine find?_bind_modifyFirst (q := f.at) (fun r hr => VpnFault.at_change h hr) fun r hr hr' => h ?_ r
  unfold VpnFault.at at hr hr'
  simp only [decide_eq_true_eq] at hr hr'
  exact hr'.1.symm.trans hr.1

theorem firstVrf?_set (hl : vpnRouters.get? c = some l)
    (h : f.router = g.router → ∀ r, f.find (g.change r) = f.find r) :
    (vpnRouters.set (modifyFirst g.at g.change l) c).firstVrf? f.find f.router =
      c.firstVrf? f.find f.router := by
  unfold Cluster.firstVrf?
  rw [vpnRouters.get?_set _ hl, hl]
  refine find?_bind_modifyFirst (fun r _ => by rw [g.change_name]) fun r hr hr' => h ?_ r
  unfold VpnFault.at at hr
  simp only [decide_eq_true_eq] at hr hr'
  exact hr'.symm.trans hr.1

/-- What a fault of a VRF saves and changes. -/
theorem IsVpn.inject_ok_iff (hf : IsVpn A f) :
    injectFailureOperator A c = .ok (saved, cA) ↔ ∃ name l v, c.l3vpnName = some name ∧
      vpnRouters.get? c = some l ∧ c.foundVrf? f.find f.router = some v ∧
      saved = f.save name v ∧ cA = vpnRouters.set (modifyFirst f.at f.change l) c := by
  rw [hf.inject, injectVpn_ok_iff]
  constructor
  · rintro ⟨name, l, r, v, hname, hl, hr, hv, hsaved, hcA⟩
    exact ⟨name, l, v, hname, hl, (foundVrf?_eq hl hr).trans hv, hsaved, hcA⟩
  · rintro ⟨name, l, v, hname, hl, hv, hsaved, hcA⟩
    have hfound : (l.find? fun r => r.name = f.router ∧ (f.find r).isSome).bind f.find = some v := by
      rw [← hv]
      unfold Cluster.foundVrf?
      rw [hl, Option.bind_some]
    obtain ⟨r, hr, hrv⟩ := Option.bind_eq_some_iff.mp hfound
    exact ⟨name, l, r, v, hname, hl, hr, hrv, hsaved, hcA⟩

/-- Faults of VRFs are swapped unless they meet. -/
theorem swaps_of_vpn (hf : IsVpn A f) (hg : IsVpn B g)
    (hA : injectFailureOperator A c = .ok (savedA, cA))
    (hB : injectFailureOperator B cA = .ok (savedB, cAB))
    (hind : f.router = g.router → f.Independent g) :
    ∃ cB, Swaps A B c cA cAB cB savedA savedB := by
  obtain ⟨name, l, v, hname, hl, hv, hsavedA, hcA⟩ := hf.inject_ok_iff.mp hA
  obtain ⟨name', l', v', hname', hl', hv', hsavedB, hcAB⟩ := hg.inject_ok_iff.mp hB
  rw [hcA, l3vpnName_set, hname] at hname'
  obtain rfl := Option.some.inj hname'
  rw [hcA, vpnRouters.get?_set _ hl] at hl'
  obtain rfl := Option.some.inj hl'
  have hfindA := fun hrouter => (hind hrouter).findA
  have hfindB := fun hrouter : g.router = f.router => (hind hrouter.symm).findB
  have hlB := vpnRouters.get?_set (modifyFirst g.at g.change l) hl
  have hcomm : modifyFirst g.at g.change (modifyFirst f.at f.change l) =
      modifyFirst f.at f.change (modifyFirst g.at g.change l) := by
    refine modifyFirst_comm (fun r hr => VpnFault.at_change hfindA hr)
      (fun r hr => VpnFault.at_change hfindB hr) fun r hr hr' => ?_
    have hrf := List.find?_some hr
    have hrg := List.find?_some hr'
    unfold VpnFault.at at hrf hrg
    simp only [decide_eq_true_eq] at hrf hrg
    exact (hind (hrf.1.symm.trans hrg.1)).comm r
  refine ⟨vpnRouters.set (modifyFirst g.at g.change l) c, ?_, ?_, ?_, ?_⟩
  · rw [hcA, foundVrf?_set hl hfindB] at hv'
    exact hg.inject_ok_iff.mpr ⟨name, l, v', hname, hl, hv', hsavedB, rfl⟩
  · refine hf.inject_ok_iff.mpr ⟨name, _, v, (l3vpnName_set _).trans hname, hlB,
      (foundVrf?_set hl hfindA).trans hv, hsavedA, ?_⟩
    rw [hcAB, hcA, vpnRouters.set_set, vpnRouters.set_set, hcomm]
  · rw [hf.restorable, hf.restorable, foundVrf?_set hl hfindA, firstVrf?_set hl hfindA]
  · rw [hg.restorable, hg.restorable, hcA, foundVrf?_set hl hfindB, firstVrf?_set hl hfindB]

end

/-! ### The two faults -/

/-- `BGP_SESSION_DOWN` -/
def bgpFault (nf : NetworkFailure) : VpnFault where
  α := BgpVrf
  router := nf.target.router
  vrf := nf.target.vrf.getD "global"
  find := VpnRouter.bgpVrf? (nf.target.vrf.getD "global")
  save l3vpnName v :=
    { originalNeighbors := some (v.neighbors.getD []), l3vpnName := some l3vpnName,
      vrf := some (nf.target.vrf.getD "global") }
  change := VpnRouter.mapBgpVrf (nf.target.vrf.getD "global") fun v => { v with neighbors := some [] }
  restorable v isFirst := v.neighbors = some [] ∨ v.neighbors.isSome ∧ isFirst
  change_name _ := rfl

/-- `VRF_RT_MISCONFIGURATION` -/
def rtFault (nf : NetworkFailure) : VpnFault where
  α := VpnVrf
  router := nf.target.router
  vrf := nf.target.vrf.getD "global"
  find := VpnRouter.vrf? (nf.target.vrf.getD "global")
  save l3vpnName v :=
    { originalRtImport := some (v.rtImport.getD []),
      correctRt := some (nf.parameters.correctRt.getD "65035:1030"),
      wrongRt := some (nf.parameters.wrongRt.getD "65035:9999"), l3vpnName := some l3vpnName,
      vrf := some (nf.target.vrf.getD "global") }
  change :=
    let correctRt := nf.parameters.correctRt.getD "65035:1030"
    let wrongRt := nf.parameters.wrongRt.getD "65035:9999"
    VpnRouter.mapVrf (nf.target.vrf.getD "global") fun v =>
      { v with rtImport := some (misconfiguredRts correctRt wrongRt (v.rtImport.getD [])) }
  restorable v isFirst := ∃ rts, v.rtImport = some rts ∧ rts ≠ [] ∧
    (isFirst ∨ misconfiguredRts (nf.parameters.correctRt.getD "65035:1030")
      (nf.parameters.wrongRt.getD "65035:9999") rts = rts)
  change_name _ := rfl

section

variable {nf A B : NetworkFailure}

theorem isVpn_bgpFault (h : nf.failureType = .bgpSessionDown) : IsVpn nf (bgpFault nf) where
  inject := by
    funext c
    unfold injectFailureOperator
    rw [h]
    rfl
  restorable c := by
    unfold Restorable
    rw [h]
    rfl

theorem isVpn_rtFault (h : nf.failureType = .vrfRtMisconfiguration) : IsVpn nf (rtFault nf) where
  inject := by
    funext c
    unfold injectFailureOperator
    rw [h]
    rfl
  restorable c := by
    unfold Restorable
    rw [h]
    rfl

theorem VpnFault.Independent.symm {f g : VpnFault} (h : f.Independent g) : g.Independent f :=
  ⟨h.findB, h.findA, fun r => (h.comm r).symm⟩

/-- The neighbours and the route targets of a router are apart. -/
theorem independent_bgp_rt : (bgpFault A).Independent (rtFault B) :=
  ⟨fun _ => rfl, fun _ => rfl, fun _ => rfl⟩

theorem bgpVrf?_mapBgpVrf_of_ne {vrf vrf' : String} (hne : vrf ≠ vrf') {f : BgpVrf → BgpVrf}
    (hf : ∀ v, (f v).name = v.name) (r : VpnRouter) :
    (r.mapBgpVrf vrf' f).bgpVrf? vrf = r.bgpVrf? vrf := by
  obtain ⟨_, _, bgp, _⟩ := r
  unfold VpnRouter.bgpVrf? VpnRouter.mapBgpVrf
  cases bgp with
  | none => rfl
  | some b =>
    obtain ⟨vrfs, _⟩ := b
    cases vrfs with
    | none => rfl
    | some vrfs =>
      refine find?_modifyFirst_of_disjoint (fun v hv => ?_) fun v => by rw [hf]
      simp only [decide_eq_true_eq] at hv
      simp [hv, Ne.symm hne]

theorem mapBgpVrf_comm {vrf vrf' : String} (hne : vrf ≠ vrf') {f g : BgpVrf → BgpVrf}
    (hf : ∀ v, (f v).name = v.name) (hg : ∀ v, (g v).name = v.name) (r : VpnRouter) :
    (r.mapBgpVrf vrf f).mapBgpVrf vrf' g = (r.mapBgpVrf vrf' g).mapBgpVrf vrf f := by
  obtain ⟨_, _, bgp, _⟩ := r
  unfold VpnRouter.mapBgpVrf
  cases bgp with
  | none => rfl
  | some b =>
    obtain ⟨vrfs, _⟩ := b
    cases vrfs with
    | none => rfl
    | some vrfs =>
      have hcomm := modifyFirst_comm_of_disjoint (l := vrfs) (p := fun v => v.name = vrf)
        (q := fun v => v.name = vrf') (f := f) (g := g) (fun v hv => by simp_all)
        (fun v => by rw [hg]) fun v => by rw [hf]
      simp [hcomm]

/-- Different VRFs of a router are apart. -/
theorem independent_bgp_bgp (hne : A.target.vrf.getD "global" ≠ B.target.vrf.getD "global") :
    (bgpFault A).Independent (bgpFault B) where
  findA := bgpVrf?_mapBgpVrf_of_ne hne fun _ => rfl
  findB := bgpVrf?_mapBgpVrf_of_ne (Ne.symm hne) fun _ => rfl
  comm := mapBgpVrf_comm hne (fun _ => rfl) fun _ => rfl

theorem vrf?_mapVrf_of_ne {vrf vrf' : String} (hne : vrf ≠ vrf') {f : VpnVrf → VpnVrf}
    (hf : ∀ v, (f v).name = v.name) (r : VpnRouter) :
    (r.mapVrf vrf' f).vrf? vrf = r.vrf? vrf := by
  obtain ⟨_, vrfs, _, _⟩ := r
  unfold VpnRouter.vrf? VpnRouter.mapVrf
  cases vrfs with
  | none => rfl
  | some vrfs =>
    refine find?_modifyFirst_of_disjoint (fun v hv => ?_) fun v => by rw [hf]
    simp only [decide_eq_true_eq] at hv
    simp [hv, Ne.symm hne]

theorem mapVrf_comm {vrf vrf' : String} (hne : vrf ≠ vrf') {f g : VpnVrf → VpnVrf}
    (hf : ∀ v, (f v).name = v.name) (hg : ∀ v, (g v).name = v.name) (r : VpnRouter) :
    (r.mapVrf vrf f).mapVrf vrf' g = (r.mapVrf vrf' g).mapVrf vrf f := by
  obtain ⟨_, vrfs, _, _⟩ := r
  unfold VpnRouter.mapVrf
  cases vrfs with
  | none => rfl
  | some vrfs =>
    have hcomm := modifyFirst_comm_of_disjoint (l := vrfs) (p := fun v => v.name = vrf)
      (q := fun v => v.name = vrf') (f := f) (g := g) (fun v hv => by simp_all)
      (fun v => by rw [hg]) fun v => by rw [hf]
    simp [hcomm]

theorem independent_rt_rt (hne : A.target.vrf.getD "global" ≠ B.target.vrf.getD "global") :
    (rtFault A).Independent (rtFault B) where
  findA := vrf?_mapVrf_of_ne hne fun _ => rfl
  findB := vrf?_mapVrf_of_ne (Ne.symm hne) fun _ => rfl
  comm := mapVrf_comm hne (fun _ => rfl) fun _ => rfl

/-! ### Two faults of one VRF -/

theorem bgpVrf?_mapBgpVrf_self {vrf : String} {f : BgpVrf → BgpVrf}
    (hf : ∀ v, (f v).name = v.name) (r : VpnRouter) :
    (r.mapBgpVrf vrf f).bgpVrf? vrf = (r.bgpVrf? vrf).map f := by
  obtain ⟨_, _, bgp, _⟩ := r
  unfold VpnRouter.bgpVrf? VpnRouter.mapBgpVrf
  cases bgp with
  | none => rfl
  | some b =>
    obtain ⟨vrfs, _⟩ := b
    cases vrfs with
    | none => rfl
    | some vrfs => exact find?_modifyFirst fun v => by rw [hf]

theorem bgpFault_find_change (r : VpnRouter) :
    ((bgpFault A).find ((bgpFault A).change r)).isSome = ((bgpFault A).find r).isSome := by
  show ((VpnRouter.mapBgpVrf _ _ r).bgpVrf? _).isSome = (r.bgpVrf? _).isSome
  rw [bgpVrf?_mapBgpVrf_self, Option.isSome_map]
  exact fun _ => rfl

theorem bgpFault_change_eq_self_iff {r : VpnRouter} {v : BgpVrf}
    (h : r.bgpVrf? (A.target.vrf.getD "global") = some v) :
    (bgpFault A).change r = r ↔ v.neighbors = some [] := by
  refine (mapBgpVrf_eq_self_iff h).trans ?_
  rw [BgpVrf.mk.injEq]
  simp [eq_comm]

theorem vrf?_mapVrf_self {vrf : String} {f : VpnVrf → VpnVrf} (hf : ∀ v, (f v).name = v.name)
    (r : VpnRouter) : (r.mapVrf vrf f).vrf? vrf = (r.vrf? vrf).map f := by
  obtain ⟨_, vrfs, _, _⟩ := r
  unfold VpnRouter.vrf? VpnRouter.mapVrf
  cases vrfs with
  | none => rfl
  | some vrfs => exact find?_modifyFirst fun v => by rw [hf]

theorem rtFault_find_change (r : VpnRouter) :
    ((rtFault A).find ((rtFault A).change r)).isSome = ((rtFault A).find r).isSome := by
  show ((VpnRouter.mapVrf _ _ r).vrf? _).isSome = (r.vrf? _).isSome
  rw [vrf?_mapVrf_self, Option.isSome_map]
  exact fun _ => rfl

theorem rtFault_change_eq_self_iff {r : VpnRouter} {v : VpnVrf}
    (h : r.vrf? (A.target.vrf.getD "global") = some v) :
    (rtFault A).change r = r ↔ v.rtImport = some (misconfiguredRts
      (A.parameters.correctRt.getD "65035:1030") (A.parameters.wrongRt.getD "65035:9999")
      (v.rtImport.getD [])) := by
  refine (mapVrf_eq_self_iff h).trans ?_
  obtain ⟨_, rtImport, _⟩ := v
  rw [VpnVrf.mk.injEq]
  simp [eq_comm]

end

section

variable {A B : NetworkFailure} {f : VpnFault} {c cA cAB : Cluster}
  {savedA savedB : OriginalState}

/-- A fault of a VRF changes nothing exactly when it leaves the entry it finds. -/
theorem IsVpn.unchanged_iff (hf : IsVpn A f)
    (hA : injectFailureOperator A c = .ok (savedA, cA)) :
    ∃ r, (f.find r = c.foundVrf? f.find f.router) ∧ (cA = c ↔ f.change r = r) := by
  rw [hf.inject] at hA
  obtain ⟨name, l, r, v, hname, hl, hr, hv, -, rfl⟩ := injectVpn_ok_iff.mp hA
  refine ⟨r, (foundVrf?_eq hl hr).symm, ?_⟩
  rw [StatePart.set_eq_self_iff hl, modifyFirst_eq_self_iff hr]

/-- Two faults of one VRF that set the same things. -/
theorem noInterference_iff_of_bgp (htypeA : A.failureType = .bgpSessionDown)
    (htypeB : B.failureType = .bgpSessionDown)
    (hA : injectFailureOperator A c = .ok (savedA, cA))
    (hB : injectFailureOperator B cA = .ok (savedB, cAB))
    (hrouter : A.target.router = B.target.router)
    (hvrf : A.target.vrf.getD "global" = B.target.vrf.getD "global") :
    NoInterference A B c cA cAB savedA savedB ↔
      (∀ v, c.foundVrf? (VpnRouter.bgpVrf? (A.target.vrf.getD "global")) A.target.router = some v →
        v.neighbors = some []) ∧ Restorable A c ∧ Restorable B c := by
  have hf := isVpn_bgpFault htypeA
  have hg := isVpn_bgpFault htypeB
  have hfaults : bgpFault B = bgpFault A := by
    unfold bgpFault
    rw [hrouter, hvrf]
  rw [hfaults] at hg
  obtain ⟨r, hr, hunchanged⟩ := hf.unchanged_iff hA
  obtain ⟨name, l, v, hname, hl, hv, hsavedA, hcA⟩ := hf.inject_ok_iff.mp hA
  obtain ⟨name', l', v', -, hl', -, -, hcAB⟩ := hg.inject_ok_iff.mp hB
  have hB' := hg.inject_ok_iff.mpr ⟨name, l, v, hname, hl, hv, rfl, hcA⟩
  -- emptying the neighbours twice is emptying them once
  have hsame : cAB = cA := by
    rw [hcA, vpnRouters.get?_set _ hl] at hl'
    obtain rfl := Option.some.inj hl'
    rw [hcAB, hcA, vpnRouters.set_set, modifyFirst_modifyFirst fun r => ?_]
    · refine congrArg (vpnRouters.set · c) (congrArg (modifyFirst _ · l) (funext fun r => ?_))
      exact mapBgpVrf_mapBgpVrf (f := fun v => { v with neighbors := some [] }) (fun _ => rfl) r
    · exact VpnFault.at_self bgpFault_find_change r
  subst hsame
  rw [noInterference_iff_of_overwrites hA hB hB' rfl rfl, and_self, hunchanged]
  refine and_congr_left fun _ => ?_
  refine (bgpFault_change_eq_self_iff (hr.trans hv)).trans ⟨fun h v' hv' => ?_, fun h => h v hv⟩
  obtain rfl := Option.some.inj (hv.symm.trans hv')
  exact h

/-- A restoration of route targets depends on what it leaves of the routers. -/
theorem restoreRt_congr {name : ResourceName} {d d' : Cluster}
    (htype : A.failureType = .vrfRtMisconfiguration) (hsaved : savedA.l3vpnName = some name)
    (h : ∀ rts, restoreVpn A.target.router name (VpnRouter.mapVrf (A.target.vrf.getD "global")
        fun v => { v with rtImport := some rts }) d =
      restoreVpn A.target.router name (VpnRouter.mapVrf (A.target.vrf.getD "global")
        fun v => { v with rtImport := some rts }) d') :
    restoreFailureOperator A savedA d = restoreFailureOperator A savedA d' := by
  unfold restoreFailureOperator
  rw [htype]
  show restoreVrfRtMisconfiguration _ _ _ _ _ d = restoreVrfRtMisconfiguration _ _ _ _ _ d'
  unfold restoreVrfRtMisconfiguration
  rw [hsaved, Option.some_or]
  cases restoredRts savedA A.parameters with
  | none => rfl
  | some rts => exact h rts

/-- Restoring undoes the change of the entry, if it is the first one of the router. -/
theorem restoreVpn_of_first {router : String} {name : ResourceName} {l : List VpnRouter}
    {r : VpnRouter} {p : VpnRouter → Bool} {change undo : VpnRouter → VpnRouter}
    (hname : c.l3vpnName = some name) (hl : vpnRouters.get? c = some l) (hr : l.find? p = some r)
    (hr₀ : l.find? (fun r => r.name = router) = some r)
    (hchange : ∀ r, (change r).name = r.name) :
    restoreVpn router name undo (vpnRouters.set (modifyFirst p change l) c) =
      .ok (vpnRouters.set (modifyFirst (fun r => r.name = router) (fun r => undo (change r)) l) c) := by
  rw [restoreVpn_of_name ((l3vpnName_set _).trans hname) (vpnRouters.get?_set _ hl),
    vpnRouters.set_set, modifyFirst_congr_find? hr hr₀,
    modifyFirst_modifyFirst fun r => by rw [hchange]]

/-- Overwriting the route targets of the first entry. -/
theorem restoreVpn_overwrites {router vrf : String} {name : ResourceName} {l : List VpnRouter}
    {r : VpnRouter} {p : VpnRouter → Bool} {f g h : VpnVrf → VpnVrf}
    (hname : c.l3vpnName = some name) (hl : vpnRouters.get? c = some l) (hr : l.find? p = some r)
    (hr₀ : l.find? (fun r => r.name = router) = some r) (hf : ∀ v, (f v).name = v.name)
    (hg : ∀ v, (g v).name = v.name) (hh : ∀ v, h (f v) = h (g v)) :
    restoreVpn router name (VpnRouter.mapVrf vrf h)
        (vpnRouters.set (modifyFirst p (VpnRouter.mapVrf vrf f) l) c) =
      restoreVpn router name (VpnRouter.mapVrf vrf h)
        (vpnRouters.set (modifyFirst p (VpnRouter.mapVrf vrf g) l) c) := by
  have hundo : (fun r : VpnRouter => (r.mapVrf vrf f).mapVrf vrf h) =
      fun r => (r.mapVrf vrf g).mapVrf vrf h := by
    funext r
    rw [mapVrf_mapVrf hf, mapVrf_mapVrf hg]
    exact congrArg (VpnRouter.mapVrf vrf · r) (funext hh)
  rw [restoreVpn_of_first hname hl hr hr₀ (mapVrf_name f),
    restoreVpn_of_first hname hl hr hr₀ (mapVrf_name g), hundo]

/-- Restoring the route targets of the first entry overwrites what is in them. -/
theorem rt_overwrites {name : ResourceName} {l : List VpnRouter} {v : VpnVrf} {f g : VpnVrf → VpnVrf}
    (htype : A.failureType = .vrfRtMisconfiguration) (hsaved : savedA.l3vpnName = some name)
    (hname : c.l3vpnName = some name) (hl : vpnRouters.get? c = some l)
    (hv : c.foundVrf? (rtFault A).find (rtFault A).router = some v)
    (hfirst : (c.firstVrf? (rtFault A).find (rtFault A).router).isSome)
    (hf : ∀ v, f v = { v with rtImport := (f v).rtImport })
    (hg : ∀ v, g v = { v with rtImport := (g v).rtImport }) :
    restoreFailureOperator A savedA (vpnRouters.set
        (modifyFirst (rtFault A).at (VpnRouter.mapVrf (A.target.vrf.getD "global") f) l) c) =
      restoreFailureOperator A savedA (vpnRouters.set
        (modifyFirst (rtFault A).at (VpnRouter.mapVrf (A.target.vrf.getD "global") g) l) c) := by
  have hfound : (l.find? (rtFault A).at).bind (rtFault A).find = some v := by
    rw [← hv]
    unfold Cluster.foundVrf?
    rw [hl, Option.bind_some]
    rfl
  obtain ⟨r, hr, -⟩ := Option.bind_eq_some_iff.mp hfound
  have hr₀ := find?_name_of_first hl hr hfirst
  refine restoreRt_congr htype hsaved fun rts => restoreVpn_overwrites hname hl hr hr₀ ?_ ?_ ?_
  · intro v
    rw [hf]
  · intro v
    rw [hg]
  · intro v
    rw [hf, hg]

/-- Two faults of one VRF that overwrite each other's route targets. -/
theorem noInterference_iff_of_rt (htypeA : A.failureType = .vrfRtMisconfiguration)
    (htypeB : B.failureType = .vrfRtMisconfiguration)
    (hA : injectFailureOperator A c = .ok (savedA, cA))
    (hB : injectFailureOperator B cA = .ok (savedB, cAB))
    (hrouter : A.target.router = B.target.router)
    (hvrf : A.target.vrf.getD "global" = B.target.vrf.getD "global") :
    NoInterference A B c cA cAB savedA savedB ↔
      (∀ v, c.foundVrf? (VpnRouter.vrf? (A.target.vrf.getD "global")) A.target.router = some v →
        v.rtImport = some (misconfiguredRts (A.parameters.correctRt.getD "65035:1030")
          (A.parameters.wrongRt.getD "65035:9999") (v.rtImport.getD [])) ∧
        v.rtImport = some (misconfiguredRts (B.parameters.correctRt.getD "65035:1030")
          (B.parameters.wrongRt.getD "65035:9999") (v.rtImport.getD []))) ∧
      Restorable A c ∧ Restorable B c := by
  have hf := isVpn_rtFault htypeA
  have hg := isVpn_rtFault htypeB
  have hat : (rtFault B).at = (rtFault A).at := by
    funext r
    show decide _ = decide _
    unfold rtFault
    rw [hrouter, hvrf]
  obtain ⟨rA, hrA, hunchangedA⟩ := hf.unchanged_iff hA
  obtain ⟨name, l, v, hname, hl, hv, hsavedA, hcA⟩ := hf.inject_ok_iff.mp hA
  obtain ⟨name', l', v', hname', hl', hv', hsavedB, hcAB⟩ := hg.inject_ok_iff.mp hB
  rw [hcA, l3vpnName_set, hname] at hname'
  obtain rfl := Option.some.inj hname'
  rw [hcA, vpnRouters.get?_set _ hl] at hl'
  obtain rfl := Option.some.inj hl'
  have hfirstB : (c.firstVrf? (rtFault B).find (rtFault B).router).isSome =
      (c.firstVrf? (rtFault A).find (rtFault A).router).isSome := by
    show (c.firstVrf? (VpnRouter.vrf? (B.target.vrf.getD "global")) B.target.router).isSome = _
    rw [← hvrf, ← hrouter]
    rfl
  have hcA' : cA = vpnRouters.set (modifyFirst (rtFault A).at
      (VpnRouter.mapVrf (A.target.vrf.getD "global") fun v =>
        { v with rtImport := some (misconfiguredRts (A.parameters.correctRt.getD "65035:1030")
                  (A.parameters.wrongRt.getD "65035:9999") (v.rtImport.getD [])) }) l) c := hcA
  have hcAB' : cAB = vpnRouters.set (modifyFirst (rtFault A).at
      (VpnRouter.mapVrf (A.target.vrf.getD "global") fun v =>
        { v with rtImport := some (misconfiguredRts (B.parameters.correctRt.getD "65035:1030")
                  (B.parameters.wrongRt.getD "65035:9999")
                  (misconfiguredRts (A.parameters.correctRt.getD "65035:1030")
                    (A.parameters.wrongRt.getD "65035:9999") (v.rtImport.getD []))) }) l) c := by
    rw [hcAB, hcA, vpnRouters.set_set, hat,
      modifyFirst_modifyFirst (VpnFault.at_self rtFault_find_change)]
    refine congrArg (vpnRouters.set · c) (congrArg (modifyFirst _ · l) (funext fun r => ?_))
    show (VpnRouter.mapVrf _ _ r).mapVrf _ _ = _
    rw [← hvrf]
    refine mapVrf_mapVrf ?_ r
    exact fun _ => rfl
  have hvB : c.foundVrf? (rtFault B).find (rtFault B).router = some v := by
    show c.foundVrf? (VpnRouter.vrf? (B.target.vrf.getD "global")) B.target.router = some v
    rw [← hvrf, ← hrouter]
    exact hv
  obtain ⟨cB, hcB⟩ : ∃ cB, cB = vpnRouters.set (modifyFirst (rtFault B).at (rtFault B).change l) c :=
    ⟨_, rfl⟩
  have hB' := hg.inject_ok_iff.mpr ⟨name, l, v, hname, hl, hvB, rfl, hcB⟩
  obtain ⟨rB, hrB, hunchangedB⟩ := hg.unchanged_iff hB'
  have hsameA := hunchangedA.trans (rtFault_change_eq_self_iff (hrA.trans hv))
  have hsameB := hunchangedB.trans (rtFault_change_eq_self_iff (hrB.trans hvB))
  constructor
  · intro h
    have hrestA := h.restorable hA
    suffices hboth : (cA = c ∧ cB = c) ∧ Restorable B c by
      refine ⟨fun v' hv' => ?_, hrestA, hboth.2⟩
      obtain rfl := Option.some.inj (hv.symm.trans hv')
      exact ⟨hsameA.mp hboth.1.1, hsameB.mp hboth.1.2⟩
    by_cases hfirst : (c.firstVrf? (rtFault A).find (rtFault A).router).isSome
    · -- the entry is the one that is restored, so that each restoration overwrites the other fault
      have hoverA : restoreFailureOperator A savedA cAB = restoreFailureOperator A savedA cA := by
        rw [hcA', hcAB']
        exact rt_overwrites htypeA (by rw [hsavedA]; rfl) hname hl hv hfirst (fun _ => rfl)
          fun _ => rfl
      have hoverB : restoreFailureOperator B savedB cAB = restoreFailureOperator B savedB cB := by
        rw [hcAB', hcB, ← hat, hvrf]
        exact rt_overwrites htypeB (by rw [hsavedB]; rfl) hname hl hvB (hfirstB ▸ hfirst)
          (fun _ => rfl) fun _ => rfl
      obtain ⟨hboth, -, hrestB⟩ := (noInterference_iff_of_overwrites hA hB hB' hoverA hoverB).mp h
      exact ⟨hboth, hrestB⟩
    · -- it is not restored, so that a fault that is restorable changes nothing
      obtain ⟨rts, hrts, -, hsame⟩ := (hf.restorable c).mp hrestA v hv
      have hcAc : cA = c := hsameA.mpr (by
        rw [hrts]
        exact congrArg some (hsame.resolve_left hfirst).symm)
      subst hcAc
      rw [hB'] at hB
      cases hB
      obtain ⟨-, -, hrestoreB, -⟩ := (noInterference_iff_restores hB').mp h
      have hrestB := (restore_undoes_inject_iff hB').mp hrestoreB
      obtain ⟨rts', hrts', -, hsame'⟩ := (hg.restorable _).mp hrestB v hvB
      refine ⟨⟨rfl, hsameB.mpr ?_⟩, hrestB⟩
      rw [hfirstB] at hsame'
      rw [hrts']
      exact congrArg some (hsame'.resolve_left hfirst).symm
  · rintro ⟨hall, hrestA, hrestB⟩
    obtain ⟨hA', hB''⟩ := hall v hv
    have hcAc := hsameA.mpr hA'
    have hcBc := hsameB.mpr hB''
    rw [hcBc] at hB'
    subst hcAc
    rw [hB'] at hB
    cases hB
    exact noInterference_of_unchanged hA hB' hrestA hrestB

end

end GnnSandbox.Operator
