import GnnSandbox.Operator.Injection

/-!
# The lists that the faults patch

Each fault changes one list of the first resource of a kind: the networks of the infrastructure,
or the routers of the underlay or of the L3VPN. The three lists are parts of the cluster that are
apart, and injecting and restoring a fault is described by what happens to its list.
-/

namespace GnnSandbox.Operator

namespace Cluster

/-! ## The parts -/

/-- The networks of a spec. -/
def networksOf : StatePart InfrastructureSpec (List Network) where
  get? := InfrastructureSpec.networks
  set l spec := { spec with networks := some l }
  get?_set _ _ := rfl
  set_get? h := by rw [← h]
  set_set _ _ _ := rfl

/-- The routers of a spec. -/
def underlayRoutersOf : StatePart UnderlaySpec (List UnderlayRouter) where
  get? := UnderlaySpec.routers
  set l spec := { spec with routers := some l }
  get?_set _ _ := rfl
  set_get? h := by rw [← h]
  set_set _ _ _ := rfl

/-- The routers of a spec. -/
def vpnRoutersOf : StatePart L3vpnSpec (List VpnRouter) where
  get? := L3vpnSpec.routers
  set l spec := { spec with routers := some l }
  get?_set _ _ := rfl
  set_get? h := by rw [← h]
  set_set _ _ _ := rfl

/-- The networks of the first infrastructure. -/
def networks : StatePart Cluster (List Network) :=
  StatePart.comp ⟨fun c => some c.infrastructures, fun r c => { c with infrastructures := r },
    fun _ _ => rfl, fun h => by cases h; rfl, fun _ _ _ => rfl⟩ (Registry.firstPart.comp networksOf)

/-- The routers of the first underlay. -/
def underlayRouters : StatePart Cluster (List UnderlayRouter) :=
  StatePart.comp ⟨fun c => some c.underlays, fun r c => { c with underlays := r },
    fun _ _ => rfl, fun h => by cases h; rfl, fun _ _ _ => rfl⟩
    (Registry.firstPart.comp underlayRoutersOf)

/-- The routers of the first L3VPN. -/
def vpnRouters : StatePart Cluster (List VpnRouter) :=
  StatePart.comp ⟨fun c => some c.l3vpns, fun r c => { c with l3vpns := r },
    fun _ _ => rfl, fun h => by cases h; rfl, fun _ _ _ => rfl⟩
    (Registry.firstPart.comp vpnRoutersOf)

theorem networks_apart_underlayRouters : networks.Apart underlayRouters :=
  StatePart.Apart.comp ⟨fun _ _ _ => rfl, fun _ _ => rfl, fun _ _ => rfl⟩ _ _

theorem networks_apart_vpnRouters : networks.Apart vpnRouters :=
  StatePart.Apart.comp ⟨fun _ _ _ => rfl, fun _ _ => rfl, fun _ _ => rfl⟩ _ _

theorem underlayRouters_apart_vpnRouters : underlayRouters.Apart vpnRouters :=
  StatePart.Apart.comp ⟨fun _ _ _ => rfl, fun _ _ => rfl, fun _ _ => rfl⟩ _ _

variable {c : Cluster}

theorem networks_get? {infra : ResourceName × InfrastructureSpec}
    (h : c.infrastructures.first = some infra) : networks.get? c = infra.2.networks :=
  StatePart.comp_get? (Registry.firstPart_get? h)

theorem underlayRouters_get? {underlay : ResourceName × UnderlaySpec}
    (h : c.underlays.first = some underlay) : underlayRouters.get? c = underlay.2.routers :=
  StatePart.comp_get? (Registry.firstPart_get? h)

theorem vpnRouters_get? {l3vpn : ResourceName × L3vpnSpec}
    (h : c.l3vpns.first = some l3vpn) : vpnRouters.get? c = l3vpn.2.routers :=
  StatePart.comp_get? (Registry.firstPart_get? h)

/-- Patching the first infrastructure replaces the networks. -/
theorem patchNetworks_first {infra : ResourceName × InfrastructureSpec}
    (h : c.infrastructures.first = some infra) (l : List Network) :
    c.patchNetworks infra.1 l = networks.set l c := by
  unfold patchNetworks
  rw [Registry.get?_of_first h]
  show _ = { c with infrastructures := (Registry.firstPart.comp networksOf).set l c.infrastructures }
  rw [StatePart.comp_set (Registry.firstPart_get? h), Registry.firstPart_set h]
  rfl

theorem patchUnderlay_first {underlay : ResourceName × UnderlaySpec}
    (h : c.underlays.first = some underlay) (l : List UnderlayRouter) :
    c.patchUnderlay underlay.1 l = underlayRouters.set l c := by
  unfold patchUnderlay
  rw [Registry.get?_of_first h]
  show _ = { c with underlays := (Registry.firstPart.comp underlayRoutersOf).set l c.underlays }
  rw [StatePart.comp_set (Registry.firstPart_get? h), Registry.firstPart_set h]
  rfl

theorem patchL3vpn_first {l3vpn : ResourceName × L3vpnSpec}
    (h : c.l3vpns.first = some l3vpn) (l : List VpnRouter) :
    c.patchL3vpn l3vpn.1 l = vpnRouters.set l c := by
  unfold patchL3vpn
  rw [Registry.get?_of_first h]
  show _ = { c with l3vpns := (Registry.firstPart.comp vpnRoutersOf).set l c.l3vpns }
  rw [StatePart.comp_set (Registry.firstPart_get? h), Registry.firstPart_set h]
  rfl

/-- The first infrastructure after its networks are replaced. -/
theorem get?_networks_set {infra : ResourceName × InfrastructureSpec}
    (h : c.infrastructures.first = some infra) (l : List Network) :
    (networks.set l c).infrastructures.get? infra.1 = some { infra.2 with networks := some l } := by
  have hget := Registry.get?_of_first h
  rw [← patchNetworks_first h]
  unfold patchNetworks
  rw [hget]
  exact Registry.get?_update_self (Option.isSome_of_eq_some hget)

theorem get?_underlayRouters_set {underlay : ResourceName × UnderlaySpec}
    (h : c.underlays.first = some underlay) (l : List UnderlayRouter) :
    (underlayRouters.set l c).underlays.get? underlay.1 =
      some { underlay.2 with routers := some l } := by
  have hget := Registry.get?_of_first h
  rw [← patchUnderlay_first h]
  unfold patchUnderlay
  rw [hget]
  exact Registry.get?_update_self (Option.isSome_of_eq_some hget)

theorem get?_vpnRouters_set {l3vpn : ResourceName × L3vpnSpec}
    (h : c.l3vpns.first = some l3vpn) (l : List VpnRouter) :
    (vpnRouters.set l c).l3vpns.get? l3vpn.1 = some { l3vpn.2 with routers := some l } := by
  have hget := Registry.get?_of_first h
  rw [← patchL3vpn_first h]
  unfold patchL3vpn
  rw [hget]
  exact Registry.get?_update_self (Option.isSome_of_eq_some hget)

/-! ## The names of the first resources -/

def infraName (c : Cluster) : Option ResourceName := c.infrastructures.firstKey

def underlayName (c : Cluster) : Option ResourceName := c.underlays.firstKey

def l3vpnName (c : Cluster) : Option ResourceName := c.l3vpns.firstKey

theorem infraName_set (l : List Network) : (networks.set l c).infraName = c.infraName :=
  StatePart.comp_set_keeps networksOf (fun _ _ => Registry.firstKey_setFirst) l c.infrastructures

theorem underlayName_set (l : List UnderlayRouter) :
    (underlayRouters.set l c).underlayName = c.underlayName :=
  StatePart.comp_set_keeps underlayRoutersOf (fun _ _ => Registry.firstKey_setFirst) l c.underlays

theorem l3vpnName_set (l : List VpnRouter) : (vpnRouters.set l c).l3vpnName = c.l3vpnName :=
  StatePart.comp_set_keeps vpnRoutersOf (fun _ _ => Registry.firstKey_setFirst) l c.l3vpns

end Cluster

/-! ## Injections -/

open Cluster

section

variable {c c' : Cluster} {saved : OriginalState} {router interface vrf : String}

/-- What an MTU mismatch saves and changes. -/
theorem injectMtuMismatch_ok_iff {parameters : Parameters} :
    injectMtuMismatch router interface parameters c = .ok (saved, c') ↔
      ∃ name l net, c.infraName = some name ∧ networks.get? c = some l ∧
        targetNetwork router interface l = some net ∧
        saved = { mtu := some (net.mtu.getD 1500), networkName := some net.name,
                  infraName := some name } ∧
        c' = networks.set (withMtu net.name (some (parameters.mtu.getD 1400)) l) c := by
  unfold injectMtuMismatch
  cases hfirst : c.infrastructures.first with
  | none => simp [infraName, Registry.firstKey, hfirst]
  | some infra =>
    have hname : c.infraName = some infra.1 := congrArg (Option.map Prod.fst) hfirst
    have hget := networks_get? hfirst
    cases hl : infra.2.networks with
    | none => simp [hl, hget, targetNetwork]
    | some l =>
      cases htarget : targetNetwork router interface l with
      | none => simp [hl, hget, htarget]
      | some net =>
        have hpatch := patchNetworks_first hfirst
          (withMtu net.name (some (parameters.mtu.getD 1400)) l)
        simp [hl, hget, hname, htarget, hpatch, eq_comm]

/-- What a fault of a router of the underlay saves and changes. -/
theorem injectUnderlay_ok_iff {save : ResourceName → UnderlayRouter → Outcome OriginalState}
    {change : UnderlayRouter → UnderlayRouter} :
    injectUnderlay router save change c = .ok (saved, c') ↔
      ∃ name l r, c.underlayName = some name ∧ underlayRouters.get? c = some l ∧
        l.find? (fun r => r.name = router) = some r ∧ save name r = .ok saved ∧
        c' = underlayRouters.set (modifyFirst (fun r => r.name = router) change l) c := by
  unfold injectUnderlay
  generalize (fun r : UnderlayRouter => decide (r.name = router)) = p
  cases hfirst : c.underlays.first with
  | none => simp [Cluster.underlayName, Registry.firstKey, hfirst]
  | some underlay =>
    have hname : c.underlayName = some underlay.1 := congrArg (Option.map Prod.fst) hfirst
    have hget := underlayRouters_get? hfirst
    cases hl : underlay.2.routers with
    | none => simp [hl, hget]
    | some l =>
      cases hr : l.find? p with
      | none => simp [hl, hget, hr]
      | some r =>
        have hpatch := patchUnderlay_first hfirst (modifyFirst p change l)
        cases hsave : save underlay.1 r with
        | error error => simp [hl, hget, hname, hr, hsave, bind, Except.bind]
        | ok saved' =>
          simp only [hl, hget, hname, hr, hsave, hpatch, bind, Except.bind, pure, Except.pure,
            Option.getD_some, Except.ok.injEq, Prod.mk.injEq, Option.some.injEq]
          constructor
          · rintro ⟨rfl, rfl⟩
            exact ⟨underlay.1, l, r, rfl, rfl, hr, hsave, rfl⟩
          · rintro ⟨_, _, _, rfl, rfl, hr', hsave', rfl⟩
            rw [hr] at hr'
            obtain rfl := Option.some.inj hr'
            rw [hsave] at hsave'
            exact ⟨Except.ok.inj hsave', rfl⟩

/-- What a fault of a VRF saves and changes. -/
theorem injectVpn_ok_iff {α : Type} {find : VpnRouter → Option α}
    {save : ResourceName → α → OriginalState} {change : VpnRouter → VpnRouter} :
    injectVpn router vrf find save change c = .ok (saved, c') ↔
      ∃ name l r v, c.l3vpnName = some name ∧ vpnRouters.get? c = some l ∧
        l.find? (fun r => r.name = router ∧ (find r).isSome) = some r ∧ find r = some v ∧
        saved = save name v ∧
        c' = vpnRouters.set (modifyFirst (fun r => r.name = router ∧ (find r).isSome) change l) c := by
  unfold injectVpn
  generalize (fun r : VpnRouter => decide (r.name = router ∧ (find r).isSome = true)) = p
  cases hfirst : c.l3vpns.first with
  | none => simp [Cluster.l3vpnName, Registry.firstKey, hfirst]
  | some l3vpn =>
    have hname : c.l3vpnName = some l3vpn.1 := congrArg (Option.map Prod.fst) hfirst
    have hget := vpnRouters_get? hfirst
    cases hl : l3vpn.2.routers with
    | none => simp [hl, hget]
    | some l =>
      have hpatch := patchL3vpn_first hfirst (modifyFirst p change l)
      cases hr : l.find? p with
      | none => simp [hl, hget, hr]
      | some r =>
        cases hv : find r with
        | none => simp [hl, hget, hr, hv]
        | some v =>
          simp only [hl, hget, hname, hr, hv, hpatch, Option.getD_some, Option.bind_some,
            Except.ok.injEq, Prod.mk.injEq, Option.some.injEq]
          constructor
          · rintro ⟨rfl, rfl⟩
            exact ⟨l3vpn.1, l, r, v, rfl, rfl, hr, hv, rfl, rfl⟩
          · rintro ⟨_, _, _, _, rfl, rfl, hr', hv', rfl, rfl⟩
            rw [hr] at hr'
            obtain rfl := Option.some.inj hr'
            rw [hv] at hv'
            obtain rfl := Option.some.inj hv'
            exact ⟨rfl, rfl⟩

/-! ## Restorations -/

/-- An MTU is written back into the networks of the saved name. -/
theorem restoreMtuMismatch_of_name {name : ResourceName} {l : List Network} {mtu : ℤ}
    {network : String} (hname : c.infraName = some name) (hl : networks.get? c = some l)
    (hnetwork : network ≠ "") :
    restoreMtuMismatch { mtu := some mtu, networkName := some network, infraName := some name } c =
      .ok (networks.set (withMtu network (restoredMtu mtu) l) c) := by
  obtain ⟨infra, hfirst, rfl⟩ := Option.map_eq_some_iff.mp hname
  rw [networks_get? hfirst] at hl
  unfold restoreMtuMismatch
  simp only [Option.filter, hnetwork, ne_eq, not_false_eq_true, decide_true, if_true,
    Registry.get?_of_first hfirst, hl, Option.getD_some, patchNetworks_first hfirst]

theorem restoreUnderlay_of_name {name : ResourceName} {l : List UnderlayRouter}
    {undo : UnderlayRouter → UnderlayRouter} (hname : c.underlayName = some name)
    (hsaved : saved.underlayName = some name) (hl : underlayRouters.get? c = some l) :
    restoreUnderlay router saved undo c =
      .ok (underlayRouters.set (modifyFirst (fun r => r.name = router) undo l) c) := by
  obtain ⟨underlay, hfirst, rfl⟩ := Option.map_eq_some_iff.mp hname
  rw [underlayRouters_get? hfirst] at hl
  unfold restoreUnderlay
  simp only [hsaved, Registry.get?_of_first hfirst, hl, Option.getD_some,
    patchUnderlay_first hfirst]

theorem restoreVpn_of_name {name : ResourceName} {l : List VpnRouter}
    {undo : VpnRouter → VpnRouter} (hname : c.l3vpnName = some name)
    (hl : vpnRouters.get? c = some l) :
    restoreVpn router name undo c =
      .ok (vpnRouters.set (modifyFirst (fun r => r.name = router) undo l) c) := by
  obtain ⟨l3vpn, hfirst, rfl⟩ := Option.map_eq_some_iff.mp hname
  rw [vpnRouters_get? hfirst] at hl
  unfold restoreVpn
  simp only [Registry.get?_of_first hfirst, hl, Option.getD_some, patchL3vpn_first hfirst]

end

end GnnSandbox.Operator
