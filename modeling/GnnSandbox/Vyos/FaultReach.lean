import GnnSandbox.Vyos.BgpFault
import GnnSandbox.Vyos.MtuFault
import GnnSandbox.Vyos.RtFault
import GnnSandbox.Vyos.UnderlayFault

/-!
# Which faults reach the router

Three of the six faults that are injected through the resources never reach the router, since the
template does not read what they change. The other three do when the router is up to date with
its resource and nothing hides what changes.
-/

namespace GnnSandbox.Vyos

open Operator (NetworkFailure OriginalState Cluster)

/-- When the fault reaches the router, by its type. -/
def Reaches (rd : Reading) (nf : NetworkFailure) (c : Cluster) (routers : Routers) : Prop :=
  match nf.failureType with
  | .mtuMismatch => MtuReaches rd nf c routers
  | .bgpSessionDown => BgpReaches rd nf c routers
  | .vrfRtMisconfiguration => RtReaches rd nf c routers
  | _ => False

/-- **Which faults reach the router.** Whatever the other fields of the resources hold and whatever
the routers are, an injected fault changes the script of its target in the commands about it, and
its restoration changes the script back, exactly in these cases. -/
theorem faultReaches_iff {nf : NetworkFailure} {c injected : Cluster} {saved : OriginalState}
    (h : Operator.injectFailureOperator nf c = .ok (saved, injected)) (rd : Reading)
    (routers : Routers) : FaultReaches rd nf saved injected routers ↔ Reaches rd nf c routers := by
  unfold Reaches
  cases htype : nf.failureType with
  | mtuMismatch => exact mtu_reaches_iff htype h routers
  | bgpSessionDown => exact bgp_reaches_iff htype h routers
  | vrfRtMisconfiguration => exact rt_reaches_iff htype h routers
  | packetCorruption => exact iff_of_false (underlay_never_reaches (.inl htype) h routers) id
  | ospfAreaMismatch =>
    exact iff_of_false (underlay_never_reaches (.inr (.inl htype)) h routers) id
  | ospfCostInflation =>
    exact iff_of_false (underlay_never_reaches (.inr (.inr htype)) h routers) id
  | processCrash | linkDown | duplicateIp | txqueueStarvation =>
    unfold Operator.injectFailureOperator at h
    rw [htype] at h
    cases h

/-- The handlers find a VRF with a route distinguisher on `eth1`, and nothing else. -/
def oneVrf : Reading where
  connection _ := 0
  network _ := { name := "", subnet := ⟨0, 0, by decide, by decide⟩ }
  infrastructure _ := {}
  area _ := { area := "" }
  ospf _ := { routerId := some "10.0.0.1" }
  protocols _ := {}
  neighbor _ := { peer := "", remoteAs := 0 }
  vpnVrf _ := { vrf := { name := "", table := 102, rd := some "65035:1" }, interfaces := some ["eth1"] }
  l3vpn _ := {}

/-- A namespace with one L3VPN of one PE router, which imports these route targets. -/
def oneVpn (rts : List String) : Cluster where
  infrastructures := ⟨[], List.nodup_nil⟩
  underlays := ⟨[], List.nodup_nil⟩
  l3vpns := ⟨[(⟨"vpn", by decide⟩,
    { routers := some [{ name := "pe1", vrfs := some [⟨"BLUE_SPOKE", some rts, .obj []⟩],
                         bgp := none, other := .obj [] }], other := .obj [] })],
    List.nodup_singleton _⟩

/-- The PE router with its VRF. -/
def vpnRouters : Routers := fun name =>
  if name = "pe1" then some
    { hostname := "pe1", routerId := "10.0.0.1"
      interfaces := some [{ name := "eth1", address := "172.16.30.1/24", vrf := some "BLUE_SPOKE" }]
      vrfs := some [{ name := "BLUE_SPOKE", table := 102, rd := some "65035:1",
                      rtImport := some ["65035:1030"] }]
      protocols := some
        { ospf := some { routerId := some "10.0.0.1" }
          bgp := some { asNumber := some 65001, routerId := some "10.0.0.1", vrfs := some [] } } }
  else none

/-- A wrong route target for the VRF. -/
def wrongRtOn (vrf : String) : NetworkFailure where
  name := "rt-pe1"
  resourceNamespace := "default"
  failureType := .vrfRtMisconfiguration
  target := ⟨"pe1", none, none, some vrf⟩
  parameters :=
    { mtu := none, errorRate := none, delay := none, wrongArea := none, correctArea := none,
      ospfCost := none, wrongRt := none, correctRt := none }

/-- A wrong route target reaches the router. -/
theorem wrong_rt_reaches : ∃ saved injected,
    Operator.injectFailureOperator (wrongRtOn "BLUE_SPOKE") (oneVpn ["65035:1030"]) =
      .ok (saved, injected) ∧
    FaultReaches oneVrf (wrongRtOn "BLUE_SPOKE") saved injected vpnRouters := by
  refine ⟨_, _, rfl,
    (faultReaches_iff (c := oneVpn ["65035:1030"]) rfl oneVrf vpnRouters).mpr ?_⟩
  refine ⟨_, _, _, _, _, rfl, rfl, rfl, rfl, ?_⟩
  refine ⟨⟨[], rfl, by simp⟩, rfl, by decide, rfl, by decide +kernel⟩

/-- A wrong area does not: after its propagation the script is as it was. -/
theorem wrong_area_not_reaches : ∃ saved injected,
    Operator.injectFailureOperator (Operator.wrongAreaOn "0.0.0.7")
        (Operator.oneRouter Operator.borderRouter) = .ok (saved, injected) ∧
      injected ≠ Operator.oneRouter Operator.borderRouter ∧
      (scriptOf vpnRouters "pe1").isSome ∧
      scriptOf (oneVrf.propagate .ospfAreaMismatch saved injected vpnRouters) "pe1" =
        scriptOf vpnRouters "pe1" ∧
      ¬FaultReaches oneVrf (Operator.wrongAreaOn "0.0.0.7") saved injected vpnRouters :=
  ⟨_, _, rfl, by decide +kernel, rfl, rfl,
    underlay_never_reaches (c := Operator.oneRouter Operator.borderRouter) (.inr (.inl rfl)) rfl
      vpnRouters⟩

end GnnSandbox.Vyos
