import GnnSandbox.Bench.SnapshotValid
import Mathlib.Data.List.Forall2

/-!
# Devices and their networks

A device names its network and the address of its gateway. The snapshot looks the gateway up
among the addresses of all interfaces, where the last interface wins, and does not look at the
network, so that networks with the same addresses take each other's devices.
-/

namespace GnnSandbox.Bench

namespace Snapshot

variable (env : Env) (infra : List InfrastructureDoc)

/-- The interfaces of the documents in order, with their routers. -/
def allInterfaces : List (RouterDoc × InterfaceDoc) :=
  (allRouters infra).flatMap fun r => r.interfaces.map fun i => (r, i)

/-- The address that the documents give to an interface. -/
def addressIn (p : RouterDoc × InterfaceDoc) : Option String :=
  (buildInterface env (allNetworks infra) p.1 p.2).ipAddress

/-- The interface has the address of the device's gateway. -/
def BearsGateway (d : DeviceDoc) (p : RouterDoc × InterfaceDoc) : Prop :=
  ∃ gateway, Graph.truthy d.gateway = some gateway ∧ addressIn env infra p = some gateway

/-- The interface is on the network that the device names. -/
def OnNetwork (d : DeviceDoc) (p : RouterDoc × InterfaceDoc) : Prop :=
  d.networkName ≠ none ∧ p.2.network = d.networkName

/-- No two interfaces of a network have the same address. -/
def UniqueAddresses : Prop :=
  (allInterfaces infra).Pairwise fun p q =>
    p.2.network = q.2.network → addressIn env infra p ≠ none →
      addressIn env infra p ≠ addressIn env infra q

/-- The device has an interface exactly when one of its network has the gateway's address, and
it is such an interface. -/
structure OwnNetwork (d : DeviceDoc) (device : Device) : Prop where
  attached : device.interfaceId ≠ none ↔
    ∃ p ∈ allInterfaces infra, BearsGateway env infra d p ∧ OnNetwork d p
  own : ∀ id, device.interfaceId = some id →
    ∃ p ∈ allInterfaces infra, interfaceId p.1.name p.2.name = id ∧
      BearsGateway env infra d p ∧ OnNetwork d p

/-- The last interface with the gateway's address is one of the device's network. -/
def LastIsOwn (d : DeviceDoc) : Prop :=
  ∀ before p after, allInterfaces infra = before ++ p :: after → BearsGateway env infra d p →
    (∀ q ∈ after, ¬BearsGateway env infra d q) →
      ∃ q ∈ allInterfaces infra, interfaceId q.1.name q.2.name = interfaceId p.1.name p.2.name ∧
        BearsGateway env infra d q ∧ OnNetwork d q

section Lookup

variable {env infra}

/-- What a search from the end finds is the last match. -/
theorem find?_reverse_eq_some_iff {α : Type} {p : α → Bool} {l : List α} {a : α} :
    l.reverse.find? p = some a ↔
      p a = true ∧ ∃ before after, l = before ++ a :: after ∧ ∀ b ∈ after, p b = false := by
  rw [List.find?_eq_some_iff_append]
  refine and_congr_right fun _ => ?_
  constructor
  · rintro ⟨bs, as, hl, hnone⟩
    refine ⟨as.reverse, bs.reverse, ?_, fun b hb => ?_⟩
    · rw [← List.reverse_reverse l, hl]
      simp
    · simpa using hnone b (List.mem_reverse.mp hb)
  · rintro ⟨before, after, rfl, hnone⟩
    refine ⟨after.reverse, before.reverse, by simp, fun b hb => ?_⟩
    rw [hnone b (List.mem_reverse.mp hb)]
    rfl

theorem buildInterfaces_eq :
    buildInterfaces env (allRouters infra) (allNetworks infra) =
      (allInterfaces infra).map fun p => buildInterface env (allNetworks infra) p.1 p.2 := by
  unfold buildInterfaces allInterfaces
  rw [List.map_flatMap]
  simp only [List.map_map]
  rfl

theorem bearsGateway_iff {d : DeviceDoc} {p : RouterDoc × InterfaceDoc} {gateway : String}
    (h : Graph.truthy d.gateway = some gateway) :
    BearsGateway env infra d p ↔ Graph.truthy (addressIn env infra p) = some gateway := by
  rw [Graph.truthy_eq_some]
  constructor
  · rintro ⟨gateway', h', haddress⟩
    obtain rfl := Option.some.inj (h.symm.trans h')
    exact ⟨haddress, (Graph.truthy_eq_some.mp h).2⟩
  · rintro ⟨haddress, -⟩
    exact ⟨gateway, h, haddress⟩

/-- The interface that a device gets is the last with the address of its gateway. -/
theorem interfaceId_buildDevice {d : DeviceDoc} {id : String} :
    (buildDevice (buildInterfaces env (allRouters infra) (allNetworks infra)) d).interfaceId =
        some id ↔
      ∃ before p after, allInterfaces infra = before ++ p :: after ∧
        interfaceId p.1.name p.2.name = id ∧ BearsGateway env infra d p ∧
          ∀ q ∈ after, ¬BearsGateway env infra d q := by
  unfold buildDevice
  dsimp only
  cases hgateway : Graph.truthy d.gateway with
  | none =>
    refine iff_of_false (by simp) ?_
    rintro ⟨before, p, after, -, -, ⟨gateway, h, -⟩, -⟩
    rw [hgateway] at h
    cases h
  | some gateway =>
    simp only [bearsGateway_iff hgateway]
    unfold ifaceByIp
    rw [Option.bind_some, buildInterfaces_eq, ← List.map_reverse, List.find?_map, Option.map_map,
      Option.map_eq_some_iff]
    constructor
    · rintro ⟨p, hfind, rfl⟩
      obtain ⟨hp, before, after, hl, hafter⟩ := find?_reverse_eq_some_iff.mp hfind
      exact ⟨before, p, after, hl, rfl, of_decide_eq_true hp,
        fun q hq => of_decide_eq_false (hafter q hq)⟩
    · rintro ⟨before, p, after, hl, rfl, hp, hafter⟩
      refine ⟨p, find?_reverse_eq_some_iff.mpr ⟨decide_eq_true hp, before, after, hl, ?_⟩, rfl⟩
      exact fun q hq => decide_eq_false (hafter q hq)

/-- Some interface has the address, so one of them is the last. -/
theorem exists_last {d : DeviceDoc} {p : RouterDoc × InterfaceDoc} (hp : p ∈ allInterfaces infra)
    (h : BearsGateway env infra d p) :
    ∃ before q after, allInterfaces infra = before ++ q :: after ∧ BearsGateway env infra d q ∧
      ∀ r ∈ after, ¬BearsGateway env infra d r := by
  classical
  have hsome : ((allInterfaces infra).reverse.find? fun q =>
      decide (BearsGateway env infra d q)).isSome = true :=
    List.find?_isSome.mpr ⟨p, List.mem_reverse.mpr hp, decide_eq_true h⟩
  obtain ⟨q, hq⟩ := Option.isSome_iff_exists.mp hsome
  obtain ⟨hbears, before, after, hl, hafter⟩ := find?_reverse_eq_some_iff.mp hq
  exact ⟨before, q, after, hl, of_decide_eq_true hbears,
    fun r hr => of_decide_eq_false (hafter r hr)⟩

/-- **A device attaches to its own network** exactly when the last interface with the address of
its gateway is on it. -/
theorem ownNetwork_iff {d : DeviceDoc} :
    OwnNetwork env infra d
        (buildDevice (buildInterfaces env (allRouters infra) (allNetworks infra)) d) ↔
      LastIsOwn env infra d := by
  constructor
  · rintro ⟨-, hown⟩ before p after hl hp hafter
    exact hown _ (interfaceId_buildDevice.mpr ⟨before, p, after, hl, rfl, hp, hafter⟩)
  · intro h
    have hown : ∀ id, (buildDevice (buildInterfaces env (allRouters infra) (allNetworks infra))
        d).interfaceId = some id → ∃ p ∈ allInterfaces infra, interfaceId p.1.name p.2.name = id ∧
          BearsGateway env infra d p ∧ OnNetwork d p := by
      intro id hid
      obtain ⟨before, p, after, hl, rfl, hp, hafter⟩ := interfaceId_buildDevice.mp hid
      exact h before p after hl hp hafter
    refine ⟨⟨fun hsome => ?_, ?_⟩, hown⟩
    · obtain ⟨id, hid⟩ := Option.ne_none_iff_exists'.mp hsome
      obtain ⟨p, hp, -, hbears⟩ := hown id hid
      exact ⟨p, hp, hbears⟩
    · rintro ⟨p, hp, hbears, -⟩ hnone
      obtain ⟨before, q, after, hl, hq, hafter⟩ := exists_last hp hbears
      have hsome := interfaceId_buildDevice.mpr ⟨before, q, after, hl, rfl, hq, hafter⟩
      rw [hnone] at hsome
      cases hsome

end Lookup

end Snapshot

open Snapshot

/-! ## The snapshot -/

/-- **When the devices of a snapshot attach to their own networks.** -/
theorem snapshot_devices_iff (env : Env) (dir now : String) (docs : List Document)
    (twin : GoldenTwin) (h : snapshotFromYaml env dir (some docs) now = .ok twin) :
    List.Forall₂ (OwnNetwork env (infraDocs docs)) (allDevices (infraDocs docs))
        twin.entities.devices ↔
      ∀ d ∈ allDevices (infraDocs docs), LastIsOwn env (infraDocs docs) d := by
  unfold snapshotFromYaml at h
  dsimp only at h
  split at h
  · cases h
  · cases h
    have hdevices : (buildEntities env (infraDocs docs) (vpnDocs docs)).devices =
        (allDevices (infraDocs docs)).map (buildDevice (buildInterfaces env
          (allRouters (infraDocs docs)) (allNetworks (infraDocs docs)))) := rfl
    dsimp only
    rw [hdevices, List.forall₂_map_right_iff, List.forall₂_same]
    exact forall₂_congr fun d _ => ownNetwork_iff

/-- Two customers with a router each, whose networks have the same addresses. -/
def overlappingDocs : List Document :=
  [.infrastructure
    { routers := [⟨"ce1", none, none, some "CE", none, [⟨"eth1", some "blue-lan"⟩]⟩,
        ⟨"ce2", none, none, some "CE", none, [⟨"eth1", some "red-lan"⟩]⟩]
      networks := [⟨"blue-lan", some "10.0.0.0/24", none, some "access",
          [⟨"ce1", "eth1", some "10.0.0.1"⟩]⟩,
        ⟨"red-lan", some "10.0.0.0/24", none, some "access", [⟨"ce2", "eth1", some "10.0.0.1"⟩]⟩]
      devices := [⟨"host", some "blue-lan", some "10.0.0.7", none, some "10.0.0.1"⟩] }]

theorem snapshot_devices_overlapping :
    ∃ twin, snapshotFromYaml .plain "lab" (some overlappingDocs) "now" = .ok twin ∧
      (List.Forall₂ (OwnNetwork .plain (infraDocs overlappingDocs))
          (allDevices (infraDocs overlappingDocs)) twin.entities.devices ↔
        ∀ d ∈ allDevices (infraDocs overlappingDocs),
          LastIsOwn .plain (infraDocs overlappingDocs) d) :=
  ⟨_, rfl, snapshot_devices_iff .plain "lab" "now" overlappingDocs _ rfl⟩

/-- The device of the one customer attaches to the router of the other. -/
theorem overlapping_customers_mixed :
    UniqueAddresses .plain (infraDocs overlappingDocs) ∧
      ∃ twin, snapshotFromYaml .plain "lab" (some overlappingDocs) "now" = .ok twin ∧
        ¬List.Forall₂ (OwnNetwork .plain (infraDocs overlappingDocs))
          (allDevices (infraDocs overlappingDocs)) twin.entities.devices := by
  refine ⟨by unfold UniqueAddresses; decide, _, rfl, fun h => ?_⟩
  have hfirst := (List.forall₂_cons.mp h).1
  obtain ⟨p, hp, hid, -, hnetwork⟩ := hfirst.own "router:ce2:interface:eth1" (by decide)
  have hall : ∀ p ∈ allInterfaces (infraDocs overlappingDocs), p.2.network = some "blue-lan" →
      interfaceId p.1.name p.2.name ≠ "router:ce2:interface:eth1" := by decide
  exact hall p hp hnetwork.2 hid

end GnnSandbox.Bench
