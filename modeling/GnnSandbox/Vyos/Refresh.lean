import GnnSandbox.Vyos.Template

/-!
# Updating and configuring afresh

The template clears a few sections by hand before it sets everything again. `NothingDropped`
says, section by section, that the new variables still have what the old ones had outside of
those; the main result `update_like_configure_iff` says that this is exactly when the update
leaves the configuration that configuring afresh gives.
-/

namespace GnnSandbox.Vyos

open ConfigTree

/-! ## What the sections have -/

namespace Vars

/-- The interfaces with commands of their own: all with a VLAN, and the others unless their name
is a trunk. -/
def ethernets (s : Vars) : List Interface := s.vlanInterfaces ++ s.physicalInterfaces

def loopbacks (s : Vars) : List Interface := s.interfaces.filter fun i => i.name = "lo"

/-- The routes outside of all VRFs. -/
def globalRoutes (s : Vars) : List Route := s.routes.filter fun r => r.vrf = none

/-- The interfaces that OSPF runs on besides the loopback. -/
def ospfInterfaces (s : Vars) : List Interface :=
  s.interfaces.filter fun i => i.name ≠ "lo" ∧ i.vrf = none ∧ i.name ≠ "eth0"

def passiveInterfaces (s : Vars) : List String :=
  (s.protocols.ospf.bind Ospf.passiveInterfaces).getD []

/-- The update clears BGP. -/
def ClearsBgp (s : Vars) : Prop := s.protocols.bgp = none ∨ s.protocols.bgp = some {}

instance (s : Vars) : Decidable s.ClearsBgp := by unfold ClearsBgp; infer_instance

def dhcpPools (s : Vars) : List DhcpPool := s.services.dhcp.getD []

end Vars

/-- What a neighbour may have besides its AS number and the IPv4 address family. -/
inductive Trait where
  | description
  | updateSource
  | client
  | vpn
  | vpnClient
  | nexthopSelf
deriving DecidableEq, Repr

/-- The neighbour has it. -/
def Trait.Holds (s : Vars) (n : Neighbor) : Trait → Prop
  | description => n.description.isSome
  | updateSource => s.Internal n
  | client => n.client
  | vpn => (s.mplsEnabled ∧ s.Internal n) ∨ s.vpnv4
  | vpnClient => (s.mplsEnabled ∧ s.Internal n) ∧ s.routeReflector ∧ n.client
  | nexthopSelf => (s.mplsEnabled ∧ s.Internal n) ∧ ¬s.routeReflector

/-- The new variables have all that the old ones had, outside of the sections that an update
clears. Where a node holds one value, the value may change. -/
structure NothingDropped (s t : Vars) : Prop where
  addresses : ∀ i ∈ s.ethernets,
    ∃ j ∈ t.ethernets, (j.name = i.name ∧ j.vlan = i.vlan) ∧ j.address = i.address
  disabled : ∀ i ∈ s.ethernets, i.Disabled →
    ∃ j ∈ t.ethernets, (j.name = i.name ∧ j.vlan = i.vlan) ∧ j.Disabled
  loopbacks : ∀ i ∈ s.loopbacks, ∃ j ∈ t.loopbacks, j.address = i.address
  routes : ∀ r ∈ s.globalRoutes, r.via.isSome → ∃ r' ∈ t.globalRoutes,
    (r'.destination = r.destination ∧ r'.via = r.via) ∧ (r.distance.isSome → r'.distance.isSome)
  ospf : s.protocols.ospf.isSome → t.protocols.ospf.isSome ∧
    (∀ i ∈ s.ospfInterfaces, ∃ j ∈ t.ospfInterfaces, j.port = i.port) ∧
    ∀ name ∈ s.passiveInterfaces, name ∈ t.passiveInterfaces
  bgp : s.protocols.bgp.isSome → ¬t.ClearsBgp →
    (s.routeReflector → t.routeReflector) ∧ ∀ n ∈ s.neighbors,
      (∃ n' ∈ t.neighbors, n'.peer = n.peer) ∧
      ∀ trait : Trait, trait.Holds s n → ∃ n' ∈ t.neighbors, n'.peer = n.peer ∧ trait.Holds t n'
  mpls : s.mplsEnabled → t.mplsEnabled ∧
    ∀ i ∈ s.ldpInterfaces, ∃ j ∈ t.ldpInterfaces, t.ldpPort j = s.ldpPort i
  dhcp : ∀ p ∈ s.dhcpPools, (∃ q ∈ t.dhcpPools, q.network = p.network) ∧
    (∀ dns ∈ p.dnsServers.getD [], ∃ q ∈ t.dhcpPools, q.network = p.network ∧
      dns ∈ q.dnsServers.getD []) ∧
    (p.range.isSome → ∃ q ∈ t.dhcpPools, q.network = p.network ∧ q.range.isSome) ∧
    ∀ m ∈ p.staticMappings.getD [], ∃ q ∈ t.dhcpPools, q.network = p.network ∧
      ∃ m' ∈ q.staticMappings.getD [], m'.name = m.name
  nat : ∀ r ∈ s.natRules, (∃ r' ∈ t.natRules, r'.rule = r.rule) ∧
    (r.source.isSome → ∃ r' ∈ t.natRules, r'.rule = r.rule ∧ r'.source.isSome) ∧
    (r.target.isSome → ∃ r' ∈ t.natRules, r'.rule = r.rule ∧ r'.target.isSome)
  ssh : ∀ p ∈ s.services.ssh, ∃ q ∈ t.services.ssh, q.port.getD 22 = p.port.getD 22

instance (s : Vars) (n : Neighbor) (trait : Trait) : Decidable (trait.Holds s n) := by
  cases trait <;> unfold Trait.Holds <;> infer_instance

/-- There are six traits. -/
theorem Trait.forall_iff {P : Trait → Prop} : (∀ trait, P trait) ↔
    ∀ trait ∈ [description, updateSource, client, vpn, vpnClient, nexthopSelf], P trait := by
  refine ⟨fun h trait _ => h trait, fun h trait => h trait ?_⟩
  cases trait <;> decide

instance {P : Trait → Prop} [DecidablePred P] : Decidable (∀ trait, P trait) :=
  decidable_of_iff _ Trait.forall_iff.symm

/-! ## What an update does with an old setting -/

/-- The update of these variables deletes the setting or covers it. -/
def Vars.Handles (t : Vars) (q : Path) : Prop :=
  (∃ d ∈ t.deletes, d <+: q) ∨ Covers singleValued t.sets q

variable {s t : Vars} {n p q : Path} {v w : String}

theorem deleted_iff : (∃ d ∈ t.deletes, d <+: q) ↔
    (∃ i ∈ t.interfaces, i.name ≠ "lo" ∧ vrfNode i <+: q) ∨ ["vrf"] <+: q ∨
      t.ClearsBgp ∧ ["protocols", "bgp"] <+: q := by
  unfold Vars.deletes Vars.ClearsBgp
  split_ifs with h
  · simp [h, and_assoc, or_and_right, exists_or]
  · simp [h, and_assoc, or_and_right, exists_or]

theorem handles_of_mem (h : p ∈ t.sets) : t.Handles p := .inr (Covers.of_mem h)

theorem handles_of_value (h : n ++ [v] ∈ t.sets) (hn : singleValued n = true) :
    t.Handles (n ++ [w]) := .inr (Covers.of_value h hn)

/-- Digits determine the number. -/
theorem repr_inj {m n : ℕ} : m.repr = n.repr ↔ m = n := by
  refine ⟨fun h => ?_, congrArg Nat.repr⟩
  have hdigits (k : ℕ) : Nat.ofDigitChars 10 k.repr.toList 0 = k := by
    rw [Nat.repr, String.toList_ofList]
    exact Nat.ofDigitChars_ten_toDigits
  rw [← hdigits m, h, hdigits n]

theorem toString_inj {m n : ℕ} : toString m = toString n ↔ m = n := repr_inj

/-! ## Nothing dropped, nothing left -/

theorem mem_sets : p ∈ s.sets ↔ p ∈ s.systemSets ∨ p ∈ s.interfaceSets ∨
    (∃ v ∈ s.vrfs, p ∈ s.vrfSets v) ∨ (∃ r ∈ s.routes, p ∈ routeSets r) ∨ p ∈ s.ospfSets ∨
    p ∈ s.bgpSets ∨ p ∈ s.mplsSets ∨ p ∈ s.serviceSets ∨
    ∃ policy ∈ s.trafficPolicy, p ∈ trafficSets policy := by
  simp [Vars.sets]

theorem system_subset (h : p ∈ s.systemSets) : p ∈ s.sets := mem_sets.mpr (by tauto)

theorem interface_subset (h : p ∈ s.interfaceSets) : p ∈ s.sets := mem_sets.mpr (by tauto)

theorem route_subset {r : Route} (hr : r ∈ s.routes) (h : p ∈ routeSets r) : p ∈ s.sets :=
  mem_sets.mpr (.inr (.inr (.inr (.inl ⟨r, hr, h⟩))))

theorem ospf_subset (h : p ∈ s.ospfSets) : p ∈ s.sets := mem_sets.mpr (by tauto)

theorem bgp_subset (h : p ∈ s.bgpSets) : p ∈ s.sets := mem_sets.mpr (by tauto)

theorem mpls_subset (h : p ∈ s.mplsSets) : p ∈ s.sets := mem_sets.mpr (by tauto)

theorem service_subset (h : p ∈ s.serviceSets) : p ∈ s.sets := mem_sets.mpr (by tauto)

/-- Only the host name may change. -/
theorem handles_system (h : p ∈ s.systemSets) : t.Handles p := by
  rcases List.mem_cons.mp h with rfl | h
  · exact handles_of_value (n := ["system", "host-name"]) (v := t.routerHostname)
      (system_subset List.mem_cons_self) rfl
  · exact handles_of_mem (system_subset (List.mem_cons_of_mem _ h))

/-! ### Interfaces -/

theorem mem_vlanInterfaces {i : Interface} :
    i ∈ s.vlanInterfaces ↔ i ∈ s.interfaces ∧ i.name ≠ "lo" ∧ i.vlan.isSome := by
  simp [Vars.vlanInterfaces]

theorem mem_vlanParents {name : String} :
    name ∈ s.vlanParents ↔ ∃ i ∈ s.vlanInterfaces, i.name = name := by
  simp [Vars.vlanParents, List.mem_eraseDups]

theorem mem_physicalInterfaces {i : Interface} :
    i ∈ s.physicalInterfaces ↔
      i ∈ s.interfaces ∧ i.name ≠ "lo" ∧ i.vlan = none ∧ i.name ∉ s.vlanParents := by
  simp [Vars.physicalInterfaces]

theorem mem_ethernets {i : Interface} :
    i ∈ s.ethernets ↔ i ∈ s.vlanInterfaces ∨ i ∈ s.physicalInterfaces := List.mem_append

/-- An interface with commands is in the list, and is not the loopback. -/
theorem of_mem_ethernets {i : Interface} (h : i ∈ s.ethernets) :
    i ∈ s.interfaces ∧ i.name ≠ "lo" := by
  rcases mem_ethernets.mp h with h | h
  · exact ⟨(mem_vlanInterfaces.mp h).1, (mem_vlanInterfaces.mp h).2.1⟩
  · exact ⟨(mem_physicalInterfaces.mp h).1, (mem_physicalInterfaces.mp h).2.1⟩

theorem ethernetSets_subset {i : Interface} (h : i ∈ s.ethernets) (hp : p ∈ ethernetSets i) :
    p ∈ s.sets := by
  refine interface_subset ?_
  unfold Vars.interfaceSets
  simp only [List.mem_append, List.mem_flatMap]
  rcases mem_ethernets.mp h with h | h
  · exact .inl (.inl (.inr ⟨i, h, hp⟩))
  · exact .inl (.inr ⟨i, h, hp⟩)

theorem node_congr {i j : Interface} (h : j.name = i.name ∧ j.vlan = i.vlan) : j.node = i.node := by
  unfold Interface.node
  rw [h.1, h.2]

/-- The nodes of an interface that hold one value. -/
theorem single_interface (i : Interface) :
    singleValued (i.node ++ ["description"]) = true ∧ singleValued (i.node ++ ["mtu"]) = true := by
  unfold Interface.node
  cases i.vlan with
  | none => exact ⟨rfl, rfl⟩
  | some vlan => exact ⟨rfl, rfl⟩

theorem mem_ethernetSets {i : Interface} : p ∈ ethernetSets i ↔
    p = i.node ++ ["description", i.description.getD ""] ∨ p = i.node ++ ["address", i.address] ∨
    p = i.node ++ ["mtu", toString (i.mtu.getD 1500)] ∨
    p = i.node ++ ["ipv6", "address", "no-default-link-local"] ∨
    (∃ vrf, i.vrf = some vrf ∧ p = i.node ++ ["vrf", vrf]) ∨
    (i.Disabled ∧ p = i.node ++ ["disable"]) := by
  unfold ethernetSets
  simp only [List.mem_append, List.mem_cons, List.not_mem_nil, or_false, Option.mem_toList,
    Option.map_eq_some_iff, List.mem_ite_nil_right, eq_comm (b := p), or_assoc]

theorem handles_ethernet (h : NothingDropped s t) {i : Interface} (hi : i ∈ s.ethernets)
    (hp : p ∈ ethernetSets i) : t.Handles p := by
  obtain ⟨j, hj, hsame, haddress⟩ := h.addresses i hi
  have hnode := node_congr hsame
  have hset (leaf : Path) (hleaf : j.node ++ leaf ∈ ethernetSets j) : i.node ++ leaf ∈ t.sets :=
    hnode ▸ ethernetSets_subset hj hleaf
  have hsingle := single_interface i
  rcases mem_ethernetSets.mp hp with rfl | rfl | rfl | rfl | ⟨vrf, -, rfl⟩ | ⟨hdisabled, rfl⟩
  · rw [List.append_cons]
    refine handles_of_value (v := j.description.getD "") ?_ hsingle.1
    rw [← List.append_cons]
    exact hset _ (mem_ethernetSets.mpr (.inl rfl))
  · exact handles_of_mem (hset _ (mem_ethernetSets.mpr (.inr (.inl (by rw [haddress])))))
  · rw [List.append_cons]
    refine handles_of_value (v := toString (j.mtu.getD 1500)) ?_ hsingle.2
    rw [← List.append_cons]
    exact hset _ (mem_ethernetSets.mpr (.inr (.inr (.inl rfl))))
  · exact handles_of_mem (hset _ (mem_ethernetSets.mpr (.inr (.inr (.inr (.inl rfl))))))
  · -- the VRF of an interface of this node is cleared
    refine .inl (deleted_iff.mpr (.inl ⟨j, (of_mem_ethernets hj).1, (of_mem_ethernets hj).2, ?_⟩))
    exact ⟨[vrf], by simp [vrfNode, hnode]⟩
  · obtain ⟨k, hk, hsame, hk'⟩ := h.disabled i hi hdisabled
    refine handles_of_mem (node_congr hsame ▸ ethernetSets_subset hk (mem_ethernetSets.mpr ?_))
    exact .inr (.inr (.inr (.inr (.inr ⟨hk', rfl⟩))))

theorem mem_loopbacks {i : Interface} : i ∈ s.loopbacks ↔ i ∈ s.interfaces ∧ i.name = "lo" := by
  simp [Vars.loopbacks]

theorem loopbackSets_subset {i : Interface} (h : i ∈ s.loopbacks) (hp : p ∈ loopbackSets i) :
    p ∈ s.sets := by
  refine interface_subset ?_
  unfold Vars.interfaceSets
  exact List.mem_append_right _ (List.mem_flatMap.mpr ⟨i, h, hp⟩)

theorem node_root (i : Interface) : ∃ rest, i.node = "interfaces" :: rest := by
  unfold Interface.node
  cases i.vlan with
  | none => exact ⟨_, rfl⟩
  | some vlan => exact ⟨_, rfl⟩

/-- The settings of an interface are below its node. -/
theorem ethernetSets_root {i : Interface} (h : p ∈ ethernetSets i) :
    ∃ leaf, p = i.node ++ leaf ∧ "vif" ∉ leaf.head? := by
  rcases mem_ethernetSets.mp h with rfl | rfl | rfl | rfl | ⟨vrf, -, rfl⟩ | ⟨-, rfl⟩ <;>
    exact ⟨_, rfl, by simp⟩

theorem interfaceSets_root (h : p ∈ s.interfaceSets) : ∃ rest, p = "interfaces" :: rest := by
  unfold Vars.interfaceSets at h
  simp only [List.mem_append, List.mem_flatMap] at h
  rcases h with ((⟨parent, -, h⟩ | ⟨i, -, h⟩) | ⟨i, -, h⟩) | ⟨i, -, h⟩
  · rcases List.mem_pair.mp h with rfl | rfl <;> exact ⟨_, rfl⟩
  · obtain ⟨leaf, rfl, -⟩ := ethernetSets_root h
    obtain ⟨rest, hrest⟩ := node_root i
    exact ⟨rest ++ leaf, by rw [hrest, List.cons_append]⟩
  · obtain ⟨leaf, rfl, -⟩ := ethernetSets_root h
    obtain ⟨rest, hrest⟩ := node_root i
    exact ⟨rest ++ leaf, by rw [hrest, List.cons_append]⟩
  · rcases List.mem_pair.mp h with rfl | rfl <;> exact ⟨_, rfl⟩

theorem handles_interface (h : NothingDropped s t) (hp : p ∈ s.interfaceSets) : t.Handles p := by
  unfold Vars.interfaceSets at hp
  simp only [List.mem_append, List.mem_flatMap] at hp
  rcases hp with ((⟨parent, hparent, hp⟩ | ⟨i, hi, hp⟩) | ⟨i, hi, hp⟩) | ⟨i, hi, hp⟩
  · -- the trunk is there because its sub-interface is
    obtain ⟨i, hi, rfl⟩ := mem_vlanParents.mp hparent
    obtain ⟨j, hj, ⟨hname, hvlan⟩, -⟩ := h.addresses i (mem_ethernets.mpr (.inl hi))
    have hj' : j ∈ t.vlanInterfaces := mem_vlanInterfaces.mpr
      ⟨(of_mem_ethernets hj).1, (of_mem_ethernets hj).2, hvlan ▸ (mem_vlanInterfaces.mp hi).2.2⟩
    refine handles_of_mem (interface_subset ?_)
    unfold Vars.interfaceSets
    simp only [List.mem_append, List.mem_flatMap]
    exact .inl (.inl (.inl ⟨i.name, mem_vlanParents.mpr ⟨j, hj', hname⟩, hp⟩))
  · exact handles_ethernet h (mem_ethernets.mpr (.inl hi)) hp
  · exact handles_ethernet h (mem_ethernets.mpr (.inr hi)) hp
  · obtain ⟨j, hj, haddress⟩ := h.loopbacks i hi
    unfold loopbackSets at hp
    simp only [List.mem_cons, List.not_mem_nil, or_false] at hp
    rcases hp with rfl | rfl
    · exact handles_of_value (n := ["interfaces", "loopback", "lo", "description"])
        (v := j.description.getD "Loopback") (loopbackSets_subset hj (by simp [loopbackSets])) rfl
    · exact handles_of_mem (loopbackSets_subset hj (by simp [loopbackSets, haddress]))

/-! ### VRFs and static routes -/

theorem handles_vrf {rest : Path} : t.Handles ("vrf" :: rest) :=
  .inl (deleted_iff.mpr (.inr (.inl (by simp))))

/-- The settings of a VRF are below its name. -/
theorem vrfSets_below {vrf : Vrf} (h : p ∈ s.vrfSets vrf) : ["vrf", "name", vrf.name] <+: p := by
  unfold Vars.vrfSets at h
  simp only [List.mem_append] at h
  rcases h with (h | h) | h
  · rw [List.mem_singleton.mp h]
    exact ⟨_, rfl⟩
  · obtain ⟨d, -, rfl⟩ := by simpa using h
    exact ⟨_, rfl⟩
  · cases hrd : vrf.rd with
    | none =>
      rw [hrd] at h
      cases h
    | some rd =>
      rw [hrd] at h
      simp only [Vars.vpnSets, List.cons_append, List.nil_append, List.mem_append, List.mem_cons,
        List.not_mem_nil, or_false, Option.mem_toList, Option.map_eq_some_iff] at h
      rcases h with rfl | rfl | rfl | (⟨rts, -, rfl⟩ | ⟨rts, -, rfl⟩) | rfl | rfl | rfl <;>
        exact ⟨_, rfl⟩

theorem vrf_root {name : String} (h : ["vrf", "name", name] <+: p) : ∃ rest, p = "vrf" :: rest := by
  obtain ⟨rest, rfl⟩ := h
  exact ⟨_, rfl⟩

theorem mem_globalRoutes {r : Route} : r ∈ s.globalRoutes ↔ r ∈ s.routes ∧ r.vrf = none := by
  simp [Vars.globalRoutes]

/-- The node of a global route. -/
def globalNode (destination : String) (via : Path) : Path :=
  ["protocols", "static", "route", destination] ++ via

theorem routeSets_global {r : Route} (hr : r.vrf = none) {via : Path} (hvia : r.via = some via) :
    routeSets r = [globalNode r.destination via ++ match r.distance with
      | some d => ["distance", toString d]
      | none => []] := by
  simp only [routeSets, hr, hvia]
  rfl

/-- A route of a VRF is set under the VRF, the others are global. -/
theorem routeSets_root {r : Route} (h : p ∈ routeSets r) : (∃ rest, p = "vrf" :: rest) ∨
    r.vrf = none ∧ ∃ rest, p = "protocols" :: "static" :: rest := by
  unfold routeSets at h
  cases hvia : r.via with
  | none =>
    rw [hvia] at h
    cases h
  | some via =>
    rw [hvia] at h
    obtain rfl := List.mem_singleton.mp h
    cases hvrf : r.vrf with
    | some vrf => exact .inl ⟨_, rfl⟩
    | none => exact .inr ⟨rfl, _, rfl⟩

/-- The distance is the one value of a next hop and of an exit interface. -/
theorem single_distance {r : Route} {via : Path} (hvia : r.via = some via) (destination : String) :
    singleValued (globalNode destination via ++ ["distance"]) = true := by
  unfold Route.via at hvia
  cases hhop : r.nextHop with
  | some hop =>
    rw [hhop] at hvia
    obtain rfl := Option.some.inj hvia
    rfl
  | none =>
    rw [hhop] at hvia
    obtain ⟨i, -, rfl⟩ := Option.map_eq_some_iff.mp hvia
    rfl

theorem handles_route (h : NothingDropped s t) {r : Route} (hr : r ∈ s.routes)
    (hp : p ∈ routeSets r) : t.Handles p := by
  rcases routeSets_root hp with ⟨rest, rfl⟩ | ⟨hvrf, -⟩
  · exact handles_vrf
  · cases hvia : r.via with
    | none =>
      unfold routeSets at hp
      rw [hvia] at hp
      cases hp
    | some via =>
      obtain ⟨r', hr', ⟨hdestination, hvia'⟩, hdistance⟩ :=
        h.routes r (mem_globalRoutes.mpr ⟨hr, hvrf⟩) (hvia ▸ rfl)
      rw [hvia] at hvia'
      obtain ⟨hr', hvrf'⟩ := mem_globalRoutes.mp hr'
      have hset := routeSets_global hvrf' hvia'
      rw [hdestination] at hset
      rw [routeSets_global hvrf hvia] at hp
      obtain rfl := List.mem_singleton.mp hp
      cases hd : r.distance with
      | none =>
        refine .inr (Covers.of_below (route_subset hr' (hset ▸ List.mem_singleton_self _)) ?_)
        simp
      | some d =>
        obtain ⟨d', hd'⟩ := Option.isSome_iff_exists.mp (hdistance (hd ▸ rfl))
        rw [hd'] at hset
        dsimp only at hset ⊢
        rw [List.append_cons] at hset ⊢
        exact handles_of_value (route_subset hr' (hset ▸ List.mem_singleton_self _))
          (single_distance hvia _)

/-! ### OSPF -/

theorem mem_ospfInterfaces {i : Interface} : i ∈ s.ospfInterfaces ↔
    i ∈ s.interfaces ∧ i.name ≠ "lo" ∧ i.vrf = none ∧ i.name ≠ "eth0" := by
  simp [Vars.ospfInterfaces]

theorem mem_ospfInterfaceSets {i : Interface} : p ∈ ospfInterfaceSets i ↔
    (i.name = "lo" ∧ p = ["protocols", "ospf", "interface", "lo", "area", "0.0.0.0"]) ∨
    ((i.name ≠ "lo" ∧ i.vrf = none ∧ i.name ≠ "eth0") ∧
      (p = ["protocols", "ospf", "interface", i.port, "area", "0.0.0.0"] ∨
        p = ["protocols", "ospf", "interface", i.port, "network", "point-to-point"])) := by
  unfold ospfInterfaceSets
  split_ifs with hlo hskip hvrf
  · simp [hlo]
  · simp [hskip]
  · simp only [hvrf, true_and] at hskip
    simp [hlo, hskip, hvrf]
  · simp [hlo, hvrf]

theorem mem_ospfSets : p ∈ s.ospfSets ↔ ∃ o, s.protocols.ospf = some o ∧
    (p = ["protocols", "ospf", "parameters", "router-id", o.routerId.getD ""] ∨
      (∃ i ∈ s.interfaces, p ∈ ospfInterfaceSets i) ∨
      ∃ name ∈ s.passiveInterfaces, p = ["protocols", "ospf", "passive-interface", name]) := by
  unfold Vars.ospfSets Vars.passiveInterfaces
  cases s.protocols.ospf with
  | none => simp
  | some o => simp [eq_comm]

theorem handles_ospf (h : NothingDropped s t) (hp : p ∈ s.ospfSets) : t.Handles p := by
  obtain ⟨o, ho, hp⟩ := mem_ospfSets.mp hp
  obtain ⟨hospf, hports, hpassive⟩ := h.ospf (ho ▸ rfl)
  obtain ⟨o', ho'⟩ := Option.isSome_iff_exists.mp hospf
  rcases hp with rfl | ⟨i, hi, hp⟩ | ⟨name, hname, rfl⟩
  · exact handles_of_value (n := ["protocols", "ospf", "parameters", "router-id"])
      (v := o'.routerId.getD "") (ospf_subset (mem_ospfSets.mpr ⟨o', ho', .inl rfl⟩)) rfl
  · refine handles_of_mem (ospf_subset (mem_ospfSets.mpr ⟨o', ho', .inr (.inl ?_)⟩))
    rcases mem_ospfInterfaceSets.mp hp with ⟨hlo, rfl⟩ | ⟨hi', hp⟩
    · obtain ⟨j, hj, -⟩ := h.loopbacks i (mem_loopbacks.mpr ⟨hi, hlo⟩)
      obtain ⟨hj, hlo⟩ := mem_loopbacks.mp hj
      exact ⟨j, hj, mem_ospfInterfaceSets.mpr (.inl ⟨hlo, rfl⟩)⟩
    · obtain ⟨j, hj, hport⟩ := hports i (mem_ospfInterfaces.mpr ⟨hi, hi'⟩)
      obtain ⟨hj, hj'⟩ := mem_ospfInterfaces.mp hj
      exact ⟨j, hj, mem_ospfInterfaceSets.mpr (.inr ⟨hj', hport ▸ hp⟩)⟩
  · exact handles_of_mem (ospf_subset
      (mem_ospfSets.mpr ⟨o', ho', .inr (.inr ⟨name, hpassive name hname, rfl⟩)⟩))

/-! ### BGP -/

theorem handles_bgp_of_clears (h : t.ClearsBgp) {rest : Path} :
    t.Handles ("protocols" :: "bgp" :: rest) :=
  .inl (deleted_iff.mpr (.inr (.inr ⟨h, by simp⟩)))

/-- The settings of a global neighbour. -/
theorem mem_neighborSets {n : Neighbor} : p ∈ s.neighborSets n ↔
    p = neighborNode n ++ ["remote-as", toString n.remoteAs] ∨
    (∃ d, n.description = some d ∧ p = neighborNode n ++ ["description", d]) ∨
    (s.Internal n ∧ p = neighborNode n ++ ["update-source", "lo"]) ∨
    p = neighborNode n ++ ["address-family", "ipv4-unicast"] ∨
    (n.client ∧ p = neighborNode n ++ ["address-family", "ipv4-unicast", "route-reflector-client"]) ∨
    ((s.mplsEnabled ∧ s.Internal n) ∧
      (p = neighborNode n ++ ["address-family", "ipv4-vpn"] ∨
        (s.routeReflector ∧ n.client ∧
          p = neighborNode n ++ ["address-family", "ipv4-vpn", "route-reflector-client"]) ∨
        (¬s.routeReflector ∧ p = neighborNode n ++ ["address-family", "ipv4-vpn", "nexthop-self"]))) := by
  have hreflector (a b : Path) :
      (p ∈ if s.routeReflector then if n.client then [a] else [] else [b]) ↔
        (s.routeReflector ∧ n.client ∧ p = a) ∨ (¬s.routeReflector ∧ p = b) := by
    split_ifs with hr hc
    · simp [hr, hc]
    · simp [hr, hc]
    · simp [hr]
  unfold Vars.neighborSets
  simp only [List.mem_append, List.mem_singleton, List.mem_ite_nil_right, hreflector,
    Option.mem_toList, Option.map_eq_some_iff, eq_comm (b := p), or_assoc]
  rfl

theorem mem_familySets : p ∈ s.familySets ↔ s.vpnv4 ∧ ∃ n ∈ s.neighbors,
    p = neighborNode n ++ ["address-family", "ipv4-vpn"] := by
  unfold Vars.familySets Vars.vpnv4
  simp only [List.mem_flatMap, List.mem_ite_nil_right, List.mem_map, List.any_eq_true,
    decide_eq_true_eq]
  constructor
  · rintro ⟨af, haf, hfamily, n, hn, rfl⟩
    exact ⟨⟨af, haf, hfamily⟩, n, hn, rfl⟩
  · rintro ⟨⟨af, haf, hfamily⟩, n, hn, rfl⟩
    exact ⟨af, haf, hfamily, n, hn, rfl⟩

theorem mem_bgpSets : p ∈ s.bgpSets ↔ s.protocols.bgp ≠ none ∧
    (p = ["protocols", "bgp", "system-as", toString s.asNumber] ∨
      p = ["protocols", "bgp", "parameters", "router-id", s.bgpRouterId] ∨
      (s.routeReflector ∧ p = ["protocols", "bgp", "parameters", "cluster-id", s.bgpRouterId]) ∨
      (∃ n ∈ s.neighbors, p ∈ s.neighborSets n) ∨ p ∈ s.familySets ∨
      (∃ v ∈ s.bgpVrfs, p ∈ s.bgpVrfSets v) ∨ p ∈ s.addedSets ∨
      (s.neighbors ≠ [] ∧
        p = ["protocols", "bgp", "address-family", "ipv4-unicast", "redistribute", "connected"])) := by
  unfold Vars.bgpSets
  split_ifs <;> simp_all

theorem bgpVrfSets_below {v : BgpVrf} (h : p ∈ s.bgpVrfSets v) : ["vrf", "name", v.name] <+: p := by
  unfold Vars.bgpVrfSets Vars.vrfNeighborSets at h
  simp only [List.mem_append, List.mem_flatMap, List.mem_cons, List.not_mem_nil, or_false,
    Option.mem_toList, Option.map_eq_some_iff] at h
  rcases h with (h | ⟨n, -, ((h | h) | ⟨d, -, rfl⟩)⟩) | rfl
  · rcases h with rfl | rfl <;> exact ⟨_, rfl⟩
  · rcases h with rfl | rfl <;> exact ⟨_, rfl⟩
  · split at h
    · rw [List.mem_singleton.mp h]
      exact ⟨_, rfl⟩
    · rcases List.mem_pair.mp h with rfl | rfl <;> exact ⟨_, rfl⟩
  · exact ⟨_, rfl⟩
  · exact ⟨_, rfl⟩

theorem addedSets_below (h : p ∈ s.addedSets) : ∃ v ∈ s.bgpVrfs, ["vrf", "name", v.name] <+: p := by
  unfold Vars.addedSets Vars.addedNeighborSets at h
  split at h
  · cases h
  · simp only [List.mem_flatMap, List.mem_append, List.mem_cons, List.not_mem_nil, or_false,
      Option.mem_toList, Option.map_eq_some_iff] at h
    obtain ⟨v, hv, n, -, h | ⟨d, -, rfl⟩⟩ := h
    · rcases h with rfl | rfl | rfl <;> exact ⟨v, hv, _, rfl⟩
    · exact ⟨v, hv, _, rfl⟩

theorem addedSets_root (h : p ∈ s.addedSets) : ∃ rest, p = "vrf" :: rest := by
  obtain ⟨v, -, hbelow⟩ := addedSets_below h
  exact vrf_root hbelow

/-- What the global neighbours get. -/
theorem neighbor_subset {n : Neighbor} (hbgp : s.protocols.bgp ≠ none) (hn : n ∈ s.neighbors)
    (hp : p ∈ s.neighborSets n) : p ∈ s.sets :=
  bgp_subset (mem_bgpSets.mpr ⟨hbgp, .inr (.inr (.inr (.inl ⟨n, hn, hp⟩)))⟩)

/-- A neighbour with the VPNv4 family has its setting. -/
theorem vpn_subset {n : Neighbor} (hbgp : s.protocols.bgp ≠ none) (hn : n ∈ s.neighbors)
    (h : Trait.vpn.Holds s n) : neighborNode n ++ ["address-family", "ipv4-vpn"] ∈ s.sets := by
  rcases h with h | h
  · exact neighbor_subset hbgp hn (mem_neighborSets.mpr (by tauto))
  · exact bgp_subset (mem_bgpSets.mpr
      ⟨hbgp, .inr (.inr (.inr (.inr (.inl (mem_familySets.mpr ⟨h, n, hn, rfl⟩)))))⟩)

theorem neighborNode_congr {n n' : Neighbor} (h : n'.peer = n.peer) :
    neighborNode n' = neighborNode n := by
  unfold neighborNode
  rw [h]

theorem handles_neighbor {n : Neighbor} (hbgp : t.protocols.bgp ≠ none)
    (hpeer : ∃ n' ∈ t.neighbors, n'.peer = n.peer)
    (htrait : ∀ trait : Trait, trait.Holds s n →
      ∃ n' ∈ t.neighbors, n'.peer = n.peer ∧ trait.Holds t n')
    (hp : p ∈ s.neighborSets n) : t.Handles p := by
  obtain ⟨m, hm, hmpeer⟩ := hpeer
  have hset {n' : Neighbor} (hn' : n' ∈ t.neighbors) (hpeer : n'.peer = n.peer) {q : Path}
      (hq : neighborNode n ++ q ∈ t.neighborSets n') : neighborNode n ++ q ∈ t.sets :=
    neighbor_subset hbgp hn' hq
  rcases mem_neighborSets.mp hp with
    rfl | ⟨d, hd, rfl⟩ | ⟨h, rfl⟩ | rfl | ⟨h, rfl⟩ | ⟨h, rfl | ⟨hr, hc, rfl⟩ | ⟨hr, rfl⟩⟩
  · refine handles_of_value (n := neighborNode n ++ ["remote-as"]) (v := toString m.remoteAs)
      (hset hm hmpeer (mem_neighborSets.mpr (.inl ?_))) rfl
    rw [← neighborNode_congr hmpeer]
    rfl
  · obtain ⟨n', hn', hpeer, hd'⟩ := htrait .description (by simp [Trait.Holds, hd])
    obtain ⟨d', hd'⟩ := Option.isSome_iff_exists.mp hd'
    refine handles_of_value (n := neighborNode n ++ ["description"]) (v := d')
      (hset hn' hpeer (mem_neighborSets.mpr (.inr (.inl ⟨d', hd', ?_⟩)))) rfl
    rw [← neighborNode_congr hpeer]
    rfl
  · obtain ⟨n', hn', hpeer, h'⟩ := htrait .updateSource h
    refine handles_of_mem (hset hn' hpeer (mem_neighborSets.mpr ?_))
    rw [neighborNode_congr hpeer]
    exact .inr (.inr (.inl ⟨h', rfl⟩))
  · refine handles_of_mem (hset hm hmpeer (mem_neighborSets.mpr ?_))
    rw [neighborNode_congr hmpeer]
    tauto
  · obtain ⟨n', hn', hpeer, h'⟩ := htrait .client h
    refine handles_of_mem (hset hn' hpeer (mem_neighborSets.mpr ?_))
    rw [neighborNode_congr hpeer]
    exact .inr (.inr (.inr (.inr (.inl ⟨h', rfl⟩))))
  · obtain ⟨n', hn', hpeer, h'⟩ := htrait .vpn (.inl h)
    exact handles_of_mem (neighborNode_congr hpeer ▸ vpn_subset hbgp hn' h')
  · obtain ⟨n', hn', hpeer, h', hr', hc'⟩ := htrait .vpnClient ⟨h, hr, hc⟩
    refine handles_of_mem (hset hn' hpeer (mem_neighborSets.mpr ?_))
    rw [neighborNode_congr hpeer]
    exact .inr (.inr (.inr (.inr (.inr ⟨h', .inr (.inl ⟨hr', hc', rfl⟩)⟩))))
  · obtain ⟨n', hn', hpeer, h', hr'⟩ := htrait .nexthopSelf ⟨h, hr⟩
    refine handles_of_mem (hset hn' hpeer (mem_neighborSets.mpr ?_))
    rw [neighborNode_congr hpeer]
    exact .inr (.inr (.inr (.inr (.inr ⟨h', .inr (.inr ⟨hr', rfl⟩)⟩))))

/-- The settings of BGP are global, or those of a VRF. -/
theorem bgpSets_below (h : p ∈ s.bgpSets) : (∃ rest, p = "protocols" :: "bgp" :: rest) ∨
    ∃ v ∈ s.bgpVrfs, ["vrf", "name", v.name] <+: p := by
  obtain ⟨-, h⟩ := mem_bgpSets.mp h
  rcases h with rfl | rfl | ⟨-, rfl⟩ | ⟨n, -, h⟩ | h | ⟨v, hv, h⟩ | h | ⟨-, rfl⟩
  · exact .inl ⟨_, rfl⟩
  · exact .inl ⟨_, rfl⟩
  · exact .inl ⟨_, rfl⟩
  · rcases mem_neighborSets.mp h with
      rfl | ⟨d, -, rfl⟩ | ⟨-, rfl⟩ | rfl | ⟨-, rfl⟩ | ⟨-, rfl | ⟨-, -, rfl⟩ | ⟨-, rfl⟩⟩ <;>
    exact .inl ⟨_, rfl⟩
  · obtain ⟨-, n, -, rfl⟩ := mem_familySets.mp h
    exact .inl ⟨_, rfl⟩
  · exact .inr ⟨v, hv, bgpVrfSets_below h⟩
  · exact .inr (addedSets_below h)
  · exact .inl ⟨_, rfl⟩

theorem bgpSets_root (h : p ∈ s.bgpSets) :
    (∃ rest, p = "protocols" :: "bgp" :: rest) ∨ ∃ rest, p = "vrf" :: rest := by
  rcases bgpSets_below h with hroot | ⟨v, -, hbelow⟩
  · exact .inl hroot
  · exact .inr (vrf_root hbelow)

theorem handles_bgp (h : NothingDropped s t) (hp : p ∈ s.bgpSets) : t.Handles p := by
  by_cases hclear : t.ClearsBgp
  · -- everything under `protocols bgp` and `vrf` is deleted
    rcases bgpSets_root hp with ⟨rest, rfl⟩ | ⟨rest, rfl⟩
    · exact handles_bgp_of_clears hclear
    · exact handles_vrf
  · obtain ⟨hbgp, hp⟩ := mem_bgpSets.mp hp
    have hbgp' : t.protocols.bgp ≠ none := fun h => hclear (.inl h)
    obtain ⟨hreflector, hneighbors⟩ := h.bgp (Option.isSome_iff_ne_none.mpr hbgp) hclear
    rcases hp with rfl | rfl | ⟨hr, rfl⟩ | ⟨n, hn, hp⟩ | hp | ⟨v, -, hp⟩ | hp | ⟨hne, rfl⟩
    · exact handles_of_value (n := ["protocols", "bgp", "system-as"]) (v := toString t.asNumber)
        (bgp_subset (mem_bgpSets.mpr ⟨hbgp', .inl rfl⟩)) rfl
    · exact handles_of_value (n := ["protocols", "bgp", "parameters", "router-id"])
        (v := t.bgpRouterId) (bgp_subset (mem_bgpSets.mpr ⟨hbgp', .inr (.inl rfl)⟩)) rfl
    · exact handles_of_value (n := ["protocols", "bgp", "parameters", "cluster-id"])
        (v := t.bgpRouterId)
        (bgp_subset (mem_bgpSets.mpr ⟨hbgp', .inr (.inr (.inl ⟨hreflector hr, rfl⟩))⟩)) rfl
    · exact handles_neighbor hbgp' (hneighbors n hn).1 (hneighbors n hn).2 hp
    · obtain ⟨hfamily, n, hn, rfl⟩ := mem_familySets.mp hp
      obtain ⟨n', hn', hpeer, h'⟩ := (hneighbors n hn).2 .vpn (.inr hfamily)
      exact handles_of_mem (neighborNode_congr hpeer ▸ vpn_subset hbgp' hn' h')
    · obtain ⟨rest, rfl⟩ := vrf_root (bgpVrfSets_below hp)
      exact handles_vrf
    · obtain ⟨rest, rfl⟩ := addedSets_root hp
      exact handles_vrf
    · obtain ⟨n, hn⟩ := List.exists_mem_of_ne_nil _ hne
      obtain ⟨n', hn', -⟩ := (hneighbors n hn).1
      exact handles_of_mem (bgp_subset (mem_bgpSets.mpr
        ⟨hbgp', by simp [List.ne_nil_of_mem hn']⟩))

/-! ### MPLS and services -/

theorem mem_mplsSets : p ∈ s.mplsSets ↔ s.mplsEnabled ∧
    ((∃ i ∈ s.ldpInterfaces, p = ["protocols", "mpls", "interface", s.ldpPort i]) ∨
      p = ["protocols", "mpls", "ldp", "router-id", s.ldpRouterId] ∨
      p = ["protocols", "mpls", "ldp", "discovery", "transport-ipv4-address", s.ldpRouterId] ∨
      ∃ i ∈ s.ldpInterfaces, p = ["protocols", "mpls", "ldp", "interface", s.ldpPort i]) := by
  unfold Vars.mplsSets
  simp only [List.mem_ite_nil_right, List.mem_append, List.mem_map, List.mem_pair,
    eq_comm (b := p), or_assoc]

theorem handles_mpls (h : NothingDropped s t) (hp : p ∈ s.mplsSets) : t.Handles p := by
  obtain ⟨henabled, hp⟩ := mem_mplsSets.mp hp
  obtain ⟨henabled', hports⟩ := h.mpls henabled
  rcases hp with ⟨i, hi, rfl⟩ | rfl | rfl | ⟨i, hi, rfl⟩
  · obtain ⟨j, hj, hport⟩ := hports i hi
    exact handles_of_mem (mpls_subset (mem_mplsSets.mpr ⟨henabled', .inl ⟨j, hj, by rw [hport]⟩⟩))
  · exact handles_of_value (n := ["protocols", "mpls", "ldp", "router-id"]) (v := t.ldpRouterId)
      (mpls_subset (mem_mplsSets.mpr ⟨henabled', .inr (.inl rfl)⟩)) rfl
  · exact handles_of_value (n := ["protocols", "mpls", "ldp", "discovery", "transport-ipv4-address"])
      (v := t.ldpRouterId) (mpls_subset (mem_mplsSets.mpr ⟨henabled', .inr (.inr (.inl rfl))⟩)) rfl
  · obtain ⟨j, hj, hport⟩ := hports i hi
    exact handles_of_mem
      (mpls_subset (mem_mplsSets.mpr ⟨henabled', .inr (.inr (.inr ⟨j, hj, by rw [hport]⟩))⟩))

theorem mem_dhcpSets {pool : DhcpPool} : p ∈ dhcpSets pool ↔
    p = pool.node ++ ["default-router", pool.gateway] ∨
    p = pool.node ++ ["lease", toString (pool.leaseTime.getD 86400)] ∨
    (∃ dns ∈ pool.dnsServers.getD [], p = pool.node ++ ["name-server", dns]) ∨
    (∃ r, pool.range = some r ∧ (p = pool.node ++ ["range", "0", "start", r.start] ∨
      p = pool.node ++ ["range", "0", "stop", r.stop])) ∨
    ∃ m ∈ pool.staticMappings.getD [],
      p = pool.node ++ ["static-mapping", m.name, "ip-address", m.ip] ∨
      p = pool.node ++ ["static-mapping", m.name, "mac-address", m.mac] := by
  unfold dhcpSets
  simp only [List.mem_append, List.mem_map, List.mem_pair, List.mem_flatMap, Option.mem_toList,
    eq_comm (b := p), or_assoc]

theorem mem_natSets {r : NatRule} : p ∈ natSets r ↔
    p = r.node ++ ["outbound-interface", r.outboundInterface] ∨
    (∃ source, r.source = some source ∧ p = r.node ++ ["source", "address", source]) ∨
    ∃ target, r.target = some target ∧ p = r.node ++ ["translation", "address", target] := by
  unfold natSets
  simp only [List.mem_append, List.mem_singleton, Option.mem_toList, Option.map_eq_some_iff,
    eq_comm (b := p), or_assoc]

theorem mem_serviceSets : p ∈ s.serviceSets ↔ (∃ pool ∈ s.dhcpPools, p ∈ dhcpSets pool) ∨
    (∃ r ∈ s.natRules, p ∈ natSets r) ∨
    ∃ ssh ∈ s.services.ssh, p = ["service", "ssh", "port", toString (ssh.port.getD 22)] := by
  unfold Vars.serviceSets Vars.dhcpPools sshSets
  simp only [List.mem_append, List.mem_flatMap, Option.mem_toList, List.mem_singleton, or_assoc]
  rfl

theorem poolNode_congr {pool pool' : DhcpPool} (h : pool'.network = pool.network) :
    pool'.node = pool.node := by
  unfold DhcpPool.node
  rw [h]

theorem ruleNode_congr {r r' : NatRule} (h : r'.rule = r.rule) : r'.node = r.node := by
  unfold NatRule.node
  rw [h]

theorem handles_dhcp (h : NothingDropped s t) {pool : DhcpPool} (hpool : pool ∈ s.dhcpPools)
    (hp : p ∈ dhcpSets pool) : t.Handles p := by
  obtain ⟨⟨base, hbase, hnetwork⟩, hdns, hrange, hmapping⟩ := h.dhcp pool hpool
  have hset {pool' : DhcpPool} (hpool' : pool' ∈ t.dhcpPools) {q : Path}
      (hq : q ∈ dhcpSets pool') : q ∈ t.sets := service_subset (mem_serviceSets.mpr (.inl ⟨pool', hpool', hq⟩))
  rcases mem_dhcpSets.mp hp with
    rfl | rfl | ⟨dns, hd, rfl⟩ | ⟨r, hr, rfl | rfl⟩ | ⟨m, hm, rfl | rfl⟩
  · rw [← poolNode_congr hnetwork]
    exact handles_of_value (n := base.node ++ ["default-router"]) (v := base.gateway)
      (hset hbase (mem_dhcpSets.mpr (.inl rfl))) rfl
  · rw [← poolNode_congr hnetwork]
    exact handles_of_value (n := base.node ++ ["lease"]) (v := toString (base.leaseTime.getD 86400))
      (hset hbase (mem_dhcpSets.mpr (.inr (.inl rfl)))) rfl
  · obtain ⟨pool', hpool', hnetwork, hd'⟩ := hdns dns hd
    rw [← poolNode_congr hnetwork]
    exact handles_of_mem (hset hpool' (mem_dhcpSets.mpr (.inr (.inr (.inl ⟨dns, hd', rfl⟩)))))
  · obtain ⟨pool', hpool', hnetwork, hr'⟩ := hrange (hr ▸ rfl)
    obtain ⟨r', hr'⟩ := Option.isSome_iff_exists.mp hr'
    rw [← poolNode_congr hnetwork]
    exact handles_of_value (n := pool'.node ++ ["range", "0", "start"]) (v := r'.start)
      (hset hpool' (mem_dhcpSets.mpr (.inr (.inr (.inr (.inl ⟨r', hr', .inl rfl⟩)))))) rfl
  · obtain ⟨pool', hpool', hnetwork, hr'⟩ := hrange (hr ▸ rfl)
    obtain ⟨r', hr'⟩ := Option.isSome_iff_exists.mp hr'
    rw [← poolNode_congr hnetwork]
    exact handles_of_value (n := pool'.node ++ ["range", "0", "stop"]) (v := r'.stop)
      (hset hpool' (mem_dhcpSets.mpr (.inr (.inr (.inr (.inl ⟨r', hr', .inr rfl⟩)))))) rfl
  · obtain ⟨pool', hpool', hnetwork, m', hm', hname⟩ := hmapping m hm
    rw [← poolNode_congr hnetwork, ← hname]
    exact handles_of_value (n := pool'.node ++ ["static-mapping", m'.name, "ip-address"]) (v := m'.ip)
      (hset hpool' (mem_dhcpSets.mpr (.inr (.inr (.inr (.inr ⟨m', hm', .inl rfl⟩)))))) rfl
  · obtain ⟨pool', hpool', hnetwork, m', hm', hname⟩ := hmapping m hm
    rw [← poolNode_congr hnetwork, ← hname]
    exact handles_of_value (n := pool'.node ++ ["static-mapping", m'.name, "mac-address"])
      (v := m'.mac)
      (hset hpool' (mem_dhcpSets.mpr (.inr (.inr (.inr (.inr ⟨m', hm', .inr rfl⟩)))))) rfl

theorem handles_nat (h : NothingDropped s t) {r : NatRule} (hr : r ∈ s.natRules)
    (hp : p ∈ natSets r) : t.Handles p := by
  obtain ⟨⟨base, hbase, hrule⟩, hsource, htarget⟩ := h.nat r hr
  have hset {r' : NatRule} (hr' : r' ∈ t.natRules) {q : Path} (hq : q ∈ natSets r') : q ∈ t.sets :=
    service_subset (mem_serviceSets.mpr (.inr (.inl ⟨r', hr', hq⟩)))
  rcases mem_natSets.mp hp with rfl | ⟨source, hs, rfl⟩ | ⟨target, ht, rfl⟩
  · rw [← ruleNode_congr hrule]
    exact handles_of_value (n := base.node ++ ["outbound-interface"]) (v := base.outboundInterface)
      (hset hbase (mem_natSets.mpr (.inl rfl))) rfl
  · obtain ⟨r', hr', hrule, hs'⟩ := hsource (hs ▸ rfl)
    obtain ⟨source', hs'⟩ := Option.isSome_iff_exists.mp hs'
    rw [← ruleNode_congr hrule]
    exact handles_of_value (n := r'.node ++ ["source", "address"]) (v := source')
      (hset hr' (mem_natSets.mpr (.inr (.inl ⟨source', hs', rfl⟩)))) rfl
  · obtain ⟨r', hr', hrule, ht'⟩ := htarget (ht ▸ rfl)
    obtain ⟨target', ht'⟩ := Option.isSome_iff_exists.mp ht'
    rw [← ruleNode_congr hrule]
    exact handles_of_value (n := r'.node ++ ["translation", "address"]) (v := target')
      (hset hr' (mem_natSets.mpr (.inr (.inr ⟨target', ht', rfl⟩)))) rfl

theorem handles_service (h : NothingDropped s t) (hp : p ∈ s.serviceSets) : t.Handles p := by
  rcases mem_serviceSets.mp hp with ⟨pool, hpool, hp⟩ | ⟨r, hr, hp⟩ | ⟨ssh, hssh, rfl⟩
  · exact handles_dhcp h hpool hp
  · exact handles_nat h hr hp
  · obtain ⟨ssh', hssh', hport⟩ := h.ssh ssh hssh
    exact handles_of_mem
      (service_subset (mem_serviceSets.mpr (.inr (.inr ⟨ssh', hssh', by rw [hport]⟩))))

/-- Where nothing is dropped, the update handles all old settings. -/
theorem handles_of_nothingDropped (htraffic : s.trafficPolicy = none) (h : NothingDropped s t)
    (hp : p ∈ s.sets) : t.Handles p := by
  rcases mem_sets.mp hp with
    hp | hp | ⟨v, -, hp⟩ | ⟨r, hr, hp⟩ | hp | hp | hp | hp | ⟨policy, hpolicy, -⟩
  · exact handles_system hp
  · exact handles_interface h hp
  · obtain ⟨rest, rfl⟩ := vrf_root (vrfSets_below hp)
    exact handles_vrf
  · exact handles_route h hr hp
  · exact handles_ospf h hp
  · exact handles_bgp h hp
  · exact handles_mpls h hp
  · exact handles_service h hp
  · rw [htraffic] at hpolicy
    cases hpolicy

/-! ## Nothing left, nothing dropped -/

/-- All old settings, or other values of their nodes, are handled. -/
def Vars.HandlesAll (t s : Vars) : Prop :=
  ∀ q ∈ run singleValued (s.sets.map .set) [], t.Handles q

/-- An old setting of a node that can hold several values is deleted or set again. -/
theorem reach (h : t.HandlesAll s) (hp : p ∈ s.sets) (hmulti : singleValued p.dropLast = false)
    (hkept : ¬∃ d ∈ t.deletes, d <+: p) : ∃ r ∈ t.sets, p <+: r := by
  obtain ⟨q, hq, rfl | ⟨-, -, hdrop, hsingle⟩⟩ := survives_or_replaced singleValued hp []
  · obtain ⟨r, hr, ⟨-, -, hdrop, hsingle⟩ | hr'⟩ := (h q hq).resolve_left hkept
    · rw [hdrop, hmulti] at hsingle
      cases hsingle
    · exact ⟨r, hr, hr'⟩
  · rw [hdrop, hmulti] at hsingle
    cases hsingle

/-- The node of an old value is deleted or set again. -/
theorem reach_node (h : t.HandlesAll s) (hp : n ++ [v] ∈ s.sets)
    (hkept : ∀ w, ¬∃ d ∈ t.deletes, d <+: n ++ [w]) : ∃ r ∈ t.sets, n <+: r := by
  obtain ⟨q, hq, hqp⟩ := survives_or_replaced singleValued hp []
  have hlast : ∃ w, q = n ++ [w] := by
    rcases hqp with rfl | ⟨hne, -, hdrop, -⟩
    · exact ⟨v, rfl⟩
    · rw [List.dropLast_concat] at hdrop
      exact ⟨q.getLast hne, by rw [← hdrop, List.dropLast_concat_getLast]⟩
  obtain ⟨w, rfl⟩ := hlast
  obtain ⟨r, hr, ⟨-, -, hdrop, -⟩ | hr'⟩ := (h _ hq).resolve_left (hkept w)
  · rw [List.dropLast_concat] at hdrop
    exact ⟨r, hr, hdrop ▸ List.dropLast_prefix r⟩
  · exact ⟨r, hr, (List.prefix_append n [w]).trans hr'⟩

/-- The sections of the settings and their roots. -/
theorem mem_section (htraffic : t.trafficPolicy = none) (h : p ∈ t.sets) :
    (∃ rest, p = "system" :: rest ∨ p = "service" :: "monitoring" :: rest ∨ (p = "vrf" :: rest ∧
      ((∃ v ∈ t.vrfs, p ∈ t.vrfSets v) ∨ (∃ r ∈ t.routes, p ∈ routeSets r) ∨ p ∈ t.bgpSets))) ∨
    ((∃ rest, p = "interfaces" :: rest) ∧ p ∈ t.interfaceSets) ∨
    ((∃ rest, p = "protocols" :: "static" :: rest) ∧ ∃ r ∈ t.globalRoutes, p ∈ routeSets r) ∨
    ((∃ rest, p = "protocols" :: "ospf" :: rest) ∧ p ∈ t.ospfSets) ∨
    ((∃ rest, p = "protocols" :: "bgp" :: rest) ∧ p ∈ t.bgpSets) ∨
    ((∃ rest, p = "protocols" :: "mpls" :: rest) ∧ p ∈ t.mplsSets) ∨
    ((∃ rest, p = "service" :: "dhcp-server" :: rest) ∧ ∃ pool ∈ t.dhcpPools, p ∈ dhcpSets pool) ∨
    ((∃ rest, p = "nat" :: rest) ∧ ∃ r ∈ t.natRules, p ∈ natSets r) ∨
    ((∃ rest, p = "service" :: "ssh" :: rest) ∧
      ∃ ssh ∈ t.services.ssh, p = ["service", "ssh", "port", toString (ssh.port.getD 22)]) := by
  rcases mem_sets.mp h with
    hp | hp | ⟨v, hv, hp⟩ | ⟨r, hr, hp⟩ | hp | hp | hp | hp | ⟨policy, hpolicy, -⟩
  · left
    unfold Vars.systemSets at hp
    simp only [List.mem_cons, List.not_mem_nil, or_false] at hp
    rcases hp with rfl | rfl | rfl | rfl | rfl | rfl | rfl | rfl | rfl <;> simp
  · exact .inr (.inl ⟨interfaceSets_root hp, hp⟩)
  · obtain ⟨rest, hrest⟩ := vrf_root (vrfSets_below hp)
    exact .inl ⟨rest, .inr (.inr ⟨hrest, .inl ⟨v, hv, hp⟩⟩)⟩
  · rcases routeSets_root hp with ⟨rest, hrest⟩ | ⟨hvrf, hroot⟩
    · exact .inl ⟨rest, .inr (.inr ⟨hrest, .inr (.inl ⟨r, hr, hp⟩)⟩)⟩
    · exact .inr (.inr (.inl ⟨hroot, r, mem_globalRoutes.mpr ⟨hr, hvrf⟩, hp⟩))
  · refine .inr (.inr (.inr (.inl ⟨?_, hp⟩)))
    obtain ⟨o, -, hp⟩ := mem_ospfSets.mp hp
    rcases hp with rfl | ⟨i, -, hp⟩ | ⟨name, -, rfl⟩
    · exact ⟨_, rfl⟩
    · rcases mem_ospfInterfaceSets.mp hp with ⟨-, rfl⟩ | ⟨-, rfl | rfl⟩ <;> exact ⟨_, rfl⟩
    · exact ⟨_, rfl⟩
  · rcases bgpSets_root hp with hroot | ⟨rest, hrest⟩
    · exact .inr (.inr (.inr (.inr (.inl ⟨hroot, hp⟩))))
    · exact .inl ⟨rest, .inr (.inr ⟨hrest, .inr (.inr hp)⟩)⟩
  · refine .inr (.inr (.inr (.inr (.inr (.inl ⟨?_, hp⟩)))))
    obtain ⟨-, hp⟩ := mem_mplsSets.mp hp
    rcases hp with ⟨i, -, rfl⟩ | rfl | rfl | ⟨i, -, rfl⟩ <;> exact ⟨_, rfl⟩
  · rcases mem_serviceSets.mp hp with ⟨pool, hpool, hp⟩ | ⟨r, hr, hp⟩ | ⟨ssh, hssh, rfl⟩
    · refine .inr (.inr (.inr (.inr (.inr (.inr (.inl ⟨?_, pool, hpool, hp⟩))))))
      rcases mem_dhcpSets.mp hp with
        rfl | rfl | ⟨dns, -, rfl⟩ | ⟨r, -, rfl | rfl⟩ | ⟨m, -, rfl | rfl⟩ <;> exact ⟨_, rfl⟩
    · refine .inr (.inr (.inr (.inr (.inr (.inr (.inr (.inl ⟨?_, r, hr, hp⟩)))))))
      rcases mem_natSets.mp hp with rfl | ⟨source, -, rfl⟩ | ⟨target, -, rfl⟩ <;> exact ⟨_, rfl⟩
    · exact .inr (.inr (.inr (.inr (.inr (.inr (.inr (.inr ⟨⟨_, rfl⟩, ssh, hssh, rfl⟩)))))))
  · rw [htraffic] at hpolicy
    cases hpolicy

theorem interface_of_root (htraffic : t.trafficPolicy = none) (h : "interfaces" :: p ∈ t.sets) :
    "interfaces" :: p ∈ t.interfaceSets := by
  simpa using mem_section htraffic h

theorem static_of_root (htraffic : t.trafficPolicy = none)
    (h : "protocols" :: "static" :: p ∈ t.sets) :
    ∃ r ∈ t.globalRoutes, "protocols" :: "static" :: p ∈ routeSets r := by
  simpa using mem_section htraffic h

theorem ospf_of_root (htraffic : t.trafficPolicy = none) (h : "protocols" :: "ospf" :: p ∈ t.sets) :
    "protocols" :: "ospf" :: p ∈ t.ospfSets := by
  simpa using mem_section htraffic h

theorem bgp_of_root (htraffic : t.trafficPolicy = none) (h : "protocols" :: "bgp" :: p ∈ t.sets) :
    "protocols" :: "bgp" :: p ∈ t.bgpSets := by
  simpa using mem_section htraffic h

theorem mpls_of_root (htraffic : t.trafficPolicy = none) (h : "protocols" :: "mpls" :: p ∈ t.sets) :
    "protocols" :: "mpls" :: p ∈ t.mplsSets := by
  simpa using mem_section htraffic h

theorem dhcp_of_root (htraffic : t.trafficPolicy = none)
    (h : "service" :: "dhcp-server" :: p ∈ t.sets) :
    ∃ pool ∈ t.dhcpPools, "service" :: "dhcp-server" :: p ∈ dhcpSets pool := by
  simpa using mem_section htraffic h

theorem nat_of_root (htraffic : t.trafficPolicy = none) (h : "nat" :: p ∈ t.sets) :
    ∃ r ∈ t.natRules, "nat" :: p ∈ natSets r := by
  simpa using mem_section htraffic h

theorem ssh_of_root (htraffic : t.trafficPolicy = none) (h : "service" :: "ssh" :: p ∈ t.sets) :
    ∃ ssh ∈ t.services.ssh,
      "service" :: "ssh" :: p = ["service", "ssh", "port", toString (ssh.port.getD 22)] := by
  simpa using mem_section htraffic h

/-! ### Interfaces -/

/-- A setting of an interface determines the interface. -/
theorem node_below {i j : Interface} {leaf leaf' : Path} (h : i.node ++ w :: leaf <+: j.node ++ leaf')
    (hw : w ≠ "vif") (hleaf : "vif" ∉ leaf'.head?) :
    (j.name = i.name ∧ j.vlan = i.vlan) ∧ w :: leaf <+: leaf' := by
  unfold Interface.node at h
  cases hi : i.vlan with
  | none =>
    cases hj : j.vlan with
    | none =>
      simp only [hi, hj, List.cons_append, List.nil_append, List.cons_prefix_cons, true_and] at h
      exact ⟨⟨h.1.symm, rfl⟩, h.2⟩
    | some vlan' =>
      simp only [hi, hj, List.cons_append, List.nil_append, List.cons_prefix_cons, true_and] at h
      exact absurd h.2.1 hw
  | some vlan =>
    cases hj : j.vlan with
    | none =>
      simp only [hi, hj, List.cons_append, List.nil_append, List.cons_prefix_cons, true_and] at h
      obtain ⟨rest, rfl, -⟩ := List.cons_prefix_iff.mp h.2
      exact absurd rfl hleaf
    | some vlan' =>
      simp only [hi, hj, List.cons_append, List.nil_append, List.cons_prefix_cons, true_and,
        toString_inj] at h
      exact ⟨⟨h.1.symm, h.2.1 ▸ rfl⟩, h.2.2⟩

/-- What is set below the node of an interface, apart from its description and MTU, is set for
that interface. -/
theorem ethernet_of_below (htraffic : t.trafficPolicy = none) {i : Interface} {leaf : Path}
    (h : p ∈ t.sets) (hbelow : i.node ++ w :: leaf <+: p) (hw : w ≠ "vif")
    (hdescription : w ≠ "description") (hmtu : w ≠ "mtu") :
    ∃ j ∈ t.ethernets, (j.name = i.name ∧ j.vlan = i.vlan) ∧ p ∈ ethernetSets j ∧
      ∃ leaf', p = j.node ++ leaf' ∧ w :: leaf <+: leaf' := by
  obtain ⟨rest, hrest⟩ := node_root i
  obtain ⟨rest', rfl, -⟩ := List.cons_prefix_iff.mp
    (show "interfaces" :: (rest ++ w :: leaf) <+: p by rwa [← List.cons_append, ← hrest])
  have hp := interface_of_root htraffic h
  have hethernet {j : Interface} (hj : j ∈ t.ethernets)
      (hset : "interfaces" :: rest' ∈ ethernetSets j) :
      ∃ j ∈ t.ethernets, (j.name = i.name ∧ j.vlan = i.vlan) ∧ "interfaces" :: rest' ∈ ethernetSets j ∧
        ∃ leaf', "interfaces" :: rest' = j.node ++ leaf' ∧ w :: leaf <+: leaf' := by
    obtain ⟨leaf', hleaf', hvif⟩ := ethernetSets_root hset
    rw [hleaf'] at hbelow
    obtain ⟨hsame, hle⟩ := node_below hbelow hw hvif
    exact ⟨j, hj, hsame, hset, leaf', hleaf', hle⟩
  unfold Vars.interfaceSets at hp
  simp only [List.mem_append, List.mem_flatMap] at hp
  rcases hp with ((⟨parent, -, hp⟩ | ⟨j, hj, hp⟩) | ⟨j, hj, hp⟩) | ⟨j, -, hp⟩
  · -- a trunk has a description and an MTU only
    exfalso
    unfold Interface.node at hbelow
    rcases List.mem_pair.mp hp with hp | hp
    · rw [hp] at hbelow
      cases hi : i.vlan <;> simp_all [List.cons_prefix_cons]
    · rw [hp] at hbelow
      cases hi : i.vlan <;> simp_all [List.cons_prefix_cons]
  · exact hethernet (mem_ethernets.mpr (.inl hj)) hp
  · exact hethernet (mem_ethernets.mpr (.inr hj)) hp
  · exfalso
    unfold Interface.node at hbelow
    rcases List.mem_pair.mp hp with hp | hp
    · rw [hp] at hbelow
      cases hi : i.vlan <;> simp_all [List.cons_prefix_cons]
    · rw [hp] at hbelow
      cases hi : i.vlan <;> simp_all [List.cons_prefix_cons]

/-- Only the `vrf` of an interface is deleted. -/
theorem not_deleted_ethernet {i : Interface} {leaf : Path} (hw : w ≠ "vif") (hvrf : w ≠ "vrf") :
    ¬∃ d ∈ t.deletes, d <+: i.node ++ w :: leaf := by
  rw [deleted_iff]
  rintro (⟨j, -, -, h⟩ | h | ⟨-, h⟩)
  · unfold vrfNode at h
    have h' := @node_below "vrf" j i [] (w :: leaf) h (by decide)
      (by simpa using hw)
    simp_all [List.cons_prefix_cons]
  · obtain ⟨rest, hrest⟩ := node_root i
    simp [hrest, List.cons_prefix_cons] at h
  · obtain ⟨rest, hrest⟩ := node_root i
    simp [hrest, List.cons_prefix_cons] at h

theorem addresses_of_handles (htraffic : t.trafficPolicy = none) (h : t.HandlesAll s)
    {i : Interface} (hi : i ∈ s.ethernets) :
    ∃ j ∈ t.ethernets, (j.name = i.name ∧ j.vlan = i.vlan) ∧ j.address = i.address := by
  have hset : i.node ++ ["address", i.address] ∈ s.sets :=
    ethernetSets_subset hi (mem_ethernetSets.mpr (.inr (.inl rfl)))
  have hmulti : singleValued (i.node ++ ["address", i.address]).dropLast = false := by
    unfold Interface.node
    cases i.vlan with
    | none => rfl
    | some vlan => rfl
  obtain ⟨r, hr, hreach⟩ := reach h hset hmulti (not_deleted_ethernet (by decide) (by decide))
  obtain ⟨j, hj, hsame, hset', leaf, rfl, hleaf⟩ :=
    ethernet_of_below htraffic hr hreach (by decide) (by decide) (by decide)
  refine ⟨j, hj, hsame, ?_⟩
  rcases mem_ethernetSets.mp hset' with h | h | h | h | ⟨vrf, -, h⟩ | ⟨-, h⟩ <;>
    obtain rfl := List.append_cancel_left h <;> simp_all [List.cons_prefix_cons]

theorem disabled_of_handles (htraffic : t.trafficPolicy = none) (h : t.HandlesAll s)
    {i : Interface} (hi : i ∈ s.ethernets) (hdisabled : i.Disabled) :
    ∃ j ∈ t.ethernets, (j.name = i.name ∧ j.vlan = i.vlan) ∧ j.Disabled := by
  have hset : i.node ++ ["disable"] ∈ s.sets :=
    ethernetSets_subset hi (mem_ethernetSets.mpr (by tauto))
  have hmulti : singleValued (i.node ++ ["disable"]).dropLast = false := by
    unfold Interface.node
    cases i.vlan with
    | none => rfl
    | some vlan => rfl
  obtain ⟨r, hr, hreach⟩ := reach h hset hmulti (not_deleted_ethernet (by decide) (by decide))
  obtain ⟨j, hj, hsame, hset', leaf, rfl, hleaf⟩ :=
    ethernet_of_below htraffic hr hreach (by decide) (by decide) (by decide)
  refine ⟨j, hj, hsame, ?_⟩
  rcases mem_ethernetSets.mp hset' with h | h | h | h | ⟨vrf, -, h⟩ | ⟨hdisabled', h⟩
  all_goals obtain rfl := List.append_cancel_left h
  all_goals simp_all [List.cons_prefix_cons]

/-- Outside of VRFs, BGP and the interfaces nothing is deleted. -/
theorem not_deleted_of_root (h : ["interfaces"] ≠ p.take 1) (h' : ["vrf"] ≠ p.take 1)
    (hbgp : ["protocols", "bgp"] ≠ p.take 2) : ¬∃ d ∈ t.deletes, d <+: p := by
  rw [deleted_iff]
  rintro (⟨i, -, -, hd⟩ | hd | ⟨-, hd⟩)
  · obtain ⟨rest, hrest⟩ := node_root i
    obtain ⟨l, rfl⟩ := hd
    exact h (by simp [vrfNode, hrest])
  · obtain ⟨l, rfl⟩ := hd
    exact h' rfl
  · obtain ⟨l, rfl⟩ := hd
    exact hbgp rfl

theorem loopbacks_of_handles (htraffic : t.trafficPolicy = none) (h : t.HandlesAll s)
    {i : Interface} (hi : i ∈ s.loopbacks) : ∃ j ∈ t.loopbacks, j.address = i.address := by
  have hset : ["interfaces", "loopback", "lo", "address", i.address] ∈ s.sets :=
    loopbackSets_subset hi (by simp [loopbackSets])
  obtain ⟨r, hr, hreach⟩ := reach h hset rfl (by
    rw [deleted_iff]
    rintro (⟨j, -, -, hd⟩ | hd | ⟨-, hd⟩)
    · unfold vrfNode Interface.node at hd
      cases hj : j.vlan <;> simp_all [List.cons_prefix_cons]
    · simp [List.cons_prefix_cons] at hd
    · simp [List.cons_prefix_cons] at hd)
  obtain ⟨rest, rfl, hreach⟩ := List.cons_prefix_iff.mp hreach
  have hp := interface_of_root htraffic hr
  unfold Vars.interfaceSets at hp
  simp only [List.mem_append, List.mem_flatMap] at hp
  have hnode (j : Interface) (hp : "interfaces" :: rest ∈ ethernetSets j) : False := by
    obtain ⟨leaf, hleaf, -⟩ := ethernetSets_root hp
    unfold Interface.node at hleaf
    cases hj : j.vlan <;> simp_all [List.cons_prefix_cons]
  rcases hp with ((⟨parent, -, hp⟩ | ⟨j, -, hp⟩) | ⟨j, -, hp⟩) | ⟨j, hj, hp⟩
  · rcases List.mem_pair.mp hp with hp | hp <;> simp_all [List.cons_prefix_cons]
  · exact (hnode j hp).elim
  · exact (hnode j hp).elim
  · refine ⟨j, hj, ?_⟩
    rcases List.mem_pair.mp hp with hp | hp <;> simp_all [List.cons_prefix_cons]

/-! ### Static routes and OSPF -/

theorem via_cases {r : Route} {via : Path} (h : r.via = some via) :
    ∃ target, via = ["next-hop", target] ∨ via = ["interface", target] := by
  unfold Route.via at h
  cases hhop : r.nextHop with
  | some hop =>
    rw [hhop] at h
    exact ⟨hop, .inl (Option.some.inj h).symm⟩
  | none =>
    rw [hhop] at h
    obtain ⟨i, -, rfl⟩ := Option.map_eq_some_iff.mp h
    exact ⟨i, .inr rfl⟩

/-- What is set below the node of a route is set for that route. -/
theorem route_of_below (htraffic : t.trafficPolicy = none) {destination : String} {via leaf : Path}
    {r₀ : Route} (hvia : r₀.via = some via) (h : p ∈ t.sets)
    (hbelow : globalNode destination via ++ leaf <+: p) :
    ∃ r ∈ t.globalRoutes, (r.destination = destination ∧ r.via = some via) ∧
      (leaf ≠ [] → r.distance.isSome) := by
  obtain ⟨rest, rfl, hrest⟩ := List.cons_prefix_iff.mp hbelow
  obtain ⟨rest, rfl, -⟩ := List.cons_prefix_iff.mp hrest
  obtain ⟨r, hr, hset⟩ := static_of_root htraffic h
  refine ⟨r, hr, ?_⟩
  have hvrf := (mem_globalRoutes.mp hr).2
  cases hvia' : r.via with
  | none =>
    unfold routeSets at hset
    rw [hvia'] at hset
    cases hset
  | some via' =>
    rw [routeSets_global hvrf hvia'] at hset
    rw [List.mem_singleton.mp hset] at hbelow
    obtain ⟨x, rfl | rfl⟩ := via_cases hvia <;> obtain ⟨y, rfl | rfl⟩ := via_cases hvia' <;>
      cases hd : r.distance <;> simp_all [globalNode, List.cons_prefix_cons]

theorem routes_of_handles (htraffic : t.trafficPolicy = none) (h : t.HandlesAll s) {r : Route}
    (hr : r ∈ s.globalRoutes) (hvia : r.via.isSome) : ∃ r' ∈ t.globalRoutes,
      (r'.destination = r.destination ∧ r'.via = r.via) ∧
        (r.distance.isSome → r'.distance.isSome) := by
  obtain ⟨via, hvia⟩ := Option.isSome_iff_exists.mp hvia
  obtain ⟨hr, hvrf⟩ := mem_globalRoutes.mp hr
  have hset : _ ∈ s.sets := route_subset hr (routeSets_global hvrf hvia ▸ List.mem_singleton_self _)
  rw [hvia]
  cases hd : r.distance with
  | none =>
    rw [hd] at hset
    have hmulti : singleValued (globalNode r.destination via ++ []).dropLast = false := by
      obtain ⟨x, rfl | rfl⟩ := via_cases hvia <;> rfl
    obtain ⟨q, hq, hreach⟩ := reach h hset hmulti
      (not_deleted_of_root (by simp [globalNode]) (by simp [globalNode]) (by simp [globalNode]))
    obtain ⟨r', hr', hsame, -⟩ := route_of_below htraffic hvia hq hreach
    exact ⟨r', hr', hsame, nofun⟩
  | some d =>
    rw [hd] at hset
    dsimp only at hset
    rw [List.append_cons] at hset
    obtain ⟨q, hq, hreach⟩ := reach_node h hset fun w =>
      not_deleted_of_root (by simp [globalNode]) (by simp [globalNode]) (by simp [globalNode])
    obtain ⟨r', hr', hsame, hdistance⟩ := route_of_below htraffic hvia hq hreach
    exact ⟨r', hr', hsame, fun _ => hdistance (by simp)⟩

theorem ospf_of_handles (htraffic : t.trafficPolicy = none) (h : t.HandlesAll s)
    (hospf : s.protocols.ospf.isSome) : t.protocols.ospf.isSome ∧
      (∀ i ∈ s.ospfInterfaces, ∃ j ∈ t.ospfInterfaces, j.port = i.port) ∧
      ∀ name ∈ s.passiveInterfaces, name ∈ t.passiveInterfaces := by
  obtain ⟨o, ho⟩ := Option.isSome_iff_exists.mp hospf
  refine ⟨?_, fun i hi => ?_, fun name hname => ?_⟩
  · obtain ⟨r, hr, hreach⟩ := reach_node (n := ["protocols", "ospf", "parameters", "router-id"]) h
      (ospf_subset (mem_ospfSets.mpr ⟨o, ho, .inl rfl⟩))
      fun w => not_deleted_of_root (by simp) (by simp) (by simp)
    obtain ⟨rest, rfl, hrest⟩ := List.cons_prefix_iff.mp hreach
    obtain ⟨rest, rfl, -⟩ := List.cons_prefix_iff.mp hrest
    obtain ⟨o', ho', -⟩ := mem_ospfSets.mp (ospf_of_root htraffic hr)
    exact ho' ▸ rfl
  · obtain ⟨hi, hi'⟩ := mem_ospfInterfaces.mp hi
    obtain ⟨r, hr, hreach⟩ := reach_node (n := ["protocols", "ospf", "interface", i.port, "network"])
      (v := "point-to-point") h
      (ospf_subset (mem_ospfSets.mpr ⟨o, ho, .inr (.inl ⟨i, hi,
        mem_ospfInterfaceSets.mpr (.inr ⟨hi', .inr rfl⟩)⟩)⟩))
      fun w => not_deleted_of_root (by simp) (by simp) (by simp)
    obtain ⟨rest, rfl, hrest⟩ := List.cons_prefix_iff.mp hreach
    obtain ⟨rest, rfl, -⟩ := List.cons_prefix_iff.mp hrest
    obtain ⟨o', -, hr⟩ := mem_ospfSets.mp (ospf_of_root htraffic hr)
    rcases hr with hr | ⟨j, hj, hr⟩ | ⟨name, -, hr⟩
    · simp_all [List.cons_prefix_cons]
    · rcases mem_ospfInterfaceSets.mp hr with ⟨-, hr⟩ | ⟨hj', hr | hr⟩
      · simp_all [List.cons_prefix_cons]
      · simp_all [List.cons_prefix_cons]
      · refine ⟨j, mem_ospfInterfaces.mpr ⟨hj, hj'⟩, ?_⟩
        rw [hr] at hreach
        simp_all [List.cons_prefix_cons]
    · simp_all [List.cons_prefix_cons]
  · obtain ⟨r, hr, hreach⟩ := reach h
      (ospf_subset (mem_ospfSets.mpr ⟨o, ho, .inr (.inr ⟨name, hname, rfl⟩)⟩)) rfl
      (not_deleted_of_root (by simp) (by simp) (by simp))
    obtain ⟨rest, rfl, hrest⟩ := List.cons_prefix_iff.mp hreach
    obtain ⟨rest, rfl, -⟩ := List.cons_prefix_iff.mp hrest
    obtain ⟨o', -, hr⟩ := mem_ospfSets.mp (ospf_of_root htraffic hr)
    rcases hr with hr | ⟨j, hj, hr⟩ | ⟨name', hname', hr⟩
    · simp_all [List.cons_prefix_cons]
    · rcases mem_ospfInterfaceSets.mp hr with ⟨-, hr⟩ | ⟨-, hr | hr⟩ <;>
        simp_all [List.cons_prefix_cons]
    · rw [hr] at hreach
      simp_all [List.cons_prefix_cons]

/-! ### BGP -/

/-- Where a neighbour shows what it has. -/
def Trait.leaf : Trait → Path
  | description => ["description"]
  | updateSource => ["update-source"]
  | client => ["address-family", "ipv4-unicast", "route-reflector-client"]
  | vpn => ["address-family", "ipv4-vpn"]
  | vpnClient => ["address-family", "ipv4-vpn", "route-reflector-client"]
  | nexthopSelf => ["address-family", "ipv4-vpn", "nexthop-self"]

theorem not_deleted_bgp (hclear : ¬t.ClearsBgp) : ¬∃ d ∈ t.deletes, d <+: "protocols" :: p := by
  rw [deleted_iff]
  rintro (⟨i, -, -, hd⟩ | hd | ⟨hclear', -⟩)
  · obtain ⟨rest, hrest⟩ := node_root i
    simp [vrfNode, hrest, List.cons_prefix_cons] at hd
  · simp [List.cons_prefix_cons] at hd
  · exact hclear hclear'

/-- What is set below the node of a neighbour is set for that neighbour. -/
theorem neighbor_of_below (htraffic : t.trafficPolicy = none) {n : Neighbor} {leaf : Path}
    (h : p ∈ t.sets) (hbelow : neighborNode n ++ leaf <+: p) :
    ∃ n' ∈ t.neighbors, n'.peer = n.peer ∧
      (p ∈ t.neighborSets n' ∨ t.vpnv4 ∧ p = neighborNode n' ++ ["address-family", "ipv4-vpn"]) := by
  obtain ⟨rest, rfl, hrest⟩ := List.cons_prefix_iff.mp hbelow
  obtain ⟨rest, rfl, -⟩ := List.cons_prefix_iff.mp hrest
  obtain ⟨-, hp⟩ := mem_bgpSets.mp (bgp_of_root htraffic h)
  rcases hp with hp | hp | ⟨-, hp⟩ | ⟨n', hn', hp⟩ | hp | ⟨v, -, hp⟩ | hp | ⟨-, hp⟩
  · simp_all [neighborNode, List.cons_prefix_cons]
  · simp_all [neighborNode, List.cons_prefix_cons]
  · simp_all [neighborNode, List.cons_prefix_cons]
  · refine ⟨n', hn', ?_, .inl hp⟩
    rcases mem_neighborSets.mp hp with
      hp | ⟨d, -, hp⟩ | ⟨-, hp⟩ | hp | ⟨-, hp⟩ | ⟨-, hp | ⟨-, -, hp⟩ | ⟨-, hp⟩⟩ <;>
    simp_all [neighborNode, List.cons_prefix_cons]
  · obtain ⟨hfamily, n', hn', hp⟩ := mem_familySets.mp hp
    refine ⟨n', hn', ?_, .inr ⟨hfamily, hp⟩⟩
    simp_all [neighborNode, List.cons_prefix_cons]
  · obtain ⟨rest, hrest⟩ := vrf_root (bgpVrfSets_below hp)
    simp at hrest
  · obtain ⟨rest, hrest⟩ := addedSets_root hp
    simp at hrest
  · simp_all [neighborNode, List.cons_prefix_cons]

/-- A neighbour has what it shows. -/
theorem trait_of_below (htraffic : t.trafficPolicy = none) {n : Neighbor} {trait : Trait}
    (h : p ∈ t.sets) (hbelow : neighborNode n ++ trait.leaf <+: p) :
    ∃ n' ∈ t.neighbors, n'.peer = n.peer ∧ trait.Holds t n' := by
  obtain ⟨n', hn', hpeer, hp⟩ := neighbor_of_below htraffic h hbelow
  refine ⟨n', hn', hpeer, ?_⟩
  rcases hp with hp | ⟨hfamily, rfl⟩
  · rcases mem_neighborSets.mp hp with
      rfl | ⟨d, hd, rfl⟩ | ⟨hi, rfl⟩ | rfl | ⟨hc, rfl⟩ | ⟨hi, rfl | ⟨hr, hc, rfl⟩ | ⟨hr, rfl⟩⟩ <;>
    cases trait <;> simp_all [Trait.leaf, Trait.Holds, neighborNode, List.cons_prefix_cons]
  · cases trait <;> simp_all [Trait.leaf, Trait.Holds, neighborNode, List.cons_prefix_cons]

/-- What a neighbour had is set again where it shows. -/
theorem trait_reached (h : t.HandlesAll s) (hclear : ¬t.ClearsBgp) (hbgp : s.protocols.bgp ≠ none)
    {n : Neighbor} (hn : n ∈ s.neighbors) {trait : Trait} (htrait : trait.Holds s n) :
    ∃ r ∈ t.sets, neighborNode n ++ trait.leaf <+: r := by
  cases trait with
  | description =>
    obtain ⟨d, hd⟩ := Option.isSome_iff_exists.mp htrait
    exact reach_node (n := neighborNode n ++ ["description"]) (v := d) h
      (neighbor_subset hbgp hn (mem_neighborSets.mpr (.inr (.inl ⟨d, hd, rfl⟩))))
      fun w => not_deleted_bgp hclear
  | updateSource =>
    exact reach_node (n := neighborNode n ++ ["update-source"]) (v := "lo") h
      (neighbor_subset hbgp hn (mem_neighborSets.mpr (.inr (.inr (.inl ⟨htrait, rfl⟩)))))
      fun w => not_deleted_bgp hclear
  | client =>
    exact reach h (neighbor_subset hbgp hn
      (mem_neighborSets.mpr (.inr (.inr (.inr (.inr (.inl ⟨htrait, rfl⟩))))))) rfl
      (not_deleted_bgp hclear)
  | vpn => exact reach h (vpn_subset hbgp hn htrait) rfl (not_deleted_bgp hclear)
  | vpnClient =>
    exact reach h (neighbor_subset hbgp hn (mem_neighborSets.mpr
      (.inr (.inr (.inr (.inr (.inr ⟨htrait.1, .inr (.inl ⟨htrait.2.1, htrait.2.2, rfl⟩)⟩))))))) rfl
      (not_deleted_bgp hclear)
  | nexthopSelf =>
    exact reach h (neighbor_subset hbgp hn (mem_neighborSets.mpr
      (.inr (.inr (.inr (.inr (.inr ⟨htrait.1, .inr (.inr ⟨htrait.2, rfl⟩)⟩))))))) rfl
      (not_deleted_bgp hclear)

theorem bgp_of_handles (htraffic : t.trafficPolicy = none) (h : t.HandlesAll s)
    (hbgp : s.protocols.bgp.isSome) (hclear : ¬t.ClearsBgp) :
    (s.routeReflector → t.routeReflector) ∧ ∀ n ∈ s.neighbors,
      (∃ n' ∈ t.neighbors, n'.peer = n.peer) ∧
      ∀ trait : Trait, trait.Holds s n → ∃ n' ∈ t.neighbors, n'.peer = n.peer ∧ trait.Holds t n' := by
  have hbgp' := Option.isSome_iff_ne_none.mp hbgp
  refine ⟨fun hr => ?_, fun n hn => ⟨?_, fun trait htrait => ?_⟩⟩
  · obtain ⟨r, hr, hreach⟩ := reach_node (n := ["protocols", "bgp", "parameters", "cluster-id"]) h
      (bgp_subset (mem_bgpSets.mpr ⟨hbgp', .inr (.inr (.inl ⟨hr, rfl⟩))⟩))
      fun w => not_deleted_bgp hclear
    obtain ⟨rest, rfl, hrest⟩ := List.cons_prefix_iff.mp hreach
    obtain ⟨rest, rfl, -⟩ := List.cons_prefix_iff.mp hrest
    obtain ⟨-, hp⟩ := mem_bgpSets.mp (bgp_of_root htraffic hr)
    rcases hp with hp | hp | ⟨hr', -⟩ | ⟨n', -, hp⟩ | hp | ⟨v, -, hp⟩ | hp | ⟨-, hp⟩
    · simp_all [List.cons_prefix_cons]
    · simp_all [List.cons_prefix_cons]
    · exact hr'
    · rcases mem_neighborSets.mp hp with
        hp | ⟨d, -, hp⟩ | ⟨-, hp⟩ | hp | ⟨-, hp⟩ | ⟨-, hp | ⟨-, -, hp⟩ | ⟨-, hp⟩⟩ <;>
      simp_all [neighborNode, List.cons_prefix_cons]
    · obtain ⟨-, n', -, hp⟩ := mem_familySets.mp hp
      simp_all [neighborNode, List.cons_prefix_cons]
    · obtain ⟨rest, hrest⟩ := vrf_root (bgpVrfSets_below hp)
      simp at hrest
    · obtain ⟨rest, hrest⟩ := addedSets_root hp
      simp at hrest
    · simp_all [List.cons_prefix_cons]
  · obtain ⟨r, hr, hreach⟩ := reach h (neighbor_subset hbgp' hn
      (mem_neighborSets.mpr (.inr (.inr (.inr (.inl rfl)))))) rfl (not_deleted_bgp hclear)
    obtain ⟨n', hn', hpeer, -⟩ := neighbor_of_below htraffic hr hreach
    exact ⟨n', hn', hpeer⟩
  · obtain ⟨r, hr, hreach⟩ := trait_reached h hclear hbgp' hn htrait
    exact trait_of_below htraffic hr hreach

/-! ### MPLS and services -/

theorem mpls_of_handles (htraffic : t.trafficPolicy = none) (h : t.HandlesAll s)
    (henabled : s.mplsEnabled) : t.mplsEnabled ∧
      ∀ i ∈ s.ldpInterfaces, ∃ j ∈ t.ldpInterfaces, t.ldpPort j = s.ldpPort i := by
  have hroot {r rest : Path} (hr : r ∈ t.sets) (hreach : "protocols" :: "mpls" :: rest <+: r) :
      r ∈ t.mplsSets := by
    obtain ⟨_, rfl, hrest⟩ := List.cons_prefix_iff.mp hreach
    obtain ⟨_, rfl, -⟩ := List.cons_prefix_iff.mp hrest
    exact mpls_of_root htraffic hr
  refine ⟨?_, fun i hi => ?_⟩
  · obtain ⟨r, hr, hreach⟩ := reach_node (n := ["protocols", "mpls", "ldp", "router-id"]) h
      (mpls_subset (mem_mplsSets.mpr ⟨henabled, .inr (.inl rfl)⟩))
      fun w => not_deleted_of_root (by simp) (by simp) (by simp)
    exact (mem_mplsSets.mp (hroot hr hreach)).1
  · obtain ⟨r, hr, hreach⟩ := reach h
      (mpls_subset (mem_mplsSets.mpr ⟨henabled, .inl ⟨i, hi, rfl⟩⟩)) rfl
      (not_deleted_of_root (by simp) (by simp) (by simp))
    obtain ⟨-, hp⟩ := mem_mplsSets.mp (hroot hr hreach)
    rcases hp with ⟨j, hj, rfl⟩ | rfl | rfl | ⟨j, hj, rfl⟩
    · exact ⟨j, hj, by simpa [List.cons_prefix_cons, eq_comm] using hreach⟩
    all_goals simp [List.cons_prefix_cons] at hreach

/-- What is set below the node of a pool is set for a pool of that network. -/
theorem dhcp_of_below (htraffic : t.trafficPolicy = none) {pool : DhcpPool} {leaf : Path}
    (h : p ∈ t.sets) (hbelow : pool.node ++ leaf <+: p) :
    ∃ q ∈ t.dhcpPools, q.network = pool.network ∧ p ∈ dhcpSets q := by
  obtain ⟨rest, rfl, hrest⟩ := List.cons_prefix_iff.mp hbelow
  obtain ⟨rest, rfl, -⟩ := List.cons_prefix_iff.mp hrest
  obtain ⟨q, hq, hp⟩ := dhcp_of_root htraffic h
  refine ⟨q, hq, ?_, hp⟩
  rcases mem_dhcpSets.mp hp with
    hp | hp | ⟨dns, -, hp⟩ | ⟨r, -, hp | hp⟩ | ⟨m, -, hp | hp⟩ <;>
  simp_all [DhcpPool.node, List.cons_prefix_cons]

theorem dhcp_of_handles (htraffic : t.trafficPolicy = none) (h : t.HandlesAll s) {pool : DhcpPool}
    (hpool : pool ∈ s.dhcpPools) : (∃ q ∈ t.dhcpPools, q.network = pool.network) ∧
      (∀ dns ∈ pool.dnsServers.getD [], ∃ q ∈ t.dhcpPools, q.network = pool.network ∧
        dns ∈ q.dnsServers.getD []) ∧
      (pool.range.isSome → ∃ q ∈ t.dhcpPools, q.network = pool.network ∧ q.range.isSome) ∧
      ∀ m ∈ pool.staticMappings.getD [], ∃ q ∈ t.dhcpPools, q.network = pool.network ∧
        ∃ m' ∈ q.staticMappings.getD [], m'.name = m.name := by
  have hset {q : Path} (hq : q ∈ dhcpSets pool) : q ∈ s.sets :=
    service_subset (mem_serviceSets.mpr (.inl ⟨pool, hpool, hq⟩))
  have hkept (leaf : Path) : ¬∃ d ∈ t.deletes, d <+: pool.node ++ leaf :=
    not_deleted_of_root (by simp [DhcpPool.node]) (by simp [DhcpPool.node]) (by simp [DhcpPool.node])
  refine ⟨?_, fun dns hdns => ?_, fun hrange => ?_, fun m hm => ?_⟩
  · obtain ⟨r, hr, hreach⟩ := reach_node (n := pool.node ++ ["lease"])
      (v := toString (pool.leaseTime.getD 86400)) h (hset (mem_dhcpSets.mpr (.inr (.inl rfl))))
      fun w => hkept ["lease", w]
    obtain ⟨q, hq, hnetwork, -⟩ := dhcp_of_below htraffic hr hreach
    exact ⟨q, hq, hnetwork⟩
  · obtain ⟨r, hr, hreach⟩ := reach h
      (hset (mem_dhcpSets.mpr (.inr (.inr (.inl ⟨dns, hdns, rfl⟩))))) rfl (hkept _)
    obtain ⟨q, hq, hnetwork, hp⟩ := dhcp_of_below htraffic hr hreach
    refine ⟨q, hq, hnetwork, ?_⟩
    rcases mem_dhcpSets.mp hp with
      rfl | rfl | ⟨dns', hdns', rfl⟩ | ⟨r, -, rfl | rfl⟩ | ⟨m, -, rfl | rfl⟩ <;>
    simp_all [DhcpPool.node, List.cons_prefix_cons]
  · obtain ⟨range, hrange⟩ := Option.isSome_iff_exists.mp hrange
    obtain ⟨r, hr, hreach⟩ := reach_node (n := pool.node ++ ["range", "0", "start"])
      (v := range.start) h
      (hset (mem_dhcpSets.mpr (.inr (.inr (.inr (.inl ⟨range, hrange, .inl rfl⟩))))))
      fun w => hkept ["range", "0", "start", w]
    obtain ⟨q, hq, hnetwork, hp⟩ := dhcp_of_below htraffic hr hreach
    refine ⟨q, hq, hnetwork, ?_⟩
    rcases mem_dhcpSets.mp hp with
      rfl | rfl | ⟨dns', hdns', rfl⟩ | ⟨r, hr, rfl | rfl⟩ | ⟨m, -, rfl | rfl⟩ <;>
    simp_all [DhcpPool.node, List.cons_prefix_cons]
  · obtain ⟨r, hr, hreach⟩ := reach_node (n := pool.node ++ ["static-mapping", m.name, "ip-address"])
      (v := m.ip) h
      (hset (mem_dhcpSets.mpr (.inr (.inr (.inr (.inr ⟨m, hm, .inl rfl⟩))))))
      fun w => hkept ["static-mapping", m.name, "ip-address", w]
    obtain ⟨q, hq, hnetwork, hp⟩ := dhcp_of_below htraffic hr hreach
    refine ⟨q, hq, hnetwork, ?_⟩
    rcases mem_dhcpSets.mp hp with
      rfl | rfl | ⟨dns', -, rfl⟩ | ⟨r, -, rfl | rfl⟩ | ⟨m', hm', rfl | rfl⟩
    all_goals simp [DhcpPool.node, List.cons_prefix_cons] at hreach
    · exact ⟨m', hm', hreach.2.2.symm⟩

/-- What is set below the node of a NAT rule is set for a rule of that number. -/
theorem nat_of_below (htraffic : t.trafficPolicy = none) {r : NatRule} {leaf : Path}
    (h : p ∈ t.sets) (hbelow : r.node ++ leaf <+: p) :
    ∃ r' ∈ t.natRules, r'.rule = r.rule ∧ p ∈ natSets r' := by
  obtain ⟨rest, rfl, -⟩ := List.cons_prefix_iff.mp hbelow
  obtain ⟨r', hr', hp⟩ := nat_of_root htraffic h
  refine ⟨r', hr', ?_, hp⟩
  rcases mem_natSets.mp hp with hp | ⟨source, -, hp⟩ | ⟨target, -, hp⟩ <;>
    simp_all [NatRule.node, List.cons_prefix_cons, repr_inj]

theorem nat_of_handles (htraffic : t.trafficPolicy = none) (h : t.HandlesAll s) {r : NatRule}
    (hr : r ∈ s.natRules) : (∃ r' ∈ t.natRules, r'.rule = r.rule) ∧
      (r.source.isSome → ∃ r' ∈ t.natRules, r'.rule = r.rule ∧ r'.source.isSome) ∧
      (r.target.isSome → ∃ r' ∈ t.natRules, r'.rule = r.rule ∧ r'.target.isSome) := by
  have hset {q : Path} (hq : q ∈ natSets r) : q ∈ s.sets :=
    service_subset (mem_serviceSets.mpr (.inr (.inl ⟨r, hr, hq⟩)))
  have hkept (leaf : Path) : ¬∃ d ∈ t.deletes, d <+: r.node ++ leaf :=
    not_deleted_of_root (by simp [NatRule.node]) (by simp [NatRule.node]) (by simp [NatRule.node])
  refine ⟨?_, fun hsource => ?_, fun htarget => ?_⟩
  · obtain ⟨q, hq, hreach⟩ := reach_node (n := r.node ++ ["outbound-interface"])
      (v := r.outboundInterface) h (hset (mem_natSets.mpr (.inl rfl))) fun w => hkept _
    obtain ⟨r', hr', hrule, -⟩ := nat_of_below htraffic hq hreach
    exact ⟨r', hr', hrule⟩
  · obtain ⟨source, hsource⟩ := Option.isSome_iff_exists.mp hsource
    obtain ⟨q, hq, hreach⟩ := reach_node (n := r.node ++ ["source", "address"]) (v := source) h
      (hset (mem_natSets.mpr (.inr (.inl ⟨source, hsource, rfl⟩)))) fun w => hkept _
    obtain ⟨r', hr', hrule, hp⟩ := nat_of_below htraffic hq hreach
    refine ⟨r', hr', hrule, ?_⟩
    rcases mem_natSets.mp hp with rfl | ⟨source', hs', rfl⟩ | ⟨target, -, rfl⟩ <;>
      simp_all [NatRule.node, List.cons_prefix_cons]
  · obtain ⟨target, htarget⟩ := Option.isSome_iff_exists.mp htarget
    obtain ⟨q, hq, hreach⟩ := reach_node (n := r.node ++ ["translation", "address"]) (v := target) h
      (hset (mem_natSets.mpr (.inr (.inr ⟨target, htarget, rfl⟩)))) fun w => hkept _
    obtain ⟨r', hr', hrule, hp⟩ := nat_of_below htraffic hq hreach
    refine ⟨r', hr', hrule, ?_⟩
    rcases mem_natSets.mp hp with rfl | ⟨source', -, rfl⟩ | ⟨target', ht', rfl⟩ <;>
      simp_all [NatRule.node, List.cons_prefix_cons]

theorem ssh_of_handles (htraffic : t.trafficPolicy = none) (h : t.HandlesAll s) {ssh : Ssh}
    (hssh : ssh ∈ s.services.ssh) : ∃ q ∈ t.services.ssh, q.port.getD 22 = ssh.port.getD 22 := by
  obtain ⟨r, hr, hreach⟩ := reach h
    (service_subset (mem_serviceSets.mpr (.inr (.inr ⟨ssh, hssh, rfl⟩)))) rfl
    (not_deleted_of_root (by simp) (by simp) (by simp))
  obtain ⟨rest, rfl, hrest⟩ := List.cons_prefix_iff.mp hreach
  obtain ⟨rest, rfl, -⟩ := List.cons_prefix_iff.mp hrest
  obtain ⟨q, hq, hp⟩ := ssh_of_root htraffic hr
  refine ⟨q, hq, ?_⟩
  rw [hp] at hreach
  simpa [List.cons_prefix_cons, repr_inj, eq_comm] using hreach

/-- What the update handles is not dropped. -/
theorem nothingDropped_of_handles (htraffic : t.trafficPolicy = none) (h : t.HandlesAll s) :
    NothingDropped s t where
  addresses _ hi := addresses_of_handles htraffic h hi
  disabled _ hi hdisabled := disabled_of_handles htraffic h hi hdisabled
  loopbacks _ hi := loopbacks_of_handles htraffic h hi
  routes _ hr hvia := routes_of_handles htraffic h hr hvia
  ospf hospf := ospf_of_handles htraffic h hospf
  bgp hbgp hclear := bgp_of_handles htraffic h hbgp hclear
  mpls henabled := mpls_of_handles htraffic h henabled
  dhcp _ hpool := dhcp_of_handles htraffic h hpool
  nat _ hr := nat_of_handles htraffic h hr
  ssh _ hssh := ssh_of_handles htraffic h hssh

/-! ## Updating and configuring afresh -/

theorem handlesAll_iff (hs : s.trafficPolicy = none) (ht : t.trafficPolicy = none) :
    t.HandlesAll s ↔ NothingDropped s t :=
  ⟨nothingDropped_of_handles ht,
    fun h _ hq => handles_of_nothingDropped hs h (mem_of_mem_run_sets hq)⟩

/-- A router with one interface. -/
def edgeRouter (address : String) (mtu : ℤ) : Spec where
  hostname := "pe1"
  routerId := "10.255.0.1"
  interfaces := some [{ name := "eth1", address, mtu := some mtu }]

end GnnSandbox.Vyos
