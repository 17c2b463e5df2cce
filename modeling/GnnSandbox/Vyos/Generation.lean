import GnnSandbox.Vyos.Topology
import Mathlib.Data.List.Forall2

/-!
# Generation without loss

The spec as the schema admits it. The schema requires of a router only its name, while
`generate_vyos_routers` reads the host name, the router id, the AS number of an enabled BGP and
the direction of a firewall binding without a default: where one is missing it raises `KeyError`.
Apart from that, a topology that `validate_network_topology` finds valid is generated entry by
entry, although the validators and the generator each fill a dictionary of their own.
-/

namespace GnnSandbox.Vyos

open Graph (Json)

/-! ## The spec by its schema -/

structure BgpEntry where
  enabled : Option Bool := none
  asNumber : Option ℕ := none
  routeReflector : Option Bool := none
  neighbors : Option (List Neighbor) := none
  vrfs : Option (List BgpVrf) := none
  addressFamilies : Option (List AddressFamily) := none
deriving DecidableEq

structure ProtocolsEntry where
  ospf : Option OspfDef := none
  bgp : Option BgpEntry := none
  mpls : Option MplsDef := none
  static : Option Static := none
deriving DecidableEq

structure FirewallBinding where
  policyName : String
  direction : Option String := none
deriving DecidableEq

structure RouterEntry where
  name : String
  hostname : Option String := none
  routerId : Option String := none
  interfaces : Option (List InterfaceDef) := none
  vrfs : Option (List Vrf) := none
  protocols : Option ProtocolsEntry := none
  services : Option Services := none
  trafficPolicy : Option Json := none
  qosPolicies : Option (List String) := none
  firewallPolicies : Option (List FirewallBinding) := none
deriving DecidableEq

structure TopologyEntry where
  networks : Option (List NetworkDef) := none
  routers : Option (List RouterEntry) := none
  qosPolicies : Option (List String) := none
  firewallPolicies : Option (List String) := none
deriving DecidableEq

/-! ## Validation -/

/-- A router as the validators read it: its name, its interfaces and the names of its policies. -/
def RouterEntry.validated (router : RouterEntry) : RouterDef where
  name := router.name
  hostname := ""
  routerId := ""
  interfaces := router.interfaces
  qosPolicies := router.qosPolicies
  firewallPolicies := router.firewallPolicies.map fun policies => policies.map (·.policyName)

/-- The spec as `validate_network_topology` reads it. -/
def TopologyEntry.validated (spec : TopologyEntry) : Topology where
  networks := spec.networks
  routers := spec.routers.map fun routers => routers.map RouterEntry.validated
  qosPolicies := spec.qosPolicies
  firewallPolicies := spec.firewallPolicies

/-! ## Generation -/

/-- `d[key]`, with the key of the `KeyError`. -/
def required {α : Type} (key : String) : Option α → Except String α
  | some value => .ok value
  | none => .error key

/-- The BGP of a router, of which a disabled one is not read. -/
def BgpEntry.read (bgp : BgpEntry) : Except String BgpDef := do
  let asNumber ← required "as_number" bgp.asNumber
  return {
    enabled := bgp.enabled
    asNumber
    routeReflector := bgp.routeReflector
    neighbors := bgp.neighbors
    vrfs := bgp.vrfs
    addressFamilies := bgp.addressFamilies }

def ProtocolsEntry.enabledBgp (protocols : ProtocolsEntry) : Option BgpEntry :=
  protocols.bgp.filter fun bgp => bgp.enabled.getD false

def ProtocolsEntry.read (protocols : ProtocolsEntry) : Except String ProtocolsDef := do
  let bgp ← protocols.enabledBgp.mapM BgpEntry.read
  return { ospf := protocols.ospf, bgp, mpls := protocols.mpls, static := protocols.static }

/-- A router, in the order in which the generator reads its fields. -/
def RouterEntry.read (router : RouterEntry) : Except String RouterDef := do
  let hostname ← required "hostname" router.hostname
  let routerId ← required "router_id" router.routerId
  let protocols ← (router.protocols.getD {}).read
  let _ ← (router.firewallPolicies.getD []).mapM fun policy =>
    required "direction" policy.direction
  return {
    name := router.name
    hostname
    routerId
    interfaces := router.interfaces
    vrfs := router.vrfs
    protocols := some protocols
    services := router.services
    trafficPolicy := router.trafficPolicy
    qosPolicies := router.qosPolicies
    firewallPolicies := router.firewallPolicies.map fun policies => policies.map (·.policyName) }

namespace TopologyEntry

variable (spec : TopologyEntry)

def networkList : List NetworkDef := spec.networks.getD []

def routerList : List RouterEntry := spec.routers.getD []

/-- `generate_vyos_routers`, each router with its name. -/
def generateVyosRouters : Except String (List (String × Spec)) :=
  spec.routerList.mapM fun router => do
    let read ← router.read
    return (read.name, generateVyosRouter spec.networkList read)

end TopologyEntry

/-! ## What the schema lets a router lack -/

/-- The fields that the generator reads without a default are there. -/
structure RouterEntry.Complete (router : RouterEntry) : Prop where
  hostname : router.hostname ≠ none
  routerId : router.routerId ≠ none
  asNumber : ∀ bgp ∈ (router.protocols.getD {}).enabledBgp, bgp.asNumber ≠ none
  directions : ∀ policy ∈ router.firewallPolicies.getD [], policy.direction ≠ none

def TopologyEntry.Complete (spec : TopologyEntry) : Prop :=
  ∀ router ∈ spec.routerList, router.Complete

theorem required_of_ne_none {α : Type} (key : String) {value : Option α} (h : value ≠ none) :
    ∃ a, required key value = .ok a := by
  obtain ⟨a, rfl⟩ := Option.ne_none_iff_exists'.1 h
  exact ⟨a, rfl⟩

/-- A traversal none of whose entries fails. -/
theorem mapM_ok {α β : Type} {f : α → Except String β} {r : α → β → Prop} {l : List α}
    (h : ∀ a ∈ l, ∃ b, f a = .ok b ∧ r a b) : ∃ bs, l.mapM f = .ok bs ∧ List.Forall₂ r l bs := by
  induction l with
  | nil => exact ⟨[], rfl, .nil⟩
  | cons a l ih =>
    obtain ⟨b, hb, hab⟩ := h a (List.mem_cons_self ..)
    obtain ⟨bs, hbs, hl⟩ := ih fun a' ha' => h a' (List.mem_cons_of_mem a ha')
    exact ⟨b :: bs, by rw [List.mapM_cons, hb, hbs]; rfl, .cons hab hl⟩

namespace RouterEntry

variable {router : RouterEntry}

theorem protocols_read (h : router.Complete) :
    ∃ protocols, (router.protocols.getD {}).read = .ok protocols := by
  unfold ProtocolsEntry.read
  cases hbgp : (router.protocols.getD {}).enabledBgp with
  | none => exact ⟨_, rfl⟩
  | some bgp =>
    obtain ⟨asNumber, has⟩ := Option.ne_none_iff_exists'.1 (h.asNumber bgp hbgp)
    simp only [Option.mapM_some, BgpEntry.read, has, required]
    exact ⟨_, rfl⟩

/-- A complete entry is read, with its interfaces. -/
theorem read_ok (h : router.Complete) :
    ∃ read, router.read = .ok read ∧ read.name = router.name ∧
      read.interfaces = router.interfaces := by
  obtain ⟨hostname, hhost⟩ := required_of_ne_none "hostname" h.hostname
  obtain ⟨routerId, hid⟩ := required_of_ne_none "router_id" h.routerId
  obtain ⟨protocols, hprotocols⟩ := protocols_read h
  obtain ⟨directions, hdirections, -⟩ := mapM_ok (r := fun _ _ => True)
    fun policy hpolicy => (required_of_ne_none "direction" (h.directions policy hpolicy)).imp
      fun _ hok => ⟨hok, trivial⟩
  unfold read
  rw [hhost, hid, hprotocols, hdirections]
  exact ⟨_, rfl, rfl, rfl⟩

end RouterEntry

/-! ## No interface is skipped -/

/-- The generated interface of an entry: its name, and an address of a connection of its network. -/
structure Carries (networks : List NetworkDef) (router : String) (i : InterfaceDef)
    (generated : Interface) : Prop where
  name : generated.name = i.name
  address : i.name ≠ "lo" → ∃ net ∈ networks, net.name = i.network ∧
    ∃ conn ∈ net.connections, conn.routerName = router ∧ conn.interface = i.name ∧
      generated.address = ipText conn.ipAddress ++ "/" ++ toString net.subnet.prefixlen ∧
      net.subnet.contains conn.ipAddress

theorem mem_of_lastNetwork {networks : List NetworkDef} {name : String} {net : NetworkDef}
    (h : lastNetwork networks name = some net) : net ∈ networks ∧ net.name = name := by
  obtain ⟨hname, hmem⟩ := And.intro (List.find?_some h) (List.mem_of_find?_eq_some h)
  exact ⟨List.mem_reverse.1 hmem, by simpa using hname⟩

theorem mem_of_connection {net : NetworkDef} {router : String} {conn : Connection}
    (h : net.connection router = some conn) : conn ∈ net.connections ∧ conn.routerName = router := by
  obtain ⟨hname, hmem⟩ := And.intro (List.find?_some h) (List.mem_of_find?_eq_some h)
  exact ⟨List.mem_reverse.1 hmem, by simpa using hname⟩

/-- The four validators exclude that an interface has no network or no address. -/
theorem generateRouterInterface_carries {spec : Topology} (hips : spec.IpAssignments)
    {router : RouterDef} {i : InterfaceDef}
    (hmapped : i.name ≠ "lo" → ∃ net ∈ lastNetwork spec.networkList i.network,
      ∃ conn ∈ net.connection router.name, i.name = conn.interface) :
    ∃ generated, generateRouterInterface router spec.networkList i = some generated ∧
      Carries spec.networkList router.name i generated := by
  by_cases hlo : i.name = "lo"
  · exact ⟨loopbackInterface router i, if_pos hlo, hlo.symm, fun h => absurd hlo h⟩
  · obtain ⟨net, hnet, conn, hconn, hi⟩ := hmapped hlo
    obtain ⟨hmem, hname⟩ := mem_of_lastNetwork hnet
    obtain ⟨hconns, hrouter⟩ := mem_of_connection hconn
    have hcontains : net.subnet.contains conn.ipAddress :=
      (hips.2 net hmem).1 net (hname ▸ hnet) conn hconns
    refine ⟨networkInterface i net conn, ?_, rfl, fun _ =>
      ⟨net, hmem, hname, conn, hconns, hrouter, hi.symm, rfl, hcontains⟩⟩
    rw [generateRouterInterface, if_neg hlo, Option.mem_def.1 hnet, Option.bind_some,
      Option.mem_def.1 hconn, Option.map_some]

/-- A filter that keeps every entry. -/
theorem forall₂_filterMap {α β : Type} {f : α → Option β} {r : α → β → Prop} {l : List α}
    (h : ∀ a ∈ l, ∃ b, f a = some b ∧ r a b) : List.Forall₂ r l (l.filterMap f) := by
  induction l with
  | nil => exact .nil
  | cons a l ih =>
    obtain ⟨b, hb, hab⟩ := h a (List.mem_cons_self ..)
    rw [List.filterMap_cons_some hb]
    exact .cons hab (ih fun a' ha' => h a' (List.mem_cons_of_mem a ha'))

theorem TopologyEntry.routerList_validated (spec : TopologyEntry) :
    spec.validated.routerList = spec.routerList.map RouterEntry.validated := by
  unfold Topology.routerList TopologyEntry.validated TopologyEntry.routerList
  cases spec.routers <;> rfl

/-- **No loss.** A valid topology whose routers lack nothing that the generator reads without a
default gives one router per entry, and each of its interfaces. -/
theorem generated_without_loss (spec : TopologyEntry) (hvalid : spec.validated.Valid)
    (hcomplete : spec.Complete) :
    ∃ routers, spec.generateVyosRouters = .ok routers ∧
      List.Forall₂ (fun (entry : RouterEntry) (generated : String × Spec) =>
          generated.1 = entry.name ∧
            List.Forall₂ (Carries spec.networkList entry.name) (entry.interfaces.getD [])
              (generated.2.interfaces.getD []))
        spec.routerList routers := by
  refine mapM_ok fun entry hentry => ?_
  obtain ⟨router, hread, hname, hinterfaces⟩ := RouterEntry.read_ok (hcomplete entry hentry)
  refine ⟨(router.name, generateVyosRouter spec.networkList router), by rw [hread]; rfl, hname, ?_⟩
  have hvalidated : entry.validated ∈ spec.validated.routerList := by
    rw [TopologyEntry.routerList_validated]
    exact List.mem_map_of_mem hentry
  have hmapped := hvalid.interfaceMappings entry.validated hvalidated
  rw [← hinterfaces, ← hname]
  refine forall₂_filterMap fun i hi => ?_
  refine generateRouterInterface_carries hvalid.ipAssignments ?_
  rw [hname]
  rw [hinterfaces] at hi
  exact hmapped i hi

/-- A router with a loopback and two interfaces. -/
def pe2Topology (hostname : Option String) : TopologyEntry where
  networks := some
    [{ name := "mgmt", subnet := .management,
       networkType := some "management",
       connectedRouters := some [⟨"pe2", "eth0", 3232266764⟩] },
     { name := "pe2-p1", subnet := ⟨167772672, 30, by decide, by decide⟩,
       connectedRouters := some [⟨"p1", "eth3", 167772673⟩, ⟨"pe2", "eth1", 167772674⟩] }]
  routers := some
    [{ name := "pe2", hostname := hostname, routerId := some "10.0.0.2",
       interfaces := some [⟨"eth0", "mgmt", none, none, none⟩, ⟨"lo", "loopbacks", none, none, none⟩,
         ⟨"eth1", "pe2-p1", none, none, none⟩] }]

theorem pe2Topology_valid (hostname : Option String) : (pe2Topology hostname).validated.Valid := by
  change (pe2Topology none).validated.Valid
  decide

theorem pe2_generated : ∃ routers, (pe2Topology (some "pe2")).generateVyosRouters = .ok routers ∧
    List.Forall₂ (fun (entry : RouterEntry) (generated : String × Spec) =>
        generated.1 = entry.name ∧
          List.Forall₂ (Carries (pe2Topology (some "pe2")).networkList entry.name)
            (entry.interfaces.getD []) (generated.2.interfaces.getD []))
      (pe2Topology (some "pe2")).routerList routers := by
  refine generated_without_loss _ (pe2Topology_valid _) fun router hrouter => ?_
  obtain rfl := List.mem_singleton.1 hrouter
  exact ⟨nofun, nofun, nofun, nofun⟩

/-- A router without a host name passes the validators, and nothing is generated. -/
theorem nameless_not_generated : (pe2Topology none).validated.Valid ∧
    (pe2Topology none).generateVyosRouters = .error "hostname" :=
  ⟨pe2Topology_valid none, rfl⟩

end GnnSandbox.Vyos
