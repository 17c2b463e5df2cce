import GnnSandbox.Lib.ConfigTree
import GnnSandbox.Vyos.Spec
import Mathlib.Data.List.Dedup

/-!
# The configuration script

`vyos_config.j2`, section by section, as the commands it renders to. A value of the spec is one
word of a command, also where the template quotes it. The template stops at a variable that is
not defined; `Vars.Complete` says that it reaches none.
-/

namespace GnnSandbox.Vyos

open ConfigTree

abbrev Path := ConfigTree.Path String

abbrev Command := ConfigTree.Command String

inductive Mode where
  | configure
  | update
deriving DecidableEq, Repr

/-! ## What the template computes from its variables -/

/-- `not (interface.enabled | default(true))` -/
def Interface.Disabled (i : Interface) : Prop := i.enabled.getD true = false

instance (i : Interface) : Decidable i.Disabled := by unfold Interface.Disabled; infer_instance

/-- The node of an interface: a VLAN makes it a sub-interface. -/
def Interface.node (i : Interface) : Path :=
  match i.vlan with
  | none => ["interfaces", "ethernet", i.name]
  | some vlan => ["interfaces", "ethernet", i.name, "vif", toString vlan]

/-- The name under which protocols know an interface. -/
def Interface.port (i : Interface) : String :=
  match i.vlan with
  | none => i.name
  | some vlan => i.name ++ "." ++ toString vlan

namespace Vars

variable (s : Vars)

/-- `vlan_interfaces` -/
def vlanInterfaces : List Interface :=
  s.interfaces.filter fun i => i.name ≠ "lo" ∧ i.vlan.isSome

/-- `vlan_parent_interfaces` -/
def vlanParents : List String := (s.vlanInterfaces.map (·.name)).eraseDups

/-- The interfaces without VLAN whose name is no trunk. -/
def physicalInterfaces : List Interface :=
  s.interfaces.filter fun i => i.name ≠ "lo" ∧ i.vlan = none ∧ i.name ∉ s.vlanParents

/-- `protocols.mpls is defined and protocols.mpls.enabled | default(false)` -/
def mplsEnabled : Bool := (s.protocols.mpls.bind Mpls.enabled).getD false

/-- `protocols.bgp.as_number` -/
def asNumber : ℕ := (s.protocols.bgp.bind Bgp.asNumber).getD 0

/-- `protocols.bgp.router_id` -/
def bgpRouterId : String := (s.protocols.bgp.bind Bgp.routerId).getD ""

/-- `protocols.bgp.neighbors | default([])` -/
def neighbors : List Neighbor := (s.protocols.bgp.bind Bgp.neighbors).getD []

/-- `protocols.bgp.vrfs | default([])` -/
def bgpVrfs : List BgpVrf := (s.protocols.bgp.bind Bgp.vrfs).getD []

/-- `protocols.bgp.route_reflector | default(false)` -/
def routeReflector : Bool := (s.protocols.bgp.bind Bgp.routeReflector).getD false

/-- One of the address families is vpnv4. -/
def vpnv4 : Bool :=
  ((s.protocols.bgp.bind Bgp.addressFamilies).getD []).any fun af => af.family = "vpnv4"

/-- `protocols.static.routes` -/
def routes : List Route := (s.protocols.static.bind Static.routes).getD []

/-- `protocols.mpls.ldp.router_id` -/
def ldpRouterId : String := ((s.protocols.mpls.bind Mpls.ldp).bind Ldp.routerId).getD ""

/-- `protocols.mpls.ldp.interfaces | default([])` -/
def ldpInterfaces : List String := ((s.protocols.mpls.bind Mpls.ldp).bind Ldp.interfaces).getD []

/-- The variables that the template reads without a default are defined. -/
structure Complete : Prop where
  rd : ∀ v ∈ s.vrfs, v.rd.isSome → s.protocols.bgp.isSome
  ospf : ∀ o ∈ s.protocols.ospf, o.routerId.isSome
  bgp : ∀ b ∈ s.protocols.bgp, b.asNumber.isSome ∧ b.routerId.isSome
  mpls : s.mplsEnabled → ((s.protocols.mpls.bind Mpls.ldp).bind Ldp.routerId).isSome

instance : Decidable s.Complete :=
  decidable_of_iff ((∀ v ∈ s.vrfs, v.rd.isSome → s.protocols.bgp.isSome) ∧
      (∀ o ∈ s.protocols.ospf, o.routerId.isSome) ∧
      (∀ b ∈ s.protocols.bgp, b.asNumber.isSome ∧ b.routerId.isSome) ∧
      (s.mplsEnabled → ((s.protocols.mpls.bind Mpls.ldp).bind Ldp.routerId).isSome))
    ⟨fun h => ⟨h.1, h.2.1, h.2.2.1, h.2.2.2⟩, fun h => ⟨h.rd, h.ospf, h.bgp, h.mpls⟩⟩

end Vars

/-! ## Removing stale configuration -/

/-- The `vrf` of an interface, which is cleared before the VRFs are. -/
def vrfNode (i : Interface) : Path := i.node ++ ["vrf"]

/-- `# === Remove stale config (update mode only) ===` -/
def Vars.deletes (s : Vars) : List Path :=
  ((s.interfaces.filter fun i => i.name ≠ "lo").map vrfNode) ++ [["vrf"]] ++
    if s.protocols.bgp = none ∨ s.protocols.bgp = some {} then [["protocols", "bgp"]] else []

/-! ## System and interfaces -/

/-- Host name, log export and metrics export. -/
def Vars.systemSets (s : Vars) : List Path :=
  [["system", "host-name", s.routerHostname],
    ["system", "syslog", "remote", "192.168.122.1", "facility", "all", "level", "info"],
    ["system", "syslog", "remote", "192.168.122.1", "port", "5140"],
    ["system", "syslog", "remote", "192.168.122.1", "protocol", "udp"],
    ["system", "syslog", "remote", "192.168.122.1", "format", "include-timezone"],
    ["service", "monitoring", "prometheus", "node-exporter", "listen-address", "0.0.0.0"],
    ["service", "monitoring", "prometheus", "node-exporter", "port", "9100"],
    ["service", "monitoring", "prometheus", "frr-exporter", "listen-address", "0.0.0.0"],
    ["service", "monitoring", "prometheus", "frr-exporter", "port", "9101"]]

/-- The trunk of VLAN sub-interfaces. -/
def trunkSets (parent : String) : List Path :=
  [["interfaces", "ethernet", parent, "description", "Trunk interface for VLANs"],
    ["interfaces", "ethernet", parent, "mtu", "1500"]]

/-- A VLAN sub-interface or a physical interface. -/
def ethernetSets (i : Interface) : List Path :=
  [i.node ++ ["description", i.description.getD ""],
    i.node ++ ["address", i.address],
    i.node ++ ["mtu", toString (i.mtu.getD 1500)],
    i.node ++ ["ipv6", "address", "no-default-link-local"]] ++
  (i.vrf.map fun vrf => i.node ++ ["vrf", vrf]).toList ++
  if i.Disabled then [i.node ++ ["disable"]] else []

def loopbackSets (i : Interface) : List Path :=
  [["interfaces", "loopback", "lo", "description", i.description.getD "Loopback"],
    ["interfaces", "loopback", "lo", "address", i.address]]

/-- Trunks, VLAN sub-interfaces, physical interfaces and loopbacks. -/
def Vars.interfaceSets (s : Vars) : List Path :=
  s.vlanParents.flatMap trunkSets ++ s.vlanInterfaces.flatMap ethernetSets ++
    s.physicalInterfaces.flatMap ethernetSets ++
    (s.interfaces.filter fun i => i.name = "lo").flatMap loopbackSets

/-! ## VRFs and static routes -/

/-- The BGP settings of a VRF with a route distinguisher. -/
def Vars.vpnSets (s : Vars) (v : Vrf) (rd : String) : List Path :=
  let bgp := ["vrf", "name", v.name, "protocols", "bgp"]
  let af := bgp ++ ["address-family", "ipv4-unicast"]
  [bgp ++ ["system-as", toString s.asNumber],
    bgp ++ ["parameters", "router-id", s.bgpRouterId],
    af ++ ["rd", "vpn", "export", rd]] ++
  (v.rtExport.map fun rts => af ++ ["route-target", "vpn", "export", " ".intercalate rts]).toList ++
  (v.rtImport.map fun rts => af ++ ["route-target", "vpn", "import", " ".intercalate rts]).toList ++
  [af ++ ["label", "vpn", "export", "auto"], af ++ ["export", "vpn"], af ++ ["import", "vpn"]]

def Vars.vrfSets (s : Vars) (v : Vrf) : List Path :=
  [["vrf", "name", v.name, "table", toString v.table]] ++
  (v.description.map fun d => ["vrf", "name", v.name, "description", d]).toList ++
  match v.rd with
  | none => []
  | some rd => s.vpnSets v rd

/-- Where a route goes: a next hop, or else an interface. -/
def Route.via (r : Route) : Option Path :=
  match r.nextHop with
  | some hop => some ["next-hop", hop]
  | none => r.interface.map fun i => ["interface", i]

/-- A static route, of a VRF or global. -/
def routeSets (r : Route) : List Path :=
  let root := match r.vrf with
    | some vrf => ["vrf", "name", vrf, "protocols", "static", "route", r.destination]
    | none => ["protocols", "static", "route", r.destination]
  match r.via with
  | none => []
  | some via => [root ++ via ++ match r.distance with
    | some d => ["distance", toString d]
    | none => []]

/-! ## OSPF -/

/-- An interface in OSPF: the loopback, and what is neither in a VRF nor `eth0`. The area is
always the backbone. -/
def ospfInterfaceSets (i : Interface) : List Path :=
  if i.name = "lo" then [["protocols", "ospf", "interface", "lo", "area", "0.0.0.0"]]
  else if i.vrf = none ∧ i.name = "eth0" then []
  else if i.vrf = none then
    [["protocols", "ospf", "interface", i.port, "area", "0.0.0.0"],
      ["protocols", "ospf", "interface", i.port, "network", "point-to-point"]]
  else []

def Vars.ospfSets (s : Vars) : List Path :=
  match s.protocols.ospf with
  | none => []
  | some ospf =>
    [["protocols", "ospf", "parameters", "router-id", ospf.routerId.getD ""]] ++
      s.interfaces.flatMap ospfInterfaceSets ++
      (ospf.passiveInterfaces.getD []).map fun i => ["protocols", "ospf", "passive-interface", i]

/-! ## BGP -/

/-- `neighbor.remote_as == protocols.bgp.as_number` -/
def Vars.Internal (s : Vars) (n : Neighbor) : Prop := n.remoteAs = s.asNumber

instance (s : Vars) (n : Neighbor) : Decidable (s.Internal n) := by
  unfold Vars.Internal; infer_instance

/-- `neighbor.route_reflector_client | default(false)` -/
def Neighbor.client (n : Neighbor) : Bool := n.routeReflectorClient.getD false

def neighborNode (n : Neighbor) : Path := ["protocols", "bgp", "neighbor", n.peer]

/-- A global neighbour. -/
def Vars.neighborSets (s : Vars) (n : Neighbor) : List Path :=
  let vpn := neighborNode n ++ ["address-family", "ipv4-vpn"]
  [neighborNode n ++ ["remote-as", toString n.remoteAs]] ++
  (n.description.map fun d => neighborNode n ++ ["description", d]).toList ++
  (if s.Internal n then [neighborNode n ++ ["update-source", "lo"]] else []) ++
  [neighborNode n ++ ["address-family", "ipv4-unicast"]] ++
  (if n.client then
    [neighborNode n ++ ["address-family", "ipv4-unicast", "route-reflector-client"]] else []) ++
  if s.mplsEnabled ∧ s.Internal n then
    [vpn] ++
    if s.routeReflector then if n.client then [vpn ++ ["route-reflector-client"]] else []
    else [vpn ++ ["nexthop-self"]]
  else []

/-- The VPNv4 address family of all neighbours, once for each time it is listed. -/
def Vars.familySets (s : Vars) : List Path :=
  ((s.protocols.bgp.bind Bgp.addressFamilies).getD []).flatMap fun af =>
    if af.family = "vpnv4" then
      s.neighbors.map fun n => neighborNode n ++ ["address-family", "ipv4-vpn"]
    else []

def vrfNeighborNode (vrf : String) (n : Neighbor) : Path :=
  ["vrf", "name", vrf, "protocols", "bgp", "neighbor", n.peer]

/-- A neighbour in a VRF. -/
def Vars.vrfNeighborSets (s : Vars) (vrf : String) (n : Neighbor) : List Path :=
  let node := vrfNeighborNode vrf n
  let af := node ++ ["address-family", "ipv4-unicast"]
  [node ++ ["remote-as", toString n.remoteAs], af] ++
  (if s.Internal n then [af] else [af ++ ["default-originate"], af ++ ["as-override"]]) ++
  (n.description.map fun d => node ++ ["description", d]).toList

/-- The BGP instance of a VRF. -/
def Vars.bgpVrfSets (s : Vars) (v : BgpVrf) : List Path :=
  let bgp := ["vrf", "name", v.name, "protocols", "bgp"]
  [bgp ++ ["system-as", toString s.asNumber], bgp ++ ["parameters", "router-id", s.bgpRouterId]] ++
  (v.neighbors.getD []).flatMap (s.vrfNeighborSets v.name) ++
  [bgp ++ ["address-family", "ipv4-unicast", "redistribute", "connected"]]

/-- A global neighbour that is added to a VRF. -/
def Vars.addedNeighborSets (s : Vars) (vrf : String) (n : Neighbor) : List Path :=
  let node := vrfNeighborNode vrf n
  [node ++ ["remote-as", toString n.remoteAs], node ++ ["address-family", "ipv4-unicast"],
    node ++ ["update-source", s.bgpRouterId]] ++
  (n.description.map fun d => node ++ ["description", "VRF " ++ vrf ++ " - " ++ d]).toList

/-- iBGP peering between VRFs, without MPLS only. -/
def Vars.addedSets (s : Vars) : List Path :=
  if s.mplsEnabled then []
  else s.bgpVrfs.flatMap fun v =>
    (s.neighbors.filter fun n =>
        s.Internal n ∧ n.peer ∉ (v.neighbors.getD []).map (·.peer)).flatMap
      (s.addedNeighborSets v.name)

def Vars.bgpSets (s : Vars) : List Path :=
  if s.protocols.bgp = none then []
  else
    [["protocols", "bgp", "system-as", toString s.asNumber],
      ["protocols", "bgp", "parameters", "router-id", s.bgpRouterId]] ++
    (if s.routeReflector then [["protocols", "bgp", "parameters", "cluster-id", s.bgpRouterId]]
      else []) ++
    s.neighbors.flatMap s.neighborSets ++ s.familySets ++ s.bgpVrfs.flatMap s.bgpVrfSets ++
    s.addedSets ++
    if s.neighbors = [] then []
    else [["protocols", "bgp", "address-family", "ipv4-unicast", "redistribute", "connected"]]

/-! ## MPLS -/

/-- The name of an LDP interface, with the VLAN of the first interface of that name. -/
def Vars.ldpPort (s : Vars) (name : String) : String :=
  match (s.interfaces.find? fun i => i.name = name).bind Interface.vlan with
  | some vlan => name ++ "." ++ toString vlan
  | none => name

def Vars.mplsSets (s : Vars) : List Path :=
  if s.mplsEnabled then
    (s.ldpInterfaces.map fun i => ["protocols", "mpls", "interface", s.ldpPort i]) ++
    [["protocols", "mpls", "ldp", "router-id", s.ldpRouterId],
      ["protocols", "mpls", "ldp", "discovery", "transport-ipv4-address", s.ldpRouterId]] ++
    s.ldpInterfaces.map fun i => ["protocols", "mpls", "ldp", "interface", s.ldpPort i]
  else []

/-! ## Services -/

/-- `dhcp_pool.network | replace('.', '_') | replace('/', '_')` -/
def sharedNetworkName (network : String) : String :=
  network.map fun c => if c = '.' ∨ c = '/' then '_' else c

def DhcpPool.node (p : DhcpPool) : Path :=
  ["service", "dhcp-server", "shared-network-name", sharedNetworkName p.network, "subnet",
    p.network]

def dhcpSets (p : DhcpPool) : List Path :=
  [p.node ++ ["default-router", p.gateway],
    p.node ++ ["lease", toString (p.leaseTime.getD 86400)]] ++
  ((p.dnsServers.getD []).map fun dns => p.node ++ ["name-server", dns]) ++
  (p.range.toList.flatMap fun r =>
    [p.node ++ ["range", "0", "start", r.start], p.node ++ ["range", "0", "stop", r.stop]]) ++
  (p.staticMappings.getD []).flatMap fun m =>
    [p.node ++ ["static-mapping", m.name, "ip-address", m.ip],
      p.node ++ ["static-mapping", m.name, "mac-address", m.mac]]

/-- The address a NAT rule translates to. -/
def NatRule.target (r : NatRule) : Option String :=
  if r.translation = some "masquerade" then some "masquerade" else r.address

def NatRule.node (r : NatRule) : Path := ["nat", "source", "rule", toString r.rule]

def natSets (r : NatRule) : List Path :=
  [r.node ++ ["outbound-interface", r.outboundInterface]] ++
  (r.source.map fun source => r.node ++ ["source", "address", source]).toList ++
  (r.target.map fun target => r.node ++ ["translation", "address", target]).toList

def sshSets (ssh : Ssh) : List Path := [["service", "ssh", "port", toString (ssh.port.getD 22)]]

/-- `services.nat.source` -/
def Vars.natRules (s : Vars) : List NatRule := (s.services.nat.bind NatService.source).getD []

def Vars.serviceSets (s : Vars) : List Path :=
  (s.services.dhcp.getD []).flatMap dhcpSets ++ s.natRules.flatMap natSets ++
    s.services.ssh.toList.flatMap sshSets

/-! ## Traffic policies -/

def shaperSets (p : Shaper) : List Path :=
  let node := ["traffic-policy", "shaper", p.name]
  [node ++ ["bandwidth", p.bandwidth], node ++ ["default", "bandwidth", p.defaultBandwidth]] ++
  (p.classes.getD []).flatMap fun c =>
    [node ++ ["class", toString c.id, "bandwidth", c.bandwidth],
      node ++ ["class", toString c.id, "match", c.matchName, "ip", c.matchIp.getD "dscp",
        c.matchValue]]

def emulatorSets (p : NetworkEmulator) : List Path :=
  let node := ["traffic-policy", "network-emulator", p.name]
  [node ++ ["network-delay", p.delay], node ++ ["packet-loss", p.loss]] ++
  (p.corruption.map fun c => node ++ ["packet-corruption", c]).toList

def applySets (p : PolicyApply) : List Path :=
  let node := ["interfaces", "ethernet", p.interface, "traffic-policy"]
  (p.out.map fun name => node ++ ["out", name]).toList ++
  (p.into.map fun name => node ++ ["in", name]).toList

def trafficSets (t : TrafficPolicy) : List Path :=
  (t.shaper.getD []).flatMap shaperSets ++ (t.networkEmulator.getD []).flatMap emulatorSets ++
    (t.apply.getD []).flatMap applySets

/-! ## The script -/

/-- All that the template sets. -/
def Vars.sets (s : Vars) : List Path :=
  s.systemSets ++ s.interfaceSets ++ s.vrfs.flatMap s.vrfSets ++ s.routes.flatMap routeSets ++
    s.ospfSets ++ s.bgpSets ++ s.mplsSets ++ s.serviceSets ++
    s.trafficPolicy.toList.flatMap trafficSets

/-- The commands of `vyos_config.j2`. -/
def Vars.commands (mode : Mode) (s : Vars) : List Command :=
  (match mode with
    | .configure => []
    | .update => s.deletes.map .delete) ++ s.sets.map .set

/-- The script the playbook renders for a spec, unless a variable it needs is not defined. -/
def Spec.script (mode : Mode) (spec : Spec) : Option (List Command) :=
  if spec.extravars.Complete then some (spec.extravars.commands mode) else none

end GnnSandbox.Vyos

/-!
## The schema of the router

What VyOS does with a command depends on its node: a node that holds one value has it replaced,
at any other node the path is added.
-/

namespace GnnSandbox.Vyos

open ConfigTree

/-- A path matches a pattern, in which `node.tag` stands for any name. -/
def matchesPattern : List String → Path → Bool
  | [], [] => true
  | w :: pattern, x :: p => (w == "node.tag" || w == x) && matchesPattern pattern p
  | [], _ :: _ | _ :: _, [] => false

/-- The nodes with one value, of those the template sets. The others hold any number of values
(addresses, neighbours, next hops, passive interfaces, name servers, ports of the SSH server), or
none. -/
def singleNodes : List (List String) :=
  [["system", "host-name"],
    ["system", "syslog", "remote", "node.tag", "facility", "node.tag", "level"],
    ["system", "syslog", "remote", "node.tag", "port"],
    ["system", "syslog", "remote", "node.tag", "protocol"],
    ["service", "monitoring", "prometheus", "node.tag", "port"],
    ["interfaces", "ethernet", "node.tag", "description"],
    ["interfaces", "ethernet", "node.tag", "mtu"],
    ["interfaces", "ethernet", "node.tag", "vrf"],
    ["interfaces", "ethernet", "node.tag", "vif", "node.tag", "description"],
    ["interfaces", "ethernet", "node.tag", "vif", "node.tag", "mtu"],
    ["interfaces", "ethernet", "node.tag", "vif", "node.tag", "vrf"],
    ["interfaces", "ethernet", "node.tag", "traffic-policy", "out"],
    ["interfaces", "ethernet", "node.tag", "traffic-policy", "in"],
    ["interfaces", "loopback", "node.tag", "description"],
    ["vrf", "name", "node.tag", "table"],
    ["vrf", "name", "node.tag", "description"],
    ["vrf", "name", "node.tag", "protocols", "bgp", "system-as"],
    ["vrf", "name", "node.tag", "protocols", "bgp", "parameters", "router-id"],
    ["vrf", "name", "node.tag", "protocols", "bgp", "address-family", "node.tag", "rd", "vpn",
      "export"],
    ["vrf", "name", "node.tag", "protocols", "bgp", "address-family", "node.tag", "route-target",
      "vpn", "export"],
    ["vrf", "name", "node.tag", "protocols", "bgp", "address-family", "node.tag", "route-target",
      "vpn", "import"],
    ["vrf", "name", "node.tag", "protocols", "bgp", "address-family", "node.tag", "label", "vpn",
      "export"],
    ["vrf", "name", "node.tag", "protocols", "bgp", "neighbor", "node.tag", "remote-as"],
    ["vrf", "name", "node.tag", "protocols", "bgp", "neighbor", "node.tag", "description"],
    ["vrf", "name", "node.tag", "protocols", "bgp", "neighbor", "node.tag", "update-source"],
    ["vrf", "name", "node.tag", "protocols", "static", "route", "node.tag", "next-hop",
      "node.tag", "distance"],
    ["vrf", "name", "node.tag", "protocols", "static", "route", "node.tag", "interface",
      "node.tag", "distance"],
    ["protocols", "static", "route", "node.tag", "next-hop", "node.tag", "distance"],
    ["protocols", "static", "route", "node.tag", "interface", "node.tag", "distance"],
    ["protocols", "ospf", "parameters", "router-id"],
    ["protocols", "ospf", "interface", "node.tag", "area"],
    ["protocols", "ospf", "interface", "node.tag", "network"],
    ["protocols", "bgp", "system-as"],
    ["protocols", "bgp", "parameters", "router-id"],
    ["protocols", "bgp", "parameters", "cluster-id"],
    ["protocols", "bgp", "neighbor", "node.tag", "remote-as"],
    ["protocols", "bgp", "neighbor", "node.tag", "description"],
    ["protocols", "bgp", "neighbor", "node.tag", "update-source"],
    ["protocols", "mpls", "ldp", "router-id"],
    ["protocols", "mpls", "ldp", "discovery", "transport-ipv4-address"],
    ["service", "dhcp-server", "shared-network-name", "node.tag", "subnet", "node.tag",
      "default-router"],
    ["service", "dhcp-server", "shared-network-name", "node.tag", "subnet", "node.tag", "lease"],
    ["service", "dhcp-server", "shared-network-name", "node.tag", "subnet", "node.tag", "range",
      "node.tag", "start"],
    ["service", "dhcp-server", "shared-network-name", "node.tag", "subnet", "node.tag", "range",
      "node.tag", "stop"],
    ["service", "dhcp-server", "shared-network-name", "node.tag", "subnet", "node.tag",
      "static-mapping", "node.tag", "ip-address"],
    ["service", "dhcp-server", "shared-network-name", "node.tag", "subnet", "node.tag",
      "static-mapping", "node.tag", "mac-address"],
    ["nat", "source", "rule", "node.tag", "outbound-interface"],
    ["nat", "source", "rule", "node.tag", "source", "address"],
    ["nat", "source", "rule", "node.tag", "translation", "address"],
    ["traffic-policy", "shaper", "node.tag", "bandwidth"],
    ["traffic-policy", "shaper", "node.tag", "default", "bandwidth"],
    ["traffic-policy", "shaper", "node.tag", "class", "node.tag", "bandwidth"],
    ["traffic-policy", "shaper", "node.tag", "class", "node.tag", "match", "node.tag", "ip",
      "node.tag"],
    ["traffic-policy", "network-emulator", "node.tag", "network-delay"],
    ["traffic-policy", "network-emulator", "node.tag", "packet-loss"],
    ["traffic-policy", "network-emulator", "node.tag", "packet-corruption"]]

/-- The node holds one value: setting it again replaces the value. -/
def singleValued (p : Path) : Bool := singleNodes.any fun pattern => matchesPattern pattern p

/-- What the router's configuration is after a script. -/
def execute (script : List Command) (c : Config String) : Config String :=
  ConfigTree.run singleValued script c

end GnnSandbox.Vyos
