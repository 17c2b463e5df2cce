import GnnSandbox.Lib.JsonText
import GnnSandbox.Vyos.Reading

/-!
# The MTU of a network in the scripts of its routers

The MTU of a network becomes the MTU of the interfaces on it, and in the script of a router the
MTU of an interface is one word of one command. `mtu_reaches_iff` says when an MTU mismatch reaches
the router.
-/

namespace GnnSandbox.Vyos

open MergePatch
open ConfigTree (Command.set)
open Operator (NetworkFailure OriginalState Cluster InfrastructureSpec)

/-- Lists of equally long parts are equal exactly when all parts are. -/
theorem flatMap_eq_flatMap_iff {α β : Type} {f g : α → List β} {l : List α}
    (h : ∀ a ∈ l, (f a).length = (g a).length) :
    l.flatMap f = l.flatMap g ↔ ∀ a ∈ l, f a = g a := by
  induction l with
  | nil => simp
  | cons a l ih =>
    rw [List.flatMap_cons, List.flatMap_cons, List.forall_mem_cons,
      ← ih fun b hb => h b (List.mem_cons_of_mem a hb)]
    constructor
    · intro heq
      exact List.append_inj heq (h a List.mem_cons_self)
    · rintro ⟨ha, hl⟩
      rw [ha, hl]

/-! ## Scripts that differ in MTUs -/

/-- An interface with this MTU, if it is one of those that change. -/
def retuned (mtu : ℤ) (p : Bool × Interface) : Interface :=
  if p.1 then { p.2 with mtu := some mtu } else p.2

section

variable (mtu mtu' : ℤ) (p : Bool × Interface)

@[simp] theorem retuned_name : (retuned mtu p).name = p.2.name := by
  unfold retuned; split <;> rfl

@[simp] theorem retuned_vlan : (retuned mtu p).vlan = p.2.vlan := by
  unfold retuned; split <;> rfl

theorem vrfNode_retuned : vrfNode (retuned mtu p) = vrfNode p.2 := by
  unfold retuned; split <;> rfl

theorem loopbackSets_retuned : loopbackSets (retuned mtu p) = loopbackSets p.2 := by
  unfold retuned; split <;> rfl

theorem ospfInterfaceSets_retuned : ospfInterfaceSets (retuned mtu p) = ospfInterfaceSets p.2 := by
  unfold retuned; split <;> rfl

/-- The commands of an interface after that for the MTU. -/
def ethernetRest (i : Interface) : List Path :=
  [i.node ++ ["ipv6", "address", "no-default-link-local"]] ++
    (i.vrf.map fun vrf => i.node ++ ["vrf", vrf]).toList ++
    if i.Disabled then [i.node ++ ["disable"]] else []

theorem ethernetSets_with_mtu (i : Interface) (mtu : ℤ) :
    ethernetSets { i with mtu := some mtu } =
      [i.node ++ ["description", i.description.getD ""], i.node ++ ["address", i.address]] ++
        (i.node ++ ["mtu", toString mtu]) :: ethernetRest i := by
  unfold ethernetSets ethernetRest
  rw [List.append_assoc, List.append_assoc]
  rfl

/-- Only the command for the MTU changes. -/
theorem ethernetSets_retuned_eq_iff :
    ethernetSets (retuned mtu p) = ethernetSets (retuned mtu' p) ↔ (p.1 → mtu = mtu') := by
  obtain ⟨changes, i⟩ := p
  cases changes with
  | false => simp [retuned]
  | true =>
    simp only [retuned, if_true, ethernetSets_with_mtu, List.append_right_inj, List.cons.injEq,
      and_true, true_and, forall_const, JsonText.toString_inj]

theorem length_ethernetSets_retuned :
    (ethernetSets (retuned mtu p)).length = (ethernetSets (retuned mtu' p)).length := by
  obtain ⟨changes, i⟩ := p
  cases changes with
  | false => rfl
  | true => simp [retuned, ethernetSets_with_mtu]

end

/-- The variables with these interfaces, some of which get an MTU. -/
def Vars.retuned (v : Vars) (l : List (Bool × Interface)) (mtu : ℤ) : Vars :=
  { v with interfaces := l.map (Vyos.retuned mtu) }

/-- `vlan_parent_interfaces`, of a list of interfaces. -/
def trunkNames (l : List (Bool × Interface)) : List String :=
  ((l.filter fun p => p.2.name ≠ "lo" ∧ p.2.vlan.isSome).map (·.2.name)).eraseDups

/-- The VLAN sub-interfaces and the physical interfaces that the template configures. -/
def ethernets (l : List (Bool × Interface)) : List (Bool × Interface) :=
  (l.filter fun p => p.2.name ≠ "lo" ∧ p.2.vlan.isSome) ++
    l.filter fun p => p.2.name ≠ "lo" ∧ p.2.vlan = none ∧ p.2.name ∉ trunkNames l

section

variable (v : Vars) (l : List (Bool × Interface)) (mtu mtu' : ℤ)

theorem vlanInterfaces_retuned : (v.retuned l mtu).vlanInterfaces =
    (l.filter fun p => p.2.name ≠ "lo" ∧ p.2.vlan.isSome).map (retuned mtu) := by
  unfold Vars.vlanInterfaces Vars.retuned
  rw [List.filter_map]
  simp [Function.comp_def]

theorem vlanParents_retuned : (v.retuned l mtu).vlanParents = trunkNames l := by
  unfold Vars.vlanParents trunkNames
  rw [vlanInterfaces_retuned, List.map_map]
  simp [Function.comp_def]

theorem physicalInterfaces_retuned : (v.retuned l mtu).physicalInterfaces =
    (l.filter fun p => p.2.name ≠ "lo" ∧ p.2.vlan = none ∧ p.2.name ∉ trunkNames l).map
      (retuned mtu) := by
  unfold Vars.physicalInterfaces
  rw [vlanParents_retuned]
  unfold Vars.retuned
  rw [List.filter_map]
  simp [Function.comp_def]

theorem loopbacks_retuned :
    ((v.retuned l mtu).interfaces.filter fun i => i.name = "lo").flatMap loopbackSets =
      (l.filter fun p => p.2.name = "lo").flatMap fun p => loopbackSets p.2 := by
  unfold Vars.retuned
  rw [List.filter_map, List.flatMap_map]
  simp [Function.comp_def, loopbackSets_retuned]

theorem interfaceSets_retuned : (v.retuned l mtu).interfaceSets =
    (trunkNames l).flatMap trunkSets ++
      (ethernets l).flatMap (fun p => ethernetSets (retuned mtu p)) ++
      (l.filter fun p => p.2.name = "lo").flatMap fun p => loopbackSets p.2 := by
  unfold Vars.interfaceSets ethernets
  rw [vlanParents_retuned, vlanInterfaces_retuned, physicalInterfaces_retuned, loopbacks_retuned,
    List.flatMap_map, List.flatMap_map, List.flatMap_append]
  simp only [List.append_assoc]

theorem deletes_retuned : (v.retuned l mtu).deletes = (v.retuned l mtu').deletes := by
  unfold Vars.deletes Vars.retuned
  rw [List.filter_map, List.filter_map, List.map_map, List.map_map]
  simp [Function.comp_def, vrfNode_retuned]

theorem ospfSets_retuned : (v.retuned l mtu).ospfSets = (v.retuned l mtu').ospfSets := by
  unfold Vars.ospfSets Vars.retuned
  rw [List.flatMap_map, List.flatMap_map]
  simp only [ospfInterfaceSets_retuned]

theorem mplsSets_retuned : (v.retuned l mtu).mplsSets = (v.retuned l mtu').mplsSets := by
  have hport (name : String) :
      (v.retuned l mtu).ldpPort name = (v.retuned l mtu').ldpPort name := by
    unfold Vars.ldpPort Vars.retuned
    rw [List.find?_map, List.find?_map]
    simp only [Function.comp_def, retuned_name, Option.bind_map, retuned_vlan]
  unfold Vars.mplsSets
  simp only [hport]
  rfl

/-- The script around the commands of the interfaces does not depend on MTUs. -/
theorem commands_retuned : ∃ before after : List Command, ∀ mtu,
    (v.retuned l mtu).commands .update = before ++
      ((ethernets l).flatMap fun p => (ethernetSets (retuned mtu p)).map Command.set) ++ after := by
  refine ⟨(v.retuned l 0).deletes.map .delete ++
      (v.systemSets ++ (trunkNames l).flatMap trunkSets).map Command.set,
    ((l.filter fun p => p.2.name = "lo").flatMap (fun p => loopbackSets p.2) ++
      (v.vrfs.flatMap v.vrfSets ++ v.routes.flatMap routeSets ++ (v.retuned l 0).ospfSets ++
        v.bgpSets ++ (v.retuned l 0).mplsSets ++ v.serviceSets ++
        v.trafficPolicy.toList.flatMap trafficSets)).map Command.set, fun mtu => ?_⟩
  have hsets : (v.retuned l mtu).sets = v.systemSets ++ (v.retuned l mtu).interfaceSets ++
      (v.vrfs.flatMap v.vrfSets ++ v.routes.flatMap routeSets ++ (v.retuned l mtu).ospfSets ++
        v.bgpSets ++ (v.retuned l mtu).mplsSets ++ v.serviceSets ++
        v.trafficPolicy.toList.flatMap trafficSets) := by
    simp only [Vars.sets, List.append_assoc]
    rfl
  unfold Vars.commands
  rw [hsets, interfaceSets_retuned, deletes_retuned v l mtu 0, ospfSets_retuned v l mtu 0,
    mplsSets_retuned v l mtu 0, ← List.map_flatMap]
  simp only [List.map_append, List.append_assoc]

/-- The commands of an interface are about this interface. -/
theorem aboutInterface_of_mem_ethernetSets {i : Interface} {q : Path} (h : q ∈ ethernetSets i)
    (name : String) : aboutInterface name q = decide (i.name = name) := by
  have hnode : ∃ rest, q = i.node ++ rest := by
    unfold ethernetSets at h
    simp only [List.mem_append, List.mem_cons, List.not_mem_nil, or_false, Option.mem_toList,
      Option.map_eq_some_iff, List.mem_ite_nil_right] at h
    rcases h with ((rfl | rfl | rfl | rfl) | ⟨_, -, rfl⟩) | ⟨-, rfl⟩ <;> exact ⟨_, rfl⟩
  obtain ⟨rest, rfl⟩ := hnode
  unfold Interface.node aboutInterface
  cases i.vlan <;> simp

/-- **One word of one command.** Two MTUs give the same commands about an interface exactly when
they are the same, or no interface of that name is configured that gets them. -/
theorem filter_commands_retuned_iff (name : String) :
    ((v.retuned l mtu).commands .update).filter (fun cmd => aboutInterface name (commandPath cmd)) =
        ((v.retuned l mtu').commands .update).filter
          (fun cmd => aboutInterface name (commandPath cmd)) ↔
      ∀ p ∈ ethernets l, p.2.name = name → p.1 → mtu = mtu' := by
  obtain ⟨before, after, hcommands⟩ := commands_retuned v l
  have hpart (m : ℤ) (p : Bool × Interface) :
      ((ethernetSets (retuned m p)).map Command.set).filter
          (fun cmd => aboutInterface name (commandPath cmd)) =
        if p.2.name = name then (ethernetSets (retuned m p)).map Command.set else [] := by
    rw [List.filter_map]
    split
    · rename_i hname
      rw [List.filter_eq_self.mpr fun q hq => ?_]
      have hq := aboutInterface_of_mem_ethernetSets hq name
      simpa [commandPath, hname] using hq
    · rename_i hname
      rw [List.filter_eq_nil_iff.mpr fun q hq => ?_, List.map_nil]
      have hq := aboutInterface_of_mem_ethernetSets hq name
      simpa [commandPath, hname] using hq
  rw [hcommands, hcommands]
  simp only [List.filter_append, List.filter_flatMap, hpart, List.append_left_inj,
    List.append_right_inj]
  rw [flatMap_eq_flatMap_iff fun p _ => ?_]
  · refine forall₂_congr fun p _ => ?_
    split
    · rename_i hname
      rw [← ethernetSets_retuned_eq_iff mtu mtu' p]
      simp [hname, List.map_inj_right]
    · rename_i hname
      simp [hname]
  · split
    · simp [length_ethernetSets_retuned mtu mtu' p]
    · rfl

end

/-! ## Interfaces on a network -/

/-- The generated interfaces of a router, each with whether it is on this network. -/
def Topology.interfacesOn (topology : Topology) (network : String) (router : RouterDef) :
    List (Bool × Interface) :=
  (router.interfaces.getD []).filterMap fun i =>
    (generateRouterInterface router topology.networkList i).map fun generated =>
      (decide (i.name ≠ "lo" ∧ i.network = network), generated)

/-- All networks of a name with an MTU, as the handlers read them. -/
def setMtu (name : String) (mtu : Option ℤ) (net : NetworkDef) : NetworkDef :=
  if net.name = name then { net with mtu } else net

@[simp] theorem setMtu_name (name : String) (mtu : Option ℤ) (net : NetworkDef) :
    (setMtu name mtu net).name = net.name := by
  unfold setMtu; split <;> rfl

theorem map_networkOf_withMtu (rd : Reading) (name : String) (mtu : Option ℤ)
    (l : List Operator.Network) :
    (Operator.withMtu name mtu l).map rd.networkOf =
      (l.map rd.networkOf).map (setMtu name mtu) := by
  unfold Operator.withMtu
  rw [List.map_map, List.map_map]
  refine List.map_congr_left fun net _ => ?_
  by_cases h : net.name = name
  · simp [h, setMtu, Reading.networkOf]
  · simp [h, setMtu, Reading.networkOf]

theorem lastNetwork_map_setMtu (name : String) (mtu : Option ℤ) (networks : List NetworkDef)
    (network : String) :
    lastNetwork (networks.map (setMtu name mtu)) network =
      (lastNetwork networks network).map (setMtu name mtu) := by
  unfold lastNetwork
  rw [← List.map_reverse, List.find?_map]
  simp [Function.comp_def]

/-- An interface on the network gets its MTU, and the others stay. -/
theorem generateRouterInterface_setMtu (router : RouterDef) (networks : List NetworkDef)
    (i : InterfaceDef) (name : String) (mtu : Option ℤ) :
    generateRouterInterface router (networks.map (setMtu name mtu)) i =
      (generateRouterInterface router networks i).map fun generated =>
        retuned (mtu.getD 1500) (decide (i.name ≠ "lo" ∧ i.network = name), generated) := by
  unfold generateRouterInterface
  by_cases hlo : i.name = "lo"
  · simp [hlo, retuned]
  · rw [if_neg hlo, if_neg hlo, lastNetwork_map_setMtu]
    cases hnet : lastNetwork networks i.network with
    | none => rfl
    | some net =>
      have hname : net.name = i.network := by simpa using List.find?_some hnet
      rw [Option.map_some, Option.bind_some, Option.bind_some, Option.map_map]
      have hconnection : (setMtu name mtu net).connection router.name =
          net.connection router.name := by
        unfold setMtu; split <;> rfl
      rw [hconnection]
      refine congrArg (Option.map · _) (funext fun conn => ?_)
      by_cases hnetwork : i.network = name
      · simp [setMtu, retuned, networkInterface, hname, hnetwork, hlo, NetworkDef.linuxNetwork]
      · simp [setMtu, retuned, hname, hnetwork]

theorem generateRouterInterfaces_setMtu (topology : Topology) (router : RouterDef) (name : String)
    (mtu : Option ℤ) :
    generateRouterInterfaces router (topology.networkList.map (setMtu name mtu)) =
      (topology.interfacesOn name router).map (retuned (mtu.getD 1500)) := by
  unfold generateRouterInterfaces Topology.interfacesOn
  rw [List.map_filterMap]
  refine List.filterMap_congr fun i _ => ?_
  rw [generateRouterInterface_setMtu, Option.map_map]
  rfl

/-- The topology with an MTU for all networks of a name. -/
def Topology.withMtu (topology : Topology) (name : String) (mtu : Option ℤ) : Topology :=
  { topology with networks := topology.networks.map (List.map (setMtu name mtu)) }

theorem networkList_withMtu (topology : Topology) (name : String) (mtu : Option ℤ) :
    (topology.withMtu name mtu).networkList = topology.networkList.map (setMtu name mtu) := by
  obtain ⟨_ | networks, _, _, _⟩ := topology <;> rfl

/-! ## Variables that differ in MTUs -/

section

variable (topology : Topology) (network : String) (mtu mtu' : Option ℤ) (name : String) (v : Vars)

/-- The patches for a router, which give it the interfaces of each entry. -/
theorem patches_withMtu : (topology.withMtu network mtu).patches name =
    (topology.routerList.filter fun r => r.name = name).map fun r =>
      { (generateVyosRouter topology.networkList r).patch with
        interfaces := some ((topology.interfacesOn network r).map (retuned (mtu.getD 1500))) } := by
  rw [patches_eq]
  refine List.map_congr_left fun r _ => ?_
  rw [← generateRouterInterfaces_setMtu, ← networkList_withMtu]
  rfl

theorem patched_with_interfaces {β : Type} (f : β → SpecPatch) (g : β → List Interface)
    (entries : List β) :
    v.patched (entries.map fun r => { f r with interfaces := some (g r) }) =
      { v.patched (entries.map f) with
        interfaces := (entries.getLast?.map g).getD v.interfaces } := by
  simp only [Vars.patched, List.map_map, Function.comp_def, latest_map_some]

/-- The variables after the infrastructure, by the MTU of the network. -/
theorem patched_withMtu : v.patched ((topology.withMtu network mtu).patches name) =
    match topology.lastEntry name with
    | none => v
    | some r => (v.patched (topology.patches name)).retuned (topology.interfacesOn network r)
        (mtu.getD 1500) := by
  rw [patches_withMtu, patched_with_interfaces, patches_eq]
  unfold Topology.lastEntry Vars.retuned
  generalize topology.routerList.filter (fun r => r.name = name) = entries
  cases hlast : entries.getLast? with
  | some r => rfl
  | none =>
    rw [List.getLast?_eq_none_iff.mp hlast, List.map_nil, patched_nil]
    rfl

/-- Patches for different MTUs replace each other. -/
theorem sameShape_withMtu : SameShape ((topology.withMtu network mtu).patches name)
    ((topology.withMtu network mtu').patches name) := by
  rw [patches_withMtu, patches_withMtu]
  constructor <;> simp [List.map_map, Function.comp_def, latest_map_some]

end

/-! ## When the fault reaches the router -/

/-- The template configures an interface of that name of the router, which is on the network. -/
def Topology.Configures (topology : Topology) (router network interface : String) : Prop :=
  ∃ r ∈ topology.lastEntry router, ∃ p ∈ ethernets (topology.interfacesOn network r),
    p.2.name = interface ∧ p.1

/-- The MTU is another one, the interface on the network is configured, and what the router has is
what the infrastructure gives it when all networks of the name have the MTU that is saved. -/
def MtuReaches (rd : Reading) (nf : NetworkFailure) (c : Cluster) (routers : Routers) : Prop :=
  ∃ name spec l net, c.infrastructures.first = some (name, spec) ∧ spec.networks = some l ∧
    Operator.targetNetwork nf.target.router (nf.target.interface.getD "") l = some net ∧
    net.mtu.getD 1500 ≠ nf.parameters.mtu.getD 1400 ∧
    (rd.topology spec).Configures nf.target.router net.name (nf.target.interface.getD "") ∧
    (scriptOf routers nf.target.router).isSome ∧
    scriptOf (applyInfrastructure ((rd.topology spec).withMtu net.name net.mtu) routers)
      nf.target.router = scriptOf routers nf.target.router

section

variable {rd : Reading} {routers : Routers} {name : String} {spec : Spec}

theorem topology_withMtu {infra : InfrastructureSpec} {l : List Operator.Network}
    (hl : infra.networks = some l) (network : String) (mtu : Option ℤ) :
    rd.topology { infra with networks := some (Operator.withMtu network mtu l) } =
      (rd.topology infra).withMtu network mtu := by
  unfold Reading.topology Topology.withMtu
  simp [hl, map_networkOf_withMtu]

theorem scriptOf_applyInfrastructure (topology : Topology) (h : routers name = some spec) :
    scriptOf (applyInfrastructure topology routers) name =
      (spec.extravars.patched (topology.patches name)).script := by
  rw [scriptOf, applyInfrastructure_apply topology h, Option.bind_some, script_eq,
    extravars_foldl_patched]

/-- Applying an infrastructure again with another MTU for a network. -/
theorem scriptOf_withMtu_withMtu (topology : Topology) (network : String) (mtu mtu' : Option ℤ)
    (h : routers name = some spec) :
    scriptOf (applyInfrastructure (topology.withMtu network mtu')
      (applyInfrastructure (topology.withMtu network mtu) routers)) name =
        (spec.extravars.patched ((topology.withMtu network mtu').patches name)).script := by
  rw [scriptOf_applyInfrastructure _ (applyInfrastructure_apply _ h), extravars_foldl_patched,
    (sameShape_withMtu topology network mtu mtu' name).patched_patched]

/-- The default MTU need not be given. -/
theorem patched_withMtu_congr (topology : Topology) (network : String) {mtu mtu' : Option ℤ}
    (h : mtu.getD 1500 = mtu'.getD 1500) (v : Vars) :
    v.patched ((topology.withMtu network mtu).patches name) =
      v.patched ((topology.withMtu network mtu').patches name) := by
  rw [patched_withMtu, patched_withMtu, h]

theorem script_retuned (v : Vars) (l : List (Bool × Interface)) (mtu : ℤ) :
    (v.retuned l mtu).script =
      if v.Complete then some ((v.retuned l mtu).commands .update) else none := by
  unfold Vars.script
  refine if_congr ?_ rfl rfl
  exact ⟨fun h => ⟨h.rd, h.ospf, h.bgp, h.mpls⟩, fun h => ⟨h.rd, h.ospf, h.bgp, h.mpls⟩⟩

/-- The scripts for two MTUs differ about an interface. -/
theorem scripts_differ_iff (topology : Topology) (router network interface : String)
    (mtu mtu' : Option ℤ) (v : Vars) :
    (∃ before ∈ (v.patched ((topology.withMtu network mtu).patches router)).script,
      ∃ after ∈ (v.patched ((topology.withMtu network mtu').patches router)).script,
        after.filter (fun cmd => aboutInterface interface (commandPath cmd)) ≠
          before.filter fun cmd => aboutInterface interface (commandPath cmd)) ↔
      (v.patched ((topology.withMtu network mtu).patches router)).script.isSome ∧
        topology.Configures router network interface ∧ mtu.getD 1500 ≠ mtu'.getD 1500 := by
  rw [patched_withMtu, patched_withMtu]
  unfold Topology.Configures
  cases topology.lastEntry router with
  | none =>
    refine iff_of_false ?_ (by simp)
    rintro ⟨before, hbefore, after, hafter, hne⟩
    obtain rfl := Option.some.inj (hbefore.symm.trans hafter)
    exact hne rfl
  | some r =>
    simp only [script_retuned]
    split
    · simp only [Option.mem_def, Option.some.injEq, exists_eq_left', ne_eq,
        filter_commands_retuned_iff, Option.isSome_some, true_and, not_forall]
      constructor
      · rintro ⟨p, hp, hname, hon, hne⟩
        exact ⟨⟨p, hp, hname, hon⟩, Ne.symm hne⟩
      · rintro ⟨⟨p, hp, hname, hon⟩, hne⟩
        exact ⟨p, hp, hname, hon, Ne.symm hne⟩
    · simp

end

/-- What an MTU mismatch does: the handler finds the infrastructure with the new MTU, and after the
restoration with the saved one. -/
theorem mtu_faultReaches_iff {rd : Reading} {nf : NetworkFailure} {c injected : Cluster}
    {saved : OriginalState} {name : Operator.ResourceName} {infra : InfrastructureSpec}
    {l : List Operator.Network} {net : Operator.Network} (htype : nf.failureType = .mtuMismatch)
    (h : Operator.injectFailureOperator nf c = .ok (saved, injected))
    (hfirst : c.infrastructures.first = some (name, infra)) (hl : infra.networks = some l)
    (hnet : Operator.targetNetwork nf.target.router (nf.target.interface.getD "") l = some net)
    (routers : Routers) :
    FaultReaches rd nf saved injected routers ↔
      let faulty := applyInfrastructure
        ((rd.topology infra).withMtu net.name (some (nf.parameters.mtu.getD 1400))) routers
      ScriptsDiffer nf routers faulty ∧
      scriptOf (applyInfrastructure ((rd.topology infra).withMtu net.name
        (Operator.restoredMtu (net.mtu.getD 1500))) faulty) nf.target.router =
          scriptOf routers nf.target.router := by
  unfold Operator.injectFailureOperator at h
  rw [htype] at h
  obtain ⟨name', l', net', hname, hl', hnet', hsaved, rfl⟩ := Operator.injectMtuMismatch_ok_iff.mp h
  obtain rfl : name = name' := Option.some.inj ((congrArg (Option.map Prod.fst) hfirst).symm.trans hname)
  obtain rfl : l = l' := Option.some.inj
    (((Cluster.networks_get? hfirst).trans hl).symm.trans hl')
  obtain rfl : net = net' := Option.some.inj (hnet.symm.trans hnet')
  have hinfra : saved.infraName = some name := by rw [hsaved]
  have hpropagate (mtu : Option ℤ) (routers : Routers) :
      rd.propagate nf.failureType saved (Cluster.networks.set (Operator.withMtu net.name mtu l) c)
        routers = applyInfrastructure ((rd.topology infra).withMtu net.name mtu) routers := by
    unfold Reading.propagate
    rw [htype, ← topology_withMtu hl]
    simp only [hinfra, Option.bind_some, Cluster.get?_networks_set hfirst]
  have hrestore : Operator.restoreFailureOperator nf saved
      (Cluster.networks.set (Operator.withMtu net.name (some (nf.parameters.mtu.getD 1400)) l) c) =
        .ok (Cluster.networks.set
          (Operator.withMtu net.name (Operator.restoredMtu (net.mtu.getD 1500)) l) c) := by
    unfold Operator.restoreFailureOperator
    rw [htype, hsaved]
    refine (Operator.restoreMtuMismatch_of_name ((Cluster.infraName_set _).trans hname)
      (Cluster.networks.get?_set _ hl') (Operator.targetNetwork_name hnet)).trans ?_
    rw [Cluster.networks.set_set, Operator.withMtu_withMtu]
  unfold FaultReaches
  simp only [hpropagate, hrestore, Except.ok.injEq, forall_eq']

/-- **When an MTU mismatch reaches the router.** -/
theorem mtu_reaches_iff {rd : Reading} {nf : NetworkFailure} {c injected : Cluster}
    {saved : OriginalState} (htype : nf.failureType = .mtuMismatch)
    (h : Operator.injectFailureOperator nf c = .ok (saved, injected)) (routers : Routers) :
    FaultReaches rd nf saved injected routers ↔ MtuReaches rd nf c routers := by
  have hinject := h
  unfold Operator.injectFailureOperator at hinject
  rw [htype] at hinject
  obtain ⟨_, l, net, hname, hl, hnet, -, -⟩ := Operator.injectMtuMismatch_ok_iff.mp hinject
  obtain ⟨⟨name, infra⟩, hfirst, -⟩ := Option.map_eq_some_iff.mp hname
  rw [Cluster.networks_get? hfirst] at hl
  rw [mtu_faultReaches_iff htype h hfirst hl hnet]
  have habout : aboutTarget nf =
      fun cmd => aboutInterface (nf.target.interface.getD "") (commandPath cmd) := by
    funext cmd
    unfold aboutTarget
    rw [htype]
  have hrestored : (Operator.restoredMtu (net.mtu.getD 1500)).getD 1500 = net.mtu.getD 1500 := by
    unfold Operator.restoredMtu
    split
    · rename_i heq
      rw [heq]
      rfl
    · rfl
  unfold MtuReaches
  cases hrouter : routers nf.target.router with
  | none => simp [ScriptsDiffer, scriptOf, hrouter]
  | some spec =>
    have hdiffer := scripts_differ_iff (rd.topology infra) nf.target.router net.name
      (nf.target.interface.getD "") net.mtu (some (nf.parameters.mtu.getD 1400)) spec.extravars
    simp only [ScriptsDiffer, scriptOf_withMtu_withMtu _ _ _ _ hrouter,
      scriptOf_applyInfrastructure _ hrouter, patched_withMtu_congr _ _ hrestored, habout]
    constructor
    · rintro ⟨hreach, hsync⟩
      rw [← hsync, hdiffer] at hreach
      exact ⟨name, infra, l, net, hfirst, hl, hnet, hreach.2.2, hreach.2.1, hsync ▸ hreach.1, hsync⟩
    · rintro ⟨name', infra', l', net', hfirst', hl', hnet', hne, hconfigures, hsome, hsync⟩
      obtain ⟨rfl, rfl⟩ := Prod.mk.inj (Option.some.inj (hfirst.symm.trans hfirst'))
      obtain rfl := Option.some.inj (hl.symm.trans hl')
      obtain rfl := Option.some.inj (hnet.symm.trans hnet')
      refine ⟨?_, hsync⟩
      rw [← hsync] at hsome ⊢
      exact hdiffer.mpr ⟨hsome, hconfigures, hne⟩

end GnnSandbox.Vyos
