import GnnSandbox.Vyos.Effects
import GnnSandbox.Vyos.Refresh

/-!
# Well-formed scripts

VyOS refuses a whole commit when it mentions a VRF that it does not create. A script is well formed
when every VRF of an interface, of a static route and of BGP is created in it, by the command with
its table. `wellFormed_of_closed` says this of the script of variables in which the names of VRFs
refer to the declared ones.
-/

namespace GnnSandbox.Vyos

open MergePatch

/-! ## Scripts -/

/-- The VRF that a path mentions as the one of an interface or of a protocol. -/
def mentionedVrf : Path → Option String
  | ["interfaces", "ethernet", _, "vrf", vrf] => some vrf
  | ["interfaces", "ethernet", _, "vif", _, "vrf", vrf] => some vrf
  | "vrf" :: "name" :: vrf :: "protocols" :: _ => some vrf
  | _ => none

/-- Every VRF that the script mentions is created in it. -/
def WellFormed (script : List Command) : Prop :=
  ∀ p, .set p ∈ script → ∀ vrf ∈ mentionedVrf p,
    ∃ table, .set ["vrf", "name", vrf, "table", table] ∈ script

/-- The names of the declared VRFs. -/
def Vars.vrfNames (v : Vars) : List String := v.vrfs.map (·.name)

/-- The VRFs of interfaces, static routes and BGP are declared ones. -/
structure Vars.Closed (v : Vars) : Prop where
  interfaces : ∀ i ∈ v.ethernets, ∀ vrf ∈ i.vrf, vrf ∈ v.vrfNames
  routes : ∀ r ∈ v.routes, r.via.isSome = true → ∀ vrf ∈ r.vrf, vrf ∈ v.vrfNames
  bgpVrfs : ∀ b ∈ v.bgpVrfs, b.name ∈ v.vrfNames

section Mentioned

variable {v : Vars} {p : Path} {vrf : String}

theorem mentionedVrf_node (i : Interface) {leaf : Path} (h : mentionedVrf (i.node ++ leaf) = some vrf)
    (hleaf : "vif" ∉ leaf.head?) : leaf = ["vrf", vrf] := by
  unfold Interface.node at h
  cases hi : i.vlan with
  | none =>
    rw [hi] at h
    change mentionedVrf ("interfaces" :: "ethernet" :: i.name :: leaf) = some vrf at h
    unfold mentionedVrf at h
    split at h <;> simp_all
  | some vlan =>
    rw [hi] at h
    change mentionedVrf ("interfaces" :: "ethernet" :: i.name :: "vif" :: toString vlan :: leaf) =
      some vrf at h
    unfold mentionedVrf at h
    split at h <;> simp_all

theorem mentioned_ethernet {i : Interface} (hp : p ∈ ethernetSets i)
    (h : mentionedVrf p = some vrf) : i.vrf = some vrf := by
  obtain ⟨leaf, rfl, hleaf⟩ := ethernetSets_root hp
  obtain rfl := mentionedVrf_node i h hleaf
  rcases mem_ethernetSets.mp hp with h | h | h | h | ⟨vrf', hvrf, h⟩ | ⟨-, h⟩
  all_goals have h := List.append_cancel_left h
  all_goals simp_all

theorem mentioned_interface (hp : p ∈ v.interfaceSets) (h : mentionedVrf p = some vrf) :
    ∃ i ∈ v.ethernets, i.vrf = some vrf := by
  unfold Vars.interfaceSets at hp
  simp only [List.mem_append, List.mem_flatMap] at hp
  rcases hp with ((⟨parent, -, hp⟩ | ⟨i, hi, hp⟩) | ⟨i, hi, hp⟩) | ⟨i, -, hp⟩
  · rcases List.mem_pair.mp hp with rfl | rfl <;> cases h
  · exact ⟨i, mem_ethernets.mpr (.inl hi), mentioned_ethernet hp h⟩
  · exact ⟨i, mem_ethernets.mpr (.inr hi), mentioned_ethernet hp h⟩
  · rcases List.mem_pair.mp hp with rfl | rfl <;> cases h

/-- A path below a VRF mentions that VRF if any. -/
theorem mentioned_below {name : String} (hp : ["vrf", "name", name] <+: p)
    (h : mentionedVrf p = some vrf) : vrf = name := by
  obtain ⟨rest, rfl⟩ := hp
  unfold mentionedVrf at h
  split at h <;> simp_all

theorem mentioned_route {r : Route} (hp : p ∈ routeSets r) (h : mentionedVrf p = some vrf) :
    r.via.isSome = true ∧ r.vrf = some vrf := by
  unfold routeSets at hp
  cases hvia : r.via with
  | none =>
    rw [hvia] at hp
    cases hp
  | some via =>
    rw [hvia] at hp
    refine ⟨rfl, ?_⟩
    obtain rfl := List.mem_singleton.mp hp
    cases hvrf : r.vrf with
    | none =>
      rw [hvrf] at h
      cases h
    | some vrf' =>
      rw [hvrf] at h
      exact congrArg some (mentioned_below ⟨_, rfl⟩ h).symm

theorem mentioned_bgp (hp : p ∈ v.bgpSets) (h : mentionedVrf p = some vrf) :
    ∃ b ∈ v.bgpVrfs, b.name = vrf := by
  rcases bgpSets_below hp with ⟨rest, rfl⟩ | ⟨b, hb, hbelow⟩
  · cases h
  · exact ⟨b, hb, (mentioned_below hbelow h).symm⟩

/-- A setting mentions a declared VRF, or the one of an interface, a route or BGP. -/
theorem mentioned_cases (htraffic : v.trafficPolicy = none) (hp : p ∈ v.sets)
    (h : mentionedVrf p = some vrf) :
    (∃ i ∈ v.ethernets, i.vrf = some vrf) ∨ vrf ∈ v.vrfNames ∨
      (∃ r ∈ v.routes, r.via.isSome = true ∧ r.vrf = some vrf) ∨ ∃ b ∈ v.bgpVrfs, b.name = vrf := by
  rcases mem_section htraffic hp with
    ⟨rest, rfl | rfl | ⟨-, ⟨w, hw, hp⟩ | ⟨r, hr, hp⟩ | hp⟩⟩ | ⟨-, hp⟩ | ⟨⟨rest, rfl⟩, -⟩ |
    ⟨⟨rest, rfl⟩, -⟩ | ⟨⟨rest, rfl⟩, -⟩ | ⟨⟨rest, rfl⟩, -⟩ | ⟨⟨rest, rfl⟩, -⟩ |
    ⟨⟨rest, rfl⟩, -⟩ | ⟨⟨rest, rfl⟩, -⟩
  · cases h
  · cases h
  · rw [mentioned_below (vrfSets_below hp) h]
    exact .inr (.inl (List.mem_map_of_mem hw))
  · exact .inr (.inr (.inl ⟨r, hr, mentioned_route hp h⟩))
  · exact .inr (.inr (.inr (mentioned_bgp hp h)))
  · exact .inl (mentioned_interface hp h)
  all_goals cases h

/-- The script of variables whose VRFs are declared is well formed. -/
theorem wellFormed_of_closed (htraffic : v.trafficPolicy = none) (h : v.Closed) (mode : Mode) :
    WellFormed (v.commands mode) := by
  have hset : ∀ p, .set p ∈ v.commands mode ↔ p ∈ v.sets := by
    intro p
    unfold Vars.commands
    cases mode <;> simp
  intro p hp vrf hvrf
  have hname : vrf ∈ v.vrfNames := by
    rcases mentioned_cases htraffic ((hset p).mp hp) hvrf with
      ⟨i, hi, hi'⟩ | hname | ⟨r, hr, hvia, hr'⟩ | ⟨b, hb, rfl⟩
    · exact h.interfaces i hi vrf hi'
    · exact hname
    · exact h.routes r hr hvia vrf hr'
    · exact h.bgpVrfs b hb
  obtain ⟨w, hw, rfl⟩ := List.mem_map.mp hname
  refine ⟨toString w.table, (hset _).mpr (mem_sets.mpr (.inr (.inr (.inl ⟨w, hw, ?_⟩))))⟩
  unfold Vars.vrfSets
  simp

end Mentioned

end GnnSandbox.Vyos
