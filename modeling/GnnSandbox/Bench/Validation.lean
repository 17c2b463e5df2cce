import GnnSandbox.Bench.Loader
import Mathlib.Data.List.Dedup

/-!
# What an accepted twin satisfies

`validate_golden_twin` accepts a twin exactly when its ids match their patterns, the references
that it follows resolve, and the stored hash is that of the entities. The entity of a subnet
association is a reference that it does not follow.
-/

namespace GnnSandbox.Bench

namespace GoldenTwinEntities

/-- The ids of an entity table. -/
def ids (e : GoldenTwinEntities) : Table → List String
  | .physicalRouter => e.routers.map PhysicalRouter.id
  | .physicalInterface => e.interfaces.map PhysicalInterface.id
  | .physicalLink => e.links.map PhysicalLink.id
  | .device => e.devices.map Device.id
  | .logicalSubnet => e.subnets.map LogicalSubnet.id
  | .l3vpnService => e.l3vpnServices.map L3VPNService.id
  | .vrf => e.vrfs.map VRF.id
  | .bgpSession => e.bgpSessions.map BGPSession.id
  | .interfaceLink | .subnetAssociation => []

/-- The references that the validation follows. -/
structure Checked (e : GoldenTwinEntities) : Prop where
  interfaceRouter : ∀ i ∈ e.interfaces, i.routerId ∈ e.ids .physicalRouter
  edgeInterface : ∀ il ∈ e.interfaceLink, il.interfaceId ∈ e.ids .physicalInterface
  edgeLink : ∀ il ∈ e.interfaceLink, il.linkId ∈ e.ids .physicalLink
  linkEndpoints : ∀ id ∈ e.ids .physicalLink, Loader.endpoints e id = 2
  deviceInterface : ∀ d ∈ e.devices, ∀ id, Graph.truthy d.interfaceId = some id →
    id ∈ e.ids .physicalInterface
  associationSubnet : ∀ sa ∈ e.subnetAssociation, sa.subnetId ∈ e.ids .logicalSubnet
  vrfRouter : ∀ v ∈ e.vrfs, v.routerId ∈ e.ids .physicalRouter
  vrfVpn : ∀ v ∈ e.vrfs, v.vpnId ∈ e.ids .l3vpnService
  sessionVrf : ∀ b ∈ e.bgpSessions, b.vrfId ∈ e.ids .vrf

/-- Every id matches the pattern of its table. -/
def Patterned (e : GoldenTwinEntities) : Prop :=
  ∀ t, ∀ id ∈ e.ids t, Twin.matchesPattern t id = true

end GoldenTwinEntities

/-! ## What the checks find -/

namespace Loader

variable {env : Env} {e : GoldenTwinEntities}

/-- A check that reports one violation finds none when it holds. -/
theorem ite_nil {p : Prop} [Decidable p] {text : String} :
    (if p then [] else [text]) = [] ↔ p := by
  by_cases h : p
  · simp [h]
  · simp [h]

theorem checkIdPatterns_eq_nil : checkIdPatterns env e = [] ↔ e.Patterned := by
  have hpairs : checkIdPatterns env e = [] ↔
      ∀ p ∈ patternIds e, ∀ id ∈ p.2, Twin.matchesPattern p.1 id = true := by
    unfold checkIdPatterns
    rw [List.flatMap_eq_nil_iff]
    refine forall₂_congr fun p _ => ?_
    rw [List.map_eq_nil_iff, List.filter_eq_nil_iff]
    simp
  rw [hpairs]
  constructor
  · intro h t id hid
    cases t with
    | interfaceLink => rfl
    | subnetAssociation => rfl
    | _ => exact h (_, _) (by simp [patternIds]) id hid
  · intro h p hp
    have hids : p.2 = e.ids p.1 := by
      simp only [patternIds, List.mem_cons, List.not_mem_nil, or_false] at hp
      rcases hp with rfl | rfl | rfl | rfl | rfl | rfl | rfl | rfl <;> rfl
    rw [hids]
    exact h p.1

theorem checkReferentialIntegrity_eq_nil : checkReferentialIntegrity e = [] ↔ e.Checked := by
  unfold checkReferentialIntegrity
  simp only [List.append_eq_nil_iff, List.flatMap_eq_nil_iff, ite_nil, List.mem_dedup]
  constructor
  · rintro ⟨⟨⟨⟨⟨⟨hrouter, hedge⟩, hends⟩, hdevice⟩, hsubnet⟩, hvrf⟩, hsession⟩
    refine ⟨hrouter, fun il h => (hedge il h).1, fun il h => (hedge il h).2, hends,
      fun d hd id hid => ?_, hsubnet, fun v h => (hvrf v h).1, fun v h => (hvrf v h).2, hsession⟩
    have hnil := hdevice d hd
    rw [hid] at hnil
    exact ite_nil.mp hnil
  · intro h
    have hdevice : ∀ d ∈ e.devices, (Graph.truthy d.interfaceId).elim True
        fun id => id ∈ e.ids .physicalInterface := by
      intro d hd
      cases hid : Graph.truthy d.interfaceId with
      | none => trivial
      | some id => exact h.deviceInterface d hd id hid
    refine ⟨⟨⟨⟨⟨⟨h.interfaceRouter, fun il hil => ⟨h.edgeInterface il hil, h.edgeLink il hil⟩⟩,
      h.linkEndpoints⟩, fun d hd => ?_⟩, h.associationSubnet⟩,
      fun v hv => ⟨h.vrfRouter v hv, h.vrfVpn v hv⟩⟩, h.sessionVrf⟩
    have hid := hdevice d hd
    cases hinterface : Graph.truthy d.interfaceId with
    | none => rfl
    | some id =>
      rw [hinterface] at hid
      exact ite_nil.mpr hid

end Loader

/-- **What validation means.** -/
theorem validateGoldenTwin_eq_nil {env : Env} {twin : GoldenTwin} {checkHash : Bool} :
    validateGoldenTwin env twin checkHash = [] ↔
      twin.entities.Patterned ∧ twin.entities.Checked ∧
        (checkHash = true → ∀ stored, twin.contentHash = some stored →
          stored = env.contentHash twin.entities) := by
  have hhash : Loader.checkHash env twin = [] ↔ ∀ stored, twin.contentHash = some stored →
      stored = env.contentHash twin.entities := by
    unfold Loader.checkHash
    cases twin.contentHash with
    | none => simp
    | some stored => simp
  unfold validateGoldenTwin
  rw [List.append_eq_nil_iff, List.append_eq_nil_iff, Loader.checkIdPatterns_eq_nil,
    Loader.checkReferentialIntegrity_eq_nil, and_assoc]
  cases checkHash with
  | false => simp
  | true => simp [hhash]

/-! ## References -/

/-- The table of an `entity_type`; the associations of interfaces bear `Interface`. -/
def entityTable (entityType : String) : Option Table :=
  if entityType = "Interface" then some .physicalInterface else Table.ofName entityType

namespace GoldenTwinEntities

/-- The entity of a subnet association exists. -/
def NamesEntity (e : GoldenTwinEntities) (sa : SubnetAssociation) : Prop :=
  ∃ t, entityTable sa.entityType = some t ∧ sa.entityId ∈ e.ids t

/-- Every reference column of every table resolves. -/
structure Resolved (e : GoldenTwinEntities) : Prop where
  interfaceRouter : ∀ i ∈ e.interfaces, i.routerId ∈ e.ids .physicalRouter
  edgeInterface : ∀ il ∈ e.interfaceLink, il.interfaceId ∈ e.ids .physicalInterface
  edgeLink : ∀ il ∈ e.interfaceLink, il.linkId ∈ e.ids .physicalLink
  deviceInterface : ∀ d ∈ e.devices, ∀ id, d.interfaceId = some id → id ∈ e.ids .physicalInterface
  associationEntity : ∀ sa ∈ e.subnetAssociation, e.NamesEntity sa
  associationSubnet : ∀ sa ∈ e.subnetAssociation, sa.subnetId ∈ e.ids .logicalSubnet
  vrfRouter : ∀ v ∈ e.vrfs, v.routerId ∈ e.ids .physicalRouter
  vrfVpn : ∀ v ∈ e.vrfs, v.vpnId ∈ e.ids .l3vpnService
  sessionVrf : ∀ b ∈ e.bgpSessions, b.vrfId ∈ e.ids .vrf

/-- No id that matches its pattern is empty. -/
theorem Patterned.ne_empty {e : GoldenTwinEntities} (h : e.Patterned) {id : String}
    (hid : id ∈ e.ids .physicalInterface) : id ≠ "" := by
  rintro rfl
  exact absurd (h .physicalInterface "" hid) (by decide)

end GoldenTwinEntities

/-- **Which references an accepted twin may leave open**: all resolve exactly when the entities
of the subnet associations exist and no device has an empty interface id. -/
theorem references_resolve_iff (env : Env) (twin : GoldenTwin) (checkHash : Bool)
    (h : validateGoldenTwin env twin checkHash = []) :
    twin.entities.Resolved ↔
      (∀ sa ∈ twin.entities.subnetAssociation, twin.entities.NamesEntity sa) ∧
        ∀ d ∈ twin.entities.devices, d.interfaceId ≠ some "" := by
  obtain ⟨hpatterned, hchecked, -⟩ := validateGoldenTwin_eq_nil.mp h
  constructor
  · intro hresolved
    refine ⟨hresolved.associationEntity, fun d hd hempty => ?_⟩
    exact hpatterned.ne_empty (hresolved.deviceInterface d hd "" hempty) rfl
  · rintro ⟨hnames, hnonempty⟩
    refine ⟨hchecked.interfaceRouter, hchecked.edgeInterface, hchecked.edgeLink, ?_, hnames,
      hchecked.associationSubnet, hchecked.vrfRouter, hchecked.vrfVpn, hchecked.sessionVrf⟩
    intro d hd id hid
    refine hchecked.deviceInterface d hd id (Graph.truthy_eq_some.mpr ⟨hid, ?_⟩)
    rintro rfl
    exact hnonempty d hd hid

/-- The sample with a subnet on which an interface is. -/
def GoldenTwin.associated (entityId : String) : GoldenTwin :=
  { GoldenTwin.sample with
    entities :=
      { GoldenTwin.sample.entities with
        subnets := [⟨"subnet:lan", "10.0.0.0/24", some "lan", none, none, none⟩]
        subnetAssociation := [⟨entityId, "subnet:lan", "Interface"⟩] } }

theorem references_resolve_associated :
    (GoldenTwin.associated "router:pe1:interface:eth0").entities.Resolved := by
  refine (references_resolve_iff .plain (.associated "router:pe1:interface:eth0") true
    (by decide +kernel)).mpr ⟨?_, by decide⟩
  intro sa hsa
  rw [List.mem_singleton.mp hsa]
  exact ⟨.physicalInterface, rfl, by decide⟩

/-- An association of an interface that no router has is accepted. -/
theorem dangling_association_accepted :
    (GoldenTwin.associated "router:pe9:interface:eth0").Valid .plain ∧
      ¬(GoldenTwin.associated "router:pe9:interface:eth0").entities.Resolved := by
  refine ⟨by decide +kernel, fun h => ?_⟩
  obtain ⟨t, htable, hid⟩ := h.associationEntity _ (List.mem_singleton_self _)
  obtain rfl : .physicalInterface = t := Option.some.inj htable
  exact absurd hid (by decide)

end GnnSandbox.Bench
