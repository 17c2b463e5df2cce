import GnnSandbox.Bench.Env

/-!
# Validating a golden twin

`validate_golden_twin` collects every violation of the id patterns and of the references
between the tables.
-/

namespace GnnSandbox.Bench

namespace Loader

variable (env : Env)

/-- The ids of a table as its pattern is checked, in the order of `ID_PATTERNS`. -/
def patternIds (e : GoldenTwinEntities) : List (Table × List String) :=
  [(.physicalRouter, e.routers.map PhysicalRouter.id),
    (.physicalInterface, e.interfaces.map PhysicalInterface.id),
    (.physicalLink, e.links.map PhysicalLink.id), (.device, e.devices.map Device.id),
    (.l3vpnService, e.l3vpnServices.map L3VPNService.id), (.vrf, e.vrfs.map VRF.id),
    (.bgpSession, e.bgpSessions.map BGPSession.id),
    (.logicalSubnet, e.subnets.map LogicalSubnet.id)]

/-- `_check_id_patterns` -/
def checkIdPatterns (e : GoldenTwinEntities) : List String :=
  (patternIds e).flatMap fun (t, ids) =>
    (ids.filter fun id => !Twin.matchesPattern t id).map fun id =>
      t.name ++ " id violates convention: " ++ env.repr (.str id)

/-- The endpoints of a link. -/
def endpoints (e : GoldenTwinEntities) (linkId : String) : ℕ :=
  (e.interfaceLink.filter fun il => il.linkId = linkId).length

/-- `_check_referential_integrity` -/
def checkReferentialIntegrity (e : GoldenTwinEntities) : List String :=
  let routerIds := e.routers.map PhysicalRouter.id
  let interfaceIds := e.interfaces.map PhysicalInterface.id
  let linkIds := e.links.map PhysicalLink.id
  let subnetIds := e.subnets.map LogicalSubnet.id
  let vpnIds := e.l3vpnServices.map L3VPNService.id
  let vrfIds := e.vrfs.map VRF.id
  (e.interfaces.flatMap fun i =>
    if i.routerId ∈ routerIds then [] else
      ["PhysicalInterface " ++ i.id ++ " references unknown router_id " ++ i.routerId]) ++
  (e.interfaceLink.flatMap fun il =>
    (if il.interfaceId ∈ interfaceIds then [] else
      ["Interface_Link references unknown interface_id " ++ il.interfaceId]) ++
    (if il.linkId ∈ linkIds then [] else
      ["Interface_Link references unknown link_id " ++ il.linkId])) ++
  (linkIds.dedup.flatMap fun id =>
    if endpoints e id = 2 then [] else
      ["PhysicalLink " ++ id ++ " has " ++ toString (endpoints e id) ++ " endpoints, expected 2"]) ++
  (e.devices.flatMap fun d =>
    match Graph.truthy d.interfaceId with
    | some id => if id ∈ interfaceIds then [] else
        ["Device " ++ d.id ++ " references unknown interface_id " ++ id]
    | none => []) ++
  (e.subnetAssociation.flatMap fun sa =>
    if sa.subnetId ∈ subnetIds then [] else
      ["Subnet_Association references unknown subnet_id " ++ sa.subnetId]) ++
  (e.vrfs.flatMap fun v =>
    (if v.routerId ∈ routerIds then [] else
      ["VRF " ++ v.id ++ " references unknown router_id " ++ v.routerId]) ++
    (if v.vpnId ∈ vpnIds then [] else
      ["VRF " ++ v.id ++ " references unknown vpn_id " ++ v.vpnId])) ++
  (e.bgpSessions.flatMap fun b =>
    if b.vrfId ∈ vrfIds then [] else
      ["BGPSession " ++ b.id ++ " references unknown vrf_id " ++ b.vrfId])

/-- The check of the stored hash, when there is one. -/
def checkHash (twin : GoldenTwin) : List String :=
  match twin.contentHash with
  | none => []
  | some stored =>
    if stored = env.contentHash twin.entities then [] else
      ["content_hash mismatch: stored=" ++ stored ++ " expected=" ++
        env.contentHash twin.entities]

end Loader

open Loader

/-- `validate_golden_twin`: the violations that it finds; it raises when there is one. -/
def validateGoldenTwin (env : Env) (twin : GoldenTwin) (checkHash : Bool) : List String :=
  checkIdPatterns env twin.entities ++ checkReferentialIntegrity twin.entities ++
    if checkHash then Loader.checkHash env twin else []

/-- The twin is accepted. -/
def GoldenTwin.Valid (env : Env) (twin : GoldenTwin) : Prop := validateGoldenTwin env twin true = []

instance (env : Env) (twin : GoldenTwin) : Decidable (twin.Valid env) :=
  inferInstanceAs (Decidable (_ = []))

/-- A router with an interface, and a device behind it. -/
def GoldenTwin.sample : GoldenTwin where
  capturedAt := "2026-01-01T00:00:00Z"
  contentHash := none
  entities :=
    { routers := [⟨"router:pe1", "pe1", some "VyOS", none, none, none, none, some "PE",
        some "Running", none⟩]
      interfaces := [⟨"router:pe1:interface:eth0", "router:pe1", "eth0", some "1G", none, none,
        none, some "UP"⟩]
      links := []
      interfaceLink := []
      devices := [⟨"device:dev1", "dev1", some "router:pe1:interface:eth0", none, none, none, none,
        none, some "Ready", none⟩]
      subnets := []
      subnetAssociation := []
      l3vpnServices := []
      vrfs := []
      bgpSessions := [] }

theorem GoldenTwin.sample_valid : GoldenTwin.sample.Valid .plain := by
  decide +kernel

end GnnSandbox.Bench
