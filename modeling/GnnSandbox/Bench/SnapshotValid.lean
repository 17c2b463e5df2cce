import GnnSandbox.Bench.Snapshot
import GnnSandbox.Bench.Validation

/-!
# Snapshots and validation

The builders derive ids from names independently of each other. Names without colons keep
the parts of an id apart, and documents whose references resolve give tables whose references
resolve; what can still be wrong with an id is that a part of it is empty or breaks a line.
-/

namespace GnnSandbox.Bench

open Snapshot

/-! ## Ids -/

namespace Twin

/-- The first part of an id. -/
theorem segments_append {a : String} (h : ':' ∉ a.toList) (rest : String) :
    segments (a ++ (":" ++ rest)) = a.toList :: segments rest := by
  unfold segments
  rw [String.toList_append, String.toList_append]
  exact List.splitOn_append_cons_self_of_not_mem h _

theorem segments_single {a : String} (h : ':' ∉ a.toList) : segments a = [a.toList] :=
  List.splitOn_eq_singleton h

theorem segments_ne_nil (a : String) : segments a ≠ [] := List.splitOn_ne_nil ':' _

/-- The parts of an id make the id. -/
theorem intercalate_segments (a : String) : [':'].intercalate (segments a) = a.toList :=
  List.intercalate_splitOn ':'

/-- `.+$` -/
def oneLine (s : String) : Bool := dotPlus s.toList

theorem toList_ne_nil {a : String} : a.toList ≠ [] ↔ a ≠ "" := by
  rw [ne_eq, ne_eq, String.toList_eq_nil_iff]

section Matches

variable {a b c : String}

theorem isNamed_iff {kind start : String} (hstart : kind ++ ":" = start) (hkind : ':' ∉ kind.toList)
    (ha : ':' ∉ a.toList) : isNamed kind (start ++ a) = true ↔ a ≠ "" := by
  unfold isNamed
  rw [← hstart, String.append_assoc, segments_append hkind, segments_single ha, ← toList_ne_nil]
  simp

theorem matches_router (ha : ':' ∉ a.toList) :
    matchesPattern .physicalRouter (Snapshot.routerId a) = true ↔ a ≠ "" :=
  isNamed_iff rfl (by decide) ha

theorem matches_link (ha : ':' ∉ a.toList) :
    matchesPattern .physicalLink ("link:" ++ a) = true ↔ a ≠ "" :=
  isNamed_iff rfl (by decide) ha

theorem matches_device (ha : ':' ∉ a.toList) :
    matchesPattern .device ("device:" ++ a) = true ↔ a ≠ "" :=
  isNamed_iff rfl (by decide) ha

theorem matches_vpn (ha : ':' ∉ a.toList) :
    matchesPattern .l3vpnService (vpnId a) = true ↔ a ≠ "" :=
  isNamed_iff rfl (by decide) ha

theorem segments_interface (ha : ':' ∉ a.toList) (hb : ':' ∉ b.toList) :
    segments (Snapshot.interfaceId a b) =
      ["router".toList, a.toList, "interface".toList, b.toList] := by
  have hid : Snapshot.interfaceId a b =
      "router" ++ (":" ++ (a ++ (":" ++ ("interface" ++ (":" ++ b))))) := by
    have hrouter : "router" ++ ":" = "router:" := rfl
    have hinterface : ":" ++ "interface" ++ ":" = ":interface:" := rfl
    unfold Snapshot.interfaceId Snapshot.routerId
    rw [← hrouter, ← hinterface]
    simp only [String.append_assoc]
  rw [hid, segments_append (by decide), segments_append ha, segments_append (by decide),
    segments_single hb]

theorem matches_interface (ha : ':' ∉ a.toList) (hb : ':' ∉ b.toList) :
    matchesPattern .physicalInterface (Snapshot.interfaceId a b) = true ↔ a ≠ "" ∧ b ≠ "" := by
  simp only [matchesPattern, segments_interface ha hb, decide_eq_true_eq, toList_ne_nil, true_and]

theorem matches_vrf (ha : ':' ∉ a.toList) (hb : ':' ∉ b.toList) :
    matchesPattern .vrf (vrfId a b) = true ↔ a ≠ "" ∧ b ≠ "" := by
  have hseg : segments (vrfId a b) = ["vrf".toList, a.toList, b.toList] := by
    have hid : vrfId a b = "vrf" ++ (":" ++ (a ++ (":" ++ b))) := by
      have hkind : "vrf" ++ ":" = "vrf:" := rfl
      unfold vrfId
      rw [← hkind, String.append_assoc]
    rw [hid, segments_append (by decide), segments_append ha, segments_single hb]
  simp only [matchesPattern, hseg, decide_eq_true_eq, toList_ne_nil, true_and]

theorem matches_subnet :
    matchesPattern .logicalSubnet ("subnet:" ++ a) = true ↔ oneLine a = true := by
  have hseg : segments ("subnet:" ++ a) = "subnet".toList :: segments a := by
    have hid : "subnet:" ++ a = "subnet" ++ (":" ++ a) := by
      rw [← String.append_assoc]
      rfl
    rw [hid, segments_append (by decide)]
  simp only [matchesPattern, hseg, intercalate_segments, decide_eq_true_eq, true_and]
  exact and_iff_right (segments_ne_nil a)

theorem matches_session (ha : ':' ∉ a.toList) (hb : ':' ∉ b.toList) :
    matchesPattern .bgpSession ("bgp:" ++ (a ++ (":" ++ (b ++ (":" ++ c))))) = true ↔
      a ≠ "" ∧ b ≠ "" ∧ oneLine c = true := by
  have hseg : segments ("bgp:" ++ (a ++ (":" ++ (b ++ (":" ++ c))))) =
      "bgp".toList :: a.toList :: b.toList :: segments c := by
    have hid : "bgp:" ++ (a ++ (":" ++ (b ++ (":" ++ c)))) =
        "bgp" ++ (":" ++ (a ++ (":" ++ (b ++ (":" ++ c))))) := by
      have hkind : "bgp" ++ ":" = "bgp:" := rfl
      rw [← hkind, String.append_assoc]
    rw [hid, segments_append (by decide), segments_append ha, segments_append hb]
  simp only [matchesPattern, hseg, intercalate_segments, decide_eq_true_eq, toList_ne_nil, true_and]
  exact and_congr_right fun _ => and_congr_right fun _ => and_iff_right (segments_ne_nil c)

end Matches

end Twin

/-! ## Documents that fit together -/

section Documents

variable (infra : List InfrastructureDoc) (vpns : List L3vpnDoc)

def allRouters : List RouterDoc := infra.flatMap InfrastructureDoc.routers

def allNetworks : List NetworkDoc := infra.flatMap InfrastructureDoc.networks

def allDevices : List DeviceDoc := infra.flatMap InfrastructureDoc.devices

def allServices : List ServiceDoc := vpns.flatMap L3vpnDoc.services

def allVpnRouters : List VpnRouterDoc := vpns.flatMap L3vpnDoc.routers

/-- The names are unique and contain no colon. -/
def Distinct (names : List String) : Prop := names.Nodup ∧ ∀ name ∈ names, ':' ∉ name.toList

/-- Names are unique and without colons, and what a document refers to exists. -/
structure WellNamed : Prop where
  routers : Distinct ((allRouters infra).map RouterDoc.name)
  interfaces : ∀ r ∈ allRouters infra, Distinct (r.interfaces.map InterfaceDoc.name)
  networks : Distinct ((allNetworks infra).map NetworkDoc.name)
  devices : Distinct ((allDevices infra).map DeviceDoc.name)
  services : Distinct ((allServices vpns).map ServiceDoc.name)
  vrfs : ∀ router ∈ allVpnRouters vpns, Distinct (router.vrfs.map VrfDoc.name)
  connected : ∀ n ∈ allNetworks infra, ∀ cr ∈ n.connectedRouters,
    ∃ r ∈ allRouters infra, r.name = cr.routerName ∧ ∃ i ∈ r.interfaces, i.name = cr.interface
  vpnRouter : ∀ router ∈ allVpnRouters vpns, ∃ r ∈ allRouters infra, r.name = router.name
  vrfService : ∀ router ∈ allVpnRouters vpns, ∀ v ∈ router.vrfs,
    ∃ svc ∈ allServices vpns, svc.name = v.name
  bgpVrf : ∀ router ∈ allVpnRouters vpns, ∀ b ∈ router.bgpVrfs,
    ∃ same ∈ allVpnRouters vpns, same.name = router.name ∧ ∃ v ∈ same.vrfs, v.name = b.name

/-- No part of an id is empty, and none of those that may hold colons breaks a line. -/
structure Spelled : Prop where
  routers : ∀ r ∈ allRouters infra, r.name ≠ ""
  interfaces : ∀ r ∈ allRouters infra, ∀ i ∈ r.interfaces, i.name ≠ ""
  networks : ∀ n ∈ allNetworks infra, n.networkType ≠ some "loopback" → Twin.oneLine n.name = true
  loopbacks : ∀ n ∈ allNetworks infra, n.networkType = some "loopback" → ∀ r ∈ allRouters infra,
    ∀ p, buildLoopback n r = some p → Twin.oneLine p.1.cidr = true
  devices : ∀ d ∈ allDevices infra, d.name ≠ ""
  services : ∀ svc ∈ allServices vpns, svc.name ≠ ""
  peers : ∀ router ∈ allVpnRouters vpns, ∀ b ∈ router.bgpVrfs, ∀ neighbor ∈ b.neighbors,
    Twin.oneLine (neighbor.peer.getD "None") = true

end Documents

namespace Snapshot

variable {env : Env} {infra : List InfrastructureDoc} {vpns : List L3vpnDoc}

/-! ## Services -/

/-- The names in the dictionary of services. -/
theorem mem_putService (id : String) {services : List L3VPNService} {svc : L3VPNService}
    (hid : ∀ s ∈ services, s.id = vpnId s.name) (hsvc : svc.id = vpnId svc.name) :
    (∀ s ∈ putService services svc, s.id = vpnId s.name) ∧
      (id ∈ (putService services svc).map L3VPNService.id ↔
        id ∈ services.map L3VPNService.id ∨ id = svc.id) := by
  unfold putService
  split
  · next hany =>
    obtain ⟨old, hold, hname⟩ := List.any_eq_true.mp hany
    have hname : old.name = svc.name := of_decide_eq_true hname
    have hids : (services.map fun s => if s.name = svc.name then svc else s).map L3VPNService.id =
        services.map L3VPNService.id := by
      rw [List.map_map]
      refine List.map_congr_left fun s hs => ?_
      show (if s.name = svc.name then svc else s).id = s.id
      split
      · next heq => rw [hsvc, hid s hs, heq]
      · rfl
    constructor
    · intro s hs
      obtain ⟨s', hs', rfl⟩ := List.mem_map.mp hs
      split
      · exact hsvc
      · exact hid s' hs'
    · rw [hids]
      refine ⟨.inl, fun h => ?_⟩
      rcases h with h | rfl
      · exact h
      · rw [hsvc, ← hname, ← hid old hold]
        exact List.mem_map_of_mem hold
  · constructor
    · intro s hs
      rcases List.mem_append.mp hs with hs | hs
      · exact hid s hs
      · rw [List.mem_singleton.mp hs]
        exact hsvc
    · rw [List.map_append, List.mem_append, List.map_singleton, List.mem_singleton]

/-- The dictionary has the services of all documents. -/
theorem mem_services {services : List ServiceDoc} {id : String} :
    id ∈ ((services.map buildService).foldl putService []).map L3VPNService.id ↔
      ∃ svc ∈ services, vpnId svc.name = id := by
  have hfold : ∀ start : List L3VPNService, (∀ s ∈ start, s.id = vpnId s.name) →
      (id ∈ ((services.map buildService).foldl putService start).map L3VPNService.id ↔
        id ∈ start.map L3VPNService.id ∨ ∃ svc ∈ services, vpnId svc.name = id) := by
    induction services with
    | nil => intro start _; simp
    | cons svc services ih =>
      intro start hstart
      obtain ⟨hkeeps, hmem⟩ := mem_putService id hstart (rfl : (buildService svc).id = vpnId svc.name)
      rw [List.map_cons, List.foldl_cons, ih _ hkeeps, hmem, or_assoc]
      refine or_congr_right ?_
      show id = vpnId svc.name ∨ _ ↔ _
      simp [eq_comm]
  rw [hfold [] (fun _ h => nomatch h)]
  simp

/-! ## Links -/

theorem linkId_inj {n n' : NetworkDoc} (h : linkId n = linkId n') : n.name = n'.name :=
  Graph.append_right_inj h

/-- A name picks one network. -/
theorem filter_name {nets : List NetworkDoc} (hnodup : (nets.map NetworkDoc.name).Nodup)
    {n : NetworkDoc} (hn : n ∈ nets) : nets.filter (fun m => m.name = n.name) = [n] := by
  induction nets with
  | nil => cases hn
  | cons m nets ih =>
    rw [List.map_cons] at hnodup
    obtain ⟨hfresh, hrest⟩ := List.nodup_cons.mp hnodup
    rcases List.mem_cons.mp hn with rfl | hn
    · have hnone : nets.filter (fun m => m.name = n.name) = [] := by
        refine List.filter_eq_nil_iff.mpr fun m hm heq => hfresh ?_
        rw [← of_decide_eq_true heq]
        exact List.mem_map_of_mem hm
      rw [List.filter_cons_of_pos (by simp), hnone]
    · have hne : m.name ≠ n.name := fun heq => hfresh (heq ▸ List.mem_map_of_mem hn)
      rw [List.filter_cons_of_neg (by simpa using hne)]
      exact ih hrest hn

/-- The edges of a network are those that name its link. -/
theorem edges_of_link {nets : List NetworkDoc} (hnodup : (nets.map NetworkDoc.name).Nodup)
    {n : NetworkDoc} (hn : n ∈ nets) :
    (nets.flatMap buildEdges).filter (fun il => il.linkId = linkId n) = buildEdges n := by
  have hlinks : ∀ n' : NetworkDoc, ∀ il ∈ buildEdges n', il.linkId = linkId n' := by
    intro n' il hil
    obtain ⟨cr, -, rfl⟩ := List.mem_map.mp hil
    rfl
  have hother : ∀ n' : NetworkDoc, n'.name ≠ n.name →
      (buildEdges n').filter (fun il => il.linkId = linkId n) = [] := by
    intro n' hne
    refine List.filter_eq_nil_iff.mpr fun il hil heq => hne ?_
    exact linkId_inj ((hlinks n' il hil).symm.trans (of_decide_eq_true heq))
  induction nets with
  | nil => cases hn
  | cons n' nets ih =>
    rw [List.map_cons] at hnodup
    obtain ⟨hfresh, hrest⟩ := List.nodup_cons.mp hnodup
    rw [List.flatMap_cons, List.filter_append]
    rcases List.mem_cons.mp hn with rfl | hn
    · have hself : (buildEdges n).filter (fun il => il.linkId = linkId n) = buildEdges n :=
        List.filter_eq_self.mpr fun il hil => decide_eq_true (hlinks n il hil)
      have hnone : (nets.flatMap buildEdges).filter (fun il => il.linkId = linkId n) = [] := by
        rw [List.filter_flatMap, List.flatMap_eq_nil_iff]
        refine fun m hm => hother m fun heq => hfresh ?_
        rw [← heq]
        exact List.mem_map_of_mem hm
      rw [hself, hnone, List.append_nil]
    · have hne : n'.name ≠ n.name := fun heq => hfresh (heq ▸ List.mem_map_of_mem hn)
      rw [hother n' hne, List.nil_append]
      exact ih hrest hn

/-- A network that is a link gives one link. -/
theorem links_of_network {nets : List NetworkDoc} (hnodup : (nets.map NetworkDoc.name).Nodup)
    {n : NetworkDoc} (hn : n ∈ nets) (hlink : isLink n = true) :
    ((nets.filter isLink).map buildLink).filter (fun l => l.id = linkId n) = [buildLink n] := by
  have hname : (fun l : PhysicalLink => decide (l.id = linkId n)) ∘ buildLink =
      fun m => decide (m.name = n.name) := by
    funext m
    exact decide_eq_decide.mpr ⟨linkId_inj, congrArg ("link:" ++ ·)⟩
  have hpick : (nets.filter isLink).filter (fun m => m.name = n.name) = [n] := by
    rw [List.filter_comm, filter_name hnodup hn, List.filter_singleton, hlink]
    rfl
  rw [List.filter_map, hname, hpick]
  rfl

/-- Another network gives none. -/
theorem links_of_other {nets : List NetworkDoc} (hnodup : (nets.map NetworkDoc.name).Nodup)
    {n : NetworkDoc} (hn : n ∈ nets) (hlink : isLink n = false) :
    ((nets.filter isLink).map buildLink).filter (fun l => l.id = linkId n) = [] := by
  rw [List.filter_eq_nil_iff]
  intro l hl heq
  obtain ⟨m, hm, rfl⟩ := List.mem_map.mp hl
  obtain ⟨hm, hmlink⟩ := List.mem_filter.mp hm
  have hsame : m = n :=
    List.inj_on_of_nodup_map hnodup hm hn (linkId_inj (of_decide_eq_true heq))
  rw [hsame, hlink] at hmlink
  cases hmlink

theorem length_buildEdges {n : NetworkDoc} (h : isLink n = true) : (buildEdges n).length = 2 := by
  have hlink : n.networkType = some "p2p" ∧ n.connectedRouters.length = 2 := of_decide_eq_true h
  exact (List.length_map _).trans hlink.2

/-! ## The ids of the entities -/

section Ids

theorem mem_routerIds {r : RouterDoc} (hr : r ∈ allRouters infra) :
    routerId r.name ∈ (buildEntities env infra vpns).ids .physicalRouter := by
  show _ ∈ ((allRouters infra).map buildRouter).map PhysicalRouter.id
  rw [List.map_map]
  exact List.mem_map.mpr ⟨r, hr, rfl⟩

theorem mem_interfaceIds {id : String} :
    id ∈ (buildEntities env infra vpns).ids .physicalInterface ↔
      ∃ r ∈ allRouters infra, ∃ i ∈ r.interfaces, interfaceId r.name i.name = id := by
  show id ∈ (buildInterfaces env (allRouters infra) (allNetworks infra)).map _ ↔ _
  unfold buildInterfaces
  rw [List.map_flatMap]
  simp only [List.mem_flatMap, List.map_map, List.mem_map]
  rfl

theorem mem_linkIds {id : String} :
    id ∈ (buildEntities env infra vpns).ids .physicalLink ↔
      ∃ n ∈ allNetworks infra, isLink n = true ∧ linkId n = id := by
  show id ∈ (((allNetworks infra).filter isLink).map buildLink).map PhysicalLink.id ↔ _
  simp only [List.map_map, List.mem_map, List.mem_filter, and_assoc]
  rfl

theorem mem_vpnIds {id : String} :
    id ∈ (buildEntities env infra vpns).ids .l3vpnService ↔
      ∃ svc ∈ allServices vpns, vpnId svc.name = id := mem_services

theorem mem_vrfIds {id : String} :
    id ∈ (buildEntities env infra vpns).ids .vrf ↔
      ∃ router ∈ allVpnRouters vpns, ∃ v ∈ router.vrfs, vrfId router.name v.name = id := by
  show id ∈ ((allVpnRouters vpns).flatMap fun router => router.vrfs.map (buildVrf router)).map _ ↔ _
  rw [List.map_flatMap]
  simp only [List.mem_flatMap, List.map_map, List.mem_map]
  rfl

theorem mem_sessionIds {id : String} :
    id ∈ (buildEntities env infra vpns).ids .bgpSession ↔
      ∃ router ∈ allVpnRouters vpns, ∃ b ∈ router.bgpVrfs, ∃ neighbor ∈ b.neighbors,
        (buildSession router b neighbor).id = id := by
  show id ∈ ((allVpnRouters vpns).flatMap fun router => router.bgpVrfs.flatMap fun b =>
    b.neighbors.map (buildSession router b)).map _ ↔ _
  rw [List.map_flatMap]
  simp only [List.map_flatMap, List.mem_flatMap, List.map_map, List.mem_map]
  rfl

/-- The subnets: one for a network, or one for each loopback address on it. -/
theorem mem_subnets {s : LogicalSubnet} :
    s ∈ (buildEntities env infra vpns).subnets ↔
      ∃ n ∈ allNetworks infra, (n.networkType ≠ some "loopback" ∧ s = (buildSubnet n).1) ∨
        n.networkType = some "loopback" ∧ ∃ r ∈ allRouters infra, ∃ p,
          buildLoopback n r = some p ∧ p.1 = s := by
  show s ∈ (allNetworks infra).flatMap (fun n => (buildNetwork (allRouters infra) n).1) ↔ _
  rw [List.mem_flatMap]
  refine exists_congr fun n => and_congr_right fun _ => ?_
  unfold buildNetwork
  by_cases hloopback : n.networkType = some "loopback"
  · rw [if_pos hloopback]
    simp only [List.mem_map, List.mem_filterMap, hloopback, ne_eq, not_true_eq_false, false_and,
      false_or, true_and]
    constructor
    · rintro ⟨p, ⟨r, hr, hp⟩, rfl⟩
      exact ⟨r, hr, p, hp, rfl⟩
    · rintro ⟨r, hr, p, hp, rfl⟩
      exact ⟨p, ⟨r, hr, hp⟩, rfl⟩
  · rw [if_neg hloopback]
    simp [hloopback]

/-- Each association has the subnet of its network. -/
theorem exists_subnet {sa : SubnetAssociation}
    (h : sa ∈ (buildEntities env infra vpns).subnetAssociation) :
    ∃ s ∈ (buildEntities env infra vpns).subnets, s.id = sa.subnetId := by
  have hsa : sa ∈ (allNetworks infra).flatMap
    (fun n => (buildNetwork (allRouters infra) n).2) := h
  obtain ⟨n, hn, hsa⟩ := List.mem_flatMap.mp hsa
  unfold buildNetwork at hsa
  split at hsa
  · next hloopback =>
    obtain ⟨p, hp, rfl⟩ := List.mem_map.mp hsa
    obtain ⟨r, hr, hp⟩ := List.mem_filterMap.mp hp
    refine ⟨p.1, mem_subnets.mpr ⟨n, hn, .inr ⟨hloopback, r, hr, p, hp, rfl⟩⟩, ?_⟩
    unfold buildLoopback at hp
    split at hp
    · cases hp
    · split at hp
      · cases hp
        rfl
      · cases hp
  · next hloopback =>
    obtain ⟨cr, -, rfl⟩ := List.mem_map.mp hsa
    exact ⟨_, mem_subnets.mpr ⟨n, hn, .inl ⟨hloopback, rfl⟩⟩, rfl⟩

/-- The subnet of a loopback address has the address in its id. -/
theorem id_of_buildLoopback {n : NetworkDoc} {r : RouterDoc} {p : LogicalSubnet × SubnetAssociation}
    (h : buildLoopback n r = some p) : p.1.id = "subnet:" ++ p.1.cidr := by
  unfold buildLoopback at h
  split at h
  · cases h
  · split at h
    · cases h
      rfl
    · cases h

end Ids

/-! ## References -/

/-- **The references of a snapshot resolve.** -/
theorem checked_buildEntities (h : WellNamed infra vpns) :
    (buildEntities env infra vpns).Checked where
  interfaceRouter i hi := by
    have hi : i ∈ buildInterfaces env (allRouters infra) (allNetworks infra) := hi
    obtain ⟨r, hr, hi⟩ := List.mem_flatMap.mp hi
    obtain ⟨iface, -, rfl⟩ := List.mem_map.mp hi
    exact mem_routerIds hr
  edgeInterface il hil := by
    have hil : il ∈ ((allNetworks infra).filter isLink).flatMap buildEdges := hil
    obtain ⟨n, hn, hil⟩ := List.mem_flatMap.mp hil
    obtain ⟨cr, hcr, rfl⟩ := List.mem_map.mp hil
    obtain ⟨r, hr, hname, i, hi, hiface⟩ := h.connected n (List.mem_of_mem_filter hn) cr hcr
    refine mem_interfaceIds.mpr ⟨r, hr, i, hi, ?_⟩
    rw [hname, hiface]
  edgeLink il hil := by
    have hil : il ∈ ((allNetworks infra).filter isLink).flatMap buildEdges := hil
    obtain ⟨n, hn, hil⟩ := List.mem_flatMap.mp hil
    obtain ⟨cr, -, rfl⟩ := List.mem_map.mp hil
    obtain ⟨hn, hlink⟩ := List.mem_filter.mp hn
    exact mem_linkIds.mpr ⟨n, hn, hlink, rfl⟩
  linkEndpoints id hid := by
    obtain ⟨n, hn, hlink, rfl⟩ := mem_linkIds.mp hid
    show ((((allNetworks infra).filter isLink).flatMap buildEdges).filter _).length = 2
    rw [edges_of_link (h.networks.1.sublist (List.filter_sublist.map _))
      (List.mem_filter.mpr ⟨hn, hlink⟩)]
    exact length_buildEdges hlink
  deviceInterface d hd id hid := by
    have hd : d ∈ buildDevices (allDevices infra) (buildEntities env infra vpns).interfaces := hd
    obtain ⟨doc, -, rfl⟩ := List.mem_map.mp hd
    obtain ⟨ip, -, hip⟩ := Option.bind_eq_some_iff.mp (Graph.truthy_eq_some.mp hid).1
    obtain ⟨i, hi, rfl⟩ := Option.map_eq_some_iff.mp hip
    exact List.mem_map_of_mem (List.mem_reverse.mp (List.mem_of_find?_eq_some hi))
  associationSubnet sa hsa := by
    obtain ⟨s, hs, hid⟩ := exists_subnet hsa
    rw [← hid]
    exact List.mem_map_of_mem hs
  vrfRouter v hv := by
    have hv : v ∈ (allVpnRouters vpns).flatMap fun router => router.vrfs.map (buildVrf router) := hv
    obtain ⟨router, hrouter, hv⟩ := List.mem_flatMap.mp hv
    obtain ⟨doc, -, rfl⟩ := List.mem_map.mp hv
    obtain ⟨r, hr, hname⟩ := h.vpnRouter router hrouter
    show routerId router.name ∈ _
    rw [← hname]
    exact mem_routerIds hr
  vrfVpn v hv := by
    have hv : v ∈ (allVpnRouters vpns).flatMap fun router => router.vrfs.map (buildVrf router) := hv
    obtain ⟨router, hrouter, hv⟩ := List.mem_flatMap.mp hv
    obtain ⟨doc, hdoc, rfl⟩ := List.mem_map.mp hv
    obtain ⟨svc, hsvc, hname⟩ := h.vrfService router hrouter doc hdoc
    exact mem_vpnIds.mpr ⟨svc, hsvc, congrArg vpnId hname⟩
  sessionVrf b hb := by
    have hb : b ∈ (allVpnRouters vpns).flatMap fun router => router.bgpVrfs.flatMap fun doc =>
      doc.neighbors.map (buildSession router doc) := hb
    obtain ⟨router, hrouter, hb⟩ := List.mem_flatMap.mp hb
    obtain ⟨doc, hdoc, hb⟩ := List.mem_flatMap.mp hb
    obtain ⟨neighbor, -, rfl⟩ := List.mem_map.mp hb
    obtain ⟨same, hsame, hrouterName, v, hv, hname⟩ := h.bgpVrf router hrouter doc hdoc
    exact mem_vrfIds.mpr ⟨same, hsame, v, hv, congrArg₂ vrfId hrouterName hname⟩

/-! ## Patterns -/

theorem ne_empty_of_oneLine {s : String} (h : Twin.oneLine s = true) : s ≠ "" := by
  rintro rfl
  exact absurd h (by decide)

/-- **The ids of a snapshot match their patterns when the names are spelled.** -/
theorem patterned_iff (h : WellNamed infra vpns) :
    (buildEntities env infra vpns).Patterned ↔ Spelled infra vpns := by
  have hrouter : ∀ r ∈ allRouters infra, ':' ∉ r.name.toList :=
    fun r hr => h.routers.2 _ (List.mem_map_of_mem hr)
  have hiface : ∀ r ∈ allRouters infra, ∀ i ∈ r.interfaces, ':' ∉ i.name.toList :=
    fun r hr i hi => (h.interfaces r hr).2 _ (List.mem_map_of_mem hi)
  have hvpnRouter : ∀ router ∈ allVpnRouters vpns, ':' ∉ router.name.toList := by
    intro router hr
    obtain ⟨r, hr, hname⟩ := h.vpnRouter router hr
    exact hname ▸ hrouter r hr
  have hvrf : ∀ router ∈ allVpnRouters vpns, ∀ v ∈ router.vrfs, ':' ∉ v.name.toList :=
    fun router hr v hv => (h.vrfs router hr).2 _ (List.mem_map_of_mem hv)
  have hbgp : ∀ router ∈ allVpnRouters vpns, ∀ b ∈ router.bgpVrfs, ':' ∉ b.name.toList := by
    intro router hr b hb
    obtain ⟨same, hsame, -, v, hv, hname⟩ := h.bgpVrf router hr b hb
    exact hname ▸ hvrf same hsame v hv
  constructor
  · intro hp
    constructor
    · intro r hr
      exact (Twin.matches_router (hrouter r hr)).mp (hp .physicalRouter _ (mem_routerIds hr))
    · intro r hr i hi
      exact ((Twin.matches_interface (hrouter r hr) (hiface r hr i hi)).mp
        (hp .physicalInterface _ (mem_interfaceIds.mpr ⟨r, hr, i, hi, rfl⟩))).2
    · intro n hn hloopback
      exact Twin.matches_subnet.mp (hp .logicalSubnet _
        (List.mem_map_of_mem (mem_subnets.mpr ⟨n, hn, .inl ⟨hloopback, rfl⟩⟩)))
    · intro n hn hloopback r hr p hpair
      have hid := hp .logicalSubnet _
        (List.mem_map_of_mem (mem_subnets.mpr ⟨n, hn, .inr ⟨hloopback, r, hr, p, hpair, rfl⟩⟩))
      rw [id_of_buildLoopback hpair] at hid
      exact Twin.matches_subnet.mp hid
    · intro d hd
      have hdevice : ':' ∉ d.name.toList := h.devices.2 _ (List.mem_map_of_mem hd)
      have hid : "device:" ++ d.name ∈ (buildEntities env infra vpns).ids .device := by
        show _ ∈ ((allDevices infra).map (buildDevice _)).map Device.id
        rw [List.map_map]
        exact List.mem_map.mpr ⟨d, hd, rfl⟩
      exact (Twin.matches_device hdevice).mp (hp .device _ hid)
    · intro svc hsvc
      have hservice : ':' ∉ svc.name.toList := h.services.2 _ (List.mem_map_of_mem hsvc)
      exact (Twin.matches_vpn hservice).mp (hp .l3vpnService _ (mem_vpnIds.mpr ⟨svc, hsvc, rfl⟩))
    · intro router hr b hb neighbor hneighbor
      exact ((Twin.matches_session (hvpnRouter router hr) (hbgp router hr b hb)).mp
        (hp .bgpSession _ (mem_sessionIds.mpr ⟨router, hr, b, hb, neighbor, hneighbor, rfl⟩))).2.2
  · intro hs
    have hvpnName : ∀ router ∈ allVpnRouters vpns, router.name ≠ "" := by
      intro router hr
      obtain ⟨r, hr, hname⟩ := h.vpnRouter router hr
      exact hname ▸ hs.routers r hr
    have hvrfName : ∀ router ∈ allVpnRouters vpns, ∀ v ∈ router.vrfs, v.name ≠ "" := by
      intro router hr v hv
      obtain ⟨svc, hsvc, hname⟩ := h.vrfService router hr v hv
      exact hname ▸ hs.services svc hsvc
    intro t id hid
    cases t with
    | interfaceLink => rfl
    | subnetAssociation => rfl
    | physicalRouter =>
      have hid : id ∈ ((allRouters infra).map buildRouter).map PhysicalRouter.id := hid
      rw [List.map_map] at hid
      obtain ⟨r, hr, rfl⟩ := List.mem_map.mp hid
      exact (Twin.matches_router (hrouter r hr)).mpr (hs.routers r hr)
    | physicalInterface =>
      obtain ⟨r, hr, i, hi, rfl⟩ := mem_interfaceIds.mp hid
      exact (Twin.matches_interface (hrouter r hr) (hiface r hr i hi)).mpr
        ⟨hs.routers r hr, hs.interfaces r hr i hi⟩
    | physicalLink =>
      obtain ⟨n, hn, hlink, rfl⟩ := mem_linkIds.mp hid
      have hp2p : n.networkType = some "p2p" ∧ n.connectedRouters.length = 2 := of_decide_eq_true hlink
      refine (Twin.matches_link (h.networks.2 _ (List.mem_map_of_mem hn))).mpr
        (ne_empty_of_oneLine (hs.networks n hn ?_))
      rw [hp2p.1]
      decide
    | device =>
      have hid : id ∈ ((allDevices infra).map (buildDevice _)).map Device.id := hid
      rw [List.map_map] at hid
      obtain ⟨d, hd, rfl⟩ := List.mem_map.mp hid
      exact (Twin.matches_device (h.devices.2 _ (List.mem_map_of_mem hd))).mpr (hs.devices d hd)
    | logicalSubnet =>
      obtain ⟨s, hsubnet, rfl⟩ := List.mem_map.mp hid
      obtain ⟨n, hn, ⟨hloopback, rfl⟩ | ⟨hloopback, r, hr, p, hpair, rfl⟩⟩ := mem_subnets.mp hsubnet
      · exact Twin.matches_subnet.mpr (hs.networks n hn hloopback)
      · rw [id_of_buildLoopback hpair]
        exact Twin.matches_subnet.mpr (hs.loopbacks n hn hloopback r hr p hpair)
    | l3vpnService =>
      obtain ⟨svc, hsvc, rfl⟩ := mem_vpnIds.mp hid
      exact (Twin.matches_vpn (h.services.2 _ (List.mem_map_of_mem hsvc))).mpr
        (hs.services svc hsvc)
    | vrf =>
      obtain ⟨router, hr, v, hv, rfl⟩ := mem_vrfIds.mp hid
      exact (Twin.matches_vrf (hvpnRouter router hr) (hvrf router hr v hv)).mpr
        ⟨hvpnName router hr, hvrfName router hr v hv⟩
    | bgpSession =>
      obtain ⟨router, hr, b, hb, neighbor, hneighbor, rfl⟩ := mem_sessionIds.mp hid
      obtain ⟨same, hsame, -, v, hv, hname⟩ := h.bgpVrf router hr b hb
      exact (Twin.matches_session (hvpnRouter router hr) (hbgp router hr b hb)).mpr
        ⟨hvpnName router hr, hname ▸ hvrfName same hsame v hv,
          hs.peers router hr b hb neighbor hneighbor⟩

end Snapshot

/-! ## The snapshot -/

/-- **A snapshot of well-named documents is valid exactly when they are spelled**, and it has one
link with two edges for each p2p network with two connected routers, and none for another. -/
theorem snapshot_valid_iff (env : Env) (dir now : String) (docs : List Document)
    (twin : GoldenTwin) (h : snapshotFromYaml env dir (some docs) now = .ok twin)
    (hnamed : WellNamed (infraDocs docs) (vpnDocs docs)) :
    (validateGoldenTwin env twin true = [] ↔ Spelled (infraDocs docs) (vpnDocs docs)) ∧
      (∀ n ∈ allNetworks (infraDocs docs), isLink n = true →
        twin.entities.links.filter (fun l => l.id = linkId n) = [buildLink n] ∧
          twin.entities.interfaceLink.filter (fun il => il.linkId = linkId n) = buildEdges n ∧
          (buildEdges n).length = 2) ∧
      ∀ n ∈ allNetworks (infraDocs docs), isLink n = false →
        twin.entities.links.filter (fun l => l.id = linkId n) = [] := by
  unfold snapshotFromYaml at h
  dsimp only at h
  split at h
  · cases h
  · cases h
    have hnodup := hnamed.networks.1
    refine ⟨?_, fun n hn hlink => ⟨?_, ?_, length_buildEdges hlink⟩, fun n hn hlink => ?_⟩
    · rw [validateGoldenTwin_eq_nil]
      constructor
      · exact fun hvalid => (patterned_iff hnamed).mp hvalid.1
      · intro hspelled
        refine ⟨(patterned_iff hnamed).mpr hspelled, checked_buildEntities hnamed, ?_⟩
        intro _ stored hstored
        exact (Option.some.inj hstored).symm
    · exact links_of_network hnodup hn hlink
    · exact edges_of_link (hnodup.sublist (List.filter_sublist.map _))
        (List.mem_filter.mpr ⟨hn, hlink⟩)
    · exact links_of_other hnodup hn hlink

/-- Two routers on a p2p network, with a VPN whose VRF has a neighbor. -/
def sampleDocs (device peer : String) : List Document :=
  [.infrastructure
    { routers := [⟨"pe1", none, some "10.0.0.1", some "PE", none,
          [⟨"eth0", some "core"⟩, ⟨"lo", some "loopbacks"⟩]⟩,
        ⟨"pe2", none, none, none, none, [⟨"eth0", some "core"⟩]⟩]
      networks := [⟨"core", some "172.16.0.0/30", some "1gbit", some "p2p",
          [⟨"pe1", "eth0", some "172.16.0.1"⟩, ⟨"pe2", "eth0", some "172.16.0.2"⟩]⟩,
        ⟨"loopbacks", none, none, some "loopback", []⟩]
      devices := [⟨device, some "core", none, none, some "172.16.0.1"⟩] },
    .other,
    .l3vpn
      { services := [⟨"red", some "l3vpn", none⟩]
        routers := [⟨"pe1", [⟨"red", none, some 100, none, none, none⟩],
          [⟨"red", [⟨some peer, some 65002⟩]⟩]⟩] }]

instance (names : List String) : Decidable (Distinct names) :=
  inferInstanceAs (Decidable (_ ∧ _))

theorem sampleDocs_wellNamed :
    ∀ names ∈ [("dev1", "10.1.0.2"), ("", "10.1.0.2"), ("dev1", "")],
      WellNamed (infraDocs (sampleDocs names.1 names.2)) (vpnDocs (sampleDocs names.1 names.2)) := by
  simp only [List.forall_mem_cons, List.not_mem_nil, IsEmpty.forall_iff, implies_true, and_true]
  refine ⟨?_, ?_, ?_⟩ <;> constructor <;> decide +kernel

theorem snapshot_valid_sample :
    ∃ twin, snapshotFromYaml .plain "lab" (some (sampleDocs "dev1" "10.1.0.2")) "now" = .ok twin ∧
      twin.entities.links.length = 1 ∧ validateGoldenTwin .plain twin true = [] := by
  refine ⟨_, rfl, rfl, (snapshot_valid_iff .plain "lab" "now" (sampleDocs "dev1" "10.1.0.2") _ rfl
    (sampleDocs_wellNamed ("dev1", "10.1.0.2") (by decide))).1.mpr ?_⟩
  constructor <;> decide +kernel

/-- A device without a name, and a neighbor without an address, give ids that violate their
patterns. -/
theorem unspelled_snapshot_invalid :
    (WellNamed (infraDocs (sampleDocs "" "10.1.0.2")) (vpnDocs (sampleDocs "" "10.1.0.2")) ∧
      ∃ twin, snapshotFromYaml .plain "lab" (some (sampleDocs "" "10.1.0.2")) "now" = .ok twin ∧
        validateGoldenTwin .plain twin true ≠ []) ∧
      WellNamed (infraDocs (sampleDocs "dev1" "")) (vpnDocs (sampleDocs "dev1" "")) ∧
        ∃ twin, snapshotFromYaml .plain "lab" (some (sampleDocs "dev1" "")) "now" = .ok twin ∧
          validateGoldenTwin .plain twin true ≠ [] := by
  refine ⟨⟨sampleDocs_wellNamed ("", "10.1.0.2") (by decide), _, rfl, ?_⟩,
    sampleDocs_wellNamed ("dev1", "") (by decide), _, rfl, ?_⟩
  · decide +kernel
  · decide +kernel

end GnnSandbox.Bench
