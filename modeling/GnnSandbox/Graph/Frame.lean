import GnnSandbox.Graph.Written

/-!
# What a deletion touches

A version was contributed by the resource whose sync inserted it, which its start
timestamp tells. `delete_vyos_infrastructure` and `delete_l3vpn_service` select rows by
the prefixes of their ids. Every controller's ids have these prefixes, so a deletion
spares the rows of other resources only when there are none.
-/

namespace GnnSandbox.Graph

open Scd Effect

/-! ## Who contributed a version -/

/-- A custom resource. -/
inductive Resource where
  | infrastructure (name : ResourceName)
  | router (name : ResourceName)
  | l3vpn (name : ResourceName)
  | device (name : ResourceName)
  | bridge (name : ResourceName)
  | trafficTest (name : ResourceName)
  | networkFailure (name : ResourceName)
deriving DecidableEq

/-- The resource an operation is about. -/
def Op.resource : Op → Option Resource
  | syncInfrastructure name _ | deleteInfrastructure name => some (.infrastructure name)
  | syncRouter r => some (.router r.metadata.name)
  | deleteRouter name => some (.router name)
  | syncL3vpn v => some (.l3vpn v.metadata.name)
  | deleteL3vpn name => some (.l3vpn name)
  | syncDevice d => some (.device d.metadata.name)
  | deleteDevice name => some (.device name)
  | syncBridge name .. => some (.bridge name)
  | syncTrafficFlow t => some (.trafficTest t.metadata.name)
  | deleteTrafficFlow name => some (.trafficTest name)
  | syncFaultEvent name .. | closeFaultEvent name => some (.networkFailure name)
  | syncIfaceSpeed .. => none

/-- The operation during which the call that commits at `ts` was made. -/
def writer (env : Env) (w : World) : List Op → Timestamp → Option Op
  | [], _ => none
  | op :: ops, ts =>
    let w' := after (op.exec env) w
    if env.commitTs w.calls ≤ ts ∧ ts < env.commitTs w'.calls then some op
    else writer env w' ops ts

/-- The resource that contributed a version in the course of a run. -/
def contributor {α : Type} (env : Env) (ops : List Op) (v : Version Timestamp α) :
    Option Resource :=
  (writer env World.empty ops v.validStartTs).bind Op.resource

/-! ## Deletions -/

/-- A deletion leaves every version in place that its resource did not contribute. -/
def DeletionFrame (env : Env) (ops : List Op) (r : Resource) (delete : Sync Unit) : Prop :=
  ∀ n, ∀ v ∈ (run env ops).db n, contributor env ops v ≠ some r →
    v ∈ (after delete (run env ops)).db n

/-- The infrastructure alone contributed the open links and subnets and all edges. -/
def SoleInfrastructure (env : Env) (ops : List Op) (name : ResourceName) : Prop :=
  (∀ v ∈ (run env ops).db .interfaceLink, contributor env ops v = some (.infrastructure name)) ∧
  (∀ v ∈ (run env ops).db .physicalLink, v.isActive = true →
    contributor env ops v = some (.infrastructure name)) ∧
  (∀ v ∈ (run env ops).db .subnetAssociation,
    contributor env ops v = some (.infrastructure name)) ∧
  ∀ v ∈ (run env ops).db .logicalSubnet, v.isActive = true →
    contributor env ops v = some (.infrastructure name)

/-- The VPN alone contributed the open services and VRFs and the open sessions in them. -/
def SoleL3vpn (env : Env) (ops : List Op) (name : ResourceName) : Prop :=
  (∀ v ∈ (run env ops).db .bgpSession, v.isActive = true →
    BGPSession.vrfId v.data ∈ L3vpn.vrfIds (run env ops).db →
    contributor env ops v = some (.l3vpn name)) ∧
  (∀ v ∈ (run env ops).db .vrf, v.isActive = true →
    contributor env ops v = some (.l3vpn name)) ∧
  ∀ v ∈ (run env ops).db .l3vpnService, v.isActive = true →
    contributor env ops v = some (.l3vpn name)

section Deletion

variable {env : Env}

/-- Every row of these tables has a prefix that a deletion selects. -/
theorem like_of_written (env : Env) :
    (∀ x, Written env .interfaceLink x → like (InterfaceLink.linkId x) "link:%" = true) ∧
    (∀ x, Written env .physicalLink x → like (PhysicalLink.id x) "link:%" = true) ∧
    (∀ x, Written env .subnetAssociation x →
      like (SubnetAssociation.subnetId x) "subnet:%" = true) ∧
    ∀ x, Written env .logicalSubnet x → like (LogicalSubnet.id x) "subnet:%" = true := by
  refine ⟨?_, ?_, ?_, ?_⟩
  · rintro x ⟨suffix, hx⟩
    rw [like_link, hx, startsWith_append]
  · rintro x (⟨net, rfl⟩ | ⟨suffix, hostVethName, containerIfaceId, bandwidth, state, rfl⟩)
    · rw [like_link]
      exact startsWith_append "link:" net.name
    · rw [like_link]
      have hid : "link:veth:" ++ suffix = "link:" ++ ("veth:" ++ suffix) := by
        rw [← String.append_assoc]; rfl
      unfold Bridge.vethRow
      rw [hid]
      exact startsWith_append _ _
  · rintro x ⟨⟨suffix, hx⟩, -⟩
    rw [like_subnet, hx, startsWith_append]
  · rintro x (⟨net, rfl⟩ | ⟨addrCidr, iface, rfl⟩ | ⟨name, spec, status, rfl⟩)
    all_goals
      rw [like_subnet]
      exact startsWith_append "subnet:" _

/-- Every VRF and every service of a VPN has the prefix that a deletion selects. -/
theorem like_vpn_of_written (env : Env) :
    (∀ x, Written env .vrf x → ((VRF.vpnId x).any fun id => like id "vpn:%") = true) ∧
    ∀ x, Written env .l3vpnService x → like (L3VPNService.id x) "vpn:%" = true := by
  constructor
  · rintro x ⟨status, routerName, routerId, vrfName, vrf, rfl⟩
    show like (L3vpn.vpnId vrfName) "vpn:%" = true
    rw [like_vpn]
    exact startsWith_append "vpn:" vrfName
  · rintro x ⟨status, svc, rfl⟩
    rw [like_vpn]
    exact startsWith_append "vpn:" svc.name

/-- A transaction that fails keeps everything; one that commits keeps what it spares. -/
theorem deletionFrame_attempt {ops : List Op} {r : Resource} {f : Transaction} {db' : Database}
    (hf : f (env.commitTs (run env ops).calls) (run env ops).db = some db') :
    DeletionFrame env ops r (attempt env f) ↔ env.fails (run env ops).calls = true ∨
      ∀ n, ∀ v ∈ (run env ops).db n, ¬contributor env ops v = some r → v ∈ db' n := by
  unfold DeletionFrame
  rw [after_attempt]
  rcases runInTransaction_cases env f (run env ops) with
    ⟨db, hok, hdb, -, hafter⟩ | ⟨hfail, -, hafter⟩
  · rw [hf, Option.some.injEq] at hdb
    subst hdb
    rw [hafter, hok]
    simp
  · rcases hfail with hfail | hfail
    · rw [hafter, hfail]
      exact ⟨fun _ => Or.inl rfl, fun _ _ _ hv _ => hv⟩
    · rw [hf] at hfail
      cases hfail

theorem deletionFrame_infrastructure (ops : List Op) (name : ResourceName) :
    DeletionFrame env ops (.infrastructure name) (deleteVyosInfrastructure env) ↔
      env.fails (run env ops).calls = true ∨ SoleInfrastructure env ops name := by
  refine (deletionFrame_attempt (Infrastructure.sqlDelete_eq _ _)).trans (or_congr_right ?_)
  have hwritten := allWritten_run env ops
  obtain ⟨hedge, hlink, hassoc, hsubnet⟩ := like_of_written env
  constructor
  · intro h
    have hlinks := h .interfaceLink
    have hphys := h .physicalLink
    have hassocs := h .subnetAssociation
    have hsubnets := h .logicalSubnet
    simp only [Database.set_self, Database.set_of_ne, ne_eq, reduceCtorEq, not_false_eq_true]
      at hlinks hphys hassocs hsubnets
    refine ⟨fun v hv => ?_, fun v hv hopen => ?_, fun v hv => ?_, fun v hv hopen => ?_⟩
    · exact forall_mem_deleteWhere_iff.mp hlinks v hv (hedge _ (hwritten _ v hv))
    · exact forall_mem_closeWhere_iff.mp hphys v hv hopen (hlink _ (hwritten _ v hv))
    · exact forall_mem_deleteWhere_iff.mp hassocs v hv (hassoc _ (hwritten _ v hv))
    · exact forall_mem_closeWhere_iff.mp hsubnets v hv hopen (hsubnet _ (hwritten _ v hv))
  · rintro ⟨hlinks, hphys, hassocs, hsubnets⟩ n
    cases n with
    | interfaceLink =>
      simpa using forall_mem_deleteWhere_iff.mpr fun v hv _ => hlinks v hv
    | physicalLink =>
      simpa using forall_mem_closeWhere_iff.mpr fun v hv hopen _ => hphys v hv hopen
    | subnetAssociation =>
      simpa using forall_mem_deleteWhere_iff.mpr fun v hv _ => hassocs v hv
    | logicalSubnet =>
      simpa using forall_mem_closeWhere_iff.mpr fun v hv hopen _ => hsubnets v hv hopen
    | physicalRouter | physicalInterface | device | l3vpnService | vrf | bgpSession
    | trafficFlow | faultEvent => simp +contextual

theorem deletionFrame_l3vpn (ops : List Op) (name : ResourceName) :
    DeletionFrame env ops (.l3vpn name) (deleteL3vpnService env) ↔
      env.fails (run env ops).calls = true ∨ SoleL3vpn env ops name := by
  refine (deletionFrame_attempt (L3vpn.sqlDelete_eq _ _)).trans (or_congr_right ?_)
  have hwritten := allWritten_run env ops
  obtain ⟨hvrf, hservice⟩ := like_vpn_of_written env
  constructor
  · intro h
    have hbgps := h .bgpSession
    have hvrfs := h .vrf
    have hservices := h .l3vpnService
    simp only [Database.set_self, Database.set_of_ne, ne_eq, reduceCtorEq, not_false_eq_true]
      at hbgps hvrfs hservices
    refine ⟨fun v hv hopen hmem => ?_, fun v hv hopen => ?_, fun v hv hopen => ?_⟩
    · exact forall_mem_closeWhere_iff.mp hbgps v hv hopen (decide_eq_true hmem)
    · exact forall_mem_closeWhere_iff.mp hvrfs v hv hopen (hvrf _ (hwritten _ v hv))
    · exact forall_mem_closeWhere_iff.mp hservices v hv hopen (hservice _ (hwritten _ v hv))
  · rintro ⟨hbgps, hvrfs, hservices⟩ n
    cases n with
    | bgpSession =>
      simpa using forall_mem_closeWhere_iff.mpr fun v hv hopen hmem =>
        hbgps v hv hopen (of_decide_eq_true hmem)
    | vrf => simpa using forall_mem_closeWhere_iff.mpr fun v hv hopen _ => hvrfs v hv hopen
    | l3vpnService =>
      simpa using forall_mem_closeWhere_iff.mpr fun v hv hopen _ => hservices v hv hopen
    | physicalRouter | physicalInterface | physicalLink | device | logicalSubnet | interfaceLink
    | subnetAssociation | trafficFlow | faultEvent => simp +contextual

end Deletion

/-- **A deletion spares others only when there are none.** After any run, deleting an
infrastructure or a VPN leaves the rows of other resources in place if and only if its
transaction fails or it alone contributed the rows of the kinds that it deletes. -/
theorem deletion_frame_iff (env : Env) (ops : List Op) (name : ResourceName) :
    (DeletionFrame env ops (.infrastructure name) (deleteVyosInfrastructure env) ↔
      env.fails (run env ops).calls = true ∨ SoleInfrastructure env ops name) ∧
    (DeletionFrame env ops (.l3vpn name) (deleteL3vpnService env) ↔
      env.fails (run env ops).calls = true ∨ SoleL3vpn env ops name) :=
  ⟨deletionFrame_infrastructure ops name, deletionFrame_l3vpn ops name⟩

/-- Deleting the sample network erases the association that a router's sync wrote, and
deleting one VPN closes the service of another. -/
theorem deletion_hits_others :
    ¬DeletionFrame Env.plain [.syncInfrastructure Sample.core Sample.isolated,
        .syncRouter (Sample.router Sample.r1 "10.0.0.1/30")]
      (.infrastructure Sample.core) (deleteVyosInfrastructure Env.plain) ∧
    ¬DeletionFrame Env.plain [.syncL3vpn (Sample.l3vpn Sample.blue "blue"),
        .syncL3vpn (Sample.l3vpn Sample.red "red")]
      (.l3vpn Sample.blue) (deleteL3vpnService Env.plain) := by
  constructor
  · intro h
    have hassoc := h .subnetAssociation ⟨⟨"router:r1:interface:eth1", "subnet:10.0.0.1/30",
      some "Interface"⟩, 6, none⟩ (by decide) (by decide)
    revert hassoc
    decide
  · intro h
    have hservice := h .l3vpnService ⟨L3vpn.serviceRow Env.plain "Ready"
      ⟨"red", none, none, some "65001:100", none, none, none⟩, 3, none⟩ (by decide) (by decide)
    revert hservice
    decide

end GnnSandbox.Graph
