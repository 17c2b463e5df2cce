import GnnSandbox.Graph.Run

/-!
# The rows that the controllers write

Every row of a reachable store was inserted by one of the controllers, so it has the
shape that one of them gives it. In particular its id has the prefix of its kind. Two
controllers write interfaces, two write links and three write subnets; which one wrote a
row shows in the fields of its properties.
-/

namespace GnnSandbox.Graph

open Scd Effect

/-- An interface row of the router `name`. The controller that sets its speed takes the
id apart, and misreads it when the router is called `interface`. -/
def InterfaceShape (env : Env) (x : PhysicalInterface) : Prop :=
  ∃ (name : ResourceName) (iface : String),
    x.id = "router:" ++ name ++ ":interface:" ++ iface ∧
      (name.val ≠ "interface" → x.routerId = "router:" ++ name ∧ x.name = iface) ∧
      ∃ status, x.status = some (env.lower status)

/-- A row that some controller writes. -/
def Written (env : Env) : (n : TableName) → Row n → Prop
  | .physicalRouter, x =>
    ∃ r, ∃ status ∈ Router.routerStatus r, Router.routerRow env r status = some x
  | .physicalInterface, x => InterfaceShape env x
  | .physicalLink, x => (∃ net, x = Infrastructure.linkRow env net) ∨
      ∃ suffix hostVethName containerIfaceId bandwidth state, x =
        Bridge.vethRow env ("link:veth:" ++ suffix) hostVethName containerIfaceId bandwidth state
  | .device, x => ∃ d gateway interfaceId, x = DeviceSync.deviceRow env d gateway interfaceId
  | .l3vpnService, x => ∃ status svc, x = L3vpn.serviceRow env status svc
  | .vrf, x => ∃ status routerName routerId vrfName vrf,
      x = L3vpn.vrfRow env status routerName routerId vrfName vrf
  | .bgpSession, x => ∃ status routerName vrfName peerIp n,
      x = L3vpn.bgpRow status routerName vrfName peerIp n
  | .logicalSubnet, x => (∃ net, x = Infrastructure.subnetRow net) ∨
      (∃ addrCidr iface, x = Router.subnetRow addrCidr iface) ∨
      ∃ (name : ResourceName) (spec : BridgeSpec) (status : BridgeStatus),
        x = Bridge.subnetRow env name spec status
  | .interfaceLink, x => ∃ suffix, InterfaceLink.linkId x = "link:" ++ suffix
  | .subnetAssociation, x =>
    (∃ suffix, SubnetAssociation.subnetId x = "subnet:" ++ suffix) ∧
      SubnetAssociation.entityType x = some "Interface"
  | .trafficFlow, x => ∃ t, x = TrafficFlowSync.flowRow env t
  | .faultEvent, x => ∃ name f phase injectedAt,
      x = FaultEventSync.faultRow name f phase injectedAt

/-- The id of a router's row is built from its name. -/
theorem Router.routerRow_id {env : Env} {r : VyOSRouter} {status : String} {x : PhysicalRouter}
    (h : Router.routerRow env r status = some x) :
    x.id = "router:" ++ r.metadata.name ∧ x.name = r.metadata.name := by
  unfold Router.routerRow at h
  simp only [Option.bind_eq_bind, Option.bind_eq_some_iff, Option.pure_def,
    Option.some.injEq] at h
  obtain ⟨lat, -, lon, -, rfl⟩ := h
  exact ⟨rfl, rfl⟩

/-- The infrastructure stores the name of a network among its properties. -/
theorem Network.dict_name (net : Network) : net.dict.get? "name" = some (.str net.name) := by
  rw [Network.dict, Json.get?_ofFields "name" (by simp)]
  rfl

theorem Bridge.properties_name (spec : BridgeSpec) :
    (Bridge.properties spec).get? "name" = none := by
  rw [Bridge.properties, Json.get?_ofFields "name" (by simp)]
  rfl

/-- So what the infrastructure stores is never what the bridge stores. -/
theorem Network.dict_ne_properties (net : Network) (spec : BridgeSpec) :
    net.dict ≠ Bridge.properties spec := by
  intro h
  have hname := net.dict_name
  rw [h, Bridge.properties_name] at hname
  cases hname

/-- Setting the speed of an interface keeps the shape of its row. -/
theorem InterfaceShape.speedRow {env : Env} {interfaceId routerId ifaceName bandwidth : String}
    {old : PhysicalInterface} (hold : InterfaceShape env old) (hid : old.id = interfaceId)
    (hsplit : splitInTwo ":interface:" interfaceId = some (routerId, ifaceName)) :
    InterfaceShape env
      (Infrastructure.speedRow interfaceId routerId ifaceName bandwidth old) := by
  obtain ⟨name, iface, hshape, -, status, hstatus⟩ := hold
  refine ⟨name, iface, hid ▸ hshape, fun hne => ?_, status, hstatus⟩
  rw [← hid, hshape] at hsplit
  exact splitInTwo_interfaceId name.property hne hsplit

/-- Whatever an operation inserts is a row of one of the known shapes. -/
theorem Op.Inserts.written {env : Env} {op : Op} {db : Database} {n : TableName}
    {row : Option (Row n)} {x : Row n} (h : op.Inserts env db n row x)
    (hrow : ∀ y, row = some y → y.key = x.key ∧ Written env n y) : Written env n x := by
  have hspeed : ∀ {interfaceId bandwidth : String} {row : Option PhysicalInterface}
      {x : PhysicalInterface},
      Infrastructure.SpeedInserts interfaceId bandwidth db .physicalInterface row x →
      (∀ y, row = some y → Row.key (n := .physicalInterface) y =
        Row.key (n := .physicalInterface) x ∧ InterfaceShape env y) → InterfaceShape env x := by
    rintro interfaceId bandwidth row x ⟨old, rfl, routerId, ifaceName, hsplit, rfl⟩ hrow
    obtain ⟨hkey, hold⟩ := hrow old rfl
    exact hold.speedRow (Key.id.inj hkey) hsplit
  cases op with
  | syncInfrastructure name spec =>
    obtain ⟨net, -, h⟩ := h
    cases n with
    | logicalSubnet => exact Or.inl ⟨net, h⟩
    | physicalLink => exact Or.inl ⟨net, h.2⟩
    | interfaceLink => obtain ⟨-, conn, -, interfaceId, -, rfl⟩ := h; exact ⟨net.name, rfl⟩
    | physicalInterface => obtain ⟨-, interfaceId, h⟩ := h; exact hspeed h hrow
    | _ => exact h.2.elim
  | syncIfaceSpeed interfaceId bandwidth =>
    cases n with
    | physicalInterface => exact hspeed h hrow
    | _ => exact h.elim
  | syncRouter r =>
    cases n with
    | physicalRouter => obtain ⟨status, hs, hx⟩ := h; exact ⟨r, status, hs, hx⟩
    | physicalInterface =>
      obtain ⟨status, -, iface, -, speed, rfl⟩ := h
      exact ⟨r.metadata.name, _, rfl, fun _ => ⟨rfl, rfl⟩, _, rfl⟩
    | logicalSubnet =>
      obtain ⟨-, iface, -, addr, -, rfl⟩ := h
      exact Or.inr (Or.inl ⟨addr, iface, rfl⟩)
    | subnetAssociation => obtain ⟨-, iface, -, addr, -, rfl⟩ := h; exact ⟨⟨addr, rfl⟩, rfl⟩
    | _ => exact h.elim
  | syncL3vpn v =>
    cases n with
    | l3vpnService => obtain ⟨status, -, svc, -, rfl⟩ := h; exact ⟨status, svc, rfl⟩
    | vrf =>
      obtain ⟨status, -, router, -, routerName, -, u, -, vrfName, vrf, -, rfl⟩ := h
      exact ⟨status, routerName, u.data.id, vrfName, vrf, rfl⟩
    | bgpSession =>
      obtain ⟨status, -, router, -, routerName, -, u, -, vrfName, vrf, -, n, -, ip, -, rfl⟩ := h
      exact ⟨status, routerName, vrfName, ip, n, rfl⟩
    | _ =>
      obtain ⟨_, _, _, _, _, _, _, _, h⟩ := h
      exact h.elim
  | syncDevice d =>
    cases n with
    | device => obtain ⟨gateway, interfaceId, -, rfl⟩ := h; exact ⟨d, gateway, interfaceId, rfl⟩
    | _ => exact h.elim
  | syncBridge name spec status =>
    cases n with
    | logicalSubnet => cases h; exact Or.inr (Or.inr ⟨name, spec, status, rfl⟩)
    | physicalLink => exact Or.inr h
    | interfaceLink =>
      obtain ⟨containerIfaceId, suffix, rfl⟩ := h
      exact ⟨"veth:" ++ suffix, by rw [← String.append_assoc]; rfl⟩
    | subnetAssociation => obtain ⟨containerIfaceId, rfl⟩ := h; exact ⟨⟨_, rfl⟩, rfl⟩
    | _ => exact h.elim
  | syncTrafficFlow t =>
    cases n with
    | trafficFlow => exact ⟨t, h⟩
    | _ => exact h.elim
  | syncFaultEvent name f phase injectedAt =>
    cases n with
    | faultEvent => exact ⟨name, f, phase, injectedAt, h⟩
    | _ => exact h.elim
  | deleteInfrastructure | deleteRouter | deleteL3vpn | deleteDevice | deleteTrafficFlow
  | closeFaultEvent => exact h.elim

/-- Every row of the world was written by a controller. -/
def AllWritten (env : Env) (w : World) : Prop := ∀ n, ∀ v ∈ w.db n, Written env n v.data

theorem AllWritten.calls {env : Env} {op : Op} {w w' : World} (hw : AllWritten env w)
    (h : Calls env (Steps (op.Inserts env)) w w') : AllWritten env w' :=
  h.invariant (fun _ _ hv hc n => (hc.2 n).forall_data (fun _ _ hx hrow => hx.written hrow) (hv n))
    hw

theorem AllWritten.runFrom {env : Env} {w : World} (hw : AllWritten env w) (ops : List Op) :
    AllWritten env (runFrom env w ops) :=
  runFrom_invariant (fun op _ _ hv => hv.calls (op.respects_exec env _)) hw

theorem allWritten_run (env : Env) (ops : List Op) : AllWritten env (run env ops) :=
  AllWritten.runFrom (fun _ _ hv => absurd hv List.not_mem_nil) ops

end GnnSandbox.Graph
