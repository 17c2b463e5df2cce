import GnnSandbox.Graph.Current.Sound

/-!
# What a sync of a bridge leaves

The change test of the bridge's subnet passes over its address range, and lets a null
stand for a zero or an empty text. That of a veth link passes over its bandwidth.
-/

namespace GnnSandbox.Graph

open Scd Effect

namespace Bridge

/-! ## What is computed -/

/-- The row of the bridge's subnet, as far as the change test vouches for it. -/
structure SubnetCurrent (env : Env) (name : String) (spec : BridgeSpec) (status : BridgeStatus)
    (x : LogicalSubnet) : Prop where
  networkType : x.networkType = (subnetRow env name spec status).networkType
  description : x.description = (subnetRow env name spec status).description
  operationalState : x.operationalState = (subnetRow env name spec status).operationalState
  mtu : x.mtu.getD 0 = (mtu status).getD 0
  macAddress : x.macAddress.getD "" = (macAddress status).getD ""
  bridgeIp : x.bridgeIp.getD "" = (bridgeIp status).getD ""
  hostDeviceName : x.hostDeviceName = (subnetRow env name spec status).hostDeviceName
  properties : x.properties = (subnetRow env name spec status).properties

/-- An interface that the lookup of a container's interface may return. -/
def Resolves (db : Database) (routerPart interfacePart interfaceId : String) : Prop :=
  (∃ v ∈ containerInterfaces routerPart interfacePart db, interfaceId = v.data.id) ∨
    (containerInterfaces routerPart interfacePart db = [] ∧
      interfaceId = "router:" ++ routerPart ++ ":interface:" ++ interfacePart)

/-- The row of a veth link, whatever its bandwidth. -/
def VethCurrent (env : Env) (linkId hostVethName containerIfaceId state : String)
    (x : PhysicalLink) : Prop :=
  ∃ bandwidth, x = vethRow env linkId hostVethName containerIfaceId bandwidth state

/-- What a veth pair leaves. -/
def computedVeth (env : Env) (db : Database) (vethData : Option VethData) :
    (n : TableName) → Key → Option (Row n → Prop)
  | .physicalLink, k => vethData.bind fun data => (truthy data.veth).bind fun vethName =>
      (rsplitOnce '-' vethName).bind fun (routerPart, interfacePart) =>
        if .id ("link:veth:" ++ routerPart ++ ":" ++ interfacePart) = k then
          some fun x => ∃ interfaceId, Resolves db routerPart interfacePart interfaceId ∧
            VethCurrent env ("link:veth:" ++ routerPart ++ ":" ++ interfacePart)
              ("host:veth:" ++ vethName) interfaceId (data.state.getD "unknown") x
        else none
  | _, _ => none

/-- What a sync of a bridge leaves of its subnet and its veth links. -/
def computed (env : Env) (db : Database) (name : String) (spec : BridgeSpec)
    (status : BridgeStatus) : (n : TableName) → Key → Option (Row n → Prop)
  | .logicalSubnet, k =>
    if .id (subnetId name spec) = k then some (SubnetCurrent env name spec status) else none
  | n, k => (status.vethPairs.getD []).reverse.findSome? fun vethData =>
      computedVeth env db vethData n k

/-! ## Rows that are found unchanged -/

variable {env : Env} {w : World} {name : ResourceName} {spec : BridgeSpec} {status : BridgeStatus}

theorem subnetCurrent_of_unchanged {x : LogicalSubnet} (hx : Written env .logicalSubnet x)
    (hu : subnetUnchanged env name spec status x = true) :
    SubnetCurrent env name spec status x := by
  simp only [subnetUnchanged, Bool.decide_and, Bool.and_eq_true, decide_eq_true_eq] at hu
  obtain ⟨hstate, hmtu, hmac, hip, hhost, hprops⟩ := hu
  rw [existingProps_eq_iff] at hprops
  rcases hx with ⟨net, rfl⟩ | ⟨addrCidr, iface, rfl⟩ | ⟨name', spec', status', rfl⟩
  · exact absurd (Option.some.inj hprops) (net.dict_ne_properties spec)
  · have hobj : Json.obj [] = properties spec := Option.some.inj hprops
    simp [properties, Json.ofFields] at hobj
  · have htype : spec'.networkType = spec.networkType := by
      have hfield := Json.field_eq "network_type" (Option.some.inj hprops) (by simp) (by simp)
      exact Json.nullable_str_inj (Option.some.inj hfield)
    have hhost' : hostDeviceName name' spec' = hostDeviceName name spec := hhost
    refine ⟨?_, ?_, ?_, ?_, ?_, ?_, ?_, hprops⟩
    · show some (spec'.networkType.getD "unknown") = some (spec.networkType.getD "unknown")
      rw [htype]
    · show some ("Bridge: " ++ hostDeviceName name' spec') = some ("Bridge: " ++ _)
      rw [hhost']
    · -- no state reads as the default, which is not in upper case
      show some (operationalState env status') = some (operationalState env status)
      cases htruthy : truthy (some (operationalState env status')) with
      | none =>
        have hdefault : "unknown" = operationalState env status := by
          rw [← hstate]
          show _ = (truthy (some (operationalState env status'))).getD "unknown"
          rw [htruthy, Option.getD_none]
        exact absurd hdefault.symm (env.upper_ne_unknown _)
      | some s =>
        rw [← hstate]
        show _ = some ((truthy (some (operationalState env status'))).getD "unknown")
        rw [htruthy, Option.getD_some]
        exact (truthy_eq_some.mp htruthy).1
    · rw [← hmtu, Option.getD_some]
    · rw [← hmac, Option.getD_some]
    · rw [← hip, Option.getD_some]
    · exact congrArg some hhost'

theorem vethCurrent_of_unchanged {x : PhysicalLink} {linkId hostVethName containerIfaceId state : String}
    (hx : Written env .physicalLink x) (hid : x.id = linkId)
    (hu : vethUnchanged hostVethName containerIfaceId state x = true) :
    VethCurrent env linkId hostVethName containerIfaceId state x := by
  simp only [vethUnchanged, Bool.decide_and, Bool.and_eq_true, decide_eq_true_eq] at hu
  obtain ⟨hstate, hprops⟩ := hu
  rcases hx with ⟨net, rfl⟩ | ⟨suffix, hostVethName', containerIfaceId', bandwidth, state', rfl⟩
  · have hfields : Infrastructure.linkProps net = vethProperties hostVethName containerIfaceId :=
      Option.some.inj hprops
    have hbw : some (Json.str (Infrastructure.bandwidth net)) = none :=
      Json.field_eq "bandwidth" hfields (by simp) (by simp)
    cases hbw
  · have hfields : vethProperties hostVethName' containerIfaceId' =
        vethProperties hostVethName containerIfaceId := Option.some.inj hprops
    have hhost : hostVethName' = hostVethName :=
      Json.str.inj (Option.some.inj (Json.field_eq "host_veth" hfields (by simp) (by simp)))
    have hiface : containerIfaceId' = containerIfaceId :=
      Json.str.inj (Option.some.inj (Json.field_eq "container_interface" hfields (by simp) (by simp)))
    have hlower : env.lower state' = env.lower state := by
      have heq : env.lower state' = state := Option.some.inj hstate
      rw [← heq, env.lower_lower]
    subst hhost hiface
    refine ⟨bandwidth, ?_⟩
    have hid' : "link:veth:" ++ suffix = linkId := hid
    unfold vethRow
    rw [hid', hlower]

/-! ## Veth pairs -/

/-- The lookup of a container's interface reads the store. -/
theorem resolve_spec (hok : env.fails w.calls = false) (routerPart interfacePart : String) :
    Resolves w.db routerPart interfacePart
        (result (resolveContainerInterfaceId env routerPart interfacePart) w) ∧
      after (resolveContainerInterfaceId env routerPart interfacePart) w =
        ⟨w.db, w.calls + 1⟩ := by
  unfold resolveContainerInterfaceId
  rw [result_bind, after_bind, after_snapshot]
  by_cases hnil : containerInterfaces routerPart interfacePart w.db = []
  · have hjoin : (result (snapshot env (containerInterfaces routerPart interfacePart)
        fun v => v.data.id) w).join = none := by
      rw [Option.eq_none_iff_forall_ne_some]
      intro v hv
      have hmem := result_snapshot_mem (Option.join_eq_some_iff.mp hv)
      rw [hnil] at hmem
      cases hmem
    rw [hjoin]
    exact ⟨Or.inr ⟨hnil, rfl⟩, rfl⟩
  · obtain ⟨v, hv⟩ := result_snapshot_isSome (fun v => v.data.id) hok hnil
    rw [hv]
    exact ⟨Or.inl ⟨v, result_snapshot_mem hv, rfl⟩, rfl⟩

/-- A row of the links has this id. -/
def OnLink (linkId : String) : (n : TableName) → Row n → Prop
  | .physicalLink, x => PhysicalLink.id x = linkId
  | _, _ => True

/-- The link of a veth pair. -/
theorem leaves_sqlUpsertLink (h : Sound env w)
    (suffix hostVethName containerIfaceId bandwidth state : String) (k : Key) :
    Leaves .physicalLink k (runInTransaction env
        (sqlUpsertLink env ("link:veth:" ++ suffix) hostVethName containerIfaceId bandwidth state)) w
      (if .id ("link:veth:" ++ suffix) = k then
        some (VethCurrent env ("link:veth:" ++ suffix) hostVethName containerIfaceId state)
      else none) := by
  generalize hlinkId : "link:veth:" ++ suffix = linkId
  by_cases hk : Key.id linkId = k
  · subst hk
    rw [if_pos rfl]
    have hone := h.wellFormed.one .physicalLink (.id linkId)
    by_cases hsame : ∃ v, w.db.active .physicalLink (.id linkId) = [v] ∧
        vethUnchanged hostVethName containerIfaceId state v.data = true
    · obtain ⟨v, hv, hu⟩ := hsame
      have htx : sqlUpsertLink env linkId hostVethName containerIfaceId bandwidth state
          (env.commitTs w.calls) w.db = some w.db := by
        unfold sqlUpsertLink
        rw [hv]
        exact if_pos hu
      have hmem : v ∈ w.db.active .physicalLink (.id linkId) := by
        rw [hv]
        exact List.mem_singleton_self v
      obtain ⟨hmem, -, hkey⟩ := mem_active.mp hmem
      refine ⟨v, ?_, vethCurrent_of_unchanged (h.written .physicalLink v hmem) (Key.id.inj hkey) hu⟩
      rw [(runInTransaction_commit h.ok htx).2]
      exact hv
    · have hchanged : ∀ v, w.db.active .physicalLink (.id linkId) = [v] →
          vethUnchanged hostVethName containerIfaceId state v.data = false := by
        intro v hv
        rw [Bool.eq_false_iff]
        exact fun hu => hsame ⟨v, hv, hu⟩
      obtain ⟨db, hdb, hlink⟩ := insertLink_spec hostVethName containerIfaceId bandwidth state hone
        (h.wellFormed.one .interfaceLink _) env hchanged
      have htx : sqlUpsertLink env linkId hostVethName containerIfaceId bandwidth state
          (env.commitTs w.calls) w.db = some db := by
        unfold sqlUpsertLink
        split
        · next v hv =>
          rw [if_neg (by rw [hchanged v hv]; exact Bool.false_ne_true)]
          exact hdb
        · exact hdb
      refine ⟨⟨vethRow env linkId hostVethName containerIfaceId bandwidth state,
        env.commitTs w.calls, none⟩, ?_, bandwidth, rfl⟩
      rw [(runInTransaction_commit h.ok htx).2]
      show Scd.active _ _ (db .physicalLink) = _
      rw [show db .physicalLink = w.renew env .physicalLink (vethRow env linkId hostVethName
        containerIfaceId bandwidth state) .physicalLink by rcases hlink with ⟨rfl, -⟩ | rfl <;> simp [World.renew]]
      exact active_renew_self .physicalLink
        (vethRow env linkId hostVethName containerIfaceId bandwidth state) env w
  · rw [if_neg hk]
    have hc : Calls env (Revises fun _ n _ x => OnLink linkId n x) w (after (runInTransaction env (sqlUpsertLink env linkId hostVethName
          containerIfaceId bandwidth state)) w) :=
      respects_runInTransaction (Revises.refl _) (fun _ _ _ hdb =>
        sqlUpsertLink_spec (fun _ => rfl) (fun _ => trivial) hdb) w
    exact leaves_none hc fun _ _ x hx hkey => hk (hkey ▸ congrArg Key.id hx.symm)

/-- A veth pair leaves what is computed for it. -/
theorem leaves_syncVethPair (h : Sound env w) (subnetId : String) (vethData : Option VethData)
    (k : Key) :
    Leaves .physicalLink k (syncVethPair env subnetId vethData) w
      (computedVeth env w.db vethData .physicalLink k) := by
  unfold syncVethPair computedVeth
  match vethData with
  | none => exact Settles.pure ()
  | some data =>
    dsimp only
    rw [Option.bind_some]
    match truthy data.veth with
    | none => exact Settles.pure ()
    | some vethName =>
      dsimp only
      rw [Option.bind_some]
      match rsplitOnce '-' vethName with
      | none => exact Settles.pure ()
      | some (routerPart, interfacePart) =>
        dsimp only
        rw [Option.bind_some]
        obtain ⟨hresolves, hafter⟩ := resolve_spec h.ok routerPart interfacePart
        refine Settles.bind_left (by rw [hafter]) ?_
        rw [hafter]
        generalize result (resolveContainerInterfaceId env routerPart interfacePart) w =
          interfaceId at hresolves ⊢
        refine Settles.bind_right ?_ (congrArg (Scd.active Row.key k)
          (upsert_table_eq _ _ _ (by decide)))
        have hid : "link:veth:" ++ routerPart ++ ":" ++ interfacePart =
            "link:veth:" ++ (routerPart ++ ":" ++ interfacePart) := by
          simp only [String.append_assoc]
        have hlink := leaves_sqlUpsertLink h.read (routerPart ++ ":" ++ interfacePart)
          ("host:veth:" ++ vethName) interfaceId (data.bw.getD "none")
          (data.state.getD "unknown") k
        rw [← hid] at hlink
        by_cases hk : Key.id ("link:veth:" ++ routerPart ++ ":" ++ interfacePart) = k
        · rw [if_pos hk] at hlink ⊢
          obtain ⟨v, hv, hcurrent⟩ := hlink
          exact ⟨v, hv, interfaceId, hresolves, hcurrent⟩
        · rw [if_neg hk] at hlink ⊢
          exact hlink

/-- Of the store a veth pair only looks at the interfaces. -/
theorem computedVeth_congr {db db' : Database}
    (hiface : db' .physicalInterface = db .physicalInterface) (vethData : Option VethData)
    (n : TableName) (k : Key) : computedVeth env db' vethData n k = computedVeth env db vethData n k := by
  have hresolves : Resolves db' = Resolves db := by
    unfold Resolves containerInterfaces
    rw [hiface]
  cases n with
  | physicalLink =>
    unfold computedVeth
    rw [hresolves]
  | _ => rfl

end Bridge

open Bridge in
/-- A sync of a bridge leaves the subnet and the veth links that it computes. -/
theorem leaves_syncHostNetworkBridge {env : Env} {w : World} (h : Sound env w)
    (name : ResourceName) (spec : BridgeSpec) (status : BridgeStatus) (k : Key) :
    Leaves .logicalSubnet k (syncHostNetworkBridge env name spec status) w
        (computed env w.db name spec status .logicalSubnet k) ∧
      Leaves .physicalLink k (syncHostNetworkBridge env name spec status) w
        (computed env w.db name spec status .physicalLink k) := by
  have hwritten : Written env .logicalSubnet (subnetRow env name spec status) :=
    Or.inr (Or.inr ⟨name, spec, status, rfl⟩)
  have hsound : Sound env (after (runInTransaction env (sqlUpsertSubnet env name spec status)) w) :=
    h.upsert hwritten _
  have hres : result (runInTransaction env (sqlUpsertSubnet env name spec status)) w = true :=
    (runInTransaction_upsert _ _ _ h.ok (h.wellFormed.one _ _)).1
  constructor
  · refine Settles.bind_right (leaves_upsert h k (n := .logicalSubnet)
      (P := SubnetCurrent env name spec status) ⟨rfl, rfl, rfl, rfl, rfl, rfl, rfl, rfl⟩
      fun x hx _ hu => subnetCurrent_of_unchanged hx hu) ?_
    rw [hres, if_pos rfl]
    exact congrArg (Scd.active Row.key k)
      (Calls.table_eq (respects_syncVethPairs _ _ _) fun _ _ _ hx => hx)
  · refine Settles.bind_left (congrArg (Scd.active Row.key k)
      (upsert_table_eq _ _ _ (by decide))) ?_
    rw [hres, if_pos rfl]
    refine Settles.loop (I := fun v => Sound env v ∧
      v.db .physicalInterface = w.db .physicalInterface) (fun vethData _ v hv => ?_)
      (fun vethData _ v hv => ?_) ⟨hsound, upsert_table_eq _ _ _ (by decide)⟩
    · have hc : Calls env (Revises (VethInserts env (subnetId name spec))) v
          (after (syncVethPair env (subnetId name spec) vethData) v) := respects_syncVethPair _ _ v
      refine ⟨hv.1.calls (.syncBridge name spec status) hc fun _ n _ _ hx => ?_,
        (hc.table_eq (n := .physicalInterface) fun _ _ _ hx => hx).trans hv.2⟩
      cases n with
      | logicalSubnet => exact hx.elim
      | _ => exact hx
    · rw [← computedVeth_congr hv.2]
      exact leaves_syncVethPair hv.1 (subnetId name spec) vethData k

end GnnSandbox.Graph
