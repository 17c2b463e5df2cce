import GnnSandbox.Bench.Projector
import GnnSandbox.Bench.Trace

/-!
# The two renderers agree

Rendering the projections of a twin gives what the projector renders from its typed
entities: sorting, lookups and columns agree one by one. So a run whose calls change
nothing gives the catalog and the telemetry of the projector.
-/

namespace GnnSandbox.Bench

open Raise
open Value (str int ofStr? ofInt? ofFloat?)

variable {env : Env}

/-! ## Cells -/

@[simp] theorem Value.truthy_ofStr? (s : Option String) :
    (ofStr? s).truthy = (Graph.truthy s).isSome := by
  cases s with
  | none => rfl
  | some s =>
    by_cases h : s = ""
    · subst h
      rfl
    · have hsome : Graph.truthy (some s) = some s := Graph.truthy_eq_some.mpr ⟨rfl, h⟩
      rw [hsome]
      exact decide_eq_true h

/-- A cell of a row that was looked up. -/
theorem field_map_dump {α : Type} {dump : α → Row} {column : String} {name : α → String}
    (h : ∀ a, (dump a).get column = str (name a)) (a : Option α) :
    field (a.map dump) column = nameOf name a := by
  cases a with
  | none => rfl
  | some a => exact h a

theorem lastAuditDateFromIso_eq (twin : GoldenTwin) (seed : ℤ) (routerId : String) :
    lastAuditDateFromIso env twin.capturedAt seed routerId =
      lastAuditDate env twin seed routerId := by
  have hkey : toString seed ++ ":audit:" ++ routerId = toString seed ++ ":" ++ ("audit:" ++ routerId) := by
    rw [String.append_assoc, String.append_assoc]
    rfl
  unfold lastAuditDateFromIso lastAuditDate deterministicInt
  rw [hkey]

theorem interfaceDescriptionFromDicts_dump (i : PhysicalInterface) (router : Option PhysicalRouter) :
    interfaceDescriptionFromDicts env i.dump (router.map PhysicalRouter.dump) =
      interfaceDescription i router := by
  cases router with
  | none => rfl
  | some r =>
    have hrole : (if (ofStr? r.role).truthy then ofStr? r.role else str "?").format env =
        (Graph.truthy r.role).getD "?" := by
      rw [Value.truthy_ofStr?]
      cases h : Graph.truthy r.role with
      | none => rfl
      | some role =>
        rw [(Graph.truthy_eq_some.mp h).1]
        rfl
    show (if (ofStr? r.role).truthy then ofStr? r.role else str "?").format env ++ " " ++ r.name ++
      " :: " ++ i.name = _
    rw [hrole]
    rfl

/-! ## Numbered rows -/

/-- Numbering and rendering the dumped items of a sorted list. -/
theorem collect_zipIdx_map {α : Type} {dump : α → Row} {f : ℕ → Row → Except Error Row}
    {g : ℕ → α → Except Error Row} (h : ∀ n a, f n (dump a) = g n a) (items : List α) :
    collect (fun p => f p.2 p.1) (items.map dump).zipIdx = collect (fun p => g p.2 p.1) items.zipIdx := by
  rw [List.zipIdx_map, collect_map]
  exact congrArg (collect · items.zipIdx) (funext fun p => h p.2 p.1)

/-! ## The catalog -/

variable (twin : GoldenTwin) (seed : ℤ)

/-- The text of the id of a dumped row. -/
theorem format_orEmpty_str (s : String) : (str s).orEmpty.format env = s := by
  rw [Value.orEmpty_str]
  rfl

theorem renderRouter_dump (seq : ℕ) (r : PhysicalRouter) :
    renderRouter env seed twin.capturedAt seq r.dump = routerRow env twin seed seq r := by
  have hid : (r.dump.get "id").orEmpty.format env = r.id := format_orEmpty_str r.id
  have hname : displayName env (r.dump.get "name") = .ok (toDisplayName env r.name) := by
    show displayName env (str r.name) = _
    unfold displayName
    rw [Value.orEmpty_str]
  unfold renderRouter
  dsimp only
  rw [hname, hid, lastAuditDateFromIso_eq]
  rfl

theorem renderRouters_rows :
    renderRouters env seed twin.capturedAt twin.entities.rows = routersDf env twin seed := by
  have hsorted := sortedBy_map (f := PhysicalRouter.dump) (k := (Row.get · "id"))
    (fun _ => rfl) twin.entities.routers
  unfold renderRouters routersDf
  show (sortedBy _ (twin.entities.routers.map PhysicalRouter.dump) >>= _) = _
  rw [hsorted]
  exact collect_zipIdx_map (renderRouter_dump twin seed) _

/-- A dictionary answers as the typed items do. -/
def Answers {α : Type} (dump : α → Row) (index : Index) (items : String → Option α) : Prop :=
  ∀ key, getById index (str key) = .ok ((items key).map dump)

theorem byId_routers : ∃ index, byId (twin.entities.rows .physicalRouter) = .ok index ∧
    Answers PhysicalRouter.dump index twin.entities.routerById :=
  byId_map (fun _ => rfl) twin.entities.routers

theorem byId_interfaces : ∃ index, byId (twin.entities.rows .physicalInterface) = .ok index ∧
    Answers PhysicalInterface.dump index twin.entities.ifaceById :=
  byId_map (fun _ => rfl) twin.entities.interfaces

section Lookups

variable {twin : GoldenTwin} {routerById ifaceById : Index}
  (hrouter : Answers PhysicalRouter.dump routerById twin.entities.routerById)
  (hiface : Answers PhysicalInterface.dump ifaceById twin.entities.ifaceById)

include hrouter

theorem renderInterface_dump (seq : ℕ) (i : PhysicalInterface) :
    renderInterface env routerById seq i.dump = interfaceRow twin seq i := by
  have hget : getById routerById (i.dump.get "router_id") = _ := hrouter i.routerId
  unfold renderInterface interfaceRow
  rw [hget]
  show (parseSpeedMbps (ofStr? i.speed) >>= _) = (parseSpeedMbps (ofStr? i.speed) >>= _)
  refine congrArg _ (funext fun speed => ?_)
  rw [field_map_dump (fun _ => rfl), interfaceDescriptionFromDicts_dump]
  rfl

theorem routerOf_dump (iface : Option PhysicalInterface) :
    routerOf routerById (iface.map PhysicalInterface.dump) =
      .ok ((iface.bind fun i => twin.entities.routerById i.routerId).map PhysicalRouter.dump) := by
  cases iface with
  | none => rfl
  | some i => exact hrouter i.routerId

include hiface

theorem renderEndpoint_str (id : String) :
    renderEndpoint routerById ifaceById (str id) = .ok (twin.entities.endpoint id) := by
  unfold renderEndpoint
  rw [hiface id]
  show (routerOf routerById _ >>= _) = _
  rw [routerOf_dump hrouter]
  show Except.ok (field _ "name", field _ "name") = _
  rw [field_map_dump (fun _ => rfl), field_map_dump (fun _ => rfl)]
  rfl

variable {endpoints : Value → List Value}
  (hlinks : ∀ link, endpointsOf endpoints (str link) = .ok ((twin.entities.endpoints link).map str))

include hlinks

theorem renderLink_dump (seq : ℕ) (link : PhysicalLink) :
    renderLink env routerById ifaceById endpoints seq link.dump = linkRow env twin seq link := by
  have hunsorted : endpointsOf endpoints (link.dump.get "id") = _ := hlinks link.id
  have hsorted := sortedBy_map (f := str) (k := id) (i := id) (fun _ => rfl)
    (twin.entities.endpoints link.id)
  have hep : ∀ ids : List String, collect (renderEndpoint routerById ifaceById)
      ((ids.map str).take 2) = .ok ((ids.take 2).map twin.entities.endpoint) := by
    intro ids
    rw [← List.map_take, collect_map,
      funext fun id => renderEndpoint_str hrouter hiface id, collect_ok]
  have hname : (link.dump.get "name").orEmpty.format env = link.name := format_orEmpty_str link.name
  unfold renderLink linkRow
  rw [hunsorted]
  show (sortedBy id _ >>= _) = _
  rw [hsorted]
  show (collect _ _ >>= _) = _
  rw [hep]
  show (bandwidthToMbps (ofStr? link.bandwidth) >>= _) = (bandwidthToMbps (ofStr? link.bandwidth) >>= _)
  refine congrArg _ (funext fun bandwidth => ?_)
  rw [hname]
  rfl

omit hlinks

omit hrouter in
theorem deviceInterface_dump (d : Device) :
    deviceInterface ifaceById d.dump =
      .ok (((Graph.truthy d.interfaceId).bind twin.entities.ifaceById).map
        PhysicalInterface.dump) := by
  show (if (ofStr? d.interfaceId).truthy then getById ifaceById (ofStr? d.interfaceId)
    else .ok none) = _
  rw [Value.truthy_ofStr?]
  cases h : Graph.truthy d.interfaceId with
  | none => rfl
  | some id =>
    rw [(Graph.truthy_eq_some.mp h).1]
    exact hiface id

theorem renderDevice_dump (d : Device) :
    renderDevice routerById ifaceById d.dump = .ok (deviceRow twin d) := by
  unfold renderDevice
  rw [deviceInterface_dump hiface]
  show (routerOf routerById _ >>= _) = _
  rw [routerOf_dump hrouter]
  show Except.ok [_, _, _, _, _, _, ("gateway_router", field _ "name"),
    ("gateway_interface", field _ "name"), _] = _
  rw [field_map_dump (fun _ => rfl), field_map_dump (fun _ => rfl)]
  rfl

end Lookups

variable (twin : GoldenTwin) (seed : ℤ)

/-- The edges of the links, by link. -/
theorem linkEndpoints_rows : ∃ endpoints,
    linkEndpoints (twin.entities.rows .interfaceLink) = .ok endpoints ∧
      ∀ link, endpointsOf endpoints (str link) = .ok ((twin.entities.endpoints link).map str) := by
  have hhash : ((twin.entities.interfaceLink.map InterfaceLink.dump).all
      fun il => (il.get "link_id").hashable) = true := by
    rw [List.all_map]
    exact List.all_eq_true.mpr fun _ _ => rfl
  refine ⟨_, if_pos hhash, fun link => ?_⟩
  have hfilter : (twin.entities.interfaceLink.map InterfaceLink.dump).filter
      (fun il => (il.get "link_id").eq (str link)) =
      (twin.entities.interfaceLink.filter fun il => il.linkId = link).map InterfaceLink.dump := by
    rw [List.filter_map]
    exact congrArg (fun p => (twin.entities.interfaceLink.filter p).map InterfaceLink.dump)
      (funext fun il => Value.eq_str_str)
  have hids : ((twin.entities.interfaceLink.map InterfaceLink.dump).filter
      (fun il => (il.get "link_id").eq (str link))).map (Row.get · "interface_id") =
      (twin.entities.endpoints link).map str := by
    unfold GoldenTwinEntities.endpoints
    rw [hfilter, List.map_map, List.map_map]
    rfl
  exact congrArg Except.ok hids

theorem renderInterfaces_rows :
    renderInterfaces env twin.entities.rows = interfacesDf twin := by
  have hsorted := sortedBy_map (f := PhysicalInterface.dump) (k := (Row.get · "id"))
    (fun _ => rfl) twin.entities.interfaces
  obtain ⟨routerById, hrouters, hrouter⟩ := byId_routers twin
  unfold renderInterfaces interfacesDf
  rw [hrouters]
  show (sortedBy _ (twin.entities.interfaces.map PhysicalInterface.dump) >>= _) = _
  rw [hsorted]
  exact collect_zipIdx_map (renderInterface_dump hrouter) _

theorem renderLinks_rows : renderLinks env twin.entities.rows = linksDf env twin := by
  have hsorted := sortedBy_map (f := PhysicalLink.dump) (k := (Row.get · "id"))
    (fun _ => rfl) twin.entities.links
  obtain ⟨routerById, hrouters, hrouter⟩ := byId_routers twin
  obtain ⟨ifaceById, hifaces, hiface⟩ := byId_interfaces twin
  obtain ⟨endpoints, hedges, hlinks⟩ := linkEndpoints_rows twin
  unfold renderLinks linksDf
  rw [hrouters, hifaces, hedges]
  show (sortedBy _ (twin.entities.links.map PhysicalLink.dump) >>= _) = _
  rw [hsorted]
  exact collect_zipIdx_map (renderLink_dump hrouter hiface hlinks) _

theorem renderDevices_rows : renderDevices twin.entities.rows = devicesDf twin := by
  have hsorted := sortedBy_map (f := Device.dump) (k := (Row.get · "id"))
    (fun _ => rfl) twin.entities.devices
  obtain ⟨routerById, hrouters, hrouter⟩ := byId_routers twin
  obtain ⟨ifaceById, hifaces, hiface⟩ := byId_interfaces twin
  unfold renderDevices devicesDf
  rw [hrouters, hifaces]
  show (sortedBy _ (twin.entities.devices.map Device.dump) >>= _) = _
  rw [hsorted]
  show collect _ (List.map Device.dump _) = _
  rw [collect_map, funext fun d => renderDevice_dump hrouter hiface d, collect_ok]

theorem renderVpns_rows : renderVpns twin.entities.rows = vpnsDf twin := by
  have hsorted := sortedBy_map (f := VRF.dump) (k := (Row.get · "id")) (fun _ => rfl)
    twin.entities.vrfs
  obtain ⟨servicesById, hservices, hservice⟩ :=
    byId_map (d := L3VPNService.dump) (fun _ => rfl) twin.entities.l3vpnServices
  have hvpn : ∀ vrf : VRF, renderVpn servicesById vrf.dump = .ok (vpnRow twin vrf) := by
    intro vrf
    have hget : getById servicesById (vrf.dump.get "vpn_id") = _ := hservice vrf.vpnId
    unfold renderVpn vpnRow
    rw [hget]
    cases lastWith L3VPNService.id twin.entities.l3vpnServices vrf.vpnId <;> rfl
  have hrows : byId (twin.entities.rows .l3vpnService) = .ok servicesById := hservices
  unfold renderVpns vpnsDf
  rw [hrows]
  show (sortedBy _ (twin.entities.vrfs.map VRF.dump) >>= _) = _
  rw [hsorted]
  show collect _ (List.map VRF.dump _) = _
  rw [collect_map, funext hvpn, collect_ok]

/-- The catalog of unchanged projections. -/
theorem renderCatalog_rows :
    renderCatalog env seed twin.capturedAt twin.entities.rows = toCatalog env twin seed := by
  unfold renderCatalog toCatalog
  rw [renderRouters_rows, renderInterfaces_rows, renderLinks_rows, renderDevices_rows,
    renderVpns_rows]

/-! ## The telemetry -/

/-- Sorting only looks at the keys of the items. -/
theorem sortedBy_congr {α : Type} {k l : α → Value} {items : List α}
    (h : ∀ a ∈ items, k a = l a) : sortedBy k items = sortedBy l items := by
  have hsort : (items.mergeSort fun a b => notAfter (k a) (k b)) =
      items.mergeSort fun a b => notAfter (l a) (l b) := by
    have hmap := List.map_mergeSort (r := fun a b => notAfter (k a) (k b))
      (s := fun a b => notAfter (l a) (l b)) (f := id) (l := items)
      fun a ha b hb => by rw [h a ha, h b hb]; rfl
    rwa [List.map_id, List.map_id] at hmap
  unfold sortedBy
  rw [List.map_congr_left h, hsort]

/-- The keys by which the two renderers sort. -/
theorem telemetryKey_dump {t : Table} {row : Row} (h : row ∈ twin.entities.rows t) :
    telemetryKey t (projectRow row (ATTR_ALLOW t)) = payloadKey t (projectRow row (ATTR_ALLOW t)) := by
  cases t with
  | interfaceLink => rfl
  | subnetAssociation => rfl
  | _ =>
    obtain ⟨a, -, rfl⟩ := List.mem_map.mp h
    exact Value.orEmpty_str a.id

/-- The telemetry of unchanged projections. -/
theorem renderTelemetry_rows :
    renderTelemetry twin.entities.rows = buildTelemetryPayload twin := by
  unfold renderTelemetry buildTelemetryPayload
  refine congrArg (collect · Table.all) (funext fun t => ?_)
  have hkey : ∀ row ∈ (twin.entities.rows t).map fun r => projectRow r (ATTR_ALLOW t),
      telemetryKey t row = payloadKey t row := by
    intro row hrow
    obtain ⟨r, hr, rfl⟩ := List.mem_map.mp hrow
    exact telemetryKey_dump twin hr
  rw [sortedBy_congr hkey]

/-! ## Runs without changes -/

/-- A run whose calls all return a `noop` leaves the projections of the twin. -/
theorem runOn_noop {sc : Scenario} {twin : GoldenTwin}
    (h : ∀ app ∈ (runOn env sc twin).2.applied, app.mutation.kind = "noop") :
    (runOn env sc twin).2.views = buildProjections twin := by
  refine runOn_induction (I := fun st => (∀ app ∈ st.applied, app.mutation.kind = "noop") →
    st.views = buildProjections twin) (fun _ => rfl) ?_ h
  intro st app hI hoccurs hnoop
  obtain ⟨g, hrun⟩ := hoccurs.runs
  have heffect := DefectClass.effect hoccurs.reachable.shaped hrun
  have hkind := hnoop app (List.mem_append_right _ (List.mem_singleton_self _))
  calc (st.next app).views = app.before := heffect.eq_of_noop hkind
    _ = st.views := hoccurs.before
    _ = buildProjections twin := hI fun a ha => hnoop a (List.mem_append_left _ ha)

/-- **The two renderers agree on clean data**: what a run without changes renders is what the
projector renders from the twin, file by file and row by row. -/
theorem render_agrees (env : Env) (sc : Scenario) (twin : GoldenTwin)
    (h : ∀ app ∈ (runOn env sc twin).2.applied, app.mutation.kind = "noop") :
    (renderCatalog env sc.seed twin.capturedAt fun t => (runOn env sc twin).2.views (.catalog, t)) =
        toCatalog env twin sc.seed ∧
      (renderTelemetry fun t => (runOn env sc twin).2.views (.telemetry, t)) =
        buildTelemetryPayload twin := by
  rw [runOn_noop h]
  exact ⟨renderCatalog_rows twin sc.seed, renderTelemetry_rows twin⟩

/-- Splitting identities in the telemetry, where nothing is split. -/
def splitTelemetry : Scenario :=
  .sample [.sample "s" SplitIdentity.name .telemetry "PhysicalRouter" []]

theorem render_agrees_sample :
    (∃ app ∈ (runOn .plain splitTelemetry .sample).2.applied, app.mutation.kind = "noop") ∧
      (renderCatalog .plain 1 GoldenTwin.sample.capturedAt fun t =>
        (runOn .plain splitTelemetry .sample).2.views (.catalog, t)) = toCatalog .plain .sample 1 ∧
      (renderTelemetry fun t => (runOn .plain splitTelemetry .sample).2.views (.telemetry, t)) =
        buildTelemetryPayload .sample :=
  ⟨by decide +kernel, render_agrees .plain splitTelemetry .sample (by decide +kernel)⟩

end GnnSandbox.Bench
