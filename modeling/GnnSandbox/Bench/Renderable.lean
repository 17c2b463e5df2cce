import GnnSandbox.Bench.Render

/-!
# Rows that can be rendered

The renderers sort rows by their ids, look rows up by ids that other rows name, and take texts
apart. `needs` lists the cells from which they ask something; where every row meets the needs of
its table, neither renderer raises.
-/

namespace GnnSandbox.Bench

open Raise

/-! ## What the renderers ask of a cell -/

/-- What a cell has to hold. -/
inductive Need where
  /-- a text, to be compared with others -/
  | text
  /-- a text, unless the cell is falsy -/
  | textOrFalsy
  /-- a key of a dictionary -/
  | key
  /-- a key of a dictionary, unless the cell is falsy -/
  | keyOrFalsy
deriving DecidableEq, Repr

def Value.isText : Value → Bool
  | .str _ => true
  | _ => false

namespace Need

def met : Need → Value → Bool
  | text, a => a.isText
  | textOrFalsy, a => a.orEmpty.isText
  | key, a => a.hashable
  | keyOrFalsy, a => !a.truthy || a.hashable

end Need

/-- The cells of a table from which a renderer asks something: the catalog's of the catalog, and
the telemetry's of the telemetry. -/
def needs : Side → Table → List (String × Need)
  | .catalog, .physicalRouter => [("id", .text), ("name", .textOrFalsy)]
  | .catalog, .physicalInterface => [("id", .text), ("router_id", .key), ("speed", .keyOrFalsy)]
  | .catalog, .physicalLink => [("id", .text), ("bandwidth", .keyOrFalsy)]
  | .catalog, .interfaceLink => [("interface_id", .text), ("link_id", .key)]
  | .catalog, .device => [("id", .text), ("interface_id", .keyOrFalsy)]
  | .catalog, .l3vpnService => [("id", .key)]
  | .catalog, .vrf => [("id", .text), ("vpn_id", .key)]
  | .catalog, _ => []
  | .telemetry, .interfaceLink => [("interface_id", .text), ("link_id", .text)]
  | .telemetry, .subnetAssociation => [("entity_id", .text), ("subnet_id", .text)]
  | .telemetry, _ => [("id", .textOrFalsy)]

/-- The value meets what is asked from a cell. -/
def Fits (loc : Loc) (column : String) (value : Value) : Prop :=
  ∀ need, (column, need) ∈ needs loc.1 loc.2 → need.met value = true

/-- The cells of the row meet what is asked from them. -/
def RowFits (loc : Loc) (row : Row) : Prop := ∀ column, Fits loc column (row.get column)

/-- All rows do. -/
def Renderable (v : Views) : Prop := ∀ loc, ∀ row ∈ v loc, RowFits loc row

theorem Value.isText_iff {a : Value} : a.isText = true ↔ ∃ s, a = .str s := by
  cases a <;> simp [isText]

theorem Value.hashable_of_isText {a : Value} (h : a.isText = true) : a.hashable = true := by
  obtain ⟨s, rfl⟩ := isText_iff.mp h
  rfl

/-- The cell of a row with its need. -/
theorem RowFits.met {loc : Loc} {row : Row} (h : RowFits loc row) (column : String) (need : Need)
    (hneed : (column, need) ∈ needs loc.1 loc.2) : need.met (row.get column) = true :=
  h column need hneed

/-! ## Sorting and looking up -/

section Lookups

variable {α : Type} {items : List α} {rows : List Row}

/-- Items whose keys can be compared are sorted. -/
theorem sortedBy_comparable (key : α → Value) (items : List α)
    (h : ∀ a ∈ items, ∀ b ∈ items, (Value.lt? (key a) (key b)).isSome) :
    ∃ l, sortedBy key items = .ok l ∧ ∀ a ∈ l, a ∈ items := by
  have hpairs : (items.map key).Pairwise fun a b =>
      (Value.lt? a b).isSome ∧ (Value.lt? b a).isSome := by
    refine List.pairwise_map.mpr ?_
    refine List.Pairwise.imp_of_mem ?_ (List.pairwise_of_forall (R := fun _ _ => True)
      fun _ _ => trivial)
    intro a b ha hb _
    exact ⟨h a ha b hb, h b hb a ha⟩
  exact ⟨_, if_pos (decide_eq_true hpairs), fun a ha => (List.mergeSort_perm ..).mem_iff.mp ha⟩

/-- Items with texts as keys are sorted. -/
theorem sortedBy_text (key : α → Value) (h : ∀ a ∈ items, (key a).isText = true) :
    ∃ l, sortedBy key items = .ok l ∧ ∀ a ∈ l, a ∈ items := by
  refine sortedBy_comparable key items fun a ha b hb => ?_
  obtain ⟨s, hs⟩ := Value.isText_iff.mp (h a ha)
  obtain ⟨t, ht⟩ := Value.isText_iff.mp (h b hb)
  rw [hs, ht, Value.lt?_str]
  rfl

theorem getById_key {index : Value → Option Row} {key : Value} (h : key.hashable = true) :
    getById index key = .ok (index key) := if_pos h

theorem speedToMbps_key {speed : Value} (h : Need.keyOrFalsy.met speed = true) :
    ∃ mbps, speedToMbps speed = .ok mbps := by
  unfold speedToMbps
  split_ifs with htruthy
  · have hkey : (!speed.truthy || speed.hashable) = true := h
    rw [htruthy, Bool.not_true, Bool.false_or] at hkey
    cases speed <;> first | exact ⟨_, rfl⟩ | cases hkey
  · exact ⟨_, rfl⟩

variable {loc : Loc} {β : Type}

/-- Rows with texts as ids are sorted, and the rest goes on with them. -/
theorem exists_sorted_bind {f : List Row → Except Error β} (hrows : ∀ row ∈ rows, RowFits loc row)
    (hneed : ("id", Need.text) ∈ needs loc.1 loc.2)
    (hf : ∀ l, (∀ row ∈ l, RowFits loc row) → ∃ b, f l = .ok b) :
    ∃ b, (sortedBy (Row.get · "id") rows >>= f) = .ok b := by
  obtain ⟨l, hl, hmem⟩ := sortedBy_text (Row.get · "id") fun row hrow =>
    (hrows row hrow).met _ _ hneed
  rw [hl]
  exact hf l fun row hrow => hrows row (hmem row hrow)

/-- A dictionary holds rows that meet what is asked from them. -/
def IndexFits (loc : Loc) (index : Index) : Prop :=
  ∀ key row, index key = some row → RowFits loc row

/-- Rows with keys as ids make a dictionary, and the rest goes on with it. -/
theorem exists_byId_bind {f : Index → Except Error β} (hrows : ∀ row ∈ rows, RowFits loc row)
    (hkey : ∀ row ∈ rows, (row.get "id").hashable = true)
    (hf : ∀ index, IndexFits loc index → ∃ b, f index = .ok b) :
    ∃ b, (byId rows >>= f) = .ok b := by
  have hindex : byId rows = .ok fun key => rows.reverse.find? fun row => (row.get "id").eq key :=
    if_pos (List.all_eq_true.mpr hkey)
  rw [hindex]
  exact hf _ fun key row hrow =>
    hrows row (List.mem_reverse.mp (List.mem_of_find?_eq_some hrow))

end Lookups

/-! ## The catalog -/

section Catalog

variable {env : Env} {seed : ℤ} {capturedAt : String} {v : Views} {tables : Table → List Row}

/-- The audit dates of the routers can be computed. -/
def Auditable (env : Env) (capturedAt : String) : Prop :=
  ∀ jitter : ℤ, -5 ≤ jitter → jitter ≤ 5 → (env.auditDate capturedAt jitter).isSome

theorem lastAuditDateFromIso_ok (h : Auditable env capturedAt) (routerId : String) :
    ∃ date, lastAuditDateFromIso env capturedAt seed routerId = .ok date := by
  unfold lastAuditDateFromIso auditDate
  dsimp only
  have hsome := h ((fromBytes ((env.sha256 (toString seed ++ ":audit:" ++ routerId)).take 4) % 11 :
    ℕ) - 5) (by omega) (by omega)
  obtain ⟨date, hdate⟩ := Option.isSome_iff_exists.mp hsome
  rw [hdate]
  exact ⟨date, rfl⟩

theorem displayName_ok {name : Value} (h : Need.textOrFalsy.met name = true) :
    ∃ display, displayName env name = .ok display := by
  obtain ⟨s, hs⟩ := Value.isText_iff.mp h
  unfold displayName
  rw [hs]
  exact ⟨_, rfl⟩

theorem renderRouters_ok (hdate : Auditable env capturedAt)
    (h : ∀ t, ∀ row ∈ tables t, RowFits (.catalog, t) row) :
    ∃ rows, renderRouters env seed capturedAt tables = .ok rows := by
  refine exists_sorted_bind (h _) (List.mem_cons_self ..) fun routers hrouters =>
    exists_collect_eq_ok.mpr fun p hp => ?_
  have hrow := hrouters p.1 (List.fst_mem_of_mem_zipIdx hp)
  have hname := hrow.met "name" .textOrFalsy (by decide)
  exact exists_bind_eq_ok (displayName_ok hname) fun display _ =>
    exists_bind_eq_ok (lastAuditDateFromIso_ok hdate _) fun audit _ => ⟨_, rfl⟩

/-- Ids that are texts are keys. -/
theorem hashable_id {t : Table} (h : ∀ row ∈ tables t, RowFits (.catalog, t) row)
    (hneed : ("id", Need.text) ∈ needs .catalog t) :
    ∀ row ∈ tables t, (row.get "id").hashable = true :=
  fun row hrow => Value.hashable_of_isText ((h row hrow).met _ _ hneed)

theorem renderInterfaces_ok (h : ∀ t, ∀ row ∈ tables t, RowFits (.catalog, t) row) :
    ∃ rows, renderInterfaces env tables = .ok rows := by
  refine exists_byId_bind (h _) (hashable_id (h _) (by decide)) fun routerById _ =>
    exists_sorted_bind (h _) (by decide) fun interfaces hinterfaces =>
      exists_collect_eq_ok.mpr fun p hp => ?_
  have hrow := hinterfaces p.1 (List.fst_mem_of_mem_zipIdx hp)
  have hrouter : (p.1.get "router_id").hashable = true := hrow.met _ .key (by decide)
  have hspeed := hrow.met "speed" .keyOrFalsy (by decide)
  exact exists_bind_eq_ok ⟨_, getById_key hrouter⟩ fun router _ =>
    exists_bind_eq_ok (speedToMbps_key hspeed) fun speed _ => ⟨_, rfl⟩

/-- The router of an interface is looked up. -/
theorem routerOf_ok {routerById ifaceById : Index}
    (hifaces : IndexFits (.catalog, .physicalInterface) ifaceById) (key : Value) :
    ∃ router, routerOf routerById (ifaceById key) = .ok router := by
  cases hiface : ifaceById key with
  | none => exact ⟨none, rfl⟩
  | some iface => exact ⟨_, getById_key ((hifaces key iface hiface).met _ .key (by decide))⟩

theorem renderEndpoint_ok {routerById ifaceById : Index}
    (hifaces : IndexFits (.catalog, .physicalInterface) ifaceById) {id : Value}
    (hid : id.isText = true) : ∃ ep, renderEndpoint routerById ifaceById id = .ok ep := by
  refine exists_bind_eq_ok ⟨_, getById_key (Value.hashable_of_isText hid)⟩ fun iface hiface => ?_
  obtain rfl := Except.ok.inj ((getById_key (Value.hashable_of_isText hid)).symm.trans hiface)
  exact exists_bind_eq_ok (routerOf_ok hifaces id) fun router _ => ⟨_, rfl⟩

theorem renderLinks_ok (h : ∀ t, ∀ row ∈ tables t, RowFits (.catalog, t) row) :
    ∃ rows, renderLinks env tables = .ok rows := by
  refine exists_byId_bind (h _) (hashable_id (h _) (by decide)) fun routerById _ =>
    exists_byId_bind (h .physicalInterface) (hashable_id (h _) (by decide))
      fun ifaceById hifaces => ?_
  have hends : linkEndpoints (tables .interfaceLink) = .ok fun link =>
      ((tables .interfaceLink).filter fun il => (il.get "link_id").eq link).map
        (Row.get · "interface_id") :=
    if_pos (List.all_eq_true.mpr fun il hil =>
      (h .interfaceLink il hil).met _ .key (by decide))
  rw [hends]
  refine exists_sorted_bind (h .physicalLink) (by decide) fun links hlinks =>
    exists_collect_eq_ok.mpr fun p hp => ?_
  have hrow := hlinks p.1 (List.fst_mem_of_mem_zipIdx hp)
  have hid : (p.1.get "id").isText = true := hrow.met _ .text (by decide)
  have hbandwidth := hrow.met "bandwidth" .keyOrFalsy (by decide)
  refine exists_bind_eq_ok ⟨_, if_pos (Value.hashable_of_isText hid)⟩ fun unsorted hunsorted => ?_
  have htexts : ∀ a ∈ unsorted, a.isText = true := by
    obtain rfl := Except.ok.inj ((if_pos (Value.hashable_of_isText hid)).symm.trans hunsorted)
    intro a ha
    obtain ⟨il, hil, rfl⟩ := List.mem_map.mp ha
    exact (h .interfaceLink il (List.mem_of_mem_filter hil)).met _ .text (by decide)
  obtain ⟨ids, hids, hmem⟩ := sortedBy_text id htexts
  refine exists_bind_eq_ok ⟨ids, hids⟩ fun ids' hids' => ?_
  obtain rfl := Except.ok.inj (hids.symm.trans hids')
  refine exists_bind_eq_ok (exists_collect_eq_ok.mpr fun a ha => ?_) fun ep _ =>
    exists_bind_eq_ok (speedToMbps_key hbandwidth) fun bandwidth _ => ⟨_, rfl⟩
  exact renderEndpoint_ok hifaces (htexts a (hmem a (List.mem_of_mem_take ha)))

theorem renderDevices_ok (h : ∀ t, ∀ row ∈ tables t, RowFits (.catalog, t) row) :
    ∃ rows, renderDevices tables = .ok rows := by
  refine exists_byId_bind (h _) (hashable_id (h _) (by decide)) fun routerById _ =>
    exists_byId_bind (h .physicalInterface) (hashable_id (h _) (by decide))
      fun ifaceById hifaces => exists_sorted_bind (h _) (by decide) fun devices hdevices =>
        exists_collect_eq_ok.mpr fun d hd => ?_
  have hkey : (!(d.get "interface_id").truthy || (d.get "interface_id").hashable) = true :=
    (hdevices d hd).met _ .keyOrFalsy (by decide)
  have hiface : deviceInterface ifaceById d = .ok none ∨
      deviceInterface ifaceById d = .ok (ifaceById (d.get "interface_id")) := by
    unfold deviceInterface
    split_ifs with htruthy
    · rw [htruthy, Bool.not_true, Bool.false_or] at hkey
      exact .inr (getById_key hkey)
    · exact .inl rfl
  have hrouter : ∀ iface, deviceInterface ifaceById d = .ok iface →
      ∃ router, routerOf routerById iface = .ok router := by
    intro iface heq
    rcases hiface with hnone | hfound
    · obtain rfl := Except.ok.inj (hnone.symm.trans heq)
      exact ⟨none, rfl⟩
    · obtain rfl := Except.ok.inj (hfound.symm.trans heq)
      exact routerOf_ok hifaces _
  refine exists_bind_eq_ok ?_ fun iface heq => exists_bind_eq_ok (hrouter iface heq)
    fun router _ => ⟨_, rfl⟩
  rcases hiface with hnone | hfound
  · exact ⟨_, hnone⟩
  · exact ⟨_, hfound⟩

theorem renderVpns_ok (h : ∀ t, ∀ row ∈ tables t, RowFits (.catalog, t) row) :
    ∃ rows, renderVpns tables = .ok rows := by
  refine exists_byId_bind (h .l3vpnService) (fun row hrow =>
    (h _ row hrow).met _ .key (by decide)) fun servicesById _ =>
      exists_sorted_bind (h .vrf) (by decide) fun vrfs hvrfs =>
        exists_collect_eq_ok.mpr fun vrf hvrf => ?_
  have hvpn : (vrf.get "vpn_id").hashable = true := (hvrfs vrf hvrf).met _ .key (by decide)
  exact exists_bind_eq_ok ⟨_, getById_key hvpn⟩ fun svc _ => ⟨_, rfl⟩

end Catalog

/-! ## The telemetry -/

section Telemetry

variable {tables : Table → List Row}

theorem projectRow_get {row : Row} {allow : List String} {column : String} (h : column ∈ allow) :
    (projectRow row allow).get column = row.get column := by
  unfold projectRow Row.get
  induction allow with
  | nil => cases h
  | cons k allow ih =>
    rw [List.map_cons, List.lookup_cons]
    by_cases hk : column = k
    · rw [hk, beq_self_eq_true]
      rfl
    · rw [beq_false_of_ne hk]
      exact ih ((List.mem_cons.mp h).resolve_left hk)

/-- Pairs of texts can be compared. -/
theorem lt?_pair {a b c d : Value} (ha : a.isText = true) (hb : b.isText = true)
    (hc : c.isText = true) (hd : d.isText = true) :
    (Value.lt? (.list [a, b]) (.list [c, d])).isSome := by
  obtain ⟨a, rfl⟩ := Value.isText_iff.mp ha
  obtain ⟨b, rfl⟩ := Value.isText_iff.mp hb
  obtain ⟨c, rfl⟩ := Value.isText_iff.mp hc
  obtain ⟨d, rfl⟩ := Value.isText_iff.mp hd
  unfold Value.lt? Value.ltItems?
  split_ifs
  · unfold Value.ltItems?
    split_ifs
    · unfold Value.ltItems?
      rfl
    · rw [Value.lt?_str]
      rfl
  · rw [Value.lt?_str]
    rfl

/-- **The telemetry** is rendered from rows that meet what is asked from them. -/
theorem renderTelemetry_ok (h : ∀ t, ∀ row ∈ tables t, RowFits (.telemetry, t) row) :
    ∃ payload, renderTelemetry tables = .ok payload := by
  refine exists_collect_eq_ok.mpr fun t _ => exists_bind_eq_ok ?_ fun rows _ => ⟨_, rfl⟩
  have hpair : ∀ (a b : String), a ∈ ATTR_ALLOW t → b ∈ ATTR_ALLOW t →
      (a, Need.text) ∈ needs .telemetry t → (b, Need.text) ∈ needs .telemetry t →
      (∀ row, telemetryKey t row = .list [row.get a, row.get b]) →
      ∃ rows, sortedBy (telemetryKey t) ((tables t).map fun r => projectRow r (ATTR_ALLOW t)) =
        .ok rows := by
    intro a b ha hb hneedA hneedB hkey
    have hmet : ∀ row ∈ (tables t).map fun r => projectRow r (ATTR_ALLOW t),
        (row.get a).isText = true ∧ (row.get b).isText = true := by
      intro row hrow
      obtain ⟨r, hr, rfl⟩ := List.mem_map.mp hrow
      rw [projectRow_get ha, projectRow_get hb]
      exact ⟨(h t r hr).met _ _ hneedA, (h t r hr).met _ _ hneedB⟩
    obtain ⟨rows, hrows, -⟩ := sortedBy_comparable (telemetryKey t)
      ((tables t).map fun r => projectRow r (ATTR_ALLOW t)) fun r hr r' hr' => by
        rw [hkey, hkey]
        exact lt?_pair (hmet r hr).1 (hmet r hr).2 (hmet r' hr').1 (hmet r' hr').2
    exact ⟨rows, hrows⟩
  have hid : "id" ∈ ATTR_ALLOW t → ("id", Need.textOrFalsy) ∈ needs .telemetry t →
      (∀ row, telemetryKey t row = (row.get "id").orEmpty) →
      ∃ rows, sortedBy (telemetryKey t) ((tables t).map fun r => projectRow r (ATTR_ALLOW t)) =
        .ok rows := by
    intro hallow hneed hkey
    have htexts : ∀ row ∈ (tables t).map fun r => projectRow r (ATTR_ALLOW t),
        (telemetryKey t row).isText = true := by
      intro row hrow
      obtain ⟨r, hr, rfl⟩ := List.mem_map.mp hrow
      rw [hkey, projectRow_get hallow]
      exact (h t r hr).met _ _ hneed
    obtain ⟨rows, hrows, -⟩ := sortedBy_text (telemetryKey t) htexts
    exact ⟨rows, hrows⟩
  cases t with
  | interfaceLink =>
    exact hpair "interface_id" "link_id" (by decide) (by decide) (by decide) (by decide)
      fun _ => rfl
  | subnetAssociation =>
    exact hpair "entity_id" "subnet_id" (by decide) (by decide) (by decide) (by decide) fun _ => rfl
  | _ => exact hid (by decide) (by decide) fun _ => rfl

end Telemetry

/-! ## Both -/

/-- Neither renderer raises. -/
def Renders (env : Env) (seed : ℤ) (capturedAt : String) (v : Views) : Prop :=
  (∀ file ∈ renderCatalog env seed capturedAt fun t => v (.catalog, t),
    ∃ rows, file.2 = .ok rows) ∧
    ∃ payload, renderTelemetry (fun t => v (.telemetry, t)) = .ok payload

/-- **Rows that meet what is asked from them are rendered.** -/
theorem Renderable.renders {env : Env} {capturedAt : String} {v : Views} (h : Renderable v)
    (hdate : Auditable env capturedAt) (seed : ℤ) : Renders env seed capturedAt v := by
  have hcatalog : ∀ t, ∀ row ∈ (fun t => v (Side.catalog, t)) t, RowFits (.catalog, t) row :=
    fun t => h (.catalog, t)
  refine ⟨fun file hfile => ?_, renderTelemetry_ok fun t => h (.telemetry, t)⟩
  unfold renderCatalog at hfile
  simp only [List.mem_cons, List.not_mem_nil, or_false] at hfile
  rcases hfile with rfl | rfl | rfl | rfl | rfl
  · exact renderRouters_ok hdate hcatalog
  · exact renderInterfaces_ok hcatalog
  · exact renderLinks_ok hcatalog
  · exact renderDevices_ok hcatalog
  · exact renderVpns_ok hcatalog

end GnnSandbox.Bench
