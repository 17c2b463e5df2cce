import GnnSandbox.Bench.NodeRemoval

/-!
# Dependents of a removed node

A row depends on a removed row when it refers to it, or to another row that goes with it. Without
a node and its dependents the other references still resolve. `MissingNode` follows this only in
part: it walks from a router to its interfaces and VRFs and to their edges and sessions, finds
the rows again by their ids and the devices by a prefix, and has no cascade for VRFs, VPNs and
subnets.
-/

namespace GnnSandbox.Bench

open Raise EraseEach

variable {env : Env}

/-! ## References -/

/-- What a row refers to: the tables and ids. The entity of a subnet association is an
interface. -/
def references (t : Table) (row : Row) : List (Table × Value) :=
  match t with
  | .physicalInterface => [(.physicalRouter, row.get "router_id")]
  | .interfaceLink =>
    [(.physicalInterface, row.get "interface_id"), (.physicalLink, row.get "link_id")]
  | .device =>
    if row.get "interface_id" = .none then []
    else [(.physicalInterface, row.get "interface_id")]
  | .subnetAssociation =>
    [(.physicalInterface, row.get "entity_id"), (.logicalSubnet, row.get "subnet_id")]
  | .vrf => [(.physicalRouter, row.get "router_id"), (.l3vpnService, row.get "vpn_id")]
  | .bgpSession => [(.vrf, row.get "vrf_id")]
  | .physicalRouter | .physicalLink | .logicalSubnet | .l3vpnService => []

/-- Every reference of a projection names a row. -/
def Resolves (v : Views) (side : Side) : Prop :=
  ∀ t, ∀ row ∈ v (side, t), ∀ r ∈ references t row,
    ∃ row' ∈ v (side, r.1), (row'.get "id").eq r.2 = true

/-- The row refers to a row of a table. -/
def Refers (t : Table) (row : Row) (t' : Table) (row' : Row) : Prop :=
  ∃ r ∈ references t row, r.1 = t' ∧ (row'.get "id").eq r.2 = true

/-! ## What should be left -/

/-- The node, and what refers to a row that goes. A device stays. -/
inductive Gone (v : Views) (node : Ref) : Ref → Prop where
  | node : Gone v node node
  | dependent {ref gone : Ref} (hin : ref.In v) (hside : ref.loc.1 = node.loc.1)
      (hdevice : ref.loc.2 ≠ .device) (hgone : Gone v node gone)
      (hrefers : Refers ref.loc.2 ref.row gone.loc.2 gone.row) : Gone v node ref

/-- A device whose gateway goes. -/
def Orphaned (v : Views) (node ref : Ref) : Prop :=
  ref.loc = (node.loc.1, .device) ∧
    ∃ gone, Gone v node gone ∧ Refers .device ref.row gone.loc.2 gone.row

open Classical in
/-- The projections without a node: the rows that go are left out, and devices lose a gateway
that went. -/
noncomputable def without (v : Views) (node : Ref) : Views := fun loc =>
  ((refs loc (v loc)).filter fun ref => ¬Gone v node ref).map fun ref =>
    if Orphaned v node ref then ref.row.set "interface_id" .none else ref.row

theorem mem_without {v : Views} {node : Ref} {loc : Loc} {row : Row} :
    row ∈ without v node loc ↔
      ∃ ref, ref.loc = loc ∧ ref.In v ∧ ¬Gone v node ref ∧
        ((Orphaned v node ref ∧ row = ref.row.set "interface_id" .none) ∨
          (¬Orphaned v node ref ∧ row = ref.row)) := by
  unfold without
  simp only [List.mem_map, List.mem_filter, mem_refs, decide_eq_true_eq]
  constructor
  · rintro ⟨ref, ⟨⟨hloc, hin⟩, hgone⟩, rfl⟩
    refine ⟨ref, hloc, hin, hgone, ?_⟩
    by_cases h : Orphaned v node ref
    · exact .inl ⟨h, if_pos h⟩
    · exact .inr ⟨h, if_neg h⟩
  · rintro ⟨ref, hloc, hin, hgone, ⟨h, rfl⟩ | ⟨h, rfl⟩⟩
    · exact ⟨ref, ⟨⟨hloc, hin⟩, hgone⟩, if_pos h⟩
    · exact ⟨ref, ⟨⟨hloc, hin⟩, hgone⟩, if_neg h⟩

/-- The tables that the rows of a table refer to. -/
def targets : Table → List Table
  | .physicalInterface => [.physicalRouter]
  | .interfaceLink => [.physicalInterface, .physicalLink]
  | .device => [.physicalInterface]
  | .subnetAssociation => [.physicalInterface, .logicalSubnet]
  | .vrf => [.physicalRouter, .l3vpnService]
  | .bgpSession => [.vrf]
  | .physicalRouter | .physicalLink | .logicalSubnet | .l3vpnService => []

theorem mem_targets {t : Table} {row : Row} {r : Table × Value} (h : r ∈ references t row) :
    r.1 ∈ targets t := by
  unfold references at h
  cases t with
  | physicalRouter | physicalLink | logicalSubnet | l3vpnService => cases h
  | device =>
    dsimp only at h
    split at h
    · cases h
    · rw [List.mem_singleton.mp h]
      exact List.mem_singleton_self _
  | _ =>
    simp only [List.mem_cons, List.not_mem_nil, or_false] at h
    rcases h with rfl | rfl <;> simp [targets]

/-- Nothing refers to a device. -/
theorem ne_device_of_mem_references {t : Table} {row : Row} {r : Table × Value}
    (h : r ∈ references t row) : r.1 ≠ .device := by
  have hall : ∀ t' ∈ targets t, t' ≠ .device := by
    cases t <;> decide
  exact hall _ (mem_targets h)

theorem references_clear {row : Row} (h : row.columns = Table.device.columns) :
    references .device (row.set "interface_id" .none) = [] := by
  have hcolumn : "interface_id" ∈ row.columns := by
    rw [h]
    decide
  exact if_pos (Row.get_set_self hcolumn .none)

/-- A row that goes is one of the projection. -/
theorem Gone.spec {v : Views} {node ref : Ref} (h : Gone v node ref) (hnode : node.In v) :
    ref.In v ∧ ref.loc.1 = node.loc.1 := by
  cases h with
  | node => exact ⟨hnode, rfl⟩
  | dependent hin hside => exact ⟨hin, hside⟩

/-- **Without a node and its dependents all references resolve** that resolved before. -/
theorem Resolves.without {v : Views} {side : Side} {node : Ref} (hv : Shaped v)
    (h : Resolves v side) (hside : node.loc.1 = side) : Resolves (without v node) side := by
  intro t row hrow r hr
  obtain ⟨ref, hloc, hin, hstays, hrewritten⟩ := mem_without.mp hrow
  have hnot : ¬Orphaned v node ref ∧ row = ref.row := by
    rcases hrewritten with ⟨⟨hdevice, -⟩, rfl⟩ | hsame
    · obtain rfl : t = .device := congrArg Prod.snd (hloc.symm.trans hdevice)
      have hcolumns := hv.columns hin
      rw [hloc] at hcolumns
      rw [references_clear hcolumns] at hr
      cases hr
    · exact hsame
  obtain ⟨hkeeps, rfl⟩ := hnot
  obtain ⟨row', hrow', heq⟩ := h t ref.row (hloc ▸ List.mem_of_getElem? hin) r hr
  obtain ⟨i, hi⟩ := List.mem_iff_getElem?.mp hrow'
  have hrefers : Refers t ref.row r.1 row' := ⟨r, hr, rfl, heq⟩
  have hthere : ¬Gone v node ⟨(side, r.1), i, row'⟩ := by
    intro hgone
    by_cases hdevice : t = .device
    · subst hdevice
      exact hkeeps ⟨by rw [hloc, hside], _, hgone, hrefers⟩
    · refine hstays (.dependent hin (by rw [hloc, hside]) (by rwa [hloc]) hgone ?_)
      rw [hloc]
      exact hrefers
  refine ⟨row', mem_without.mpr ⟨⟨(side, r.1), i, row'⟩, rfl, hi, hthere, .inr ⟨?_, rfl⟩⟩, heq⟩
  rintro ⟨hdevice, -⟩
  exact ne_device_of_mem_references hr (congrArg Prod.snd hdevice)

/-! ## Which rows go -/

/-- How many references lead from a row of the table at most. -/
def rank : Table → ℕ
  | .physicalRouter | .physicalLink | .logicalSubnet | .l3vpnService => 0
  | .physicalInterface | .vrf => 1
  | .device | .interfaceLink | .subnetAssociation | .bgpSession => 2

theorem rank_lt_of_mem_references {t : Table} {row : Row} {r : Table × Value}
    (h : r ∈ references t row) : rank r.1 < rank t := by
  have hall : ∀ t' ∈ targets t, rank t' < rank t := by
    cases t <;> decide
  exact hall _ (mem_targets h)

theorem rank_le (t : Table) : rank t ≤ 2 := by
  cases t <;> decide

/-- The row refers to the node, or to a row that does. -/
def Depends (v : Views) (side : Side) (t : Table) (id : String) (t' : Table) (row : Row) : Prop :=
  ∃ r ∈ references t' row, r = (t, .str id) ∨
    ∃ row' ∈ v (side, r.1), (row'.get "id").eq r.2 = true ∧ (t, .str id) ∈ references r.1 row'

section Depends

variable {v : Views} {side : Side} {t t' : Table} {id : String} {node ref : Ref}

theorem refers_node (hid : node.row.get "id" = .str id) {row : Row} :
    Refers t' row t node.row ↔ (t, .str id) ∈ references t' row := by
  unfold Refers
  constructor
  · rintro ⟨r, hr, rfl, heq⟩
    rw [hid, Value.str_eq] at heq
    rwa [← heq]
  · intro h
    exact ⟨_, h, rfl, by rw [hid]; exact Value.str_eq.mpr rfl⟩

/-- What refers to a row that goes depends on the node. -/
theorem Gone.depends_of_refers (hnode : node.loc = (side, t)) (hid : node.row.get "id" = .str id)
    (hgone : Gone v node ref) (hdepends : ref = node ∨ Depends v side t id ref.loc.2 ref.row)
    {row : Row} (hrefers : Refers t' row ref.loc.2 ref.row) : Depends v side t id t' row := by
  obtain ⟨r, hr, htable, heq⟩ := hrefers
  have hrank := rank_lt_of_mem_references hr
  rcases hdepends with rfl | ⟨r', hr', hdirect⟩
  · refine ⟨r, hr, .inl (Prod.ext (htable.trans (by rw [hnode])) ?_)⟩
    rw [hid, Value.str_eq] at heq
    exact heq
  · have hrank' := rank_lt_of_mem_references hr'
    rcases hdirect with rfl | ⟨row', -, -, hrow'⟩
    · have hthere : ref.In v ∧ ref.loc.1 = node.loc.1 := by
        cases hgone with
        | node =>
          rw [hnode] at hrank'
          exact absurd hrank' (Nat.lt_irrefl _)
        | dependent hin hside => exact ⟨hin, hside⟩
      refine ⟨r, hr, .inr ⟨ref.row, ?_, heq, ?_⟩⟩
      · have hloc : ref.loc = (side, r.1) := Prod.ext (hthere.2.trans (by rw [hnode])) htable.symm
        rw [← hloc]
        exact List.mem_of_getElem? hthere.1
      · rw [htable]
        exact hr'
    · -- a chain of three references is too long
      have hrank'' := rank_lt_of_mem_references hrow'
      have hle := rank_le t'
      rw [htable] at hrank
      omega

/-- A row that goes is the node, or refers to it, or to a row that refers to it. -/
theorem Gone.depends (hnode : node.loc = (side, t)) (hid : node.row.get "id" = .str id)
    (h : Gone v node ref) : ref = node ∨ Depends v side t id ref.loc.2 ref.row := by
  induction h with
  | node => exact .inl rfl
  | dependent _ _ _ hgone hrefers ih => exact .inr (hgone.depends_of_refers hnode hid ih hrefers)

/-- A row on which the node's removal tells goes, or is a device that loses its gateway. -/
theorem Depends.gone (hnode : node.loc = (side, t)) (hid : node.row.get "id" = .str id) {row : Row}
    (h : Depends v side t id t' row) :
    ∃ gone, Gone v node gone ∧ Refers t' row gone.loc.2 gone.row := by
  have htable : node.loc.2 = t := by rw [hnode]
  have hrefers : ∀ {t' : Table} {row : Row}, (t, .str id) ∈ references t' row →
      Refers t' row node.loc.2 node.row := by
    intro t' row hmem
    rw [htable]
    exact (refers_node hid).mpr hmem
  obtain ⟨r, hr, rfl | ⟨row', hrow', heq, hmem⟩⟩ := h
  · exact ⟨node, .node, hrefers hr⟩
  · obtain ⟨i, hi⟩ := List.mem_iff_getElem?.mp hrow'
    refine ⟨⟨(side, r.1), i, row'⟩, ?_, r, hr, rfl, heq⟩
    exact .dependent hi (by rw [hnode]) (ne_device_of_mem_references hr) .node (hrefers hmem)

theorem gone_iff (hnode : node.loc = (side, t)) (hid : node.row.get "id" = .str id)
    (hin : ref.In v) (hloc : ref.loc = (side, t')) (hne : t' ≠ t) (hdevice : t' ≠ .device) :
    Gone v node ref ↔ Depends v side t id t' ref.row := by
  have htable : ref.loc.2 = t' := by rw [hloc]
  constructor
  · intro h
    rcases h.depends hnode hid with rfl | h
    · rw [hnode] at htable
      exact absurd htable.symm hne
    · rwa [htable] at h
  · intro h
    obtain ⟨gone, hgone, hrefers⟩ := h.gone hnode hid
    exact .dependent hin (by rw [hloc, hnode]) (by rwa [htable]) hgone (by rwa [htable])

theorem orphaned_iff (hnode : node.loc = (side, t)) (hid : node.row.get "id" = .str id)
    (hloc : ref.loc = (side, .device)) :
    Orphaned v node ref ↔ Depends v side t id .device ref.row := by
  constructor
  · rintro ⟨-, gone, hgone, hrefers⟩
    exact hgone.depends_of_refers hnode hid (hgone.depends hnode hid) hrefers
  · intro h
    exact ⟨by rw [hloc, hnode], h.gone hnode hid⟩

theorem depends_device {row : Row} :
    Depends v side t id .device row ↔ row.get "interface_id" ≠ .none ∧
      ((.physicalInterface, row.get "interface_id") = (t, Value.str id) ∨
        ∃ row' ∈ v (side, .physicalInterface), (row'.get "id").eq (row.get "interface_id") = true ∧
          (t, .str id) ∈ references .physicalInterface row') := by
  by_cases hnone : row.get "interface_id" = .none
  · have hempty : references .device row = [] := if_pos hnone
    simp [Depends, hempty, hnone]
  · have hone : references .device row = [(.physicalInterface, row.get "interface_id")] :=
      if_neg hnone
    simp only [Depends, hone, List.mem_singleton, exists_eq_left, ne_eq, hnone, not_false_eq_true,
      true_and]

end Depends

/-! ### Table by table -/

section Tables

variable {v : Views} {side : Side} {t t' : Table} {id : String} {node : Ref} {loc : Loc}

theorem map_filter_refs {p : Row → Bool} {f : Row → Row} {rows : List Row} :
    ((refs loc rows).filter fun ref => p ref.row).map (fun ref => f ref.row) =
      (rows.filter p).map f := by
  have hrows : rows.filter p = (rows.zipIdx.filter fun q => p q.1).map Prod.fst := by
    have hmap : rows.filter p = (rows.zipIdx.map Prod.fst).filter p := by
      rw [List.zipIdx_map_fst]
    rw [hmap, List.filter_map]
    rfl
  unfold refs
  rw [hrows, List.filter_map, List.map_map, List.map_map]
  rfl

/-- What is left of a table whose rows go and change by their own contents. -/
theorem without_eq {p : Row → Bool} {f : Row → Row}
    (hgone : ∀ ref, ref.loc = loc → ref.In v → (Gone v node ref ↔ p ref.row = false))
    (horphaned : ∀ ref, ref.loc = loc → ref.In v →
      (Orphaned v node ref ∧ f ref.row = ref.row.set "interface_id" .none) ∨
        (¬Orphaned v node ref ∧ f ref.row = ref.row)) :
    without v node loc = ((v loc).filter p).map f := by
  classical
  unfold without
  rw [← @map_filter_refs loc]
  have hfilter : ((refs loc (v loc)).filter fun ref => decide ¬Gone v node ref) =
      (refs loc (v loc)).filter fun ref => p ref.row := by
    refine List.filter_congr fun ref href => ?_
    obtain ⟨hloc, hin⟩ := mem_refs.mp href
    rw [hgone ref hloc hin]
    cases p ref.row <;> simp
  rw [hfilter]
  refine List.map_congr_left fun ref href => ?_
  obtain ⟨hloc, hin⟩ := mem_refs.mp (List.mem_filter.mp href).1
  rcases horphaned ref hloc hin with ⟨h, hf⟩ | ⟨h, hf⟩
  · rw [if_pos h, hf]
  · rw [if_neg h, hf]

theorem not_orphaned (h : loc ≠ (node.loc.1, .device)) {ref : Ref} (hloc : ref.loc = loc) :
    ¬Orphaned v node ref := fun hdevice => h (hloc.symm.trans hdevice.1)

/-- The tables of the other side are as they were. -/
theorem without_of_side_ne (hin : node.In v) (h : loc.1 ≠ node.loc.1) :
    without v node loc = v loc := by
  have heq : without v node loc = ((v loc).filter fun _ => true).map id := by
    refine without_eq (fun ref hloc _ => ?_) fun ref hloc _ => .inr ⟨?_, rfl⟩
    · refine iff_of_false (fun hgone => h ?_) (by simp)
      rw [← hloc]
      exact (hgone.spec hin).2
    · rintro ⟨hdevice, -⟩
      rw [← hloc, hdevice] at h
      exact h rfl
  rw [heq, List.map_id, List.filter_eq_self.mpr fun _ _ => rfl]

theorem map_filter_zipIdx {rows : List Row} {i k : ℕ} (hk : k ≤ i) :
    ((rows.zipIdx k).filter fun q => decide (q.2 ≠ i)).map Prod.fst = rows.eraseIdx (i - k) := by
  induction rows generalizing k with
  | nil => rfl
  | cons row rows ih =>
    rw [List.zipIdx_cons]
    by_cases heq : k = i
    · subst heq
      rw [List.filter_cons_of_neg (by simp), Nat.sub_self, List.eraseIdx_zero, List.tail_cons]
      have hall : ((rows.zipIdx (k + 1)).filter fun q => decide (q.2 ≠ k)) = rows.zipIdx (k + 1) := by
        refine List.filter_eq_self.mpr fun q hq => decide_eq_true ?_
        have hle := List.le_snd_of_mem_zipIdx hq
        omega
      rw [hall, List.zipIdx_map_fst]
    · have hindex : i - k = i - (k + 1) + 1 := by omega
      rw [List.filter_cons_of_pos (by simpa using heq), List.map_cons, ih (by omega), hindex,
        List.eraseIdx_cons_succ]

/-- Of the node's own table only the node goes. -/
theorem without_self (hnode : node.loc = (side, t)) (hid : node.row.get "id" = .str id)
    (hin : node.In v) (hdevice : t ≠ .device) :
    without v node (side, t) = v.erase node (side, t) := by
  classical
  have hgone : ∀ ref ∈ refs (side, t) (v (side, t)),
      (Gone v node ref ↔ ref.index = node.index) := by
    intro ref href
    obtain ⟨hloc, href⟩ := mem_refs.mp href
    constructor
    · intro h
      rcases h.depends hnode hid with rfl | ⟨r, hr, h⟩
      · rfl
      · have hrank := rank_lt_of_mem_references hr
        rw [hloc] at hrank
        rcases h with rfl | ⟨row', -, -, hrow'⟩
        · exact absurd hrank (Nat.lt_irrefl _)
        · exact absurd (hrank.trans (rank_lt_of_mem_references hrow')) (Nat.lt_irrefl _)
    · intro hindex
      have hsame : ref = node := by
        obtain ⟨loc, index, row⟩ := ref
        obtain ⟨loc', index', row'⟩ := node
        obtain rfl : loc = (side, t) := hloc
        obtain rfl : loc' = (side, t) := hnode
        obtain rfl : index = index' := hindex
        obtain rfl : row = row' := Option.some.inj (href.symm.trans hin)
        rfl
      rw [hsame]
      exact .node
  have hleft : without v node (side, t) =
      ((v (side, t)).zipIdx.filter fun q => decide (q.2 ≠ node.index)).map Prod.fst := by
    unfold without
    have hfilter : ((refs (side, t) (v (side, t))).filter fun ref => decide ¬Gone v node ref) =
        (refs (side, t) (v (side, t))).filter fun ref => decide (ref.index ≠ node.index) :=
      List.filter_congr fun ref href => decide_eq_decide.mpr (not_congr (hgone ref href))
    rw [hfilter]
    have hmap : ∀ ref ∈ (refs (side, t) (v (side, t))).filter
        fun ref => decide (ref.index ≠ node.index),
        (if Orphaned v node ref then ref.row.set "interface_id" .none else ref.row) = ref.row := by
      intro ref href
      have hloc := (mem_refs.mp (List.mem_filter.mp href).1).1
      exact if_neg (not_orphaned (by simpa using fun _ => hdevice) hloc)
    rw [List.map_congr_left hmap]
    unfold refs
    rw [List.filter_map, List.map_map]
    rfl
  rw [hleft, map_filter_zipIdx (Nat.zero_le _), Nat.sub_zero, ← hnode, Views.erase_self]

/-- From another table the rows go that depend on the node. -/
theorem without_of_ne (hnode : node.loc = (side, t)) (hid : node.row.get "id" = .str id)
    (hne : t' ≠ t) (hdevice : t' ≠ .device) {q : Row → Bool}
    (hq : ∀ row ∈ v (side, t'), Depends v side t id t' row ↔ q row = true) :
    without v node (side, t') = (v (side, t')).filter fun row => !q row := by
  rw [without_eq (p := fun row => !q row) (f := fun row => row), List.map_id']
  · intro ref hloc hin
    have hrow : ref.row ∈ v (side, t') := hloc ▸ List.mem_of_getElem? hin
    rw [gone_iff hnode hid hin hloc hne hdevice, hq ref.row hrow, Bool.not_eq_false']
  · intro ref hloc _
    exact .inr ⟨not_orphaned (by simpa using fun _ => hdevice) hloc, rfl⟩

/-- The devices that depend on the node lose their gateway. -/
theorem without_device (hnode : node.loc = (side, t)) (hid : node.row.get "id" = .str id)
    (hne : t ≠ .device) {q : Row → Bool}
    (hq : ∀ row ∈ v (side, .device), Depends v side t id .device row ↔ q row = true) :
    without v node (side, .device) =
      (v (side, .device)).map fun row => if q row then row.set "interface_id" .none else row := by
  rw [without_eq (p := fun _ => true) (f := fun row =>
    if q row then row.set "interface_id" .none else row), List.filter_eq_self.mpr fun _ _ => rfl]
  · intro ref hloc _
    refine iff_of_false (fun hgone => ?_) (by simp)
    cases hgone with
    | node => exact hne (congrArg Prod.snd (hnode.symm.trans hloc))
    | dependent _ _ hdevice => exact hdevice (congrArg Prod.snd hloc)
  · intro ref hloc hin
    have hrow : ref.row ∈ v (side, .device) := hloc ▸ List.mem_of_getElem? hin
    rw [orphaned_iff hnode hid hloc, hq ref.row hrow]
    cases q ref.row with
    | true => exact .inl ⟨rfl, rfl⟩
    | false => exact .inr ⟨by simp, rfl⟩

/-- A table from which no references lead to the node's table stays as it was. -/
theorem without_of_untargeted (hnode : node.loc = (side, t)) (hid : node.row.get "id" = .str id)
    (hne : t' ≠ t) (ht : t ≠ .device) (hfree : ∀ u ∈ t' :: targets t', t ∉ targets u) :
    without v node (side, t') = v (side, t') := by
  have hnot : ∀ row ∈ v (side, t'), Depends v side t id t' row ↔ false = true := by
    refine fun row _ => iff_of_false ?_ (by simp)
    rintro ⟨r, hr, rfl | ⟨row', -, -, hmem⟩⟩
    · exact hfree t' (List.mem_cons_self ..) (mem_targets hr)
    · exact hfree r.1 (List.mem_cons_of_mem _ (mem_targets hr)) (mem_targets hmem)
  by_cases hdevice : t' = .device
  · subst hdevice
    rw [without_device (q := fun _ => false) hnode hid ht hnot]
    simp
  · rw [without_of_ne (q := fun _ => false) hnode hid hne hdevice hnot]
    simp

/-- Two projections agree when they do on each table of the node's side, and the node's side is
the only one that differs. -/
theorem eq_without_iff {v' : Views} (hnode : node.loc = (side, t)) (hin : node.In v)
    (hother : ∀ loc, loc.1 ≠ side → v' loc = v loc) :
    v' = without v node ↔ ∀ t', v' (side, t') = without v node (side, t') := by
  constructor
  · intro h t'
    rw [h]
  · intro h
    funext loc
    by_cases hside : loc.1 = side
    · obtain ⟨side', t'⟩ := loc
      obtain rfl : side' = side := hside
      exact h t'
    · rw [hother loc hside, without_of_side_ne hin (by rwa [hnode])]

end Tables

/-! ## What a call leaves -/

namespace MissingNode

/-- No row refers to the id of a table. -/
def Unreferenced (v : Views) (side : Side) (t : Table) (id : String) : Prop :=
  ∀ t', ∀ row ∈ v (side, t'), (t, .str id) ∉ references t' row

/-- The row is of the router. -/
def ownedBy (id : String) (row : Row) : Bool := (row.get "router_id").eq (.str id)

/-- The ids of the router's interfaces and VRFs lead back to these rows, and the gateways that
start with the router's id are the ids of its interfaces. -/
structure FoundAgain (v : Views) (side : Side) (id : String) : Prop where
  interfaces : Separated (fun row => row.get "id") Value.eq (ownedBy id) (v (side, .physicalInterface))
  vrfs : Separated (fun row => row.get "id") Value.eq (ownedBy id) (v (side, .vrf))
  devices : ∀ dev ∈ v (side, .device), ∃ gateway, dev.get "interface_id" = .str gateway ∧
    (Graph.startsWith gateway (id ++ ":interface:") = true ↔
      ∃ row ∈ v (side, .physicalInterface), ownedBy id row = true ∧ row.get "id" = .str gateway)

/-- The condition under which a removal takes along the dependents of the node. -/
def TakesDependents (v : Views) (side : Side) (t : Table) (id : String) : Prop :=
  match t with
  | .physicalRouter => FoundAgain v side id
  | .physicalInterface | .physicalLink => True
  | t => Unreferenced v side t id

section Dependents

variable {v : Views} {side : Side} {t t' : Table} {id : String} {node : Ref} {row : Row}

theorem Unreferenced.not_depends (h : Unreferenced v side t id) (hrow : row ∈ v (side, t')) :
    ¬Depends v side t id t' row := by
  rintro ⟨r, hr, rfl | ⟨row', hrow', -, hmem⟩⟩
  · exact h t' row hrow hr
  · exact h r.1 row' hrow' hmem

/-- **Without a cascade the removal is right** when no row refers to the node. -/
theorem erase_eq_without_iff (hnode : node.loc = (side, t)) (hid : node.row.get "id" = .str id)
    (hin : node.In v) (hdevice : t ≠ .device) (hinterface : t ≠ .physicalInterface) :
    v.erase node = without v node ↔ Unreferenced v side t id := by
  rw [eq_without_iff hnode hin fun loc hside => Views.erase_of_ne fun h => hside (by rw [h, hnode])]
  constructor
  · intro h t' row hrow hmem
    have hne : t' ≠ t := by
      rintro rfl
      exact Nat.lt_irrefl _ (rank_lt_of_mem_references hmem)
    have hother : t' ≠ .device := by
      rintro rfl
      exact hinterface (List.mem_singleton.mp (mem_targets hmem))
    classical
    have htable := h t'
    rw [without_of_ne (q := fun row => decide (Depends v side t id t' row)) hnode hid hne hother
      fun row _ => decide_eq_true_iff.symm, Views.erase_of_ne (by rw [hnode]; simpa using hne),
      eq_comm, List.filter_eq_self] at htable
    have hnot := htable row hrow
    rw [Bool.not_eq_true', decide_eq_false_iff_not] at hnot
    exact hnot ⟨_, hmem, .inl rfl⟩
  · intro h t'
    by_cases heq : t' = t
    · rw [heq, without_self hnode hid hin hdevice]
    · rw [Views.erase_of_ne (by rw [hnode]; simpa using heq)]
      have hnot : ∀ row ∈ v (side, t'), Depends v side t id t' row ↔ false = true := fun row hrow =>
        iff_of_false (h.not_depends hrow) (by simp)
      by_cases hd : t' = .device
      · subst hd
        rw [without_device (q := fun _ => false) hnode hid hdevice hnot]
        simp
      · rw [without_of_ne (q := fun _ => false) hnode hid heq hd hnot]
        simp

/-! ### Links and interfaces -/

theorem link_eq_without (hnode : node.loc = (side, .physicalLink))
    (hid : node.row.get "id" = .str id) (hin : node.In v) :
    ((v.erase node).keep (side, .interfaceLink) fun row => !(row.get "link_id").eq (.str id)) =
      without v node := by
  have herase : ∀ {loc : Loc}, loc ≠ (side, .physicalLink) → v.erase node loc = v loc :=
    fun h => Views.erase_of_ne (by rwa [hnode])
  refine (eq_without_iff hnode hin fun loc hside => ?_).mpr fun t' => ?_
  · rw [Views.keep_of_ne (by rintro rfl; exact hside rfl), herase (by rintro rfl; exact hside rfl)]
  cases t' with
  | physicalLink => rw [Views.keep_of_ne (by simp), without_self hnode hid hin (by simp)]
  | interfaceLink =>
    rw [Views.keep_self, herase (by simp)]
    exact (without_of_ne hnode hid (by simp) (by simp) fun row _ => by
      simp [Depends, references]).symm
  | _ =>
    rw [Views.keep_of_ne (by simp), herase (by simp)]
    exact (without_of_untargeted hnode hid (by simp) (by simp) (by decide)).symm

theorem interface_eq_without (hnode : node.loc = (side, .physicalInterface))
    (hid : node.row.get "id" = .str id) (hin : node.In v) :
    Function.update
        (((v.erase node).keep (side, .interfaceLink)
          fun row => !(row.get "interface_id").eq (.str id)).keep (side, .subnetAssociation)
            fun row => !(row.get "entity_id").eq (.str id))
        (side, .device) ((v (side, .device)).map fun dev =>
          if (dev.get "interface_id").eq (.str id) then dev.set "interface_id" .none else dev) =
      without v node := by
  have herase : ∀ {loc : Loc}, loc ≠ (side, .physicalInterface) → v.erase node loc = v loc :=
    fun h => Views.erase_of_ne (by rwa [hnode])
  refine (eq_without_iff hnode hin fun loc hside => ?_).mpr fun t' => ?_
  · have hne : ∀ t', loc ≠ (side, t') := by
      rintro t' rfl
      exact hside rfl
    rw [Function.update_of_ne (hne _), Views.keep_of_ne (hne _), Views.keep_of_ne (hne _),
      herase (hne _)]
  cases t' with
  | device =>
    rw [Function.update_self]
    refine (without_device hnode hid (by simp) fun row _ => ?_).symm
    rw [depends_device, Value.eq_str]
    constructor
    · rintro ⟨-, h | ⟨row', -, -, h⟩⟩
      · exact congrArg Prod.snd h
      · simp [references] at h
    · intro h
      rw [h]
      exact ⟨by simp, .inl rfl⟩
  | physicalInterface =>
    rw [Function.update_of_ne (by simp), Views.keep_of_ne (by simp), Views.keep_of_ne (by simp),
      without_self hnode hid hin (by simp)]
  | interfaceLink =>
    rw [Function.update_of_ne (by simp), Views.keep_of_ne (by simp), Views.keep_self,
      herase (by simp)]
    exact (without_of_ne hnode hid (by simp) (by simp) fun row _ => by
      simp [Depends, references]).symm
  | subnetAssociation =>
    rw [Function.update_of_ne (by simp), Views.keep_self, Views.keep_of_ne (by simp),
      herase (by simp)]
    exact (without_of_ne hnode hid (by simp) (by simp) fun row _ => by
      simp [Depends, references]).symm
  | _ =>
    rw [Function.update_of_ne (by simp), Views.keep_of_ne (by simp), Views.keep_of_ne (by simp),
      herase (by simp)]
    exact (without_of_untargeted hnode hid (by simp) (by simp) (by decide)).symm

/-! ### Routers -/

theorem ownedBy_iff : ownedBy id row = true ↔ .str id = row.get "router_id" :=
  Value.eq_str.trans eq_comm

theorem mem_owned {rows : List Row} {value : Value} :
    value ∈ owned rows id ↔ ∃ row ∈ rows, ownedBy id row = true ∧ row.get "id" = value := by
  simp [owned, ownedBy, and_assoc]

/-- Filtering by the ids of the owned rows. -/
theorem all_owned {rows : List Row} {value : Value} :
    ((owned rows id).all fun i => !value.eq i) =
      !(rows.any fun row => ownedBy id row && (row.get "id").eq value) := by
  rw [Bool.eq_iff_iff]
  simp only [List.all_eq_true, mem_owned, Bool.not_eq_true', List.any_eq_false, Bool.and_eq_true,
    not_and, Bool.not_eq_true]
  constructor
  · intro h row hrow howned
    rw [Value.eq_comm]
    exact h _ ⟨row, hrow, howned, rfl⟩
  · rintro h _ ⟨row, hrow, howned, rfl⟩
    rw [Value.eq_comm]
    exact h row hrow howned

/-- The devices lose the gateways that the predicate tells exactly when it tells the prefix. -/
theorem collect_clearGateway_eq_map {q : Row → Bool} {devices : List Row}
    (hcolumns : ∀ dev ∈ devices, dev.columns = Table.device.columns) :
    collect (clearGateway id) devices =
        .ok (devices.map fun dev => if q dev then dev.set "interface_id" .none else dev) ↔
      ∀ dev ∈ devices, ∃ gateway, dev.get "interface_id" = .str gateway ∧
        Graph.startsWith gateway (id ++ ":interface:") = q dev := by
  rw [collect_eq_ok, List.forall₂_map_right_iff, List.forall₂_same]
  refine forall₂_congr fun dev hdev => ?_
  have hcolumn : "interface_id" ∈ dev.columns := by
    rw [hcolumns dev hdev]
    decide
  have hset := Row.get_set_self hcolumn .none
  unfold clearGateway
  cases hget : dev.get "interface_id" with
  | str gateway =>
    have hne : dev.set "interface_id" .none ≠ dev := by
      intro h
      rw [h, hget] at hset
      cases hset
    simp only [Except.ok.injEq, Value.str.injEq, exists_eq_left']
    cases Graph.startsWith gateway (id ++ ":interface:") <;> cases q dev <;> simp [hne, hne.symm]
  | _ => simp

/-- The rows of the router go exactly when their ids lead back to them. -/
theorem eraseEach_owned_iff {rows : List Row} :
    eraseEach (fun row => row.get "id") Value.eq (owned rows id) rows =
        rows.filter (fun row => !ownedBy id row) ↔
      Separated (fun row => row.get "id") Value.eq (ownedBy id) rows :=
  eraseEach_eq_filter_iff fun _ _ h => Value.eq_trans h (Value.eq_symm h)

section Router

variable (hnode : node.loc = (side, .physicalRouter)) (hid : node.row.get "id" = .str id)
include hnode hid

theorem without_physicalInterface : without v node (side, .physicalInterface) =
    (v (side, .physicalInterface)).filter fun row => !ownedBy id row :=
  without_of_ne hnode hid (by simp) (by simp) fun row _ => by
    simp [Depends, references, ownedBy]

theorem without_vrf : without v node (side, .vrf) =
    (v (side, .vrf)).filter fun row => !ownedBy id row :=
  without_of_ne hnode hid (by simp) (by simp) fun row _ => by
    simp [Depends, references, ownedBy]

theorem without_interfaceLink : without v node (side, .interfaceLink) =
    (v (side, .interfaceLink)).filter fun row =>
      (owned (v (side, .physicalInterface)) id).all fun i => !(row.get "interface_id").eq i := by
  simp only [all_owned]
  refine without_of_ne hnode hid (by simp) (by simp) fun row _ => ?_
  simp [Depends, references, ownedBy_iff, and_comm]

theorem without_subnetAssociation : without v node (side, .subnetAssociation) =
    (v (side, .subnetAssociation)).filter fun row =>
      (owned (v (side, .physicalInterface)) id).all fun i => !(row.get "entity_id").eq i := by
  simp only [all_owned]
  refine without_of_ne hnode hid (by simp) (by simp) fun row _ => ?_
  simp [Depends, references, ownedBy_iff, and_comm]

theorem without_bgpSession : without v node (side, .bgpSession) =
    (v (side, .bgpSession)).filter fun row =>
      (owned (v (side, .vrf)) id).all fun i => !(row.get "vrf_id").eq i := by
  simp only [all_owned]
  refine without_of_ne hnode hid (by simp) (by simp) fun row _ => ?_
  simp [Depends, references, ownedBy_iff, and_comm]

/-- The gateway of a device is an interface of the router. -/
def atRouter (v : Views) (side : Side) (id : String) (dev : Row) : Bool :=
  decide (dev.get "interface_id" ≠ .none) &&
    (v (side, .physicalInterface)).any fun row =>
      ownedBy id row && (row.get "id").eq (dev.get "interface_id")

theorem without_devices : without v node (side, .device) =
    (v (side, .device)).map fun dev =>
      if atRouter v side id dev then dev.set "interface_id" .none else dev :=
  without_device hnode hid (by simp) fun row _ => by
    simp [depends_device, references, atRouter, ownedBy_iff, and_comm]

end Router

theorem atRouter_eq {gateway : String} {dev : Row} (h : dev.get "interface_id" = .str gateway)
    {b : Bool} : b = atRouter v side id dev ↔
      (b = true ↔ ∃ row ∈ v (side, .physicalInterface),
        ownedBy id row = true ∧ row.get "id" = .str gateway) := by
  rw [Bool.eq_iff_iff]
  simp [atRouter, h]

/-- **The cascade of a router is right** when its rows and devices are found again by their ids. -/
theorem router_eq_without_iff (hv : Shaped v) (hnode : node.loc = (side, .physicalRouter))
    (hid : node.row.get "id" = .str id) (hin : node.In v) :
    (∃ devices, collect (clearGateway id) (v (side, .device)) = .ok devices ∧
        Function.update (dropOwned side id (v.erase node)) (side, .device) devices =
          without v node) ↔ FoundAgain v side id := by
  have herase : ∀ {loc : Loc}, loc ≠ (side, .physicalRouter) → v.erase node loc = v loc :=
    fun h => Views.erase_of_ne (by rwa [hnode])
  have hall : ∀ devices, Function.update (dropOwned side id (v.erase node)) (side, .device) devices =
      without v node ↔ ∀ t', Function.update (dropOwned side id (v.erase node)) (side, .device)
        devices (side, t') = without v node (side, t') := by
    intro devices
    refine eq_without_iff hnode hin fun loc hside => ?_
    have hne : ∀ t', loc ≠ (side, t') := by
      rintro t' rfl
      exact hside rfl
    rw [Function.update_of_ne (hne _),
      dropOwned_of_ne (hne _) (hne _) (hne _) (hne _) (hne _), herase (hne _)]
  have hdevices : ∀ devices, devices = without v node (side, .device) →
      collect (clearGateway id) (v (side, .device)) = .ok devices →
        ∀ dev ∈ v (side, .device), ∃ gateway, dev.get "interface_id" = .str gateway ∧
          Graph.startsWith gateway (id ++ ":interface:") = atRouter v side id dev := by
    rintro devices rfl h
    rw [without_devices hnode hid] at h
    exact (collect_clearGateway_eq_map (hv (side, .device))).mp h
  simp only [hall]
  constructor
  · rintro ⟨devices, hcollect, h⟩
    have hinterfaces := h .physicalInterface
    have hvrfs := h .vrf
    have hrows := h .device
    rw [Function.update_of_ne (by simp), dropOwned_physicalInterface, herase (by simp),
      without_physicalInterface hnode hid] at hinterfaces
    rw [Function.update_of_ne (by simp), dropOwned_vrf, herase (by simp),
      without_vrf hnode hid] at hvrfs
    rw [Function.update_self] at hrows
    refine ⟨eraseEach_owned_iff.mp hinterfaces, eraseEach_owned_iff.mp hvrfs, fun dev hdev => ?_⟩
    obtain ⟨gateway, hgateway, hstarts⟩ := hdevices devices hrows hcollect dev hdev
    exact ⟨gateway, hgateway, (atRouter_eq hgateway).mp hstarts⟩
  · intro h
    refine ⟨without v node (side, .device), ?_, fun t' => ?_⟩
    · rw [without_devices hnode hid]
      refine (collect_clearGateway_eq_map (hv (side, .device))).mpr fun dev hdev => ?_
      obtain ⟨gateway, hgateway, hstarts⟩ := h.devices dev hdev
      exact ⟨gateway, hgateway, (atRouter_eq hgateway).mpr hstarts⟩
    cases t' with
    | device => exact Function.update_self ..
    | physicalInterface =>
      rw [Function.update_of_ne (by simp), dropOwned_physicalInterface, herase (by simp),
        without_physicalInterface hnode hid]
      exact eraseEach_owned_iff.mpr h.interfaces
    | vrf =>
      rw [Function.update_of_ne (by simp), dropOwned_vrf, herase (by simp),
        without_vrf hnode hid]
      exact eraseEach_owned_iff.mpr h.vrfs
    | interfaceLink =>
      rw [Function.update_of_ne (by simp), dropOwned_interfaceLink, herase (by simp),
        herase (by simp), without_interfaceLink hnode hid]
    | subnetAssociation =>
      rw [Function.update_of_ne (by simp), dropOwned_subnetAssociation, herase (by simp),
        herase (by simp), without_subnetAssociation hnode hid]
    | bgpSession =>
      rw [Function.update_of_ne (by simp), dropOwned_bgpSession, herase (by simp),
        herase (by simp), without_bgpSession hnode hid]
    | physicalRouter =>
      rw [Function.update_of_ne (by simp),
        dropOwned_of_ne (by simp) (by simp) (by simp) (by simp) (by simp),
        without_self hnode hid hin (by simp)]
    | _ =>
      rw [Function.update_of_ne (by simp),
        dropOwned_of_ne (by simp) (by simp) (by simp) (by simp) (by simp), herase (by simp)]
      exact (without_of_untargeted hnode hid (by simp) (by simp) (by decide)).symm

end Dependents

/-! ## Exactly the dependents -/

/-- The tables of the nodes. -/
def nodeTables : List Table :=
  [.physicalRouter, .physicalInterface, .physicalLink, .vrf, .l3vpnService, .logicalSubnet]

/-- After the call all references resolve, and the node went with its dependents and no more. -/
def RemovesExactly (env : Env) (s : env.rng.State × Views) (side : Side) (t : Table) (id : String)
    (params : Params) (node : Ref) : Prop :=
  ∃ m s', Raise.Runs (apply side ⟨t.name, id⟩ params : Inject env _) s m s' ∧
    Resolves s'.2 side ∧ s'.2 = without s.2 node

section Exactly

variable {s : env.rng.State × Views} {side : Side} {t : Table} {id : String} {node : Ref}

theorem cascade_physicalInterface :
    (cascade side ⟨Table.physicalInterface.name, id⟩ : Inject env _) = cascadeInterface side id :=
  (if_neg (by simp [Table.name])).trans (if_pos rfl)

theorem cascade_physicalLink :
    (cascade side ⟨Table.physicalLink.name, id⟩ : Inject env _) =
      strip side .interfaceLink "link_id" (.str id) :=
  (if_neg (by simp [Table.name])).trans ((if_neg (by simp [Table.name])).trans (if_pos rfl))

/-- The other tables have no cascade. -/
theorem cascade_other (hrouter : t ≠ .physicalRouter) (hinterface : t ≠ .physicalInterface)
    (hlink : t ≠ .physicalLink) : (cascade side ⟨t.name, id⟩ : Inject env _) = pure () := by
  have hne : ∀ {u : Table}, t ≠ u → t.name ≠ u.name := fun h => Table.name_injective.ne h
  exact (if_neg (hne hrouter)).trans ((if_neg (hne hinterface)).trans (if_neg (hne hlink)))

theorem removesExactly_iff_cascade (params : Params) (hv : Shaped s.2)
    (hresolves : Resolves s.2 side)
    (hfind : findRow (side, t) (s.2 (side, t)) (.str id) = some node) :
    RemovesExactly env s side t id params node ↔
      ∃ s', Raise.Runs (cascade side ⟨t.name, id⟩ : Inject env _) (s.1, s.2.erase node) () s' ∧
        s'.2 = without s.2 node := by
  constructor
  · rintro ⟨m, s', h, -, heq⟩
    rcases runs_apply.mp h with ⟨hnone, -⟩ | ⟨node', hfind', -, hcascade⟩
    · rw [hfind] at hnone
      cases hnone
    · obtain rfl := Option.some.inj (hfind.symm.trans hfind')
      exact ⟨s', hcascade, heq⟩
  · rintro ⟨s', hcascade, heq⟩
    refine ⟨_, s', runs_apply.mpr (.inr ⟨node, hfind, rfl, hcascade⟩), ?_, heq⟩
    rw [heq]
    exact hresolves.without hv (by rw [(findRow_eq_some hfind).1])

/-- Where there is no cascade, no row may refer to the node. -/
theorem removesExactly_iff_unreferenced (params : Params) (hv : Shaped s.2)
    (hresolves : Resolves s.2 side) (hrouter : t ≠ .physicalRouter)
    (hinterface : t ≠ .physicalInterface) (hlink : t ≠ .physicalLink) (hdevice : t ≠ .device)
    (hfind : findRow (side, t) (s.2 (side, t)) (.str id) = some node) :
    RemovesExactly env s side t id params node ↔ Unreferenced s.2 side t id := by
  obtain ⟨hnode, hin, hid⟩ := findRow_eq_some hfind
  rw [removesExactly_iff_cascade params hv hresolves hfind,
    ← erase_eq_without_iff hnode (Value.eq_str.mp hid) hin hdevice hinterface,
    cascade_other hrouter hinterface hlink]
  simp only [runs_pure, true_and, exists_eq_left]

end Exactly

/-! ### A VRF with a session -/

/-- The sample with a VRF of the router that has a session. -/
def peered : GoldenTwin :=
  { GoldenTwin.sample with
    entities :=
      { GoldenTwin.sample.entities with
        l3vpnServices := [⟨"vpn:blue", "blue", "customer:blue", none, none, none, none⟩]
        vrfs := [⟨"vrf:pe1:blue", "router:pe1", "vpn:blue", "blue", none, none, none⟩]
        bgpSessions :=
          [⟨"bgp:pe1:blue:10.0.0.2", "vrf:pe1:blue", none, none, none, none, none⟩] } }

theorem peered_valid : peered.Valid .plain := by
  decide +kernel

theorem peered_resolves : Resolves (buildProjections peered) .catalog := by
  intro t
  cases t <;> decide +kernel

end MissingNode

end GnnSandbox.Bench
