import GnnSandbox.Bench.Render
import GnnSandbox.Bench.Trace
import GnnSandbox.Bench.Validation

/-!
# The edge table

Each link has at most two edges, and these end at different interfaces, in every projection
that can be reached. Edges are only dropped, or moved to an interface that is no end of
their link.
-/

namespace GnnSandbox.Bench

open Raise

variable {env : Env}

/-! ## Two ends -/

/-- The edges of a link. -/
def edgesOf (rows : List Row) (link : Value) : List Row :=
  rows.filter fun row => (row.get "link_id").eq link

/-- Edges of the same link end at different interfaces. -/
def EndsApart (rows : List Row) : Prop :=
  rows.Pairwise fun a b => (a.get "link_id").eq (b.get "link_id") = true →
    (a.get "interface_id").eq (b.get "interface_id") = false

/-- Each link has at most two edges, which end at different interfaces. -/
structure TwoEnds (rows : List Row) : Prop where
  atMost : ∀ link, (edgesOf rows link).length ≤ 2
  apart : EndsApart rows

/-- Edges are dropped. -/
theorem TwoEnds.sublist {rows rows' : List Row} (h : TwoEnds rows) (hsub : rows'.Sublist rows) :
    TwoEnds rows' where
  atMost link := (hsub.filter _).length_le.trans (h.atMost link)
  apart := h.apart.sublist hsub

section Move

variable {rows : List Row} {i : ℕ} {row : Row} {value : Value}

/-- Moving an edge leaves the links of all edges. -/
theorem map_link_set (hrow : rows[i]? = some row) :
    (rows.set i (row.set "interface_id" value)).map (Row.get · "link_id") =
      rows.map (Row.get · "link_id") := by
  obtain ⟨hi, rfl⟩ := List.getElem?_eq_some_iff.mp hrow
  rw [List.map_set, Row.get_set_of_ne (by decide)]
  refine List.ext_getElem (by simp) fun j hj hj' => ?_
  rw [List.getElem_set]
  split
  · next hij =>
    subst hij
    simp
  · rfl

theorem length_edgesOf (rows : List Row) (link : Value) :
    (edgesOf rows link).length = ((rows.map (Row.get · "link_id")).filter (Value.eq · link)).length := by
  unfold edgesOf
  rw [List.filter_map, List.length_map]
  rfl

/-- An edge is moved to an interface that is no end of its link. -/
theorem TwoEnds.move (h : TwoEnds rows) (hrow : rows[i]? = some row)
    (hcolumn : "interface_id" ∈ row.columns)
    (hfree : ∀ r ∈ rows, (r.get "link_id").eq (row.get "link_id") = true →
      (r.get "interface_id").eq value = false) :
    TwoEnds (rows.set i (row.set "interface_id" value)) := by
  have hlink : (row.set "interface_id" value).get "link_id" = row.get "link_id" :=
    Row.get_set_of_ne (by decide) value
  have hend : (row.set "interface_id" value).get "interface_id" = value :=
    Row.get_set_self hcolumn value
  constructor
  · intro link
    rw [length_edgesOf, map_link_set hrow, ← length_edgesOf]
    exact h.atMost link
  · refine List.pairwise_iff_getElem.mpr fun j k hj hk hjk heq => ?_
    rw [List.length_set] at hj hk
    rw [List.getElem_set, List.getElem_set] at heq ⊢
    by_cases hij : i = j
    · have hik : i ≠ k := fun hik => absurd (hij.symm.trans hik) hjk.ne
      rw [if_pos hij, if_neg hik] at heq ⊢
      rw [hlink] at heq
      rw [hend, Value.eq_comm]
      exact hfree _ (List.getElem_mem hk) (Value.eq_symm heq)
    · rw [if_neg hij] at heq ⊢
      by_cases hik : i = k
      · rw [if_pos hik] at heq ⊢
        rw [hlink] at heq
        rw [hend]
        exact hfree _ (List.getElem_mem hj) heq
      · rw [if_neg hik] at heq ⊢
        exact List.pairwise_iff_getElem.mp h.apart j k hj hk hjk heq

end Move

/-! ## What a call does to the edges -/

/-- The edges after a call: some of those before it, or one is moved to an interface that is no
end of its link. -/
inductive EdgeStep (rows : List Row) : List Row → Prop where
  | drop {rows' : List Row} (h : rows'.Sublist rows) : EdgeStep rows rows'
  | move {i : ℕ} {row : Row} {value : Value} (hrow : rows[i]? = some row)
      (hfree : ∀ r ∈ rows, (r.get "link_id").eq (row.get "link_id") = true →
        (r.get "interface_id").eq value = false) :
      EdgeStep rows (rows.set i (row.set "interface_id" value))

theorem EdgeStep.refl (rows : List Row) : EdgeStep rows rows := .drop (List.Sublist.refl _)

section Call

variable {s s' : env.rng.State × Views} {m : Mutation} {entity : EntityRef} {params : Params}
  {v v' : Views} {side : Side}

/-- Nothing is found in an edge table, hence nothing is written. -/
theorem Writes.edges {side' : Side} {kind : String} {P : Ref → String → Value → Prop}
    (h : Writes v side' entity kind P m v') :
    EdgeStep (v (side, .interfaceLink)) (v' (side, .interfaceLink)) := by
  obtain ⟨-, rfl⟩ | ⟨ref, column, value, href, -, -, -, rfl⟩ := h
  · exact .refl _
  · have hne : (side, Table.interfaceLink) ≠ ref.loc := by
      intro heq
      have hedge := (findIn_eq_some href).2.2.1
      rw [← heq] at hedge
      cases hedge
    rw [Views.assign_of_ne hne]
    exact .refl _

/-- Removing a row drops it from its table and leaves the others. -/
theorem Views.erase_sublist (v : Views) (ref : Ref) (loc : Loc) :
    (v.erase ref loc).Sublist (v loc) := by
  by_cases hloc : loc = ref.loc
  · rw [hloc, Views.erase_self]
    exact List.eraseIdx_sublist ..
  · rw [Views.erase_of_ne hloc]

/-- A cascade only drops edges. -/
theorem Cascaded.edges (h : Cascaded v v') :
    (v' (side, .interfaceLink)).Sublist (v (side, .interfaceLink)) := by
  rcases h (side, .interfaceLink) with hsub | ⟨hdevice, -⟩
  · exact hsub
  · cases hdevice

/-- A row is added to another table. -/
theorem edgeStep_append {loc : Loc} {row : Row} (hloc : loc.2 ≠ .interfaceLink) :
    EdgeStep (v (side, .interfaceLink)) (v.append loc row (side, .interfaceLink)) := by
  rw [Views.append_of_ne fun heq => hloc (congrArg Prod.snd heq).symm]
  exact .refl _

theorem edgeStep_fabricate {side' : Side} {sideName letter table : String}
    (h : Runs (fabricate side' sideName letter table : Inject env _) s m s') :
    EdgeStep (s.2 (side, .interfaceLink)) (s'.2 (side, .interfaceLink)) := by
  obtain ⟨-, hs⟩ | ⟨t, row, hrow, -, hs⟩ := fabricate_effect h
  · rw [hs]
    exact .refl _
  · rw [hs]
    refine edgeStep_append ?_
    rcases hrow with ⟨-, rfl, -⟩ | ⟨-, rfl, -⟩
    · exact (nomatch ·)
    · exact (nomatch ·)

/-- A move of an edge, seen from a side. -/
theorem edgeStep_move {side' : Side} {ref : Ref} {value : Value}
    (hloc : ref.loc = (side', .interfaceLink)) (hin : ref.In v)
    (hfree : ∀ r ∈ v (side', .interfaceLink),
      (r.get "link_id").eq (ref.row.get "link_id") = true →
        (r.get "interface_id").eq value = false) :
    EdgeStep (v (side, .interfaceLink))
      (v.assign ref (ref.row.set "interface_id" value) (side, .interfaceLink)) := by
  by_cases hside : (side, Table.interfaceLink) = ref.loc
  · rw [hside, Views.assign_self]
    rw [← hloc] at hfree
    exact .move hin hfree
  · rw [Views.assign_of_ne hside]
    exact .refl _

/-- **What a call does to the edges.** -/
theorem DefectClass.edgeStep {c : DefectClass} {target : TargetProjection} (hshaped : Shaped s.2)
    (h : Runs (c.apply target entity params : Inject env _) s m s') (side : Side) :
    EdgeStep (s.2 (side, .interfaceLink)) (s'.2 (side, .interfaceLink)) := by
  cases c with
  | single c =>
    cases c with
    | missingNode =>
      obtain ⟨-, hs⟩ | ⟨ref, -, -, hin, hid, -, hrun⟩ := MissingNode.effect params h
      · rw [hs]
        exact .refl _
      · have hcascade : (s'.2 (side, .interfaceLink)).Sublist (s.2.erase ref (side, .interfaceLink)) :=
          (MissingNode.cascaded_cascade hrun).edges
        exact .drop (hcascade.trans (Views.erase_sublist ..))
    | missingEdge =>
      obtain ⟨-, hs⟩ | ⟨ref, -, -, -, -, -, rfl⟩ := MissingEdge.effect params h
      · rw [hs]
        exact .refl _
      · exact .drop (Views.erase_sublist ..)
    | missingAttribute => exact (MissingAttribute.effect h).edges
    | attributeDrift => exact (AttributeDrift.effect h).edges
    | endpointShift =>
      obtain ⟨-, hs⟩ | ⟨ref, value, href, -, hfree, -, hs⟩ := EndpointShift.effect params h
      · rw [hs]
        exact .refl _
      · obtain ⟨hloc, hin⟩ := mem_refs.mp (List.mem_of_find?_eq_some href)
        rw [hs]
        exact edgeStep_move hloc hin hfree
    | asymmetricLink =>
      obtain ⟨-, hs⟩ | ⟨ref, -, -, hs⟩ := AsymmetricLink.effect params h
      · rw [hs]
        exact .refl _
      · rw [hs]
        exact .drop (Views.erase_sublist ..)
    | orphanEntity => exact (OrphanEntity.effect params hshaped h).edges
    | splitIdentity =>
      obtain ⟨-, hs⟩ | ⟨ref, original, kind, -, href, -, -, -, rfl⟩ := SplitIdentity.effect params h
      · rw [hs]
        exact .refl _
      · refine edgeStep_append fun hloc => ?_
        have hedge := (findIn_eq_some href).2.2.1
        rw [hloc] at hedge
        cases hedge
    | mergedIdentity =>
      obtain ⟨-, hs⟩ | ⟨target', victim, -, href, -, -, -, hs⟩ := MergedIdentity.effect params h
      · rw [hs]
        exact .refl _
      · have hne : (side, Table.interfaceLink) ≠ target'.loc := by
          intro heq
          have hedge := (findIn_eq_some href).2.2.1
          rw [← heq] at hedge
          cases hedge
        rw [hs, Views.keep_of_ne hne, Views.assign_of_ne hne]
        exact .refl _
    | malformedId => exact (MalformedId.effect params hshaped h).edges
    | outOfRange => exact (OutOfRange.effect h).edges
    | invalidEnum => exact (InvalidEnum.effect h).edges
  | cross c =>
    cases c with
    | attributeConflict =>
      obtain ⟨-, hs⟩ | ⟨cat, tel, column, catNew, telNew, hcat, htel, -, -, -, -, -, hs⟩ :=
        AttributeConflict.effect h
      · rw [hs]
        exact .refl _
      · have hne : ∀ ref : Ref, ref.loc.2.isEdge = false → (side, Table.interfaceLink) ≠ ref.loc := by
          intro ref hedge heq
          rw [← heq] at hedge
          cases hedge
        rw [hs, Views.assign_of_ne (hne tel (findIn_eq_some htel).2.2.1),
          Views.assign_of_ne (hne cat (findIn_eq_some hcat).2.2.1)]
        exact .refl _
    | structuralConflict =>
      obtain ⟨-, hs⟩ | ⟨ref, value, hloc, hin, hlink, -, hfree, -, hs⟩ :=
        StructuralConflict.effect params h
      · rw [hs]
        exact .refl _
      · rw [hs]
        refine edgeStep_move hloc hin fun r hr heq => hfree r hr ?_
        exact Value.eq_trans heq hlink
    | existenceConflict =>
      obtain ⟨-, hs⟩ | ⟨ref, -, -, -, -, -, rfl⟩ := ExistenceConflict.effect h
      · rw [hs]
        exact .refl _
      · exact .drop (Views.erase_sublist ..)
    | phantomEntity => exact edgeStep_fabricate h
    | shadowEntity => exact edgeStep_fabricate h

end Call

/-- **A step keeps two ends.** -/
theorem EdgeStep.twoEnds {rows rows' : List Row} (h : TwoEnds rows)
    (hcolumns : ∀ row ∈ rows, "interface_id" ∈ row.columns) (hstep : EdgeStep rows rows') :
    TwoEnds rows' := by
  cases hstep with
  | drop hsub => exact h.sublist hsub
  | move hrow hfree => exact h.move hrow (hcolumns _ (List.mem_of_getElem? hrow)) hfree

/-! ## Reachable projections -/

/-- The edges of an accepted twin, when none is repeated. -/
theorem GoldenTwinEntities.Checked.twoEnds {e : GoldenTwinEntities} (h : e.Checked)
    (hdistinct : e.interfaceLink.Nodup) : TwoEnds (e.rows .interfaceLink) := by
  have hlink : ∀ il : InterfaceLink, il.dump.get "link_id" = .str il.linkId := fun _ => rfl
  have hend : ∀ il : InterfaceLink, il.dump.get "interface_id" = .str il.interfaceId := fun _ => rfl
  constructor
  · intro link
    by_cases hnil : edgesOf (e.rows .interfaceLink) link = []
    · rw [hnil]
      exact Nat.zero_le 2
    · obtain ⟨row, hrow⟩ := List.exists_mem_of_ne_nil _ hnil
      obtain ⟨hmem, heq⟩ := List.mem_filter.mp hrow
      obtain ⟨il, hil, rfl⟩ := List.mem_map.mp hmem
      rw [hlink, Value.str_eq] at heq
      subst heq
      have hcount : (edgesOf (e.rows .interfaceLink) (.str il.linkId)).length =
          Loader.endpoints e il.linkId := by
        show ((e.interfaceLink.map InterfaceLink.dump).filter _).length = _
        rw [List.filter_map, List.length_map]
        refine congrArg List.length (List.filter_congr fun x _ => ?_)
        show (x.dump.get "link_id").eq (.str il.linkId) = _
        rw [hlink, Value.eq_str_str]
      rw [hcount, h.linkEndpoints _ (h.edgeLink il hil)]
  · refine List.pairwise_map.mpr (hdistinct.imp fun {a b} hne heq => ?_)
    rw [hlink, hlink, Value.eq_str_str, decide_eq_true_iff] at heq
    rw [hend, hend, Value.eq_str_str, decide_eq_false_iff_not]
    intro hends
    obtain ⟨ia, la⟩ := a
    obtain ⟨ib, lb⟩ := b
    obtain rfl : la = lb := heq
    obtain rfl : ia = ib := hends
    exact hne rfl

/-- **Every reachable projection keeps two ends.** -/
theorem Reachable.twoEnds {twin : GoldenTwin} {v : Views} (h : Reachable env twin v)
    (hchecked : twin.entities.Checked) (hdistinct : twin.entities.interfaceLink.Nodup)
    (side : Side) : TwoEnds (v (side, .interfaceLink)) := by
  induction h with
  | start => exact hchecked.twoEnds hdistinct
  | step hv hrun ih =>
    refine EdgeStep.twoEnds ih (fun row hrow => ?_) (DefectClass.edgeStep hv.shaped hrun side)
    rw [hv.shaped _ row hrow]
    exact Table.interface_id_mem_columns

/-! ## Rendering -/

/-- The catalog shows all ends of each link, and shows no interface as two of them. -/
def RendersEnds (tables : Table → List Row) : Prop :=
  ∀ endpoints ifaceById link unsorted ids, linkEndpoints (tables .interfaceLink) = .ok endpoints →
    byId (tables .physicalInterface) = .ok ifaceById →
    endpointsOf endpoints link = .ok unsorted → sortedBy id unsorted = .ok ids →
      ids.take 2 = ids ∧ ids.Pairwise fun a b => ∀ ia ib, ifaceById a = some ia →
        ifaceById b = some ib → (ia.get "id").eq (ib.get "id") = false

/-- Edges of one link end at different interfaces. -/
theorem EndsApart.edgesOf {rows : List Row} (h : EndsApart rows) (link : Value) :
    ((edgesOf rows link).map (Row.get · "interface_id")).Pairwise fun a b => a.eq b = false := by
  have hsub : EndsApart (Bench.edgesOf rows link) := h.sublist List.filter_sublist
  refine List.pairwise_map.mpr (List.Pairwise.imp_of_mem ?_ hsub)
  intro a b ha hb hab
  exact hab (Value.eq_trans (List.mem_filter.mp ha).2 (Value.eq_symm (List.mem_filter.mp hb).2))

/-- A dictionary returns a row with the id. -/
theorem eq_of_byId {rows : List Row} {index : Value → Option Row} (h : byId rows = .ok index)
    {id : Value} {row : Row} (hrow : index id = some row) : (row.get "id").eq id = true := by
  unfold byId at h
  split at h
  · cases h
    exact List.find?_some (p := fun row : Row => (row.get "id").eq id) hrow
  · cases h

theorem TwoEnds.renders {tables : Table → List Row} (h : TwoEnds (tables .interfaceLink)) :
    RendersEnds tables := by
  intro endpoints ifaceById link unsorted ids hends hindex hunsorted hsorted
  have hlist : unsorted = (edgesOf (tables .interfaceLink) link).map (Row.get · "interface_id") := by
    unfold linkEndpoints at hends
    unfold endpointsOf at hunsorted
    split at hends
    · cases hends
      split at hunsorted
      · exact (Except.ok.inj hunsorted).symm
      · cases hunsorted
    · cases hends
  have hperm : ids.Perm unsorted := by
    unfold sortedBy at hsorted
    split at hsorted
    · cases hsorted
      exact List.mergeSort_perm ..
    · cases hsorted
  constructor
  · refine List.take_of_length_le ?_
    rw [hperm.length_eq, hlist, List.length_map]
    exact h.atMost link
  · have hapart : unsorted.Pairwise fun a b => a.eq b = false := by
      rw [hlist]
      exact h.apart.edgesOf link
    have hids := (hperm.pairwise_iff fun {a b} hab => by rwa [Value.eq_comm]).mpr hapart
    refine hids.imp fun {a b} hab ia ib hia hib => Bool.eq_false_iff.mpr fun heq => ?_
    have hsame : a.eq b = true :=
      Value.eq_trans (Value.eq_symm (eq_of_byId hindex hia))
        (Value.eq_trans heq (eq_of_byId hindex hib))
    rw [hab] at hsame
    cases hsame

/-- **Edge-table invariant**: from an accepted twin whose edges are pairwise distinct, in every
projection that can be reached each link has at most two edges, which end at different
interfaces; so the catalog shows all ends of a link, and never one interface as both. -/
theorem edge_table_invariant (env : Env) (twin : GoldenTwin) (checkHash : Bool)
    (hvalid : validateGoldenTwin env twin checkHash = [])
    (hdistinct : twin.entities.interfaceLink.Nodup) {v : Views} (hv : Reachable env twin v) :
    (∀ side, TwoEnds (v (side, .interfaceLink))) ∧ RendersEnds fun t => v (.catalog, t) := by
  have hchecked := (validateGoldenTwin_eq_nil.mp hvalid).2.1
  exact ⟨hv.twoEnds hchecked hdistinct, (hv.twoEnds hchecked hdistinct .catalog).renders⟩

/-- The sample with three interfaces, of which a link joins two. -/
def GoldenTwin.linked : GoldenTwin :=
  { GoldenTwin.sample with
    entities :=
      { GoldenTwin.sample.entities with
        interfaces := ["eth0", "eth1", "eth2"].map fun name =>
          ⟨"router:pe1:interface:" ++ name, "router:pe1", name, some "1G", none, none, none,
            some "UP"⟩
        links := [⟨"link:core", "core", none, some "UP", none⟩]
        interfaceLink := [⟨"router:pe1:interface:eth0", "link:core"⟩,
          ⟨"router:pe1:interface:eth1", "link:core"⟩] } }

/-- Both ends of the link are moved, one after the other, and an edge is dropped. -/
def shiftEnds : List DefectSpec :=
  [.sample "a" EndpointShift.name .catalog "Interface_Link" [],
    .sample "b" StructuralConflict.name .both "PhysicalLink" [],
    .sample "c" AsymmetricLink.name .catalog "PhysicalLink" []]

theorem edge_table_invariant_linked :
    ((runOn .plain (.sample shiftEnds) .linked).2.applied.filter
        fun app => app.mutation.kind ≠ "noop").length = 4 ∧
      ∀ side, TwoEnds ((runOn .plain (.sample shiftEnds) .linked).2.views (side, .interfaceLink)) :=
  ⟨by decide +kernel, (edge_table_invariant .plain .linked true (by decide +kernel) (by decide)
    (runOn_reachable (.sample shiftEnds) .linked)).1⟩

end GnnSandbox.Bench
