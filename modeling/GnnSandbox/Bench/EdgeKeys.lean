import GnnSandbox.Bench.Effects
import GnnSandbox.Bench.Validation

/-!
# How edges are addressed

An edge has no id. It is known by the ids of its two ends with `::` in between. The ids of
interfaces have no empty part, so that the first `::` of such a key is the one in between. The
pattern of subnets allows `::`, and nothing is asked of the entities of their associations.
-/

namespace GnnSandbox.Bench

open Raise

variable {env : Env}

/-! ## Text without empty parts -/

/-- No part between the colons is empty. -/
def Gapless (s : List Char) : Prop := [] ∉ s.splitOn ':'

namespace Gapless

variable {s a b : List Char}

/-- After a colon comes another character. -/
theorem eq_cons (h : Gapless s) (hs : s = a ++ ':' :: b) : ∃ c d, b = c :: d ∧ c ≠ ':' := by
  subst hs
  have hparts : [] ∉ b.splitOn ':' := fun hb => h (by
    rw [List.splitOn_append_cons_self]
    exact List.mem_append_right _ hb)
  cases b with
  | nil => exact absurd (List.mem_singleton_self []) hparts
  | cons c d =>
    refine ⟨c, d, rfl, ?_⟩
    rintro rfl
    have hsplit : (':' :: d).splitOn ':' = [[]] ++ d.splitOn ':' :=
      List.splitOn_append_cons_self [] d
    exact hparts (hsplit ▸ List.mem_cons_self ..)

/-- The first `::` is the one that follows. -/
theorem splitFirst_key (h : Gapless a) :
    Graph.splitFirst [':', ':'] (a ++ ([':', ':'] ++ b)) = some (a, b) := by
  refine Graph.splitFirst_append (List.cons_ne_nil _ _) fun a₁ c a₂ ha hpre => ?_
  obtain ⟨rest, hrest⟩ := hpre
  obtain ⟨hc, htail⟩ := List.cons.inj hrest
  subst hc
  obtain ⟨d, a₃, rfl, hd⟩ := h.eq_cons ha
  exact hd (List.cons.inj htail).1.symm

/-- Keys with such a first half are told apart. -/
theorem key_inj {a' b' : List Char} (h : Gapless a) (h' : Gapless a')
    (heq : a ++ ([':', ':'] ++ b) = a' ++ ([':', ':'] ++ b')) : a = a' ∧ b = b' := by
  have hsplit := h.splitFirst_key (b := b)
  rw [heq, h'.splitFirst_key] at hsplit
  obtain ⟨ha, hb⟩ := Prod.mk.inj (Option.some.inj hsplit)
  exact ⟨ha.symm, hb.symm⟩

end Gapless

namespace Twin

/-- The ids of interfaces are of this kind. -/
theorem gapless_of_interface {id : String} (h : matchesPattern .physicalInterface id = true) :
    Gapless id.toList := by
  unfold matchesPattern at h
  dsimp only at h
  split at h
  · next k a k' b hid =>
    obtain ⟨rfl, ha, rfl, hb⟩ := of_decide_eq_true h
    show [] ∉ segments id
    rw [hid]
    simp [ha, hb]
  · cases h

/-- The ids of subnets start with their kind. -/
theorem subnet_eq {id : String} (h : matchesPattern .logicalSubnet id = true) :
    ∃ rest, id.toList = 's' :: rest := by
  unfold matchesPattern at h
  dsimp only at h
  split at h
  · next k rest hid =>
    obtain ⟨rfl, -, -⟩ := of_decide_eq_true h
    have hjoin : [':'].intercalate (segments id) = id.toList := List.intercalate_splitOn ':'
    rw [hid] at hjoin
    cases rest with
    | nil => exact ⟨_, hjoin.symm⟩
    | cons b rest =>
      rw [List.intercalate_cons_cons] at hjoin
      exact ⟨_, hjoin.symm⟩
  · cases h

end Twin

/-! ## The keys of the edges -/

/-- The columns that name an edge. -/
def Table.ends : Table → List String
  | .interfaceLink => ["interface_id", "link_id"]
  | .subnetAssociation => ["entity_id", "subnet_id"]
  | _ => []

/-- The pair of columns of an edge. -/
def columnPair (t : Table) (row : Row) : List Value := t.ends.map row.get

/-- Edges are compared by the key by which they are selected. -/
theorem edgeId_eq {t : Table} (ht : t.isEdge = true) (row : Row) :
    MissingEdge.edgeId env t row = edgeNaturalKey env t row := by
  cases t <;> first | rfl | cases ht

/-- An edge table has a row with the key when one of its rows has it. -/
theorem findEdge_isSome {t : Table} (ht : t.isEdge = true) {key : String} {l : List Ref}
    {ref : Ref} (hmem : ref ∈ l) (hkey : edgeNaturalKey env t ref.row = .ok key) :
    ∃ found, MissingEdge.findEdge env t key l = .ok (some found) := by
  induction l with
  | nil => cases hmem
  | cons a l ih =>
    obtain ⟨natural, hnatural⟩ : ∃ natural, MissingEdge.edgeId env t a.row = .ok natural := by
      cases t <;> first | exact ⟨_, rfl⟩ | cases ht
    unfold MissingEdge.findEdge
    rw [hnatural]
    dsimp only
    split
    · exact ⟨a, rfl⟩
    · next hne =>
      obtain rfl | hmem := List.mem_cons.mp hmem
      · rw [edgeId_eq ht, hkey] at hnatural
        exact absurd (Except.ok.inj hnatural).symm hne
      · exact ih hmem

section Keys

variable {il il' : InterfaceLink} {a b : SubnetAssociation}

theorem InterfaceLink.key_eq (il : InterfaceLink) :
    edgeNaturalKey env .interfaceLink il.dump = .ok (il.interfaceId ++ "::" ++ il.linkId) := rfl

theorem SubnetAssociation.key_eq (a : SubnetAssociation) :
    edgeNaturalKey env .subnetAssociation a.dump = .ok (a.entityId ++ "::" ++ a.subnetId) := rfl

theorem InterfaceLink.columnPair_dump (il : InterfaceLink) :
    columnPair .interfaceLink il.dump = [.str il.interfaceId, .str il.linkId] := rfl

theorem SubnetAssociation.columnPair_dump (a : SubnetAssociation) :
    columnPair .subnetAssociation a.dump = [.str a.entityId, .str a.subnetId] := rfl

theorem toList_key (s t : String) :
    (s ++ "::" ++ t).toList = s.toList ++ ([':', ':'] ++ t.toList) := by
  rw [String.toList_append, String.toList_append, List.append_assoc]
  rfl

/-- The key of an interface's end of a link tells the interface and the link. -/
theorem InterfaceLink.key_inj (h : Gapless il.interfaceId.toList)
    (h' : Gapless il'.interfaceId.toList)
    (heq : il.interfaceId ++ "::" ++ il.linkId = il'.interfaceId ++ "::" ++ il'.linkId) :
    il.interfaceId = il'.interfaceId ∧ il.linkId = il'.linkId := by
  have hlist := congrArg String.toList heq
  rw [toList_key, toList_key] at hlist
  obtain ⟨hinterface, hlink⟩ := h.key_inj h' hlist
  exact ⟨String.toList_inj.mp hinterface, String.toList_inj.mp hlink⟩

/-- Split at its first `::`, it gives the link. -/
theorem InterfaceLink.linkId_key (h : Gapless il.interfaceId.toList) :
    AsymmetricLink.linkId (il.interfaceId ++ "::" ++ il.linkId) = il.linkId := by
  have hsep : "::".toList = [':', ':'] := rfl
  unfold AsymmetricLink.linkId
  rw [toList_key, hsep, h.splitFirst_key]
  exact String.ofList_toList

/-- The subnet of `a` is the end of the entity of `b`, and the subnet of `b`. -/
def SubnetAssociation.Overlaps (a b : SubnetAssociation) : Prop :=
  ∃ x, b.entityId = a.entityId ++ "::" ++ x ∧ a.subnetId = x ++ "::" ++ b.subnetId

/-- Then both have one key. -/
theorem SubnetAssociation.Overlaps.key_eq (h : a.Overlaps b) :
    a.entityId ++ "::" ++ a.subnetId = b.entityId ++ "::" ++ b.subnetId := by
  obtain ⟨x, hentity, hsubnet⟩ := h
  rw [hentity, hsubnet]
  simp only [String.append_assoc]

/-- The entity of the second is another one. -/
theorem SubnetAssociation.Overlaps.entityId_ne (h : a.Overlaps b) : a.entityId ≠ b.entityId := by
  obtain ⟨x, hentity, -⟩ := h
  intro hsame
  have hlength := congrArg String.length (hsame.trans hentity)
  rw [String.length_append, String.length_append] at hlength
  have htwo : "::".length = 2 := rfl
  omega

/-- What the entity of the one has more than that of the other comes off its subnet. -/
theorem eq_nil_or_overlap {s s' c : List Char} (hs : ∃ rest, s = 's' :: rest)
    (h : [':', ':'] ++ s = c ++ ([':', ':'] ++ s')) :
    c = [] ∨ ∃ x, c = [':', ':'] ++ x ∧ s = x ++ ([':', ':'] ++ s') := by
  obtain ⟨rest, rfl⟩ := hs
  cases c with
  | nil => exact .inl rfl
  | cons d c =>
    obtain ⟨rfl, htail⟩ := List.cons.inj h
    cases c with
    | nil =>
      -- the subnet would start with a colon
      have hhead := (List.cons.inj (List.cons.inj htail).2).1
      exact absurd hhead (by decide)
    | cons e x =>
      obtain ⟨rfl, hrest⟩ := List.cons.inj htail
      exact .inr ⟨x, rfl, hrest⟩

/-- One of two associations with the same key overlaps the other, or they are of the same ends. -/
theorem SubnetAssociation.overlaps_of_key_eq (ha : ∃ rest, a.subnetId.toList = 's' :: rest)
    (hb : ∃ rest, b.subnetId.toList = 's' :: rest)
    (heq : a.entityId ++ "::" ++ a.subnetId = b.entityId ++ "::" ++ b.subnetId) :
    (a.entityId = b.entityId ∧ a.subnetId = b.subnetId) ∨ a.Overlaps b ∨ b.Overlaps a := by
  have hlist := congrArg String.toList heq
  rw [toList_key, toList_key] at hlist
  have hends : ∀ {a b : SubnetAssociation} {c : List Char},
      (∃ rest, a.subnetId.toList = 's' :: rest) → b.entityId.toList = a.entityId.toList ++ c →
      [':', ':'] ++ a.subnetId.toList = c ++ ([':', ':'] ++ b.subnetId.toList) →
      (a.entityId = b.entityId ∧ a.subnetId = b.subnetId) ∨ a.Overlaps b := by
    intro a b c ha hentity hsubnet
    obtain rfl | ⟨x, rfl, hx⟩ := eq_nil_or_overlap ha hsubnet
    · rw [List.append_nil] at hentity
      have hrest : a.subnetId.toList = b.subnetId.toList := List.append_cancel_left hsubnet
      exact .inl ⟨String.toList_inj.mp hentity.symm, String.toList_inj.mp hrest⟩
    · refine .inr ⟨String.ofList x, String.toList_inj.mp ?_, String.toList_inj.mp ?_⟩
      · rw [toList_key, String.toList_ofList, hentity]
      · rw [toList_key, String.toList_ofList, hx]
  obtain ⟨c, hentity, hsubnet⟩ | ⟨c, hentity, hsubnet⟩ := List.append_eq_append_iff.mp hlist
  · exact (hends ha hentity hsubnet).imp_right .inl
  · obtain ⟨hentity, hsubnet⟩ | hoverlap := hends hb hentity hsubnet
    · exact .inl ⟨hentity.symm, hsubnet.symm⟩
    · exact .inr (.inr hoverlap)

end Keys

/-! ## The edges of an accepted twin -/

/-- The edges are addressed by their keys. -/
structure GoldenTwin.EdgesAddressed (env : Env) (twin : GoldenTwin) : Prop where
  /-- Edges with other ends have other keys. -/
  distinct : ∀ side t, t.isEdge = true →
    ∀ row ∈ buildProjections twin (side, t), ∀ row' ∈ buildProjections twin (side, t),
      columnPair t row ≠ columnPair t row' → edgeNaturalKey env t row ≠ edgeNaturalKey env t row'
  /-- Given the key of an edge, `MissingEdge` removes one with the same ends, also when edges
  have been removed before. -/
  removed : ∀ side t, t.isEdge = true → ∀ v : Views, v (side, t) ⊆ buildProjections twin (side, t) →
    ∀ row ∈ v (side, t), ∀ key, edgeNaturalKey env t row = .ok key → ∀ params g,
      ∃ ref : Ref, ref.loc = (side, t) ∧ ref.In v ∧ columnPair t ref.row = columnPair t row ∧
        Runs (MissingEdge.apply side ⟨t.name, key⟩ params : Inject env _) (g, v)
          (.remove "delete_row" ref) (g, v.erase ref)
  /-- `AsymmetricLink` finds the link of an edge. -/
  split : ∀ side, ∀ row ∈ buildProjections twin (side, .interfaceLink), ∀ key,
    edgeNaturalKey env .interfaceLink row = .ok key →
      row.get "link_id" = .str (AsymmetricLink.linkId key)

namespace GoldenTwinEntities

variable {e : GoldenTwinEntities}

/-- Two associations of which one overlaps the other. -/
def Overlapping (e : GoldenTwinEntities) : Prop :=
  ∃ a ∈ e.subnetAssociation, ∃ b ∈ e.subnetAssociation, a.Overlaps b

theorem gapless_edge (hp : e.Patterned) (hc : e.Checked) {il : InterfaceLink}
    (h : il ∈ e.interfaceLink) : Gapless il.interfaceId.toList :=
  Twin.gapless_of_interface (hp .physicalInterface _ (hc.edgeInterface il h))

theorem subnet_association (hp : e.Patterned) (hc : e.Checked) {a : SubnetAssociation}
    (h : a ∈ e.subnetAssociation) : ∃ rest, a.subnetId.toList = 's' :: rest :=
  Twin.subnet_eq (hp .logicalSubnet _ (hc.associationSubnet a h))

/-- The key of an edge tells its ends, unless associations overlap. -/
theorem columnPair_eq (hp : e.Patterned) (hc : e.Checked) (h : ¬e.Overlapping) {t : Table}
    (ht : t.isEdge = true) {row row' : Row} (hrow : row ∈ e.rows t) (hrow' : row' ∈ e.rows t)
    (hkey : edgeNaturalKey env t row = edgeNaturalKey env t row') :
    columnPair t row = columnPair t row' := by
  cases t with
  | interfaceLink =>
    obtain ⟨il, hil, rfl⟩ := List.mem_map.mp hrow
    obtain ⟨il', hil', rfl⟩ := List.mem_map.mp hrow'
    obtain ⟨hinterface, hlink⟩ := InterfaceLink.key_inj (gapless_edge hp hc hil)
      (gapless_edge hp hc hil') (Except.ok.inj hkey)
    rw [InterfaceLink.columnPair_dump, InterfaceLink.columnPair_dump, hinterface, hlink]
  | subnetAssociation =>
    obtain ⟨a, ha, rfl⟩ := List.mem_map.mp hrow
    obtain ⟨b, hb, rfl⟩ := List.mem_map.mp hrow'
    obtain ⟨hentity, hsubnet⟩ | hab | hba := SubnetAssociation.overlaps_of_key_eq
      (subnet_association hp hc ha) (subnet_association hp hc hb) (Except.ok.inj hkey)
    · rw [SubnetAssociation.columnPair_dump, SubnetAssociation.columnPair_dump, hentity, hsubnet]
    · exact absurd ⟨a, ha, b, hb, hab⟩ h
    · exact absurd ⟨b, hb, a, ha, hba⟩ h
  | _ => cases ht

end GoldenTwinEntities

/-- `MissingEdge` removes the first edge that it finds. -/
theorem MissingEdge.runs_apply {side : Side} {t : Table} {v : Views} {key : String} {ref : Ref}
    {params : Params} {g : env.rng.State}
    (h : findEdge env t key (refs (side, t) (v (side, t))) = .ok (some ref)) :
    Runs (apply side ⟨t.name, key⟩ params : Inject env _) (g, v) (.remove "delete_row" ref)
      (g, v.erase ref) := by
  refine runs_liftExcept_bind.mpr ⟨t, tableNamed_eq_ok.mpr (Table.ofName_name t), ?_⟩
  rw [runs_rowsAt_bind]
  exact runs_liftExcept_bind.mpr ⟨some ref, h, runs_removeRow.mpr ⟨rfl, rfl⟩⟩

/-- **When edges are addressed**: exactly when no association of a subnet overlaps another one. -/
theorem edges_addressed_iff (env : Env) (twin : GoldenTwin) (checkHash : Bool)
    (h : validateGoldenTwin env twin checkHash = []) :
    twin.EdgesAddressed env ↔ ¬twin.entities.Overlapping := by
  obtain ⟨hp, hc, -⟩ := validateGoldenTwin_eq_nil.mp h
  constructor
  · rintro haddressed ⟨a, ha, b, hb, hoverlap⟩
    refine haddressed.distinct .catalog .subnetAssociation rfl _ (List.mem_map_of_mem ha) _
      (List.mem_map_of_mem hb) (fun hends => ?_) (congrArg Except.ok hoverlap.key_eq)
    exact hoverlap.entityId_ne (Value.str.inj (List.cons.inj hends).1)
  · intro hnot
    refine ⟨fun side t ht row hrow row' hrow' hne hkey => ?_,
      fun side t ht v hv row hrow key hkey params g => ?_, fun side row hrow key hkey => ?_⟩
    · exact hne (GoldenTwinEntities.columnPair_eq hp hc hnot ht hrow hrow' hkey)
    · obtain ⟨i, hi⟩ := List.mem_iff_getElem?.mp hrow
      have hrefs : (⟨(side, t), i, row⟩ : Ref) ∈ refs (side, t) (v (side, t)) :=
        mem_refs.mpr ⟨rfl, hi⟩
      obtain ⟨ref, hfound⟩ := findEdge_isSome ht hrefs hkey
      obtain ⟨hmem, hid⟩ := MissingEdge.findEdge_eq_some hfound
      obtain ⟨hloc, hin⟩ := mem_refs.mp hmem
      refine ⟨ref, hloc, hin, ?_, MissingEdge.runs_apply hfound⟩
      have hrow' : ref.row ∈ v (side, t) := by
        have hmem' := List.mem_of_getElem? hin
        rwa [hloc] at hmem'
      have hsame : edgeNaturalKey env t ref.row = edgeNaturalKey env t row := by
        rw [MissingEdge.edgeNaturalKey_of_edgeId hid, hkey]
      exact GoldenTwinEntities.columnPair_eq hp hc hnot ht (hv hrow') (hv hrow) hsame
    · obtain ⟨il, hil, rfl⟩ := List.mem_map.mp hrow
      rw [← Except.ok.inj hkey]
      have hlink := InterfaceLink.linkId_key (GoldenTwinEntities.gapless_edge hp hc hil)
      exact (congrArg Value.str hlink).symm

/-- The sample with two subnets, and an association of each. -/
def GoldenTwin.overlapping (entityId : String) : GoldenTwin :=
  { GoldenTwin.sample with
    entities :=
      { GoldenTwin.sample.entities with
        subnets := [⟨"subnet:a::subnet:lan", "10.0.1.0/24", none, none, none, none⟩,
          ⟨"subnet:lan", "10.0.0.0/24", none, none, none, none⟩]
        subnetAssociation :=
          [⟨"router:pe1:interface:eth0", "subnet:a::subnet:lan", "Interface"⟩,
            ⟨entityId, "subnet:lan", "Interface"⟩] } }

/-- It is accepted, whatever the second entity is. -/
theorem GoldenTwin.overlapping_valid (entityId : String) :
    (GoldenTwin.overlapping entityId).Valid .plain := by
  have hvalid : (GoldenTwin.overlapping "").Valid .plain := by decide +kernel
  exact hvalid

theorem edges_addressed_one_interface :
    (GoldenTwin.overlapping "router:pe1:interface:eth0").EdgesAddressed .plain := by
  refine (edges_addressed_iff .plain (.overlapping "router:pe1:interface:eth0") true
    (GoldenTwin.overlapping_valid _)).mpr ?_
  rintro ⟨a, ha, b, hb, hoverlap⟩
  have hsame : ∀ c ∈
      (GoldenTwin.overlapping "router:pe1:interface:eth0").entities.subnetAssociation,
      c.entityId = "router:pe1:interface:eth0" := by
    decide
  exact hoverlap.entityId_ne ((hsame a ha).trans (hsame b hb).symm)

/-- An entity id that ends in the first part of a subnet id is accepted. -/
theorem overlapping_edges_confused :
    (GoldenTwin.overlapping "router:pe1:interface:eth0::subnet:a").Valid .plain ∧
      ¬(GoldenTwin.overlapping "router:pe1:interface:eth0::subnet:a").EdgesAddressed .plain := by
  refine ⟨GoldenTwin.overlapping_valid _, fun h => ?_⟩
  refine h.distinct .catalog .subnetAssociation rfl _ (List.mem_cons_self ..) _
    (List.mem_cons_of_mem _ (List.mem_cons_self ..)) ?_ ?_
  · exact fun hends => absurd (Value.str.inj (List.cons.inj hends).1) (by decide)
  · exact congrArg Except.ok (by decide)

end GnnSandbox.Bench
