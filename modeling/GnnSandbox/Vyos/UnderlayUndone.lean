import GnnSandbox.Vyos.Deletion

/-!
# Deleting an underlay after creating it

The delete handler clears what the create handler has applied by empty objects, and a merge patch
with an empty object leaves an object that is there as it is. `undone_iff` says when the routers
are empty again: when the underlay has given them nothing.
-/

namespace GnnSandbox.Vyos

open Graph (Json)
open MergePatch

/-! ## Empty specs -/

/-- MPLS with nothing but empty objects. -/
def Mpls.Hollow (m : Mpls) : Prop := m.enabled = none ∧ ∀ l ∈ m.ldp, l = {}

/-- Protocols with nothing but empty objects. -/
def Protocols.Hollow (p : Protocols) : Prop :=
  (∀ o ∈ p.ospf, o = {}) ∧ (∀ b ∈ p.bgp, b = {}) ∧ (∀ m ∈ p.mpls, m.Hollow) ∧ ∀ s ∈ p.static, s = {}

/-- The value at a path of keys, unless it is an object or absent. -/
def leaf : Option Json → List String → Option Json
  | none, _ => none
  | some (.obj _), [] => none
  | some (.obj fields), key :: path => leaf (fields.lookup key) path
  | some v, [] => some v
  | some _, _ :: _ => none

/-- No protocols and no traffic policy, up to empty objects. -/
def Spec.Bare (spec : Spec) : Prop :=
  (∀ p ∈ spec.protocols, p.Hollow) ∧ ∀ path, leaf spec.trafficPolicy path = none

/-! ## What a traffic policy decides -/

/-- What a merge patch makes of the leaf at a path, if it decides it. -/
def decides : Option Json → List String → Option (Option Json)
  | none, _ => none
  | some .null, _ => some none
  | some (.obj _), [] => some none
  | some (.obj fields), key :: path => decides (fields.lookup key) path
  | some v, [] => some (some v)
  | some _, _ :: _ => some none

/-- The leaf at a path that several policies leave: that of the last one that decides it. -/
def lastWord (policies : List (Option Json)) (path : List String) : Option Json :=
  (policies.reverse.findSome? (decides · path)).join

/-- The entries of an underlay for a router give nothing but empty objects: their protocols hold
nothing else, and below the top of the traffic policy no value is left. -/
structure Underlay.GivesNothing (u : Underlay) (name : String) : Prop where
  protocols : ∀ r ∈ u.entries name, ∀ p ∈ r.protocols, p.Hollow
  policy : ∀ key path,
    lastWord ((u.entries name).map UnderlayRouter.trafficPolicy) (key :: path) = none

/-- Every router of an underlay is empty when the underlay is created and deleted. -/
def Underlay.Undone (u : Underlay) (routers : Routers) : Prop :=
  ∀ r ∈ u.routers.getD [], ∀ spec ∈ deleteUnderlay u (applyUnderlay u routers) r.name, spec.Bare

section Proofs

/-! ## Protocols -/

theorem Protocols.hollow_empty : ({} : Protocols).Hollow := by
  refine ⟨?_, ?_, ?_, ?_⟩ <;> rintro _ ⟨⟩

theorem value_eq_none_iff {β : Type} {t p : Option β} :
    value t p = none ↔ t = none ∧ p = none := by
  cases p <;> simp

/-- What holds of a merge when it holds of both parts, for records that may be absent. -/
theorem forall_object_iff {α : Type} [Record α] {P : α → Prop}
    (h : ∀ t p : α, P (Record.merge t p) ↔ P t ∧ P p) {t p : Option α} :
    (∀ r ∈ object t p, P r) ↔ (∀ r ∈ t, P r) ∧ ∀ r ∈ p, P r := by
  cases p with
  | none => simp
  | some p =>
    cases t with
    | none => simp
    | some t => simpa [object] using h t p

theorem Ospf.merge_eq_iff (t p : Ospf) : Record.merge t p = {} ↔ t = {} ∧ p = {} := by
  obtain ⟨_, _, _⟩ := t
  obtain ⟨_, _, _⟩ := p
  simp only [Record.merge, Ospf.mk.injEq, value_eq_none_iff]
  tauto

theorem Bgp.merge_eq_iff (t p : Bgp) : Record.merge t p = {} ↔ t = {} ∧ p = {} := by
  obtain ⟨_, _, _, _, _, _⟩ := t
  obtain ⟨_, _, _, _, _, _⟩ := p
  simp only [Record.merge, Bgp.mk.injEq, value_eq_none_iff]
  tauto

theorem Ldp.merge_eq_iff (t p : Ldp) : Record.merge t p = {} ↔ t = {} ∧ p = {} := by
  obtain ⟨_, _⟩ := t
  obtain ⟨_, _⟩ := p
  simp only [Record.merge, Ldp.mk.injEq, value_eq_none_iff]
  tauto

theorem Static.merge_eq_iff (t p : Static) : Record.merge t p = {} ↔ t = {} ∧ p = {} := by
  obtain ⟨_⟩ := t
  obtain ⟨_⟩ := p
  simp only [Record.merge, Static.mk.injEq, value_eq_none_iff]

theorem Mpls.hollow_merge_iff (t p : Mpls) :
    (Record.merge t p).Hollow ↔ t.Hollow ∧ p.Hollow := by
  have hiff : (Record.merge t p).Hollow ↔
      value t.enabled p.enabled = none ∧ ∀ l ∈ object t.ldp p.ldp, l = {} := Iff.rfl
  rw [hiff, value_eq_none_iff, forall_object_iff Ldp.merge_eq_iff]
  unfold Hollow
  tauto

/-- Protocols are empty after a patch when they were and the patch is. -/
theorem Protocols.hollow_merge_iff (t p : Protocols) :
    (Record.merge t p).Hollow ↔ t.Hollow ∧ p.Hollow := by
  have hiff : (Record.merge t p).Hollow ↔ (∀ o ∈ object t.ospf p.ospf, o = {}) ∧
      (∀ b ∈ object t.bgp p.bgp, b = {}) ∧ (∀ m ∈ object t.mpls p.mpls, m.Hollow) ∧
        ∀ s ∈ object t.static p.static, s = {} := Iff.rfl
  rw [hiff, forall_object_iff Ospf.merge_eq_iff, forall_object_iff Bgp.merge_eq_iff,
    forall_object_iff Mpls.hollow_merge_iff, forall_object_iff Static.merge_eq_iff]
  unfold Hollow
  tauto

theorem hollow_foldl_iff {patches : List SpecPatch} {spec : Spec} :
    (∀ p ∈ (patches.foldl Spec.patched spec).protocols, p.Hollow) ↔
      (∀ p ∈ spec.protocols, p.Hollow) ∧
        ∀ patch ∈ patches, ∀ p ∈ patch.protocols, p.Hollow := by
  induction patches generalizing spec with
  | nil => simp
  | cons patch patches ih =>
    have hpatched : (∀ p ∈ (spec.patched patch).protocols, p.Hollow) ↔
        (∀ p ∈ spec.protocols, p.Hollow) ∧ ∀ p ∈ patch.protocols, p.Hollow :=
      forall_object_iff Protocols.hollow_merge_iff
    rw [List.foldl_cons, ih, hpatched, List.forall_mem_cons, and_assoc]

/-! ## Traffic policies -/

@[simp] theorem leaf_none (path : List String) : leaf none path = none := by
  cases path <;> rfl

@[simp] theorem decides_none (path : List String) : decides none path = none := by
  cases path <;> rfl

/-- **A merge patch** decides a leaf or leaves it. -/
theorem leaf_mergeMember (t p : Option Json) (path : List String) :
    leaf (mergeMember t p) path = (decides p path).getD (leaf t path) := by
  induction path generalizing t p with
  | nil =>
    cases p with
    | none => rfl
    | some p => cases p <;> rfl
  | cons key path ih =>
    cases p with
    | none => simp [mergeMember]
    | some p =>
      cases p with
      | obj fields =>
        have hleaf : leaf t (key :: path) = leaf ((fieldsOf (t.getD .null)).lookup key) path := by
          cases t with
          | none => exact (leaf_none path).symm
          | some t => cases t <;> first | rfl | exact (leaf_none path).symm
        have hmerge : leaf (mergeMember t (some (.obj fields))) (key :: path) =
            leaf ((mergeFields (fieldsOf (t.getD .null)) fields).lookup key) path := rfl
        rw [hmerge, lookup_mergeFields, ih, hleaf]
        rfl
      | _ => rfl

theorem leaf_foldl {patches : List SpecPatch} {spec : Spec} (path : List String) :
    leaf (patches.foldl Spec.patched spec).trafficPolicy path =
      ((patches.map SpecPatch.trafficPolicy).reverse.findSome? (decides · path)).getD
        (leaf spec.trafficPolicy path) := by
  induction patches generalizing spec with
  | nil => rfl
  | cons patch patches ih =>
    have hpatched : leaf (spec.patched patch).trafficPolicy path =
        (decides patch.trafficPolicy path).getD (leaf spec.trafficPolicy path) :=
      leaf_mergeMember _ _ path
    rw [List.foldl_cons, ih, hpatched, List.map_cons, List.reverse_cons, List.findSome?_append,
      List.findSome?_singleton]
    cases (patches.map SpecPatch.trafficPolicy).reverse.findSome? (decides · path) <;> rfl

/-! ## Creating and deleting -/

variable {u : Underlay} {routers : Routers} {name : String} {spec : Spec}

theorem deleteUnderlay_apply : deleteUnderlay u routers name =
    (routers name).map fun s => ((if name = "" then [] else u.entries name).map
      UnderlayRouter.clearPatch).foldl Spec.patched s := by
  have hfold := foldl_named UnderlayRouter.name (fun s r => s.patched r.clearPatch)
    (u.routers.getD []) routers name
  refine hfold.trans ?_
  congr 1
  funext s
  rw [Underlay.entries, List.foldl_map]

/-- Below the top the empty object that clears a policy decides nothing. -/
theorem decides_clearPatch (r : UnderlayRouter) (key : String) (path : List String) :
    decides r.clearPatch.trafficPolicy (key :: path) = none := by
  unfold UnderlayRouter.clearPatch
  cases r.trafficPolicy with
  | none => rfl
  | some policy => exact decides_none path

/-- At the top a policy that is cleared after it is given is an object. -/
theorem leaf_top (hbare : leaf spec.trafficPolicy [] = none) (entries : List UnderlayRouter) :
    leaf ((entries.map UnderlayRouter.clearPatch).foldl Spec.patched
      ((entries.map UnderlayRouter.patch).foldl Spec.patched spec)).trafficPolicy [] = none := by
  rw [leaf_foldl, leaf_foldl, hbare]
  cases hclear : ((entries.map UnderlayRouter.clearPatch).map
      SpecPatch.trafficPolicy).reverse.findSome? (decides · []) with
  | some d =>
    obtain ⟨policy, hmem, hdecides⟩ := List.exists_of_findSome?_eq_some hclear
    rw [List.mem_reverse, List.map_map] at hmem
    obtain ⟨r, -, rfl⟩ := List.mem_map.mp hmem
    dsimp only [Function.comp_apply, UnderlayRouter.clearPatch] at hdecides
    cases hpolicy : r.trafficPolicy with
    | none =>
      rw [hpolicy] at hdecides
      cases hdecides
    | some policy =>
      rw [hpolicy] at hdecides
      exact (Option.some.inj hdecides).symm
  | none =>
    have hnone : ∀ r ∈ entries, r.trafficPolicy = none := by
      intro r hr
      by_contra hsome
      obtain ⟨policy, hpolicy⟩ := Option.ne_none_iff_exists'.mp hsome
      have hmem : r.clearPatch.trafficPolicy ∈
          ((entries.map UnderlayRouter.clearPatch).map SpecPatch.trafficPolicy).reverse :=
        List.mem_reverse.mpr (List.mem_map_of_mem (List.mem_map_of_mem hr))
      have hdecides := List.findSome?_eq_none_iff.mp hclear _ hmem
      dsimp only [UnderlayRouter.clearPatch] at hdecides
      rw [hpolicy] at hdecides
      cases hdecides
    have hgiven : ((entries.map UnderlayRouter.patch).map SpecPatch.trafficPolicy).reverse.findSome?
        (decides · []) = none := by
      refine List.findSome?_eq_none_iff.mpr fun policy hmem => ?_
      rw [List.mem_reverse, List.map_map] at hmem
      obtain ⟨r, hr, rfl⟩ := List.mem_map.mp hmem
      exact congrArg (decides · []) (hnone r hr)
    rw [hgiven]
    rfl

/-- Below the top deleting the underlay leaves what creating it has given. -/
theorem leaf_below (key : String) (path : List String) (entries : List UnderlayRouter)
    (hbare : leaf spec.trafficPolicy (key :: path) = none) :
    leaf ((entries.map UnderlayRouter.clearPatch).foldl Spec.patched
      ((entries.map UnderlayRouter.patch).foldl Spec.patched spec)).trafficPolicy (key :: path) =
        lastWord (entries.map UnderlayRouter.trafficPolicy) (key :: path) := by
  have hclear : ((entries.map UnderlayRouter.clearPatch).map
      SpecPatch.trafficPolicy).reverse.findSome? (decides · (key :: path)) = none := by
    refine List.findSome?_eq_none_iff.mpr fun policy hmem => ?_
    rw [List.mem_reverse, List.map_map] at hmem
    obtain ⟨r, -, rfl⟩ := List.mem_map.mp hmem
    exact decides_clearPatch r key path
  have hgiven : (entries.map UnderlayRouter.patch).map SpecPatch.trafficPolicy =
      entries.map UnderlayRouter.trafficPolicy := by
    rw [List.map_map]
    rfl
  rw [leaf_foldl, leaf_foldl, hclear, hbare, hgiven]
  unfold lastWord
  cases (entries.map UnderlayRouter.trafficPolicy).reverse.findSome? (decides · (key :: path))
  · rfl
  · rfl

/-- **One router** is empty when the underlay is created and deleted, exactly when the underlay has
given it nothing. -/
theorem bare_iff (hbare : spec.Bare) :
    (((u.entries name).map UnderlayRouter.clearPatch).foldl Spec.patched
      (((u.entries name).map UnderlayRouter.patch).foldl Spec.patched spec)).Bare ↔
      u.GivesNothing name := by
  have hprotocols : ∀ patch ∈ (u.entries name).map UnderlayRouter.clearPatch,
      ∀ p ∈ patch.protocols, p.Hollow := by
    intro patch hpatch p hp
    obtain ⟨r, -, rfl⟩ := List.mem_map.mp hpatch
    obtain rfl := Option.some.inj hp
    exact Protocols.hollow_empty
  have hgiven : (∀ patch ∈ (u.entries name).map UnderlayRouter.patch, ∀ p ∈ patch.protocols,
      p.Hollow) ↔ ∀ r ∈ u.entries name, ∀ p ∈ r.protocols, p.Hollow := by
    rw [List.forall_mem_map]
    refine forall₂_congr fun r _ => ?_
    unfold UnderlayRouter.patch
    cases r.protocols with
    | none => simp [Protocols.hollow_empty]
    | some p => simp
  unfold Spec.Bare
  rw [hollow_foldl_iff, hollow_foldl_iff]
  constructor
  · rintro ⟨⟨⟨-, hprotocols'⟩, -⟩, hpolicy⟩
    refine ⟨hgiven.mp hprotocols', fun key path => ?_⟩
    rw [← leaf_below key path _ (hbare.2 _)]
    exact hpolicy _
  · rintro ⟨hnothing, hpolicy⟩
    refine ⟨⟨⟨hbare.1, hgiven.mpr hnothing⟩, hprotocols⟩, fun path => ?_⟩
    cases path with
    | nil => exact leaf_top (hbare.2 _) _
    | cons key path => exact (leaf_below key path _ (hbare.2 _)).trans (hpolicy key path)

end Proofs

/-- **Deleting an underlay undoes creating it**, on routers that are empty before, exactly when it
gives them nothing. No resource has an empty name. -/
theorem undone_iff {u : Underlay} {routers : Routers} (hnamed : routers "" = none)
    (hbare : ∀ r ∈ u.routers.getD [], ∀ spec ∈ routers r.name, spec.Bare) :
    u.Undone routers ↔
      ∀ r ∈ u.routers.getD [], (routers r.name).isSome = true → u.GivesNothing r.name := by
  refine forall₂_congr fun r hr => ?_
  rw [deleteUnderlay_apply, applyUnderlay_apply]
  cases hspec : routers r.name with
  | none => simp
  | some spec =>
    have hname : r.name ≠ "" := by
      intro heq
      rw [heq, hnamed] at hspec
      cases hspec
    rw [if_neg hname]
    simp only [Option.map_some, Option.mem_def, Option.some.injEq, forall_eq', Option.isSome_some,
      true_imp_iff]
    exact bare_iff (hbare r hr spec hspec)

def bareSpec : Spec where
  hostname := "p1"
  routerId := "10.0.0.9"

/-- An underlay that gives its router protocols. -/
def underlayOf (protocols : Protocols) : Underlay where
  routers := some [{ name := "p1", protocols := some protocols, trafficPolicy := some (.obj []) }]

theorem bareSpec_bare : ∀ name, ∀ spec ∈ onlyRouter "p1" bareSpec name, spec.Bare := by
  intro name spec h
  obtain ⟨-, rfl⟩ := eq_of_mem_onlyRouter h
  exact ⟨by rintro _ ⟨⟩, leaf_none⟩

theorem underlay_undone : (underlayOf { bgp := some {} }).Undone (onlyRouter "p1" bareSpec) := by
  refine (undone_iff rfl fun r _ => bareSpec_bare r.name).mpr fun r hr _ => ?_
  obtain rfl := List.mem_singleton.mp hr
  refine ⟨fun r' hr' p hp => ?_, fun key path => ?_⟩
  · obtain rfl := List.mem_singleton.mp hr'
    obtain rfl := Option.some.inj hp
    refine ⟨?_, ?_, ?_, ?_⟩ <;> rintro _ ⟨⟩
    rfl
  · have hpolicies : ((underlayOf { bgp := some {} }).entries "p1").map
        UnderlayRouter.trafficPolicy = [some (.obj [])] := rfl
    rw [hpolicies, lastWord, List.reverse_singleton, List.findSome?_singleton]
    exact congrArg Option.join (decides_none path)

/-- The OSPF of the router stays when the underlay is deleted. -/
theorem ospf_stays :
    (∀ name, ∀ spec ∈ onlyRouter "p1" bareSpec name, spec.Bare) ∧
      ¬(underlayOf { ospf := some { routerId := some "10.0.0.9" } }).Undone
        (onlyRouter "p1" bareSpec) := by
  refine ⟨bareSpec_bare, fun h => ?_⟩
  have hspec := h _ (List.mem_singleton_self _) _ rfl
  have hospf := hspec.1 _ rfl
  have hnone := hospf.1 _ rfl
  cases hnone

end GnnSandbox.Vyos
