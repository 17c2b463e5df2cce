import GnnSandbox.Lib.MergePatch
import GnnSandbox.Vyos.Spec

/-!
# Patches of a router

The merge patch that `patch_vyos_router` applies: objects are merged field by field, plain values
and lists are replaced. A traffic policy, whose structure is open, is merged as a JSON value,
where `null` removes a field.
-/

namespace GnnSandbox.Vyos

open Graph (Json)
open MergePatch

/-! ## Records of the spec -/

instance : Record Static where
  empty := {}
  merge t p := ⟨value t.routes p.routes⟩
  among w r := ⟨valueAmong w.routes r.routes⟩
  merge_empty _ := rfl
  empty_merge _ := by simp
  merge_assoc t p q := by simp only [value_assoc]
  merge_self _ := by simp
  among_merge_iff w t p := by
    cases t
    simp only [Static.mk.injEq, valueAmong_value_iff]

instance : Record Ospf where
  empty := {}
  merge t p := ⟨value t.routerId p.routerId, value t.areas p.areas,
    value t.passiveInterfaces p.passiveInterfaces⟩
  among w r := ⟨valueAmong w.routerId r.routerId, valueAmong w.areas r.areas,
    valueAmong w.passiveInterfaces r.passiveInterfaces⟩
  merge_empty _ := rfl
  empty_merge _ := by simp
  merge_assoc t p q := by simp only [value_assoc]
  merge_self _ := by simp
  among_merge_iff w t p := by
    cases t
    simp only [Ospf.mk.injEq, valueAmong_value_iff]

instance : Record Bgp where
  empty := {}
  merge t p := ⟨value t.asNumber p.asNumber, value t.routerId p.routerId,
    value t.routeReflector p.routeReflector, value t.neighbors p.neighbors, value t.vrfs p.vrfs,
    value t.addressFamilies p.addressFamilies⟩
  among w r := ⟨valueAmong w.asNumber r.asNumber, valueAmong w.routerId r.routerId,
    valueAmong w.routeReflector r.routeReflector, valueAmong w.neighbors r.neighbors,
    valueAmong w.vrfs r.vrfs, valueAmong w.addressFamilies r.addressFamilies⟩
  merge_empty _ := rfl
  empty_merge _ := by simp
  merge_assoc t p q := by simp only [value_assoc]
  merge_self _ := by simp
  among_merge_iff w t p := by
    cases t
    simp only [Bgp.mk.injEq, valueAmong_value_iff]

instance : Record Ldp where
  empty := {}
  merge t p := ⟨value t.routerId p.routerId, value t.interfaces p.interfaces⟩
  among w r := ⟨valueAmong w.routerId r.routerId, valueAmong w.interfaces r.interfaces⟩
  merge_empty _ := rfl
  empty_merge _ := by simp
  merge_assoc t p q := by simp only [value_assoc]
  merge_self _ := by simp
  among_merge_iff w t p := by
    cases t
    simp only [Ldp.mk.injEq, valueAmong_value_iff]

instance : Record Mpls where
  empty := {}
  merge t p := ⟨value t.enabled p.enabled, object t.ldp p.ldp⟩
  among w r := ⟨valueAmong w.enabled r.enabled, objectAmong w.ldp r.ldp⟩
  merge_empty _ := rfl
  empty_merge _ := by simp
  merge_assoc t p q := by simp only [value_assoc, object_assoc]
  merge_self _ := by simp
  among_merge_iff w t p := by
    cases t
    simp only [Mpls.mk.injEq, valueAmong_value_iff, objectAmong_object_iff]

instance : Record Protocols where
  empty := {}
  merge t p := ⟨object t.ospf p.ospf, object t.bgp p.bgp, object t.mpls p.mpls,
    object t.static p.static⟩
  among w r := ⟨objectAmong w.ospf r.ospf, objectAmong w.bgp r.bgp, objectAmong w.mpls r.mpls,
    objectAmong w.static r.static⟩
  merge_empty _ := rfl
  empty_merge _ := by simp
  merge_assoc t p q := by simp only [object_assoc]
  merge_self _ := by simp
  among_merge_iff w t p := by
    cases t
    simp only [Protocols.mk.injEq, objectAmong_object_iff]

instance : Record NatService where
  empty := {}
  merge t p := ⟨value t.source p.source⟩
  among w r := ⟨valueAmong w.source r.source⟩
  merge_empty _ := rfl
  empty_merge _ := by simp
  merge_assoc t p q := by simp only [value_assoc]
  merge_self _ := by simp
  among_merge_iff w t p := by
    cases t
    simp only [NatService.mk.injEq, valueAmong_value_iff]

instance : Record Ssh where
  empty := {}
  merge t p := ⟨value t.port p.port⟩
  among w r := ⟨valueAmong w.port r.port⟩
  merge_empty _ := rfl
  empty_merge _ := by simp
  merge_assoc t p q := by simp only [value_assoc]
  merge_self _ := by simp
  among_merge_iff w t p := by
    cases t
    simp only [Ssh.mk.injEq, valueAmong_value_iff]

instance : Record Services where
  empty := {}
  merge t p := ⟨value t.dhcp p.dhcp, object t.nat p.nat, object t.ssh p.ssh⟩
  among w r := ⟨valueAmong w.dhcp r.dhcp, objectAmong w.nat r.nat, objectAmong w.ssh r.ssh⟩
  merge_empty _ := rfl
  empty_merge _ := by simp
  merge_assoc t p q := by simp only [value_assoc, object_assoc]
  merge_self _ := by simp
  among_merge_iff w t p := by
    cases t
    simp only [Services.mk.injEq, valueAmong_value_iff, objectAmong_object_iff]

/-! ## JSON values -/

/-- A field with a value, at its place in the alphabetical order. -/
def insertField (key : String) (v : Json) : List (String × Json) → List (String × Json)
  | [] => [(key, v)]
  | f :: fields =>
    if key = f.1 then (key, v) :: fields
    else if key < f.1 then (key, v) :: f :: fields
    else f :: insertField key v fields

/-- The fields of an object; other values have none. -/
def fieldsOf : Json → List (String × Json)
  | .obj fields => fields
  | _ => []

mutual

/-- The merge patch of a JSON value. -/
def mergeJson (target : Json) : Json → Json
  | .obj patch => .obj (mergeFields (fieldsOf target) patch)
  | patch => patch

/-- The merge patch of the fields of an object. -/
def mergeFields (target : List (String × Json)) : List (String × Json) → List (String × Json)
  | [] => target
  | (key, v) :: patch =>
    if v = .null then (mergeFields target patch).filter fun f => f.1 ≠ key
    else insertField key (mergeJson ((target.lookup key).getD .null) v) (mergeFields target patch)

end

/-- The merge patch of a field. -/
def mergeMember (target : Option Json) : Option Json → Option Json
  | none => target
  | some patch => if patch = .null then none else some (mergeJson (target.getD .null) patch)

/-- The first field of an object is found or passed over. -/
theorem lookup_cons_ite (l : String) (f : String × Json) (fields : List (String × Json)) :
    (f :: fields).lookup l = if l = f.1 then some f.2 else fields.lookup l := by
  obtain ⟨key, v⟩ := f
  by_cases h : l = key
  · simp [h]
  · simp [List.lookup_cons, h, beq_eq_false_iff_ne.mpr h]

theorem lookup_insertField (key l : String) (v : Json) (fields : List (String × Json)) :
    (insertField key v fields).lookup l = if l = key then some v else fields.lookup l := by
  induction fields with
  | nil => exact lookup_cons_ite l (key, v) []
  | cons f fields ih =>
    unfold insertField
    by_cases hf : key = f.1
    · rw [if_pos hf, lookup_cons_ite, lookup_cons_ite, ← hf]
      by_cases h : l = key
      · rw [if_pos h, if_pos h]
      · rw [if_neg h, if_neg h, if_neg h]
    · rw [if_neg hf]
      by_cases hlt : key < f.1
      · rw [if_pos hlt, lookup_cons_ite]
      · rw [if_neg hlt, lookup_cons_ite, ih, lookup_cons_ite]
        by_cases h : l = key
        · rw [if_pos h, if_pos h, if_neg (h ▸ hf)]
        · rw [if_neg h, if_neg h]

theorem lookup_filter_ne (key l : String) (fields : List (String × Json)) :
    (fields.filter fun f => f.1 ≠ key).lookup l = if l = key then none else fields.lookup l := by
  induction fields with
  | nil => simp
  | cons f fields ih =>
    by_cases hf : f.1 = key
    · rw [List.filter_cons_of_neg (by simpa using hf), ih, lookup_cons_ite, hf]
      by_cases h : l = key
      · rw [if_pos h, if_pos h]
      · rw [if_neg h, if_neg h, if_neg h]
    · rw [List.filter_cons_of_pos (by simpa using hf), lookup_cons_ite, lookup_cons_ite, ih]
      by_cases h : l = key
      · rw [if_pos h, if_neg (fun e => hf (e.symm.trans h)), if_pos h]
      · rw [if_neg h, if_neg h]

/-- What becomes of one field of an object. -/
theorem lookup_mergeFields (target patch : List (String × Json)) (key : String) :
    (mergeFields target patch).lookup key = mergeMember (target.lookup key) (patch.lookup key) := by
  induction patch with
  | nil => simp [mergeFields, mergeMember]
  | cons f patch ih =>
    obtain ⟨l, v⟩ := f
    rw [lookup_cons_ite]
    by_cases hv : v = .null
    · rw [mergeFields, if_pos hv, lookup_filter_ne, ih]
      by_cases h : key = l
      · rw [if_pos h, if_pos h, mergeMember, if_pos hv]
      · rw [if_neg h, if_neg h]
    · rw [mergeFields, if_neg hv, lookup_insertField, ih]
      by_cases h : key = l
      · rw [if_pos h, if_pos h, mergeMember, if_neg hv, h]
      · rw [if_neg h, if_neg h]

/-! ## Patches of the spec -/

/-- `spec` of a patch. -/
structure SpecPatch where
  hostname : Option String := none
  routerId : Option String := none
  interfaces : Option (List Interface) := none
  vrfs : Option (List Vrf) := none
  protocols : Option Protocols := none
  services : Option Services := none
  trafficPolicy : Option Json := none
deriving DecidableEq

/-- The spec after a patch. -/
def Spec.patched (spec : Spec) (patch : SpecPatch) : Spec where
  hostname := patch.hostname.getD spec.hostname
  routerId := patch.routerId.getD spec.routerId
  interfaces := value spec.interfaces patch.interfaces
  vrfs := value spec.vrfs patch.vrfs
  protocols := object spec.protocols patch.protocols
  services := object spec.services patch.services
  trafficPolicy := mergeMember spec.trafficPolicy patch.trafficPolicy

/-- The patch with all fields of a spec. -/
def Spec.patch (spec : Spec) : SpecPatch where
  hostname := some spec.hostname
  routerId := some spec.routerId
  interfaces := spec.interfaces
  vrfs := spec.vrfs
  protocols := spec.protocols
  services := spec.services
  trafficPolicy := spec.trafficPolicy

end GnnSandbox.Vyos
