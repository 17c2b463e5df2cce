import Mathlib.Tactic.Common

/-!
# Merge patches

A patch of a record has the fields of the record, each of which may be absent. It replaces the
plain values and the lists that it gives, goes on inside the records that it gives, and leaves
the rest. The main law is `among_merge_iff`: a patch leaves some fields as they are exactly when
its part in these fields changes nothing.
-/

namespace MergePatch

/-- Records of fields that may be absent. -/
class Record (α : Type) where
  /-- The record without fields. -/
  empty : α
  /-- A record after a patch. -/
  merge (target patch : α) : α
  /-- The fields of a record that are present in another one. -/
  among (fields record : α) : α
  merge_empty (t : α) : merge t empty = t
  empty_merge (p : α) : merge empty p = p
  merge_assoc (t p q : α) : merge (merge t p) q = merge t (merge p q)
  merge_self (t : α) : merge t t = t
  among_merge_iff (w t p : α) : among w (merge t p) = among w t ↔ merge t (among w p) = t

attribute [simp] Record.merge_empty Record.empty_merge Record.merge_self

/-! ## Fields with plain values -/

section

variable {β : Type} (w t p q : Option β)

/-- A plain value after a patch. -/
def value (target patch : Option β) : Option β := patch.or target

/-- A plain value, where the field is among these. -/
def valueAmong (fields record : Option β) : Option β := if fields.isSome then record else none

@[simp] theorem value_none : value t none = t := rfl

@[simp] theorem none_value : value none p = p := Option.or_none

@[simp] theorem value_some (b : β) : value t (some b) = some b := rfl

theorem value_assoc : value (value t p) q = value t (value p q) := Option.or_assoc.symm

@[simp] theorem value_self : value t t = t := Option.or_self

@[simp] theorem value_value_self : value (value t p) p = value t p := by
  rw [value_assoc, value_self]

theorem valueAmong_value_iff :
    valueAmong w (value t p) = valueAmong w t ↔ value t (valueAmong w p) = t := by
  cases w <;> simp [valueAmong]

end

/-! ## Fields with records -/

section

variable {α : Type} [Record α] (w t p q : Option α)

/-- A record inside a record after a patch. -/
def object (target : Option α) : Option α → Option α
  | none => target
  | some patch => some (Record.merge (target.getD Record.empty) patch)

/-- A record inside a record, where the field is among these. -/
def objectAmong : Option α → Option α → Option α
  | some fields, some record => some (Record.among fields record)
  | _, _ => none

@[simp] theorem object_none : object t none = t := rfl

@[simp] theorem none_object : object none p = p := by
  cases p <;> simp [object]

@[simp] theorem some_object (t p : α) : object (some t) (some p) = some (Record.merge t p) := rfl

theorem isSome_object {t p : Option α} : (object t p).isSome = true ↔ t.isSome = true ∨ p.isSome = true := by
  cases p <;> simp [object]

/-- A plain value inside a record that may be absent. -/
theorem bind_object {β : Type} {field : α → Option β} (hempty : field Record.empty = none)
    (hmerge : ∀ t p, field (Record.merge t p) = value (field t) (field p)) :
    (object t p).bind field = value (t.bind field) (p.bind field) := by
  cases p with
  | none => rfl
  | some p =>
    change field (Record.merge (t.getD Record.empty) p) = _
    rw [hmerge]
    cases t with
    | none => exact congrArg (value · (field p)) hempty
    | some t => rfl

theorem object_assoc : object (object t p) q = object t (object p q) := by
  cases t <;> cases p <;> cases q <;> simp [object, Record.merge_assoc]

@[simp] theorem object_self : object t t = t := by
  cases t <;> simp

@[simp] theorem object_object_self : object (object t p) p = object t p := by
  rw [object_assoc, object_self]

theorem objectAmong_object_iff :
    objectAmong w (object t p) = objectAmong w t ↔ object t (objectAmong w p) = t := by
  cases w <;> cases t <;> cases p <;> simp [objectAmong, object, Record.among_merge_iff]

/-- A field with a record is a record. -/
instance : Record (Option α) where
  empty := none
  merge := object
  among := objectAmong
  merge_empty := object_none
  empty_merge := none_object
  merge_assoc := object_assoc
  merge_self := object_self
  among_merge_iff := objectAmong_object_iff

end

/-! ## Several patches -/

section

variable {β : Type}

/-- What the last of several patches gives that gives a value. -/
def latest (values : List (Option β)) : Option β := values.foldl value none

theorem foldl_value (t : Option β) (values : List (Option β)) :
    values.foldl value t = value t (latest values) := by
  unfold latest
  induction values generalizing t with
  | nil => rfl
  | cons v values ih =>
    rw [List.foldl_cons, List.foldl_cons, ih, ih (value none v), none_value, value_assoc]

theorem latest_eq_none {values : List (Option β)} (h : ∀ v ∈ values, v = none) :
    latest values = none := by
  induction values with
  | nil => rfl
  | cons v values ih =>
    rw [latest, List.foldl_cons, h v List.mem_cons_self]
    exact ih fun v' hv' => h v' (List.mem_cons_of_mem v hv')

theorem latest_cons (v : Option β) (values : List (Option β)) :
    latest (v :: values) = value v (latest values) := by
  rw [latest, List.foldl_cons, none_value, foldl_value]

/-- Among values that are all given, the last one counts. -/
theorem latest_map_some {γ : Type} (f : γ → β) (l : List γ) :
    latest (l.map fun a => some (f a)) = l.getLast?.map f := by
  induction l with
  | nil => rfl
  | cons a l ih =>
    rw [List.map_cons, latest_cons, ih, List.getLast?_cons]
    cases l.getLast? <;> rfl

end

section

variable {α : Type} [Record α]

/-- The patch that several patches make up. -/
def combine (patches : List α) : α := patches.foldl Record.merge Record.empty

theorem foldl_merge (t : α) (patches : List α) :
    patches.foldl Record.merge t = Record.merge t (combine patches) := by
  unfold combine
  induction patches generalizing t with
  | nil => simp
  | cons p patches ih =>
    rw [List.foldl_cons, List.foldl_cons, ih, ih (Record.merge Record.empty p), Record.empty_merge,
      Record.merge_assoc]

@[simp] theorem combine_nil : combine ([] : List α) = Record.empty := rfl

theorem combine_cons (p : α) (patches : List α) :
    combine (p :: patches) = Record.merge p (combine patches) := by
  rw [combine, List.foldl_cons, Record.empty_merge, foldl_merge]

theorem combine_eq_empty {patches : List α} (h : ∀ p ∈ patches, p = Record.empty) :
    combine patches = Record.empty := by
  induction patches with
  | nil => rfl
  | cons p patches ih =>
    rw [combine_cons, h p List.mem_cons_self, Record.empty_merge]
    exact ih fun p' hp' => h p' (List.mem_cons_of_mem p hp')

/-- Patches of a field are the patches of its record. -/
theorem getD_combine_map_some (patches : List α) :
    (combine (patches.map some)).getD Record.empty = combine patches := by
  induction patches with
  | nil => rfl
  | cons p patches ih =>
    rw [List.map_cons, combine_cons, combine_cons, ← ih]
    change (object (some p) (combine (patches.map some))).getD Record.empty = _
    cases combine (patches.map some) <;> simp

end

end MergePatch

/-!
## The content of a record

Records are compared up to absent and empty lists. A patch is new to a record when it gives only
what the record lacks. `same_merge_iff` says when a new patch leaves the content: it must be blank,
that is give nothing but empty lists and records that are there already.
-/

namespace MergePatch

/-- Records with lists, of which an absent one counts as an empty one. -/
class Content (α : Type) [Record α] where
  /-- The records have the same content. -/
  Same (t t' : α) : Prop
  /-- A record lacks what a patch gives. -/
  New (t p : α) : Prop
  /-- A patch gives a record nothing. -/
  Blank (t p : α) : Prop
  same_refl (t : α) : Same t t
  same_merge_iff {t p : α} : New t p → (Same (Record.merge t p) t ↔ Blank t p)

/-! ## Plain values and lists -/

section

variable {β : Type} {t p : Option β}

/-- A plain value that is given is not there yet. -/
def NewValue (t p : Option β) : Prop := p.isSome = true → t = none

theorem value_eq_self_iff (h : NewValue t p) : value t p = t ↔ p = none := by
  cases p with
  | none => exact iff_of_true rfl rfl
  | some b =>
    rw [h rfl]
    exact iff_of_false (by nofun) (by nofun)

end

section

variable {β : Type} {t p : Option (List β)}

/-- The lists have the same entries. -/
def SameList (t t' : Option (List β)) : Prop := t.getD [] = t'.getD []

/-- A list that is given has no entries yet. -/
def NewList (t p : Option (List β)) : Prop := p.isSome = true → t.getD [] = []

/-- A list that is given is empty. -/
def BlankList (p : Option (List β)) : Prop := p.getD [] = []

theorem sameList_value_iff (h : NewList t p) : SameList (value t p) t ↔ BlankList p := by
  cases p with
  | none => exact iff_of_true rfl rfl
  | some l =>
    unfold SameList
    rw [h rfl]
    exact Iff.rfl

end

/-! ## Records inside records -/

section

variable {α : Type} [Record α] [Content α] {t p : Option α}

/-- Both records are absent, or both are there with the same content. -/
def SameObject : Option α → Option α → Prop
  | none, none => True
  | some t, some t' => Content.Same t t'
  | _, _ => False

/-- A record lacks what the record in a patch gives. -/
def NewObject (t p : Option α) : Prop := ∀ r ∈ p, Content.New (t.getD Record.empty) r

/-- The record in a patch is there already and is given nothing. -/
def BlankObject (t p : Option α) : Prop :=
  ∀ r ∈ p, t.isSome = true ∧ Content.Blank (t.getD Record.empty) r

theorem sameObject_refl (t : Option α) : SameObject t t := by
  cases t with
  | none => trivial
  | some t => exact Content.same_refl t

theorem sameObject_object_iff (h : NewObject t p) :
    SameObject (object t p) t ↔ BlankObject t p := by
  cases p with
  | none => exact iff_of_true (sameObject_refl t) fun _ hr => (nomatch hr)
  | some r =>
    have hnew := h r rfl
    unfold BlankObject
    cases t with
    | none =>
      refine iff_of_false (fun hsame => hsame) fun hblank => ?_
      cases (hblank r rfl).1
    | some t =>
      refine (Content.same_merge_iff hnew).trans ⟨fun hblank r' hr' => ?_, fun hall => (hall r rfl).2⟩
      obtain rfl := Option.some.inj hr'
      exact ⟨rfl, hblank⟩

end

end MergePatch
