import GnnSandbox.Lib.Part
import Mathlib.Data.List.Nodup
import Mathlib.Tactic.Common

/-!
# Registries

Lists of named entries in which no name occurs twice. An entry is read and replaced by its
name, and the order of the names never changes.
-/

/-- Entries with distinct keys, in the order in which they are listed. -/
structure Registry (κ α : Type) where
  items : List (κ × α)
  nodup : (items.map Prod.fst).Nodup

namespace Registry

variable {κ α : Type}

theorem ext_items {r r' : Registry κ α} (h : r.items = r'.items) : r = r' := by
  obtain ⟨items, nodup⟩ := r
  obtain ⟨items', nodup'⟩ := r'
  obtain rfl : items = items' := h
  rfl

variable [DecidableEq κ]

instance [DecidableEq α] : DecidableEq (Registry κ α) := fun r r' =>
  decidable_of_iff (r.items = r'.items) ⟨ext_items, congrArg items⟩

/-- The first entry. -/
def first (r : Registry κ α) : Option (κ × α) := r.items.head?

/-- The entry of a key. -/
def get? (r : Registry κ α) (key : κ) : Option α := r.items.lookup key

/-- The entries with that of a key replaced, if there is one. -/
def setItems (items : List (κ × α)) (key : κ) (a : α) : List (κ × α) :=
  items.map fun item => if item.1 = key then (key, a) else item

theorem keys_setItems (items : List (κ × α)) (key : κ) (a : α) :
    (setItems items key a).map Prod.fst = items.map Prod.fst := by
  unfold setItems
  rw [List.map_map]
  refine List.map_congr_left fun item _ => ?_
  by_cases h : item.1 = key
  · simp [h]
  · simp [h]

/-- Replace the entry of a key. -/
def update (r : Registry κ α) (key : κ) (a : α) : Registry κ α where
  items := setItems r.items key a
  nodup := (keys_setItems r.items key a).symm ▸ r.nodup

variable {r : Registry κ α} {key key' : κ} {a b : α}

/-- An entry that is replaced is there. -/
theorem get?_update_self (h : (r.get? key).isSome) : (r.update key a).get? key = some a := by
  obtain ⟨items, nodup⟩ := r
  unfold get? update setItems at *
  dsimp only at *
  clear nodup
  induction items with
  | nil => cases h
  | cons item items ih =>
    by_cases hk : item.1 = key
    · simp [hk]
    · have hne : (key == item.1) = false := by simpa using Ne.symm hk
      rw [List.map_cons, if_neg hk, List.lookup_cons, hne]
      rw [List.lookup_cons, hne] at h
      exact ih h

/-- The last replacement counts. -/
@[simp] theorem update_update : (r.update key a).update key b = r.update key b := by
  refine ext_items ?_
  unfold update setItems
  dsimp only
  rw [List.map_map]
  refine List.map_congr_left fun item _ => ?_
  by_cases h : item.1 = key
  · simp [h]
  · simp [h]

/-- Replacing an entry by itself changes nothing. -/
theorem update_get (h : r.get? key = some a) : r.update key a = r := by
  refine ext_items ?_
  obtain ⟨items, nodup⟩ := r
  unfold get? at h
  unfold update setItems
  dsimp only at *
  induction items with
  | nil => rfl
  | cons item items ih =>
    have hnodup := List.nodup_cons.mp nodup
    by_cases hk : item.1 = key
    · subst hk
      have hhead : List.lookup item.1 (item :: items) = some item.2 := by
        obtain ⟨k, v⟩ := item
        simp
      rw [hhead] at h
      obtain rfl := Option.some.inj h
      rw [List.map_cons, if_pos rfl]
      refine congrArg (item :: ·) ((List.map_congr_left fun other hother => ?_).trans (List.map_id _))
      have hne : other.1 ≠ item.1 := fun heq => hnodup.1 (heq ▸ List.mem_map_of_mem hother)
      rw [if_neg hne]
      rfl
    · have hne : (key == item.1) = false := by simpa using Ne.symm hk
      rw [List.lookup_cons, hne] at h
      rw [List.map_cons, if_neg hk]
      exact congrArg (item :: ·) (ih hnodup.2 h)

/-- The first entry is the one of its key. -/
theorem get?_of_first {item : κ × α} (h : r.first = some item) : r.get? item.1 = some item.2 := by
  unfold first at h
  unfold get?
  cases hitems : r.items with
  | nil =>
    rw [hitems] at h
    cases h
  | cons head items =>
    rw [hitems] at h
    obtain rfl := Option.some.inj h
    obtain ⟨k, v⟩ := head
    simp

/-- A replacement keeps the first entry first. -/
theorem first_update {item : κ × α} (h : r.first = some item) :
    (r.update item.1 a).first = some (item.1, a) := by
  unfold first at h
  unfold first update setItems
  dsimp only
  rw [List.head?_map, h]
  simp

/-- The first entry replaced. -/
def setFirst (r : Registry κ α) (a : α) : Registry κ α :=
  match r.first with
  | none => r
  | some item => r.update item.1 a

theorem setFirst_of_first {item : κ × α} (h : r.first = some item) :
    r.setFirst a = r.update item.1 a := by
  unfold setFirst
  rw [h]

theorem first_setFirst {item : κ × α} (h : r.first = some item) :
    (r.setFirst a).first = some (item.1, a) := by
  rw [setFirst_of_first h]
  exact first_update h

theorem setFirst_setFirst : (r.setFirst a).setFirst b = r.setFirst b := by
  cases h : r.first with
  | none =>
    have hself : ∀ a, r.setFirst a = r := fun a => by
      unfold setFirst
      rw [h]
    rw [hself a]
  | some item =>
    rw [setFirst_of_first (first_setFirst h), setFirst_of_first h, setFirst_of_first h,
      update_update]

/-- The first entry is the one it is replaced by. -/
theorem setFirst_first {item : κ × α} (h : r.first = some item) : r.setFirst item.2 = r := by
  rw [setFirst_of_first h]
  exact update_get (get?_of_first h)

/-- The key of the first entry. -/
def firstKey (r : Registry κ α) : Option κ := r.first.map Prod.fst

theorem firstKey_setFirst : (r.setFirst a).firstKey = r.firstKey := by
  unfold firstKey
  cases h : r.first with
  | none =>
    unfold setFirst
    rw [h]
    exact congrArg _ h
  | some item =>
    rw [first_setFirst h]
    rfl

/-- The first entry as a part. -/
def firstPart : StatePart (Registry κ α) α where
  get? r := r.first.map Prod.snd
  set a r := r.setFirst a
  get?_set := by
    intro r a b h
    obtain ⟨item, hitem, -⟩ := Option.map_eq_some_iff.mp h
    rw [first_setFirst hitem]
    rfl
  set_get? := by
    intro r a h
    obtain ⟨item, hitem, rfl⟩ := Option.map_eq_some_iff.mp h
    exact setFirst_first hitem
  set_set _ _ _ := setFirst_setFirst

theorem firstPart_get? {item : κ × α} (h : r.first = some item) :
    firstPart.get? r = some item.2 := by
  show r.first.map Prod.snd = _
  rw [h]
  rfl

theorem firstPart_set {item : κ × α} (h : r.first = some item) :
    firstPart.set a r = r.update item.1 a := setFirst_of_first h

end Registry
