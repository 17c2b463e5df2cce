import GnnSandbox.Graph.Resource
import Mathlib.Data.List.Sort

/-!
# Cell values and rows

The cells of the benchmark's tables hold any value that a JSON or YAML file can hold. A
row is a dictionary from columns to cells. Python compares such values by content:
booleans and numbers by what they count, dictionaries without regard to order.
-/

namespace GnnSandbox.Bench

open Graph (Float64)

/-- A value of a cell or of a parameter. -/
inductive Value where
  | none
  | bool (b : Bool)
  | int (n : ℤ)
  | float (x : Float64)
  | str (s : String)
  | list (items : List Value)
  | dict (fields : List (String × Value))

namespace Value

mutual

/-- Decidable equality, by recursion over both values. -/
def decEq : (a b : Value) → Decidable (a = b)
  | none, none => isTrue rfl
  | bool a, bool b => decidable_of_iff (a = b) (by simp)
  | int a, int b => decidable_of_iff (a = b) (by simp)
  | float a, float b => decidable_of_iff (a = b) (by simp)
  | str a, str b => decidable_of_iff (a = b) (by simp)
  | list a, list b => @decidable_of_iff _ (a = b) (by simp) (decEqItems a b)
  | dict a, dict b => @decidable_of_iff _ (a = b) (by simp) (decEqFields a b)
  | none, bool _ | none, int _ | none, float _ | none, str _ | none, list _ | none, dict _
  | bool _, none | bool _, int _ | bool _, float _ | bool _, str _ | bool _, list _
  | bool _, dict _
  | int _, none | int _, bool _ | int _, float _ | int _, str _ | int _, list _ | int _, dict _
  | float _, none | float _, bool _ | float _, int _ | float _, str _ | float _, list _
  | float _, dict _
  | str _, none | str _, bool _ | str _, int _ | str _, float _ | str _, list _ | str _, dict _
  | list _, none | list _, bool _ | list _, int _ | list _, float _ | list _, str _
  | list _, dict _
  | dict _, none | dict _, bool _ | dict _, int _ | dict _, float _ | dict _, str _
  | dict _, list _ => isFalse (by simp)

def decEqItems : (a b : List Value) → Decidable (a = b)
  | [], [] => isTrue rfl
  | [], _ :: _ | _ :: _, [] => isFalse (by simp)
  | a :: as, b :: bs =>
    @decidable_of_iff _ (a = b ∧ as = bs) (by simp)
      (@instDecidableAnd _ _ (decEq a b) (decEqItems as bs))

def decEqFields : (a b : List (String × Value)) → Decidable (a = b)
  | [], [] => isTrue rfl
  | [], _ :: _ | _ :: _, [] => isFalse (by simp)
  | (k, a) :: as, (l, b) :: bs =>
    @decidable_of_iff _ (k = l ∧ a = b ∧ as = bs) (by simp [and_assoc])
      (@instDecidableAnd _ _ inferInstance (@instDecidableAnd _ _ (decEq a b) (decEqFields as bs)))

end

instance : DecidableEq Value := decEq

mutual

/-- What a comparison looks at: numbers by their value, fields in order of their keys. -/
def content : Value → Value
  | none => none
  | bool b => float (.finite (if b then 1 else 0))
  | int n => float (.finite n)
  | float x => float x
  | str s => str s
  | list items => list (contentItems items)
  | dict fields => dict ((contentFields fields).insertionSort fun a b => a.1 ≤ b.1)

def contentItems : List Value → List Value
  | [] => []
  | a :: as => content a :: contentItems as

def contentFields : List (String × Value) → List (String × Value)
  | [] => []
  | (k, a) :: as => (k, content a) :: contentFields as

end

mutual

/-- The value is or holds the float that is not equal to itself. -/
def hasNan : Value → Bool
  | float .nan => true
  | list items => hasNanItems items
  | dict fields => hasNanFields fields
  | _ => false

def hasNanItems : List Value → Bool
  | [] => false
  | a :: as => hasNan a || hasNanItems as

def hasNanFields : List (String × Value) → Bool
  | [] => false
  | (_, a) :: as => hasNan a || hasNanFields as

end

/-- `a == b` -/
def eq (a b : Value) : Bool := !hasNan a && !hasNan b && decide (content a = content b)

theorem eq_iff {a b : Value} :
    eq a b = true ↔ hasNan a = false ∧ hasNan b = false ∧ content a = content b := by
  simp [eq, and_assoc]

theorem eq_symm {a b : Value} (h : eq a b = true) : eq b a = true := by
  obtain ⟨ha, hb, hab⟩ := eq_iff.mp h
  exact eq_iff.mpr ⟨hb, ha, hab.symm⟩

theorem eq_trans {a b c : Value} (h : eq a b = true) (h' : eq b c = true) : eq a c = true := by
  obtain ⟨ha, -, hab⟩ := eq_iff.mp h
  obtain ⟨-, hc, hbc⟩ := eq_iff.mp h'
  exact eq_iff.mpr ⟨ha, hc, hab.trans hbc⟩

theorem eq_comm {a b : Value} : eq a b = eq b a := by
  rw [Bool.eq_iff_iff]
  exact ⟨eq_symm, eq_symm⟩

/-- A string only equals itself. -/
@[simp] theorem eq_str {a : Value} {s : String} : eq a (str s) = true ↔ a = str s := by
  rw [eq_iff]
  constructor
  · rintro ⟨-, -, h⟩
    cases a <;> simp_all [content]
  · rintro rfl
    exact ⟨rfl, rfl, rfl⟩

@[simp] theorem str_eq {a : Value} {s : String} : eq (str s) a = true ↔ a = str s := by
  rw [eq_comm, eq_str]

/-- Equal strings are equal. -/
theorem eq_str_str {s t : String} : eq (str s) (str t) = decide (s = t) := by
  rw [Bool.eq_iff_iff, str_eq, decide_eq_true_iff, str.injEq]
  exact ⟨Eq.symm, Eq.symm⟩

/-- Only `None` equals `None`. -/
@[simp] theorem eq_none {a : Value} : eq a none = true ↔ a = none := by
  rw [eq_iff]
  constructor
  · rintro ⟨-, -, h⟩
    cases a <;> simp_all [content]
  · rintro rfl
    exact ⟨rfl, rfl, rfl⟩

/-- A value that differs from itself is or holds the float that does. -/
theorem eq_self {a : Value} (h : hasNan a = false) : eq a a = true := eq_iff.mpr ⟨h, h, rfl⟩

/-- `if a` -/
def truthy : Value → Bool
  | none => false
  | bool b => b
  | int n => decide (n ≠ 0)
  | float x => x.truthy
  | str s => decide (s ≠ "")
  | list items => !items.isEmpty
  | dict fields => !fields.isEmpty

/-- `hash(a)` does not raise. -/
def hashable : Value → Bool
  | list _ | dict _ => false
  | _ => true

/-- What `for x in a` runs through; `none` when it raises. -/
def elements? : Value → Option (List Value)
  | list items => some items
  | str s => some (s.toList.map fun c => str (String.singleton c))
  | dict fields => some (fields.map fun f => str f.1)
  | _ => Option.none

end Value

/-! ## Rows -/

/-- A row: a dictionary from columns to cells. -/
abbrev Row := List (String × Value)

namespace Row

/-- `row.get(column)` -/
def get (row : Row) (column : String) : Value := (row.lookup column).getD .none

def columns (row : Row) : List String := row.map Prod.fst

/-- `row[column] = value` for a column that the row has. -/
def set (row : Row) (column : String) (value : Value) : Row :=
  row.map fun cell => if cell.1 = column then (column, value) else cell

@[simp] theorem columns_set (row : Row) (column : String) (value : Value) :
    (row.set column value).columns = row.columns := by
  unfold set columns
  rw [List.map_map]
  refine List.map_congr_left fun cell _ => ?_
  by_cases h : cell.1 = column
  · simp [h]
  · simp [h]

/-- The cell that is written. -/
theorem get_set_self {row : Row} {column : String} (h : column ∈ row.columns) (value : Value) :
    (row.set column value).get column = value := by
  unfold get set
  induction row with
  | nil => cases h
  | cons cell row ih =>
    by_cases hc : cell.1 = column
    · simp [hc]
    · have hrow : column ∈ columns row := by
        rcases List.mem_cons.mp h with h | h
        · exact absurd h.symm hc
        · exact h
      have hne : (column == cell.1) = false := by simpa using Ne.symm hc
      rw [List.map_cons, if_neg hc, List.lookup_cons, hne]
      exact ih hrow

/-- The other cells. -/
theorem get_set_of_ne {row : Row} {column column' : String} (h : column' ≠ column)
    (value : Value) : (row.set column value).get column' = row.get column' := by
  unfold get set
  induction row with
  | nil => rfl
  | cons cell row ih =>
    by_cases hc : cell.1 = column
    · have hne : (column' == column) = false := by simpa using h
      have hne' : (column' == cell.1) = false := by rw [hc]; exact hne
      rw [List.map_cons, if_pos hc, List.lookup_cons, List.lookup_cons, hne, hne']
      exact ih
    · rw [List.map_cons, if_neg hc, List.lookup_cons, List.lookup_cons]
      cases column' == cell.1 with
      | true => rfl
      | false => exact ih

end Row

end GnnSandbox.Bench
