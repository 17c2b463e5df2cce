import GnnSandbox.Lib.JsonString
import Mathlib.Data.List.Nodup
import Mathlib.Tactic.Common

/-!
# JSON values

The objects that the controllers store in JSON columns. The fields of an object
are listed in alphabetical order, so that equality of objects is equality of lists.
Text read back from a JSON column is the object that was written, while
`json.dumps` returns a string: the two never compare equal.
-/

namespace GnnSandbox.Graph

/-- A value of a JSON column or of a custom resource. -/
inductive Json where
  | null
  | bool (b : Bool)
  | num (n : Int)
  | str (s : String)
  | arr (items : List Json)
  | obj (fields : List (String × Json))
deriving Repr, Inhabited

namespace Json

mutual

/-- Decidable equality, by recursion over both values. -/
def decEq : (a b : Json) → Decidable (a = b)
  | null, null => isTrue rfl
  | bool a, bool b => decidable_of_iff (a = b) (by simp)
  | num a, num b => decidable_of_iff (a = b) (by simp)
  | str a, str b => decidable_of_iff (a = b) (by simp)
  | arr a, arr b => @decidable_of_iff _ (a = b) (by simp) (decEqItems a b)
  | obj a, obj b => @decidable_of_iff _ (a = b) (by simp) (decEqFields a b)
  | null, bool _ | null, num _ | null, str _ | null, arr _ | null, obj _
  | bool _, null | bool _, num _ | bool _, str _ | bool _, arr _ | bool _, obj _
  | num _, null | num _, bool _ | num _, str _ | num _, arr _ | num _, obj _
  | str _, null | str _, bool _ | str _, num _ | str _, arr _ | str _, obj _
  | arr _, null | arr _, bool _ | arr _, num _ | arr _, str _ | arr _, obj _
  | obj _, null | obj _, bool _ | obj _, num _ | obj _, str _ | obj _, arr _ =>
    isFalse (by simp)

def decEqItems : (a b : List Json) → Decidable (a = b)
  | [], [] => isTrue rfl
  | [], _ :: _ | _ :: _, [] => isFalse (by simp)
  | a :: as, b :: bs =>
    @decidable_of_iff _ (a = b ∧ as = bs) (by simp)
      (@instDecidableAnd _ _ (decEq a b) (decEqItems as bs))

def decEqFields : (a b : List (String × Json)) → Decidable (a = b)
  | [], [] => isTrue rfl
  | [], _ :: _ | _ :: _, [] => isFalse (by simp)
  | (k, a) :: as, (l, b) :: bs =>
    @decidable_of_iff _ (k = l ∧ a = b ∧ as = bs) (by simp [and_assoc])
      (@instDecidableAnd _ _ inferInstance (@instDecidableAnd _ _ (decEq a b) (decEqFields as bs)))

end

instance : DecidableEq Json := decEq

/-- The value of a field. -/
def get? (key : String) : Json → Option Json
  | obj fields => fields.lookup key
  | _ => none

/-- A JSON value is true unless it is null, zero or empty. -/
def truthy : Json → Bool
  | null => false
  | bool b => b
  | num n => decide (n ≠ 0)
  | str s => decide (s ≠ "")
  | arr items => !items.isEmpty
  | obj fields => !fields.isEmpty

/-- An object without its absent fields. -/
def ofFields (fields : List (String × Option Json)) : Json :=
  obj (fields.filterMap fun f => f.2.map (f.1, ·))

theorem lookup_eq_none_of_not_mem {β : Type} {key : String} {l : List (String × β)}
    (h : key ∉ l.map Prod.fst) : l.lookup key = none := by
  rw [List.lookup_eq_none_iff]
  intro p hp
  simp only [bne_iff_ne, ne_eq]
  rintro rfl
  exact h (List.mem_map_of_mem hp)

/-- An absent field is not found, a present one is. -/
theorem get?_ofFields {fields : List (String × Option Json)} (key : String)
    (h : (fields.map Prod.fst).Nodup) :
    (ofFields fields).get? key = (fields.lookup key).join := by
  induction fields with
  | nil => rfl
  | cons f fields ih =>
    obtain ⟨k, v⟩ := f
    simp only [List.map_cons, List.nodup_cons] at h
    have ih := ih h.2
    simp only [ofFields, get?] at ih
    match v with
    | none =>
      by_cases hk : key = k
      · subst hk
        have hnone : fields.lookup key = none := lookup_eq_none_of_not_mem h.1
        simp [ofFields, get?, ih, hnone]
      · simp [ofFields, get?, ih, List.lookup_cons, beq_eq_false_iff_ne.mpr hk]
    | some v =>
      by_cases hk : key = k
      · subst hk
        simp [ofFields, get?]
      · simp [ofFields, get?, ih, List.lookup_cons, beq_eq_false_iff_ne.mpr hk]

/-- Equal objects have equal fields. -/
theorem field_eq {fields fields' : List (String × Option Json)} (key : String)
    (heq : ofFields fields = ofFields fields') (h : (fields.map Prod.fst).Nodup)
    (h' : (fields'.map Prod.fst).Nodup) :
    (fields.lookup key).join = (fields'.lookup key).join := by
  rw [← get?_ofFields key h, ← get?_ofFields key h', heq]

theorem map_str_inj {a b : Option String} (h : a.map str = b.map str) : a = b :=
  Option.map_injective (fun _ _ => str.inj) h

theorem nullable_str_inj {a b : Option String}
    (h : (a.map str).getD null = (b.map str).getD null) : a = b := by
  cases a <;> cases b <;> simp_all

/-! ## `json.dumps` -/

def dumpsStr (s : String) : List Char := JsonText.quote s

mutual

/-- `json.dumps` with its default separators. -/
def dumpsChars : Json → List Char
  | null => "null".toList
  | bool b => (if b then "true" else "false").toList
  | num n => (toString n).toList
  | str s => dumpsStr s
  | arr items => '[' :: dumpsItems items ++ [']']
  | obj fields => '{' :: dumpsFields fields ++ ['}']

def dumpsItems : List Json → List Char
  | [] => []
  | [a] => dumpsChars a
  | a :: b :: rest => dumpsChars a ++ ", ".toList ++ dumpsItems (b :: rest)

def dumpsFields : List (String × Json) → List Char
  | [] => []
  | [(k, a)] => dumpsStr k ++ ": ".toList ++ dumpsChars a
  | (k, a) :: b :: rest =>
    dumpsStr k ++ ": ".toList ++ dumpsChars a ++ ", ".toList ++ dumpsFields (b :: rest)

end

/-- The text that `json.dumps` returns, as a Python value. -/
def dumps (a : Json) : Json := str (String.ofList (dumpsChars a))

/-- An object is not the string it is dumped to. -/
theorem ofFields_ne_dumps (fields : List (String × Option Json)) (a : Json) :
    ofFields fields ≠ dumps a := by
  simp [ofFields, dumps]

example : dumps (obj [("a", num 1), ("b", arr [null, str "x\n"])]) =
    str "\x7b\"a\": 1, \"b\": [null, \"x\\n\"]\x7d" := by decide

end Json

end GnnSandbox.Graph
