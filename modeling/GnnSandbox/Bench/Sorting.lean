import GnnSandbox.Bench.Projection

/-!
# Sorting and looking up rows

`a < b` for cell values, the stable `sorted`, and the dictionaries of rows by id that both
renderers build. Values of different types cannot be compared, and lists and dictionaries
are no keys.
-/

namespace GnnSandbox.Bench

open Graph (Float64)

/-- `a < b` for numbers; never when one of them is not a number. -/
def floatLt : Float64 → Float64 → Bool
  | .finite p, .finite q => decide (p < q)
  | .inf negative, .finite _ => negative
  | .finite _, .inf negative => !negative
  | .inf negative, .inf negative' => negative && !negative'
  | .nan, _ | _, .nan => false

namespace Value

/-- What a number counts. -/
def number? : Value → Option Float64
  | bool b => some (.finite (if b then 1 else 0))
  | int n => some (.finite n)
  | float x => some x
  | _ => Option.none

mutual

/-- `a < b`; `none` when it raises. -/
def lt? : Value → Value → Option Bool
  | str s, str t => some (decide (s < t))
  | list as, list bs => ltItems? as bs
  | a, b =>
    match number? a, number? b with
    | some x, some y => some (floatLt x y)
    | _, _ => Option.none

/-- Lists are compared at the first items that differ. -/
def ltItems? : List Value → List Value → Option Bool
  | [], bs => some !bs.isEmpty
  | _ :: _, [] => some false
  | a :: as, b :: bs => if eq a b then ltItems? as bs else lt? a b

end

@[simp] theorem lt?_str (s t : String) : lt? (str s) (str t) = some (decide (s < t)) := by
  unfold lt?
  rfl

end Value

/-! ## Sorting -/

/-- No two of the keys are such that comparing them raises. -/
def comparable (keys : List Value) : Bool :=
  decide (keys.Pairwise fun a b => (Value.lt? a b).isSome ∧ (Value.lt? b a).isSome)

/-- `not b < a`, which keeps `a` in front of `b`. -/
def notAfter (a b : Value) : Bool := Value.lt? b a ≠ some true

/-- `sorted(items, key=key)` -/
def sortedBy {α : Type} (key : α → Value) (items : List α) : Except Error (List α) :=
  if comparable (items.map key) then .ok (items.mergeSort fun a b => notAfter (key a) (key b))
  else .error .typeError

/-- `sorted` of strings, or of items with such keys. -/
def sortedStr {α : Type} (key : α → String) (items : List α) : List α :=
  items.mergeSort fun a b => decide (key a ≤ key b)

theorem notAfter_str (s t : String) : notAfter (.str s) (.str t) = decide (s ≤ t) := by
  unfold notAfter
  rw [Value.lt?_str, Bool.eq_iff_iff, decide_eq_true_iff, decide_eq_true_iff, ne_eq,
    Option.some.injEq, decide_eq_true_iff]
  exact String.not_lt

theorem comparable_str (keys : List String) : comparable (keys.map Value.str) = true := by
  refine decide_eq_true (List.pairwise_map.mpr (List.pairwise_of_forall fun s t => ?_))
  rw [Value.lt?_str, Value.lt?_str]
  exact ⟨rfl, rfl⟩

/-- Sorting the images of typed items by a text is sorting the items. -/
theorem sortedBy_map {α β : Type} {f : α → β} {k : β → Value} {i : α → String}
    (h : ∀ a, k (f a) = .str (i a)) (items : List α) :
    sortedBy k (items.map f) = .ok ((sortedStr i items).map f) := by
  have hkeys : (items.map f).map k = (items.map i).map Value.str := by
    rw [List.map_map, List.map_map]
    exact List.map_congr_left fun a _ => h a
  unfold sortedBy sortedStr
  rw [hkeys, comparable_str, if_pos rfl]
  refine congrArg Except.ok (List.map_mergeSort fun a _ b _ => ?_).symm
  rw [h, h, notAfter_str]

/-! ## Lookups -/

/-- `{row.get("id"): row for row in rows}`, by its lookups: the last row with an id wins. -/
def byId (rows : List Row) : Except Error (Value → Option Row) :=
  if rows.all fun row => (row.get "id").hashable then
    .ok fun key => rows.reverse.find? fun row => (row.get "id").eq key
  else .error .typeError

/-- `index.get(key)` -/
def getById (index : Value → Option Row) (key : Value) : Except Error (Option Row) :=
  if key.hashable then .ok (index key) else .error .typeError

/-- `{item.id: item for item in items}.get(key)` for typed items. -/
def lastWith {α : Type} (id : α → String) (items : List α) (key : String) : Option α :=
  items.reverse.find? fun a => id a = key

/-- A dictionary of dumped rows. -/
theorem byId_map {α : Type} {d : α → Row} {i : α → String}
    (h : ∀ a, (d a).get "id" = .str (i a)) (items : List α) :
    ∃ index, byId (items.map d) = .ok index ∧
      ∀ key : String, getById index (.str key) = .ok ((lastWith i items key).map d) := by
  have hhash : ((items.map d).all fun row => (row.get "id").hashable) = true := by
    rw [List.all_eq_true]
    intro row hrow
    obtain ⟨a, -, rfl⟩ := List.mem_map.mp hrow
    rw [h]
    rfl
  refine ⟨_, if_pos hhash, fun key => ?_⟩
  have hfind : ((items.map d).reverse.find? fun row => (row.get "id").eq (.str key)) =
      (lastWith i items key).map d := by
    unfold lastWith
    rw [← List.map_reverse, List.find?_map]
    refine congrArg (Option.map d) (congrArg (items.reverse.find? ·) (funext fun a => ?_))
    show ((d a).get "id").eq (.str key) = _
    rw [h, Value.eq_str_str]
  exact (if_pos rfl).trans (congrArg Except.ok hfind)

end GnnSandbox.Bench
