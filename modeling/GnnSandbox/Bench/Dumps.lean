import GnnSandbox.Bench.Value
import GnnSandbox.Lib.JsonText
import GnnSandbox.Lib.StableSort
import Mathlib.Data.String.Basic

/-!
# Dumping and loading values

`json.dumps(value, sort_keys=True)` in its three styles, and `json.loads`. A value whose dictionaries
have each key once is loaded as it was dumped, with its keys in order.
-/

namespace GnnSandbox.Bench

open Graph (Float64)
open JsonText

/-! ## Numbers -/

inductive Number where
  | int (n : ℤ)
  | float (x : Float64)

/-- The characters of finite numbers. -/
def isNumberChar (c : Char) : Bool := c.isDigit || c = '-' || c = '+' || c = '.' || c = 'e'

/-- The text of a finite float, and the float of a number with a fraction or an exponent. -/
structure FloatText where
  /-- `float.__repr__` -/
  repr : ℚ → List Char
  parse : List Char → Option Float64
  parse_repr : ∀ q, parse (repr q) = some (.finite q)
  isNumberChar_of_mem : ∀ q, ∀ c ∈ repr q, isNumberChar c = true
  point_mem_repr : ∀ q, '.' ∈ repr q ∨ 'e' ∈ repr q

namespace FloatText

variable (text : FloatText)

def printNumber : Number → List Char
  | .int n => printInt n
  | .float (.finite q) => text.repr q
  | .float (.inf negative) => (if negative then "-Infinity" else "Infinity").toList
  | .float .nan => "NaN".toList

def readNumber (token : List Char) : Option Number :=
  if token = "NaN".toList then some (.float .nan)
  else if token = "Infinity".toList then some (.float (.inf false))
  else if token = "-Infinity".toList then some (.float (.inf true))
  else match readInt token with
    | some n => some (.int n)
    | none => (text.parse token).map .float

theorem readInt_repr (q : ℚ) : readInt (text.repr q) = none := by
  cases h : readInt (text.repr q) with
  | none => rfl
  | some n =>
    rcases text.point_mem_repr q with hc | hc <;> exact absurd (mem_of_readInt h hc) (by decide)

/-- The tokens of finite numbers, and the three others. -/
theorem printNumber_cases (n : Number) :
    (text.printNumber n ≠ [] ∧ ∀ c ∈ text.printNumber n, isNumberChar c = true) ∨
      text.printNumber n ∈ ["NaN".toList, "Infinity".toList, "-Infinity".toList] := by
  cases n with
  | int n =>
    refine .inl ⟨printInt_ne_nil n, fun c hc => ?_⟩
    rcases mem_printInt hc with hc | rfl
    · simp [isNumberChar, hc]
    · rfl
  | float x =>
    cases x with
    | finite q =>
      refine .inl ⟨fun h => ?_, text.isNumberChar_of_mem q⟩
      have hnil : text.repr q = [] := h
      rcases text.point_mem_repr q with hc | hc <;>
      · rw [hnil] at hc
        cases hc
    | inf negative => cases negative <;> simp [printNumber]
    | nan => simp [printNumber]

/-- A text with a letter that finite numbers do not have. -/
theorem ne_of_isNumberChar {token word : List Char} (h : ∀ c ∈ token, isNumberChar c = true)
    (hword : word.any (fun c => !isNumberChar c) = true) : token ≠ word := by
  rintro rfl
  obtain ⟨c, hc, hno⟩ := List.any_eq_true.mp hword
  rw [h c hc] at hno
  cases hno

theorem readNumber_finite {token : List Char} (h : ∀ c ∈ token, isNumberChar c = true) :
    text.readNumber token = match readInt token with
      | some n => some (.int n)
      | none => (text.parse token).map .float := by
  unfold readNumber
  rw [if_neg (ne_of_isNumberChar h (by decide)), if_neg (ne_of_isNumberChar h (by decide)),
    if_neg (ne_of_isNumberChar h (by decide))]

theorem readNumber_printNumber (n : Number) : text.readNumber (text.printNumber n) = some n := by
  cases n with
  | int n =>
    rw [readNumber_finite]
    · unfold printNumber
      rw [readInt_printInt]
    · intro c hc
      rcases mem_printInt hc with hc | rfl
      · simp [isNumberChar, hc]
      · rfl
  | float x =>
    cases x with
    | finite q =>
      unfold printNumber
      rw [readNumber_finite _ (text.isNumberChar_of_mem q), readInt_repr, text.parse_repr]
      rfl
    | inf negative => cases negative <;> rfl
    | nan => rfl

theorem isTokenChar_of_isNumberChar {c : Char} (h : isNumberChar c = true) :
    isTokenChar c = true := by
  simp only [isNumberChar, Bool.or_eq_true, decide_eq_true_eq] at h
  rcases h with (((h | rfl) | rfl) | rfl) | rfl
  · simp [isTokenChar, Char.isAlphanum, h]
  all_goals rfl

/-- The tokens of Python's numbers. -/
def numerals : Numerals Number where
  print := text.printNumber
  read := text.readNumber
  read_print := text.readNumber_printNumber
  print_ne_nil n := by
    rcases text.printNumber_cases n with ⟨h, -⟩ | h
    · exact h
    · intro hnil
      rw [hnil] at h
      exact absurd h (by decide)
  isTokenChar_of_mem n c hc := by
    rcases text.printNumber_cases n with ⟨-, h⟩ | h
    · exact isTokenChar_of_isNumberChar (h c hc)
    · have hall : (["NaN".toList, "Infinity".toList, "-Infinity".toList].all fun token =>
          token.all isTokenChar) = true := by decide
      exact List.all_eq_true.mp (List.all_eq_true.mp hall _ h) c hc
  print_notMem_words n := by
    intro hmem
    rcases text.printNumber_cases n with ⟨-, h⟩ | h
    · have hall : ∀ word ∈ words, word.any (fun c => !isNumberChar c) = true := by decide
      exact ne_of_isNumberChar h (hall _ hmem) rfl
    · have hall : ∀ token ∈ ["NaN".toList, "Infinity".toList, "-Infinity".toList],
          token ∉ words := by decide
      exact hall _ h hmem

/-- Texts that are Python's for floats that are small integers. -/
def plain : FloatText where
  repr q := printInt q.num ++ '.' :: Nat.toDigits 10 (q.den - 1)
  parse token := (readInt (token.takeWhile (· ≠ '.'))).bind fun n =>
    (readNat (token.dropWhile (· ≠ '.')).tail).map fun d => .finite (mkRat n (d + 1))
  parse_repr q := by
    have hpoint : ∀ c ∈ printInt q.num, decide (c ≠ '.') = true := by
      intro c hc
      rcases mem_printInt hc with hc | rfl
      · refine decide_eq_true ?_
        rintro rfl
        exact absurd hc (by decide)
      · rfl
    have hden : q.den - 1 + 1 = q.den := Nat.sub_add_cancel q.den_pos
    rw [List.takeWhile_append_of_pos hpoint, List.dropWhile_append_of_pos hpoint,
      List.takeWhile_cons_of_neg (by decide), List.dropWhile_cons_of_neg (by decide),
      List.append_nil, readInt_printInt, Option.bind_some, List.tail_cons, readNat_toDigits,
      Option.map_some, hden, Rat.mkRat_self]
  isNumberChar_of_mem q c hc := by
    rcases List.mem_append.mp hc with hc | hc
    · rcases mem_printInt hc with hc | rfl
      · simp [isNumberChar, hc]
      · rfl
    · rcases List.mem_cons.mp hc with rfl | hc
      · rfl
      · have hdigit := Nat.isDigit_of_mem_toDigits (by decide) (by decide) hc
        simp [isNumberChar, hdigit]
  point_mem_repr q := .inl (List.mem_append_right _ List.mem_cons_self)

end FloatText

/-! ## Values as JSON -/

/-- The fields in order of their keys. -/
def sortFields {α : Type} (fields : List (String × α)) : List (String × α) :=
  StableSort.sortBy Prod.fst fields

/-- `row[cell.1] = cell.2` -/
def insertCell (row : Row) (cell : String × Value) : Row :=
  if cell.1 ∈ row.columns then row.set cell.1 cell.2 else row ++ [cell]

/-- `dict(pairs)`: a key stays where it comes first and has the value that comes last. -/
def dictOf (pairs : List (String × Value)) : Row := pairs.foldl insertCell []

namespace Value

mutual

def toJson : Value → Json Number
  | none => .null
  | bool b => .bool b
  | int n => .num (.int n)
  | float x => .num (.float x)
  | str s => .str s
  | list items => .arr (toJsonItems items)
  | dict fields => .obj (toJsonFields fields)

def toJsonItems : List Value → List (Json Number)
  | [] => []
  | a :: items => toJson a :: toJsonItems items

def toJsonFields : List (String × Value) → List (String × Json Number)
  | [] => []
  | (k, a) :: fields => (k, toJson a) :: toJsonFields fields

end

mutual

def ofJson : Json Number → Value
  | .null => none
  | .bool b => bool b
  | .num (.int n) => int n
  | .num (.float x) => float x
  | .str s => str s
  | .arr items => list (ofJsonItems items)
  | .obj fields => dict (dictOf (ofJsonFields fields))

def ofJsonItems : List (Json Number) → List Value
  | [] => []
  | a :: items => ofJson a :: ofJsonItems items

def ofJsonFields : List (String × Json Number) → List (String × Value)
  | [] => []
  | (k, a) :: fields => (k, ofJson a) :: ofJsonFields fields

end

mutual

/-- The value with the keys of its dictionaries in order. -/
def sortKeys : Value → Value
  | list items => list (sortKeysItems items)
  | dict fields => dict (sortFields (sortKeysFields fields))
  | a => a

def sortKeysItems : List Value → List Value
  | [] => []
  | a :: items => sortKeys a :: sortKeysItems items

def sortKeysFields : List (String × Value) → List (String × Value)
  | [] => []
  | (k, a) :: fields => (k, sortKeys a) :: sortKeysFields fields

end

mutual

/-- Each dictionary has each key once, as every dictionary of Python has. -/
def keyed : Value → Bool
  | list items => keyedItems items
  | dict fields => decide (Row.columns fields).Nodup && keyedFields fields
  | _ => true

def keyedItems : List Value → Bool
  | [] => true
  | a :: items => keyed a && keyedItems items

def keyedFields : List (String × Value) → Bool
  | [] => true
  | (_, a) :: fields => keyed a && keyedFields fields

end

/-! ### JSON values -/

mutual

theorem eq_of_toJson : ∀ (a b : Value), toJson a = toJson b → a = b
  | none, b, h => by cases b <;> simp_all [toJson]
  | bool x, b, h => by cases b <;> simp_all [toJson]
  | int n, b, h => by cases b <;> simp_all [toJson]
  | float x, b, h => by cases b <;> simp_all [toJson]
  | str s, b, h => by cases b <;> simp_all [toJson]
  | list items, b, h => by
    cases b with
    | list items' =>
      rw [toJson, toJson, Json.arr.injEq] at h
      rw [eq_of_toJsonItems items items' h]
    | _ => simp [toJson] at h
  | dict fields, b, h => by
    cases b with
    | dict fields' =>
      rw [toJson, toJson, Json.obj.injEq] at h
      rw [eq_of_toJsonFields fields fields' h]
    | _ => simp [toJson] at h

theorem eq_of_toJsonItems : ∀ (as bs : List Value), toJsonItems as = toJsonItems bs → as = bs
  | [], [], _ => rfl
  | [], _ :: _, h => nomatch h
  | _ :: _, [], h => nomatch h
  | a :: as, b :: bs, h => by
    rw [toJsonItems, toJsonItems, List.cons.injEq] at h
    rw [eq_of_toJson a b h.1, eq_of_toJsonItems as bs h.2]

theorem eq_of_toJsonFields : ∀ (as bs : List (String × Value)),
    toJsonFields as = toJsonFields bs → as = bs
  | [], [], _ => rfl
  | [], _ :: _, h => nomatch h
  | _ :: _, [], h => nomatch h
  | (k, a) :: as, (l, b) :: bs, h => by
    rw [toJsonFields, toJsonFields, List.cons.injEq, Prod.mk.injEq] at h
    rw [h.1.1, eq_of_toJson a b h.1.2, eq_of_toJsonFields as bs h.2]

end

theorem toJson_injective : Function.Injective toJson := eq_of_toJson

/-- The pairs of a dictionary make up the dictionary. -/
theorem foldl_insertCell {row pairs : Row} (h : (Row.columns (row ++ pairs)).Nodup) :
    pairs.foldl insertCell row = row ++ pairs := by
  induction pairs generalizing row with
  | nil => rw [List.foldl_nil, List.append_nil]
  | cons cell pairs ih =>
    have hcell : cell.1 ∉ row.columns := by
      intro hmem
      unfold Row.columns at h hmem
      rw [List.map_append, List.map_cons, List.nodup_append] at h
      exact h.2.2 _ hmem _ List.mem_cons_self rfl
    have hinsert : insertCell row cell = row ++ [cell] := if_neg hcell
    have happend : row ++ [cell] ++ pairs = row ++ cell :: pairs := by simp
    rw [List.foldl_cons, hinsert, ih (happend ▸ h), happend]

theorem dictOf_eq {row : Row} (h : row.columns.Nodup) : dictOf row = row := foldl_insertCell h

theorem keyed_dict {fields : List (String × Value)} :
    keyed (dict fields) = true ↔ (Row.columns fields).Nodup ∧ keyedFields fields = true := by
  simp [keyed]

theorem keyedItems_cons {a : Value} {items : List Value} :
    keyedItems (a :: items) = true ↔ keyed a = true ∧ keyedItems items = true := by
  simp [keyedItems]

theorem keyedFields_cons {k : String} {a : Value} {fields : List (String × Value)} :
    keyedFields ((k, a) :: fields) = true ↔ keyed a = true ∧ keyedFields fields = true := by
  simp [keyedFields]

mutual

theorem ofJson_toJson : ∀ (a : Value), keyed a = true → ofJson (toJson a) = a
  | none, _ | bool _, _ | int _, _ | float _, _ | str _, _ => rfl
  | list items, h => congrArg list (ofJsonItems_toJsonItems items h)
  | dict fields, h => by
    obtain ⟨hnodup, hfields⟩ := keyed_dict.mp h
    rw [toJson, ofJson, ofJsonFields_toJsonFields fields hfields, dictOf_eq hnodup]

theorem ofJsonItems_toJsonItems : ∀ (items : List Value), keyedItems items = true →
    ofJsonItems (toJsonItems items) = items
  | [], _ => rfl
  | a :: items, h => by
    obtain ⟨ha, hitems⟩ := keyedItems_cons.mp h
    rw [toJsonItems, ofJsonItems, ofJson_toJson a ha, ofJsonItems_toJsonItems items hitems]

theorem ofJsonFields_toJsonFields : ∀ (fields : List (String × Value)),
    keyedFields fields = true → ofJsonFields (toJsonFields fields) = fields
  | [], _ => rfl
  | (k, a) :: fields, h => by
    obtain ⟨ha, hfields⟩ := keyedFields_cons.mp h
    rw [toJsonFields, ofJsonFields, ofJson_toJson a ha, ofJsonFields_toJsonFields fields hfields]

end

/-! ### Sorted keys -/

theorem sortKeysItems_eq_map (items : List Value) : sortKeysItems items = items.map sortKeys := by
  induction items with
  | nil => rfl
  | cons a items ih => rw [sortKeysItems, ih, List.map_cons]

theorem sortKeysFields_eq_map (fields : List (String × Value)) :
    sortKeysFields fields = fields.map fun f => (f.1, sortKeys f.2) := by
  induction fields with
  | nil => rfl
  | cons f fields ih => rw [sortKeysFields, ih, List.map_cons]

theorem keyedItems_iff {items : List Value} :
    keyedItems items = true ↔ ∀ a ∈ items, keyed a = true := by
  induction items with
  | nil => simp [keyedItems]
  | cons a items ih => rw [keyedItems_cons, ih, List.forall_mem_cons]

theorem keyedFields_iff {fields : List (String × Value)} :
    keyedFields fields = true ↔ ∀ f ∈ fields, keyed f.2 = true := by
  induction fields with
  | nil => simp [keyedFields]
  | cons f fields ih => rw [keyedFields_cons, ih, List.forall_mem_cons]

theorem sortFields_perm {α : Type} (fields : List (String × α)) :
    (sortFields fields).Perm fields :=
  StableSort.sortBy_perm Prod.fst fields

theorem columns_sortKeysFields (fields : List (String × Value)) :
    Row.columns (sortKeysFields fields) = Row.columns fields := by
  unfold Row.columns
  rw [sortKeysFields_eq_map, List.map_map]
  rfl

theorem nodup_columns_sortFields {fields : Row} :
    (Row.columns (sortFields fields)).Nodup ↔ fields.columns.Nodup :=
  ((sortFields_perm fields).map Prod.fst).nodup_iff

mutual

theorem keyed_sortKeys : ∀ (a : Value), keyed a = true → keyed (sortKeys a) = true
  | none, _ | bool _, _ | int _, _ | float _, _ | str _, _ => rfl
  | list items, h => keyedItems_sortKeys items h
  | dict fields, h => by
    obtain ⟨hnodup, hfields⟩ := keyed_dict.mp h
    rw [sortKeys, keyed_dict, nodup_columns_sortFields, columns_sortKeysFields]
    refine ⟨hnodup, keyedFields_iff.mpr fun f hf => ?_⟩
    exact keyedFields_iff.mp (keyedFields_sortKeys fields hfields) f
      ((sortFields_perm _).mem_iff.mp hf)

theorem keyedItems_sortKeys : ∀ (items : List Value), keyedItems items = true →
    keyedItems (sortKeysItems items) = true
  | [], _ => rfl
  | a :: items, h => by
    obtain ⟨ha, hitems⟩ := keyedItems_cons.mp h
    exact keyedItems_cons.mpr ⟨keyed_sortKeys a ha, keyedItems_sortKeys items hitems⟩

theorem keyedFields_sortKeys : ∀ (fields : List (String × Value)), keyedFields fields = true →
    keyedFields (sortKeysFields fields) = true
  | [], _ => rfl
  | (_, a) :: fields, h => by
    obtain ⟨ha, hfields⟩ := keyedFields_cons.mp h
    exact keyedFields_cons.mpr ⟨keyed_sortKeys a ha, keyedFields_sortKeys fields hfields⟩

end

/-- Sorted keys stay where they are. -/
theorem sortFields_sortFields {α : Type} (fields : List (String × α)) :
    sortFields (sortFields fields) = sortFields fields := by
  refine List.mergeSort_of_pairwise ?_
  exact (StableSort.pairwise_sortBy Prod.fst fields).imp fun h => decide_eq_true h

theorem sortKeysFields_sortFields (fields : List (String × Value)) :
    sortKeysFields (sortFields fields) = sortFields (sortKeysFields fields) := by
  rw [sortKeysFields_eq_map, sortKeysFields_eq_map]
  exact StableSort.map_sortBy Prod.fst (f := fun f => (f.1, sortKeys f.2)) (fun _ => rfl) fields

mutual

theorem sortKeys_sortKeys : ∀ (a : Value), sortKeys (sortKeys a) = sortKeys a
  | none | bool _ | int _ | float _ | str _ => rfl
  | list items => congrArg list (sortKeysItems_sortKeysItems items)
  | dict fields => by
    rw [sortKeys, sortKeys, sortKeysFields_sortFields, sortKeysFields_sortKeysFields fields,
      sortFields_sortFields]

theorem sortKeysItems_sortKeysItems : ∀ (items : List Value),
    sortKeysItems (sortKeysItems items) = sortKeysItems items
  | [] => rfl
  | a :: items => by
    rw [sortKeysItems, sortKeysItems, sortKeys_sortKeys a, sortKeysItems_sortKeysItems items]

theorem sortKeysFields_sortKeysFields : ∀ (fields : List (String × Value)),
    sortKeysFields (sortKeysFields fields) = sortKeysFields fields
  | [] => rfl
  | (k, a) :: fields => by
    rw [sortKeysFields, sortKeysFields, sortKeys_sortKeys a, sortKeysFields_sortKeysFields fields]

end

end Value

/-! ## Texts -/

/-- `json.dumps` without further arguments. -/
def plainStyle : Style where
  inside _ := []
  afterComma _ := [' ']
  beforeEnd _ := []
  afterColon := [' ']
  isBlank_inside _ _ h := nomatch h
  isBlank_afterComma _ c h := by rw [List.mem_singleton.mp h]; rfl
  isBlank_beforeEnd _ _ h := nomatch h
  isBlank_afterColon c h := by rw [List.mem_singleton.mp h]; rfl

/-- `separators=(",", ":")` -/
def compactStyle : Style where
  inside _ := []
  afterComma _ := []
  beforeEnd _ := []
  afterColon := []
  isBlank_inside _ _ h := nomatch h
  isBlank_afterComma _ _ h := nomatch h
  isBlank_beforeEnd _ _ h := nomatch h
  isBlank_afterColon _ h := nomatch h

def newline (level : ℕ) : List Char := '\n' :: List.replicate (2 * level) ' '

theorem isBlank_of_mem_newline {level : ℕ} {c : Char} (h : c ∈ newline level) :
    isBlank c = true := by
  rcases List.mem_cons.mp h with rfl | h
  · rfl
  · rw [List.eq_of_mem_replicate h]
    rfl

/-- `indent=2` -/
def indentStyle : Style where
  inside d := newline (d + 1)
  afterComma d := newline (d + 1)
  beforeEnd d := newline d
  afterColon := [' ']
  isBlank_inside _ _ h := isBlank_of_mem_newline h
  isBlank_afterComma _ _ h := isBlank_of_mem_newline h
  isBlank_beforeEnd _ _ h := isBlank_of_mem_newline h
  isBlank_afterColon c h := by rw [List.mem_singleton.mp h]; rfl

section

variable (text : FloatText)

/-- `json.dumps(value, sort_keys=True)` in a style. -/
def dumps (style : Style) (value : Value) : String :=
  String.ofList (write text.numerals style 0 value.sortKeys.toJson)

/-- `json.loads(s)`; `none` when it raises. -/
def loads (s : String) : Option Value := (read text.numerals s.toList).map Value.ofJson

/-- Texts are equal when the values are, apart from the order of their keys. -/
theorem dumps_eq_iff (style : Style) {a b : Value} :
    dumps text style a = dumps text style b ↔ a.sortKeys = b.sortKeys := by
  constructor
  · intro h
    have hwrite := String.ofList_injective h
    exact Value.toJson_injective (write_injective text.numerals style hwrite)
  · intro h
    unfold dumps
    rw [h]

/-- **Loading what was dumped.** -/
theorem loads_dumps (style : Style) {a : Value} (h : a.keyed = true) {blanks : String}
    (hblanks : blanks.toList.all isBlank = true) :
    loads text (dumps text style a ++ blanks) = some a.sortKeys := by
  unfold loads dumps
  rw [String.toList_append, String.toList_ofList,
    read_write _ _ _ _ (List.all_eq_true.mp hblanks), Option.map_some,
    Value.ofJson_toJson _ (a.keyed_sortKeys h)]

end

end GnnSandbox.Bench
