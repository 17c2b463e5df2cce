import GnnSandbox.Lib.JsonString
import Mathlib.Data.Int.Notation

/-!
# JSON texts

JSON values with any kind of numbers, their texts in any style of white space, and a reader. The
reader takes a maximal run of letters, digits, signs and dots as one token, so that the numbers are
given by what a token stands for. Objects are lists of fields in the order of the text.

The main result is `read_write`: a written value is read back.
-/

namespace JsonText

inductive Json (N : Type) where
  | null
  | bool (b : Bool)
  | num (n : N)
  | str (s : String)
  | arr (items : List (Json N))
  | obj (fields : List (String × Json N))

/-! ## Tokens and numbers -/

def isTokenChar (c : Char) : Bool := c.isAlphanum || c = '+' || c = '-' || c = '.'

/-- The words that are no numbers. -/
def words : List (List Char) := ["null".toList, "true".toList, "false".toList]

/-- Numbers and their tokens. -/
structure Numerals (N : Type) where
  print : N → List Char
  read : List Char → Option N
  read_print : ∀ n, read (print n) = some n
  print_ne_nil : ∀ n, print n ≠ []
  isTokenChar_of_mem : ∀ n, ∀ c ∈ print n, isTokenChar c = true
  print_notMem_words : ∀ n, print n ∉ words

/-! ## Writing -/

def isBlank (c : Char) : Bool := c = ' ' || c = '\n' || c = '\r' || c = '\t'

/-- White space, by the depth of nesting where it depends on it. -/
structure Style where
  inside : ℕ → List Char
  afterComma : ℕ → List Char
  beforeEnd : ℕ → List Char
  afterColon : List Char
  isBlank_inside : ∀ d, ∀ c ∈ inside d, isBlank c = true
  isBlank_afterComma : ∀ d, ∀ c ∈ afterComma d, isBlank c = true
  isBlank_beforeEnd : ∀ d, ∀ c ∈ beforeEnd d, isBlank c = true
  isBlank_afterColon : ∀ c ∈ afterColon, isBlank c = true

section

variable {N : Type} (numerals : Numerals N) (style : Style)

mutual

def write (d : ℕ) : Json N → List Char
  | .null => "null".toList
  | .bool b => (if b then "true" else "false").toList
  | .num n => numerals.print n
  | .str s => quote s
  | .arr [] => ['[', ']']
  | .arr (a :: items) => '[' :: style.inside d ++ write (d + 1) a ++ writeItems d items
  | .obj [] => ['{', '}']
  | .obj ((k, a) :: fields) =>
    '{' :: style.inside d ++ quote k ++ ':' :: style.afterColon ++ write (d + 1) a ++
      writeFields d fields

/-- The other items and the end of an array. -/
def writeItems (d : ℕ) : List (Json N) → List Char
  | [] => style.beforeEnd d ++ [']']
  | a :: items => ',' :: style.afterComma d ++ write (d + 1) a ++ writeItems d items

/-- The other fields and the end of an object. -/
def writeFields (d : ℕ) : List (String × Json N) → List Char
  | [] => style.beforeEnd d ++ ['}']
  | (k, a) :: fields =>
    ',' :: style.afterComma d ++ quote k ++ ':' :: style.afterColon ++ write (d + 1) a ++
      writeFields d fields

end

/-! ## Reading -/

def skip (text : List Char) : List Char := text.dropWhile isBlank

def readToken (text : List Char) : Option (Json N × List Char) :=
  let token := text.takeWhile isTokenChar
  let rest := text.dropWhile isTokenChar
  if token = "null".toList then some (.null, rest)
  else if token = "true".toList then some (.bool true, rest)
  else if token = "false".toList then some (.bool false, rest)
  else (numerals.read token).map fun n => (.num n, rest)

mutual

def readValue : ℕ → List Char → Option (Json N × List Char)
  | 0, _ => none
  | fuel + 1, text =>
    match skip text with
    | [] => none
    | c :: rest =>
      if c = '"' then (readString (fuel + 1) rest).map fun (s, rest) => (.str s, rest)
      else if c = '[' then
        if (skip rest).head? = some ']' then some (.arr [], (skip rest).tail)
        else (readValue fuel rest).bind fun (a, rest) =>
          (readItems fuel rest).map fun (items, rest) => (.arr (a :: items), rest)
      else if c = '{' then
        if (skip rest).head? = some '}' then some (.obj [], (skip rest).tail)
        else (readField fuel rest).bind fun (field, rest) =>
          (readFields fuel rest).map fun (fields, rest) => (.obj (field :: fields), rest)
      else readToken numerals (c :: rest)

/-- The other items and the end of an array. -/
def readItems : ℕ → List Char → Option (List (Json N) × List Char)
  | 0, _ => none
  | fuel + 1, text =>
    match skip text with
    | [] => none
    | c :: rest =>
      if c = ']' then some ([], rest)
      else if c = ',' then (readValue fuel rest).bind fun (a, rest) =>
        (readItems fuel rest).map fun (items, rest) => (a :: items, rest)
      else none

/-- A name and a value. -/
def readField : ℕ → List Char → Option ((String × Json N) × List Char)
  | 0, _ => none
  | fuel + 1, text =>
    match skip text with
    | [] => none
    | c :: rest =>
      if c = '"' then (readString (fuel + 1) rest).bind fun (k, rest) =>
        if (skip rest).head? = some ':' then
          (readValue fuel (skip rest).tail).map fun (a, rest) => ((k, a), rest)
        else none
      else none

/-- The other fields and the end of an object. -/
def readFields : ℕ → List Char → Option (List (String × Json N) × List Char)
  | 0, _ => none
  | fuel + 1, text =>
    match skip text with
    | [] => none
    | c :: rest =>
      if c = '}' then some ([], rest)
      else if c = ',' then (readField fuel rest).bind fun (field, rest) =>
        (readFields fuel rest).map fun (fields, rest) => (field :: fields, rest)
      else none

end

/-- A text that holds one value. -/
def read (text : List Char) : Option (Json N) :=
  match readValue numerals (text.length + 1) text with
  | some (a, rest) => if skip rest = [] then some a else none
  | none => none

/-! ## Round trip -/

/-- A token ends here. -/
def Stops (rest : List Char) : Prop := ∀ c ∈ rest.head?, isTokenChar c = false

variable {numerals : Numerals N} {style : Style}

theorem skip_append {blanks : List Char} (h : ∀ c ∈ blanks, isBlank c = true) (text : List Char) :
    skip (blanks ++ text) = skip text := by
  unfold skip
  induction blanks with
  | nil => rfl
  | cons c blanks ih =>
    rw [List.cons_append, List.dropWhile_cons_of_pos (h c List.mem_cons_self)]
    exact ih fun c hc => h c (List.mem_cons_of_mem _ hc)

theorem skip_cons {c : Char} (h : isBlank c = false) (text : List Char) :
    skip (c :: text) = c :: text :=
  List.dropWhile_cons_of_neg (by rw [h]; exact Bool.false_ne_true)

theorem isBlank_of_isTokenChar {c : Char} (h : isTokenChar c = true) : isBlank c = false := by
  rw [← Bool.not_eq_true]
  intro hblank
  simp only [isBlank, Bool.or_eq_true, decide_eq_true_eq] at hblank
  rcases hblank with ((rfl | rfl) | rfl) | rfl <;> exact absurd h (by decide)

theorem stops_nil : Stops [] := fun _ hc => nomatch hc

theorem stops_cons {c : Char} (h : isTokenChar c = false) (text : List Char) : Stops (c :: text) :=
  fun _ hd => Option.some.inj hd ▸ h

/-- White space and the character behind it end a token. -/
theorem stops_append {blanks : List Char} (h : ∀ c ∈ blanks, isBlank c = true) {text : List Char}
    (htext : Stops text) : Stops (blanks ++ text) := by
  cases blanks with
  | nil => exact htext
  | cons c blanks =>
    refine stops_cons ?_ _
    rw [← Bool.not_eq_true]
    intro htoken
    exact Bool.false_ne_true
      ((isBlank_of_isTokenChar htoken).symm.trans (h c List.mem_cons_self))

theorem takeWhile_token {token rest : List Char} (htoken : ∀ c ∈ token, isTokenChar c = true)
    (hrest : Stops rest) : (token ++ rest).takeWhile isTokenChar = token ∧
      (token ++ rest).dropWhile isTokenChar = rest := by
  induction token with
  | nil =>
    cases rest with
    | nil => exact ⟨rfl, rfl⟩
    | cons c rest =>
      have hc : ¬isTokenChar c = true := by
        rw [hrest c rfl]
        exact Bool.false_ne_true
      exact ⟨List.takeWhile_cons_of_neg hc, List.dropWhile_cons_of_neg hc⟩
  | cons c token ih =>
    have hc := htoken c List.mem_cons_self
    obtain ⟨htake, hdrop⟩ := ih fun c hc => htoken c (List.mem_cons_of_mem _ hc)
    rw [List.cons_append, List.takeWhile_cons_of_pos hc, List.dropWhile_cons_of_pos hc]
    exact ⟨congrArg (c :: ·) htake, hdrop⟩

/-! ### One step of the reader -/

theorem readValue_skip (fuel : ℕ) {text text' : List Char} (h : skip text = skip text') :
    readValue numerals fuel text = readValue numerals fuel text' := by
  cases fuel with
  | zero => rfl
  | succ fuel =>
    unfold readValue
    rw [h]

theorem readValue_token {c : Char} (h : isTokenChar c = true) (fuel : ℕ) (text : List Char) :
    readValue numerals (fuel + 1) (c :: text) = readToken numerals (c :: text) := by
  have hne : ∀ d, isTokenChar d = false → c ≠ d := by
    rintro d hd rfl
    exact Bool.false_ne_true (hd.symm.trans h)
  conv_lhs => unfold readValue
  rw [skip_cons (isBlank_of_isTokenChar h)]
  dsimp only
  rw [if_neg (hne '"' (by decide)), if_neg (hne '[' (by decide)), if_neg (hne '{' (by decide))]

theorem readValue_quote (fuel : ℕ) (text : List Char) :
    readValue numerals (fuel + 1) ('"' :: text) =
      (readString (fuel + 1) text).map fun (s, rest) => (.str s, rest) := rfl

theorem readValue_bracket {text : List Char} (h : (skip text).head? ≠ some ']') (fuel : ℕ) :
    readValue numerals (fuel + 1) ('[' :: text) =
      (readValue numerals fuel text).bind fun (a, rest) =>
        (readItems numerals fuel rest).map fun (items, rest) => (Json.arr (a :: items), rest) :=
  if_neg h

theorem readValue_brace {text : List Char} (h : (skip text).head? ≠ some '}') (fuel : ℕ) :
    readValue numerals (fuel + 1) ('{' :: text) =
      (readField numerals fuel text).bind fun (field, rest) =>
        (readFields numerals fuel rest).map fun (fields, rest) =>
          (Json.obj (field :: fields), rest) :=
  if_neg h

theorem readItems_comma (fuel : ℕ) (text : List Char) :
    readItems numerals (fuel + 1) (',' :: text) =
      (readValue numerals fuel text).bind fun (a, rest) =>
        (readItems numerals fuel rest).map fun (items, rest) => (a :: items, rest) := rfl

theorem readFields_comma (fuel : ℕ) (text : List Char) :
    readFields numerals (fuel + 1) (',' :: text) =
      (readField numerals fuel text).bind fun (field, rest) =>
        (readFields numerals fuel rest).map fun (fields, rest) => (field :: fields, rest) := rfl

theorem readToken_word (word : List Char) {rest : List Char} (h : word ∈ words) (hrest : Stops rest) :
    readToken numerals (word ++ rest) =
      some (if word = "null".toList then .null else .bool (word = "true".toList), rest) := by
  have htoken : ∀ c ∈ word, isTokenChar c = true := by
    have hall : (words.all fun w => w.all isTokenChar) = true := by decide
    exact List.all_eq_true.mp (List.all_eq_true.mp hall word h)
  obtain ⟨htake, hdrop⟩ := takeWhile_token htoken hrest
  unfold readToken
  rw [htake, hdrop]
  simp only [words, List.mem_cons, List.not_mem_nil, or_false] at h
  rcases h with rfl | rfl | rfl <;> rfl

theorem readToken_print (numerals : Numerals N) (n : N) {rest : List Char} (hrest : Stops rest) :
    readToken numerals (numerals.print n ++ rest) = some (.num n, rest) := by
  obtain ⟨htake, hdrop⟩ := takeWhile_token (numerals.isTokenChar_of_mem n) hrest
  have hno := numerals.print_notMem_words n
  simp only [words, List.mem_cons, List.not_mem_nil, or_false, not_or] at hno
  unfold readToken
  rw [htake, hdrop]
  dsimp only
  rw [if_neg hno.1, if_neg hno.2.1, if_neg hno.2.2, numerals.read_print]
  rfl

/-! ### Written values -/

/-- A written value begins with a character that is no white space and ends nothing. -/
theorem write_head (numerals : Numerals N) (style : Style) (d : ℕ) (a : Json N) : ∃ c text, write numerals style d a = c :: text ∧
    isBlank c = false ∧ c ≠ ']' ∧ c ≠ '}' := by
  cases a with
  | null => exact ⟨_, _, rfl, by decide, by decide, by decide⟩
  | bool b => cases b <;> exact ⟨_, _, rfl, by decide, by decide, by decide⟩
  | num n =>
    cases hprint : numerals.print n with
    | nil => exact absurd hprint (numerals.print_ne_nil n)
    | cons c text =>
      have htoken : isTokenChar c = true :=
        numerals.isTokenChar_of_mem n c (hprint ▸ List.mem_cons_self)
      refine ⟨c, text, hprint, isBlank_of_isTokenChar htoken, ?_, ?_⟩ <;>
        (rintro rfl; exact absurd htoken (by decide))
  | str s => exact ⟨_, _, rfl, by decide, by decide, by decide⟩
  | arr items => cases items <;> exact ⟨_, _, rfl, by decide, by decide, by decide⟩
  | obj fields => cases fields <;> exact ⟨_, _, rfl, by decide, by decide, by decide⟩

theorem stops_writeItems (d : ℕ) (items : List (Json N)) (rest : List Char) :
    Stops (writeItems numerals style d items ++ rest) := by
  cases items with
  | nil =>
    unfold writeItems
    rw [List.append_assoc]
    exact stops_append (style.isBlank_beforeEnd d) (stops_cons (by decide) _)
  | cons a items => exact stops_cons (by decide) _

theorem stops_writeFields (d : ℕ) (fields : List (String × Json N)) (rest : List Char) :
    Stops (writeFields numerals style d fields ++ rest) := by
  cases fields with
  | nil =>
    unfold writeFields
    rw [List.append_assoc]
    exact stops_append (style.isBlank_beforeEnd d) (stops_cons (by decide) _)
  | cons field fields =>
    obtain ⟨k, a⟩ := field
    exact stops_cons (by decide) _

theorem readValue_blanks {blanks : List Char} (h : ∀ c ∈ blanks, isBlank c = true) (fuel : ℕ)
    (text : List Char) :
    readValue numerals fuel (blanks ++ text) = readValue numerals fuel text :=
  readValue_skip fuel (skip_append h text)

/-- A value after white space does not end an array. -/
theorem head_skip_write {blanks : List Char} (h : ∀ c ∈ blanks, isBlank c = true) (d : ℕ)
    (a : Json N) (rest : List Char) :
    (skip (blanks ++ (write numerals style d a ++ rest))).head? ≠ some ']' := by
  obtain ⟨c, text, htext, hblank, hc, -⟩ := write_head numerals style d a
  rw [skip_append h, htext, List.cons_append, skip_cons hblank]
  exact fun heq => hc (Option.some.inj heq)

theorem head_skip_quote {blanks : List Char} (h : ∀ c ∈ blanks, isBlank c = true) (k : String)
    (rest : List Char) : (skip (blanks ++ (quote k ++ rest))).head? ≠ some '}' := by
  rw [skip_append h]
  unfold quote
  rw [List.cons_append, List.cons_append, skip_cons (by decide)]
  exact fun heq => absurd (Option.some.inj heq) (by decide)

/-- A field is read once its value is. -/
theorem readField_write {blanks : List Char} (h : ∀ c ∈ blanks, isBlank c = true) {k : String}
    {d fuel : ℕ} {a : Json N} {rest : List Char} (hk : (quote k).length ≤ fuel)
    (hvalue : readValue numerals fuel (write numerals style d a ++ rest) = some (a, rest)) :
    readField numerals (fuel + 1) (blanks ++ (quote k ++
      (':' :: (style.afterColon ++ (write numerals style d a ++ rest))))) =
        some ((k, a), rest) := by
  have hlength := length_quote k
  obtain ⟨text, htext, hread⟩ := readString_quote k
    (':' :: (style.afterColon ++ (write numerals style d a ++ rest))) (fuel + 1) (by omega)
  rw [htext]
  unfold readField
  rw [skip_append h, skip_cons (by decide)]
  dsimp only
  rw [if_pos rfl, hread, Option.bind_some]
  dsimp only
  rw [skip_cons (by decide), if_pos List.head?_cons, List.tail_cons,
    readValue_blanks style.isBlank_afterColon, hvalue]
  rfl

mutual

theorem readValue_write : ∀ (a : Json N) (d fuel : ℕ) (rest : List Char),
    (write numerals style d a).length ≤ fuel → Stops rest →
      readValue numerals fuel (write numerals style d a ++ rest) = some (a, rest)
  | a, d, 0, rest, hfuel, hrest => by
    obtain ⟨c, text, htext, -⟩ := write_head numerals style d a
    rw [htext, List.length_cons] at hfuel
    omega
  | .null, d, fuel + 1, rest, hfuel, hrest => by
    exact (readValue_token (by decide) fuel _).trans (readToken_word "null".toList (by decide) hrest)
  | .bool true, d, fuel + 1, rest, hfuel, hrest => by
    exact (readValue_token (by decide) fuel _).trans (readToken_word "true".toList (by decide) hrest)
  | .bool false, d, fuel + 1, rest, hfuel, hrest => by
    exact (readValue_token (by decide) fuel _).trans
      (readToken_word "false".toList (by decide) hrest)
  | .num n, d, fuel + 1, rest, hfuel, hrest => by
    have hread := readToken_print numerals n hrest
    rw [write]
    cases hprint : numerals.print n with
    | nil => exact absurd hprint (numerals.print_ne_nil n)
    | cons c text =>
      rw [hprint] at hread
      exact (readValue_token (numerals.isTokenChar_of_mem n c (hprint ▸ List.mem_cons_self))
        fuel _).trans hread
  | .str s, d, fuel + 1, rest, hfuel, hrest => by
    rw [write] at hfuel ⊢
    obtain ⟨text, htext, hread⟩ :=
      readString_quote s rest (fuel + 1) (Nat.lt_of_lt_of_le (length_quote s) hfuel)
    rw [htext, readValue_quote, hread]
    rfl
  | .arr [], d, fuel + 1, rest, hfuel, hrest => by
    rfl
  | .arr (a :: items), d, fuel + 1, rest, hfuel, hrest => by
    rw [write] at hfuel ⊢
    simp only [List.length_append, List.length_cons] at hfuel
    rw [List.append_assoc, List.append_assoc, List.cons_append,
      readValue_bracket (head_skip_write (style.isBlank_inside d) (d + 1) a _),
      readValue_blanks (style.isBlank_inside d),
      readValue_write a (d + 1) fuel _ (by omega) (stops_writeItems d items rest),
      Option.bind_some]
    dsimp only
    rw [readItems_write items d fuel rest (by omega)]
    rfl
  | .obj [], d, fuel + 1, rest, hfuel, hrest => by
    rfl
  | .obj ((k, a) :: fields), d, fuel + 1, rest, hfuel, hrest => by
    rw [write] at hfuel ⊢
    simp only [List.length_append, List.length_cons] at hfuel
    obtain ⟨fuel, rfl⟩ : ∃ m, fuel = m + 1 := ⟨fuel - 1, by omega⟩
    have hvalue := readValue_write a (d + 1) fuel (writeFields numerals style d fields ++ rest)
      (by omega) (stops_writeFields d fields rest)
    simp only [List.append_assoc, List.cons_append]
    rw [readValue_brace (head_skip_quote (style.isBlank_inside d) k _),
      readField_write (style.isBlank_inside d) (by omega) hvalue, Option.bind_some]
    dsimp only
    rw [readFields_write fields d (fuel + 1) rest (by omega)]
    rfl

theorem readItems_write : ∀ (items : List (Json N)) (d fuel : ℕ) (rest : List Char),
    (writeItems numerals style d items).length ≤ fuel →
      readItems numerals fuel (writeItems numerals style d items ++ rest) = some (items, rest)
  | [], d, fuel, rest, hfuel => by
    rw [writeItems] at hfuel ⊢
    rw [List.length_append, List.length_singleton] at hfuel
    obtain ⟨fuel, rfl⟩ : ∃ m, fuel = m + 1 := ⟨fuel - 1, by omega⟩
    unfold readItems
    rw [List.append_assoc, skip_append (style.isBlank_beforeEnd d)]
    rfl
  | a :: items, d, fuel, rest, hfuel => by
    rw [writeItems] at hfuel ⊢
    simp only [List.length_append, List.length_cons] at hfuel
    obtain ⟨fuel, rfl⟩ : ∃ m, fuel = m + 1 := ⟨fuel - 1, by omega⟩
    rw [List.append_assoc, List.append_assoc, List.cons_append, readItems_comma,
      readValue_blanks (style.isBlank_afterComma d),
      readValue_write a (d + 1) fuel _ (by omega) (stops_writeItems d items rest),
      Option.bind_some]
    dsimp only
    rw [readItems_write items d fuel rest (by omega)]
    rfl

theorem readFields_write : ∀ (fields : List (String × Json N)) (d fuel : ℕ) (rest : List Char),
    (writeFields numerals style d fields).length ≤ fuel →
      readFields numerals fuel (writeFields numerals style d fields ++ rest) = some (fields, rest)
  | [], d, fuel, rest, hfuel => by
    rw [writeFields] at hfuel ⊢
    rw [List.length_append, List.length_singleton] at hfuel
    obtain ⟨fuel, rfl⟩ : ∃ m, fuel = m + 1 := ⟨fuel - 1, by omega⟩
    unfold readFields
    rw [List.append_assoc, skip_append (style.isBlank_beforeEnd d)]
    rfl
  | (k, a) :: fields, d, fuel, rest, hfuel => by
    rw [writeFields] at hfuel ⊢
    simp only [List.length_append, List.length_cons] at hfuel
    obtain ⟨fuel, rfl⟩ : ∃ m, fuel = m + 2 := ⟨fuel - 2, by omega⟩
    have hvalue := readValue_write a (d + 1) fuel (writeFields numerals style d fields ++ rest)
      (by omega) (stops_writeFields d fields rest)
    simp only [List.append_assoc, List.cons_append]
    rw [readFields_comma, readField_write (style.isBlank_afterComma d) (by omega) hvalue,
      Option.bind_some]
    dsimp only
    rw [readFields_write fields d (fuel + 1) rest (by omega)]
    rfl

end

/-- **Round trip.** What is written for a value, perhaps with white space behind it, is read as
this value. -/
theorem read_write (numerals : Numerals N) (style : Style) (a : Json N) (blanks : List Char)
    (h : ∀ c ∈ blanks, isBlank c = true) :
    read numerals (write numerals style 0 a ++ blanks) = some a := by
  have hstops : Stops blanks := List.append_nil blanks ▸ stops_append h stops_nil
  have hskip : skip blanks = [] := List.append_nil blanks ▸ skip_append h []
  have hread : readValue numerals ((write numerals style 0 a ++ blanks).length + 1)
      (write numerals style 0 a ++ blanks) = some (a, blanks) := by
    refine readValue_write a 0 _ blanks ?_ hstops
    rw [List.length_append]
    omega
  unfold read
  rw [hread]
  exact if_pos hskip

/-- Values with the same text are equal. -/
theorem write_injective (numerals : Numerals N) (style : Style) :
    Function.Injective (write numerals style 0) := by
  intro a b hab
  have ha := read_write numerals style a [] nofun
  have hb := read_write numerals style b [] nofun
  rw [hab, hb] at ha
  exact (Option.some.inj ha).symm

end

end JsonText

/-!
## Integers in JSON texts

A token stands for an integer when it consists of decimal digits, perhaps behind a minus, without a
needless zero in front.
-/

namespace JsonText

def printInt : ℤ → List Char
  | .ofNat n => Nat.toDigits 10 n
  | .negSucc n => '-' :: Nat.toDigits 10 (n + 1)

/-- `0|[1-9][0-9]*` -/
def readNat (token : List Char) : Option ℕ :=
  if token ≠ [] ∧ token.all Char.isDigit = true ∧ (token.head? = some '0' → token = ['0']) then
    some (Nat.ofDigitChars 10 token 0)
  else none

/-- `-?(0|[1-9][0-9]*)` -/
def readInt (token : List Char) : Option ℤ :=
  if token.head? = some '-' then (readNat token.tail).map fun n : ℕ => -(n : ℤ)
  else (readNat token).map fun n : ℕ => (n : ℤ)

/-- Only zero begins with a zero. -/
theorem head_toDigits {n : ℕ} (hn : 0 < n) : (Nat.toDigits 10 n).head? ≠ some '0' := by
  induction n using Nat.strongRecOn with
  | _ n ih =>
    by_cases h : n < 10
    · rw [Nat.toDigits_of_lt_base h]
      have hdigits : ∀ m < 10, 0 < m → [m.digitChar].head? ≠ some '0' := by decide
      exact hdigits n h hn
    · rw [Nat.toDigits_of_base_le (by decide) (by omega)]
      have hhead := ih (n / 10) (by omega) (by omega)
      cases hd : Nat.toDigits 10 (n / 10) with
      | nil => exact absurd hd Nat.toDigits_ne_nil
      | cons c digits =>
        rw [hd] at hhead
        exact hhead

theorem readNat_toDigits (n : ℕ) : readNat (Nat.toDigits 10 n) = some n := by
  have hzero : (Nat.toDigits 10 n).head? = some '0' → Nat.toDigits 10 n = ['0'] := by
    intro h
    rcases Nat.eq_zero_or_pos n with rfl | hn
    · exact Nat.toDigits_zero 10
    · exact absurd h (head_toDigits hn)
  unfold readNat
  have hdigits : (Nat.toDigits 10 n).all Char.isDigit = true :=
    List.all_eq_true.mpr fun c hc => Nat.isDigit_of_mem_toDigits (by decide) (by decide) hc
  rw [if_pos ⟨Nat.toDigits_ne_nil, hdigits, hzero⟩, Nat.ofDigitChars_ten_toDigits]

theorem head_toDigits_ne_minus (n : ℕ) : (Nat.toDigits 10 n).head? ≠ some '-' := by
  intro h
  have hdigit := Nat.isDigit_of_mem_toDigits (by decide) (by decide) (List.mem_of_mem_head? h)
  exact absurd hdigit (by decide)

/-- What is printed for an integer is read as this integer. -/
theorem readInt_printInt (n : ℤ) : readInt (printInt n) = some n := by
  unfold readInt
  cases n with
  | ofNat n =>
    rw [printInt, if_neg (head_toDigits_ne_minus n), readNat_toDigits]
    rfl
  | negSucc n =>
    rw [printInt, if_pos List.head?_cons, List.tail_cons, readNat_toDigits]
    rfl

/-- Integers are printed as `toString` does. -/
theorem toList_toString (n : ℤ) : (toString n).toList = printInt n := by
  cases n with
  | ofNat n => exact String.toList_ofList
  | negSucc n =>
    change ("-" ++ Nat.repr (n + 1)).toList = _
    rw [String.toList_append, Nat.repr, String.toList_ofList, String.toList_ofList]
    rfl

/-- Different integers have different texts. -/
theorem toString_inj {m n : ℤ} : toString m = toString n ↔ m = n := by
  refine ⟨fun h => ?_, congrArg toString⟩
  have hread : some m = some n := by
    rw [← readInt_printInt, ← readInt_printInt, ← toList_toString, ← toList_toString, h]
  exact Option.some.inj hread

theorem printInt_ne_nil (n : ℤ) : printInt n ≠ [] := by
  cases n with
  | ofNat n => exact Nat.toDigits_ne_nil
  | negSucc n => exact List.cons_ne_nil _ _

theorem mem_printInt {n : ℤ} {c : Char} (h : c ∈ printInt n) : c.isDigit = true ∨ c = '-' := by
  cases n with
  | ofNat n => exact .inl (Nat.isDigit_of_mem_toDigits (by decide) (by decide) h)
  | negSucc n =>
    rcases List.mem_cons.mp h with rfl | h
    · exact .inr rfl
    · exact .inl (Nat.isDigit_of_mem_toDigits (by decide) (by decide) h)

/-- An integer consists of digits and a minus. -/
theorem mem_of_readInt {token : List Char} {n : ℤ} (h : readInt token = some n) {c : Char}
    (hc : c ∈ token) : c.isDigit = true ∨ c = '-' := by
  have hnat : ∀ digits m, readNat digits = some m → ∀ d ∈ digits, d.isDigit = true := by
    intro digits m hread
    unfold readNat at hread
    split at hread
    · rename_i hdigits
      exact List.all_eq_true.mp hdigits.2.1
    · cases hread
  unfold readInt at h
  split at h
  · rename_i hminus
    obtain ⟨m, hm, -⟩ := Option.map_eq_some_iff.mp h
    cases token with
    | nil => cases hc
    | cons d digits =>
      rcases List.mem_cons.mp hc with rfl | hc
      · exact .inr (Option.some.inj hminus)
      · exact .inl (hnat digits m hm c hc)
  · obtain ⟨m, hm, -⟩ := Option.map_eq_some_iff.mp h
    exact .inl (hnat token m hm c hc)

end JsonText
