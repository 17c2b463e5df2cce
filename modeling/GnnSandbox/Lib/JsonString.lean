import Mathlib.Data.List.Basic
import Mathlib.Tactic.Common

/-!
# Strings in JSON texts

Strings are written in ASCII: a character that is not printable is escaped, one outside the basic
plane by a surrogate pair. A reader that meets a lone surrogate fails, because a `String` holds no
surrogates.

The main result is `readString_quote`: a written string is read back.
-/

namespace JsonText

/-! ## Writing -/

/-- `\uXXXX` for one UTF-16 code unit. -/
def escapeUnit (n : ℕ) : List Char :=
  let digit (d : ℕ) : Char := (Nat.toDigits 16 d).getLastD '0'
  ['\\', 'u', digit (n / 4096), digit (n / 256 % 16), digit (n / 16 % 16), digit (n % 16)]

/-- A character inside a string, with `ensure_ascii`. -/
def escapeChar (c : Char) : List Char :=
  if c = '"' then ['\\', '"']
  else if c = '\\' then ['\\', '\\']
  else if c = '\n' then ['\\', 'n']
  else if c = '\r' then ['\\', 'r']
  else if c = '\t' then ['\\', 't']
  else if c.toNat = 8 then ['\\', 'b']
  else if c.toNat = 12 then ['\\', 'f']
  else if 32 ≤ c.toNat ∧ c.toNat < 127 then [c]
  else if c.toNat < 65536 then escapeUnit c.toNat
  else -- a surrogate pair
    escapeUnit (55296 + (c.toNat - 65536) / 1024) ++ escapeUnit (56320 + (c.toNat - 65536) % 1024)

def quote (s : String) : List Char := '"' :: s.toList.flatMap escapeChar ++ ['"']

/-! ## Reading -/

def hexValue (c : Char) : Option ℕ :=
  if '0' ≤ c ∧ c ≤ '9' then some (c.toNat - 48)
  else if 'a' ≤ c ∧ c ≤ 'f' then some (c.toNat - 87)
  else if 'A' ≤ c ∧ c ≤ 'F' then some (c.toNat - 55)
  else none

/-- Four hexadecimal digits. -/
def readUnit : List Char → Option (ℕ × List Char)
  | a :: b :: c :: d :: rest => do
    let a ← hexValue a
    let b ← hexValue b
    let c ← hexValue c
    let d ← hexValue d
    return (((a * 16 + b) * 16 + c) * 16 + d, rest)
  | _ => none

/-- The second half of a surrogate pair. -/
def readLow (high : ℕ) : List Char → Option (Char × List Char)
  | '\\' :: 'u' :: rest => (readUnit rest).bind fun (low, rest) =>
    if 56320 ≤ low ∧ low < 57344 then
      some (Char.ofNat (65536 + (high - 55296) * 1024 + (low - 56320)), rest)
    else none
  | _ => none

/-- What follows `\u`. -/
def readCodePoint (text : List Char) : Option (Char × List Char) :=
  (readUnit text).bind fun (unit, rest) =>
    if 55296 ≤ unit ∧ unit < 56320 then readLow unit rest
    else if 56320 ≤ unit ∧ unit < 57344 then none
    else some (Char.ofNat unit, rest)

/-- The escapes of one character. -/
def simpleEscapes : List (Char × Char) :=
  [('"', '"'), ('\\', '\\'), ('/', '/'), ('b', '\x08'), ('f', '\x0c'), ('n', '\n'), ('r', '\r'),
    ('t', '\t')]

/-- What follows a backslash. -/
def readEscape : List Char → Option (Char × List Char)
  | [] => none
  | c :: rest =>
    if c = 'u' then readCodePoint rest else (simpleEscapes.lookup c).map fun c => (c, rest)

/-- One character of a string, which is no quotation mark. -/
def readChar : List Char → Option (Char × List Char)
  | [] => none
  | c :: rest =>
    if c = '\\' then readEscape rest else if 32 ≤ c.toNat then some (c, rest) else none

/-- The rest of a string after its opening quotation mark. -/
def readChars : ℕ → List Char → Option (List Char × List Char)
  | 0, _ => none
  | fuel + 1, text =>
    match text with
    | '"' :: rest => some ([], rest)
    | text => (readChar text).bind fun (c, rest) =>
      (readChars fuel rest).map fun (cs, rest) => (c :: cs, rest)

def readString (fuel : ℕ) (text : List Char) : Option (String × List Char) :=
  (readChars fuel text).map fun (cs, rest) => (String.ofList cs, rest)

/-! ## Round trip -/

theorem hexValue_digit : ∀ d < 16, hexValue ((Nat.toDigits 16 d).getLastD '0') = some d := by
  decide

theorem readUnit_of_digits {a b c d : Char} {x y z w : ℕ} (ha : hexValue a = some x)
    (hb : hexValue b = some y) (hc : hexValue c = some z) (hd : hexValue d = some w)
    (rest : List Char) :
    readUnit (a :: b :: c :: d :: rest) = some (((x * 16 + y) * 16 + z) * 16 + w, rest) := by
  unfold readUnit
  dsimp only
  rw [ha, hb, hc, hd]
  rfl

/-- An escaped code unit is read back. -/
theorem escapeUnit_eq {n : ℕ} (h : n < 65536) (rest : List Char) :
    ∃ text, escapeUnit n ++ rest = '\\' :: 'u' :: text ∧ readUnit text = some (n, rest) := by
  refine ⟨_, rfl, ?_⟩
  have hdigits : ((n / 4096 * 16 + n / 256 % 16) * 16 + n / 16 % 16) * 16 + n % 16 = n := by omega
  have hread := readUnit_of_digits (hexValue_digit (n / 4096) (by omega))
    (hexValue_digit (n / 256 % 16) (by omega)) (hexValue_digit (n / 16 % 16) (by omega))
    (hexValue_digit (n % 16) (by omega)) rest
  rw [hdigits] at hread
  exact hread

theorem readChar_escapeUnit {n : ℕ} (h : n < 65536) (hno : ¬(55296 ≤ n ∧ n < 57344))
    (rest : List Char) : readChar (escapeUnit n ++ rest) = some (Char.ofNat n, rest) := by
  obtain ⟨text, htext, hread⟩ := escapeUnit_eq h rest
  rw [htext]
  show readCodePoint text = _
  unfold readCodePoint
  rw [hread]
  show (if 55296 ≤ n ∧ n < 56320 then _ else if 56320 ≤ n ∧ n < 57344 then _ else _) = _
  rw [if_neg (by omega), if_neg (by omega)]

theorem readLow_eq {high low : ℕ} {text rest : List Char} (h : readUnit text = some (low, rest))
    (hlow : 56320 ≤ low ∧ low < 57344) : readLow high ('\\' :: 'u' :: text) =
      some (Char.ofNat (65536 + (high - 55296) * 1024 + (low - 56320)), rest) := by
  show (readUnit text).bind _ = _
  rw [h, Option.bind_some]
  dsimp only
  rw [if_pos hlow]

theorem readChar_surrogates {n : ℕ} (h : 65536 ≤ n) (h' : n < 1114112) (rest : List Char) :
    readChar (escapeUnit (55296 + (n - 65536) / 1024) ++
      (escapeUnit (56320 + (n - 65536) % 1024) ++ rest)) = some (Char.ofNat n, rest) := by
  obtain ⟨high, hhigh, hreadHigh⟩ := escapeUnit_eq (n := 55296 + (n - 65536) / 1024) (by omega)
    (escapeUnit (56320 + (n - 65536) % 1024) ++ rest)
  obtain ⟨low, hlow, hreadLow⟩ := escapeUnit_eq (n := 56320 + (n - 65536) % 1024) (by omega) rest
  rw [hhigh]
  show readCodePoint high = _
  unfold readCodePoint
  rw [hreadHigh, hlow]
  rw [Option.bind_some]
  dsimp only
  rw [if_pos (by omega), readLow_eq hreadLow (by omega)]
  have hcode : 65536 + (55296 + (n - 65536) / 1024 - 55296) * 1024 +
      (56320 + (n - 65536) % 1024 - 56320) = n := by omega
  rw [hcode]

/-- A character is no surrogate. -/
theorem toNat_bounds (c : Char) : (c.toNat < 55296 ∨ 57343 < c.toNat) ∧ c.toNat < 1114112 := by
  have hvalid := c.valid
  have hval : c.toNat = c.val.toNat := rfl
  unfold UInt32.isValidChar Nat.isValidChar at hvalid
  omega

/-- An escaped character is read back. -/
theorem readChar_escapeChar (c : Char) (rest : List Char) :
    readChar (escapeChar c ++ rest) = some (c, rest) := by
  obtain ⟨hsurrogate, hmax⟩ := toNat_bounds c
  have hself : Char.ofNat c.toNat = c := Char.ofNat_toNat c
  unfold escapeChar
  split_ifs with h₁ h₂ h₃ h₄ h₅ h₆ h₇ h₈ h₉
  · subst h₁
    rfl
  · subst h₂
    rfl
  · subst h₃
    rfl
  · subst h₄
    rfl
  · subst h₅
    rfl
  · have hc : c = '\x08' := by rw [← hself, h₆]
    subst hc
    rfl
  · have hc : c = '\x0c' := by rw [← hself, h₇]
    subst hc
    rfl
  · show (if c = '\\' then _ else if 32 ≤ c.toNat then some (c, rest) else _) = _
    rw [if_neg h₂, if_pos h₈.1]
  · rw [readChar_escapeUnit h₉ (by omega), hself]
  · rw [List.append_assoc, readChar_surrogates (by omega) hmax, hself]

/-- An escaped character does not end a string. -/
theorem escapeChar_head (c : Char) (rest : List Char) :
    ∃ a text, escapeChar c ++ rest = a :: text ∧ a ≠ '"' := by
  unfold escapeChar
  split_ifs
  all_goals first | exact ⟨_, _, rfl, by decide⟩ | exact ⟨c, rest, rfl, by assumption⟩

/-- A written string is read back. -/
theorem readChars_quoted (cs rest : List Char) {fuel : ℕ} (hfuel : cs.length < fuel) :
    readChars fuel (cs.flatMap escapeChar ++ '"' :: rest) = some (cs, rest) := by
  induction cs generalizing fuel with
  | nil =>
    obtain ⟨fuel, rfl⟩ := Nat.exists_eq_add_one_of_ne_zero (Nat.ne_of_gt hfuel)
    rfl
  | cons c cs ih =>
    obtain ⟨fuel, rfl⟩ := Nat.exists_eq_add_one_of_ne_zero (Nat.ne_of_gt (Nat.zero_lt_of_lt hfuel))
    obtain ⟨a, text, htext, hquote⟩ := escapeChar_head c (cs.flatMap escapeChar ++ '"' :: rest)
    have hchar := readChar_escapeChar c (cs.flatMap escapeChar ++ '"' :: rest)
    rw [List.flatMap_cons, List.append_assoc, htext]
    rw [htext] at hchar
    unfold readChars
    split
    · rename_i hcons
      exact absurd (List.cons.inj hcons).1 hquote
    · rw [hchar]
      show (readChars fuel _).map _ = _
      rw [ih (by simpa using hfuel)]
      rfl

/-- **Strings.** What is written for a string is read as this string. -/
theorem readString_quote (s : String) (rest : List Char) (fuel : ℕ)
    (hfuel : s.toList.length < fuel) : ∃ text, quote s ++ rest = '"' :: text ∧
      readString fuel text = some (s, rest) := by
  refine ⟨s.toList.flatMap escapeChar ++ '"' :: rest, by simp [quote], ?_⟩
  unfold readString
  rw [readChars_quoted _ _ hfuel]
  simp

/-- The text of a string is longer than the string. -/
theorem length_quote (s : String) : s.toList.length < (quote s).length := by
  have hchar : ∀ cs : List Char, cs.length ≤ (cs.flatMap escapeChar).length := by
    intro cs
    induction cs with
    | nil => exact Nat.le_refl _
    | cons c cs ih =>
      obtain ⟨a, text, htext, -⟩ := escapeChar_head c []
      rw [List.append_nil] at htext
      rw [List.flatMap_cons, List.length_append, htext, List.length_cons, List.length_cons]
      omega
  have hle := hchar s.toList
  unfold quote
  rw [List.length_append, List.length_cons]
  omega

end JsonText
