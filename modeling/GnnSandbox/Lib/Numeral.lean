import Mathlib.Algebra.Order.Field.Rat
import Mathlib.Algebra.GroupWithZero.Nat
import Mathlib.Data.List.Basic
import Mathlib.Data.List.DropRight

/-!
# Numerals

Numerals of decimal digits, with a sign and with a point, the blanks around them, and readers of
numbers that agree on them. What a reader makes of exponents, underscores, infinities and the like
is left open.
-/

namespace Numeral

variable {s x : List Char}

/-! ## Blanks -/

/-- White space, as Unicode has it. -/
def isSpace (c : Char) : Bool :=
  c ∈ ['\t', '\n', '\x0b', '\x0c', '\r', ' ', '\u0085', '\u00a0', '\u1680', '\u2028', '\u2029',
    '\u202f', '\u205f', '\u3000'] || ('\u2000' ≤ c && c ≤ '\u200a')

/-- A text without what is trimmed off at its ends. -/
def trim (p : Char → Bool) (s : List Char) : List Char := (s.dropWhile p).rdropWhile p

theorem trim_eq_self {p : Char → Bool} (h : ∀ c ∈ s, p c = false) : trim p s = s := by
  have hleft : s.dropWhile p = s := by
    cases s with
    | nil => rfl
    | cons c s => exact List.dropWhile_cons_of_neg (by simp [h c (List.mem_cons_self ..)])
  unfold trim
  rw [hleft]
  refine List.rdropWhile_eq_self_iff.mpr fun hne => ?_
  simp [h _ (List.getLast_mem hne)]

theorem trim_congr {p q : Char → Bool} (h : ∀ c ∈ s, p c = q c) : trim p s = trim q s := by
  have hdrop : ∀ l : List Char, (∀ c ∈ l, p c = q c) → l.dropWhile p = l.dropWhile q := by
    intro l hl
    induction l with
    | nil => rfl
    | cons c l ih =>
      rw [List.dropWhile_cons, List.dropWhile_cons, hl c (List.mem_cons_self ..),
        ih fun d hd => hl d (List.mem_cons_of_mem c hd)]
  unfold trim List.rdropWhile
  rw [hdrop s h, hdrop _ fun c hc => ?_]
  exact h c ((List.dropWhile_sublist q).subset (List.mem_reverse.mp hc))

/-- Trimming and changing the case of a text. -/
theorem trim_map {p : Char → Bool} {f : Char → Char} (h : ∀ c ∈ s, p (f c) = p c) :
    trim p (s.map f) = (trim p s).map f := by
  have hdrop : ∀ l : List Char, (∀ c ∈ l, p (f c) = p c) →
      (l.map f).dropWhile p = (l.dropWhile p).map f := by
    intro l hl
    induction l with
    | nil => rfl
    | cons c l ih =>
      rw [List.map_cons, List.dropWhile_cons, List.dropWhile_cons, hl c (List.mem_cons_self ..),
        ih fun d hd => hl d (List.mem_cons_of_mem c hd)]
      split <;> simp
  unfold trim List.rdropWhile
  rw [hdrop s h, ← List.map_reverse, hdrop _ fun c hc => ?_, List.map_reverse]
  exact h c ((List.dropWhile_sublist p).subset (List.mem_reverse.mp hc))

theorem mem_of_mem_trim {p : Char → Bool} {c : Char} (h : c ∈ trim p s) : c ∈ s :=
  (List.dropWhile_sublist p).subset ((List.rdropWhile_prefix p _).sublist.subset h)

/-- What a test finds to hold of some characters. -/
theorem forall_of_all (P : Char → Prop) [DecidablePred P] {l : List Char} {c : Char}
    (h : (l.all fun d => decide (P d)) = true) (hc : c ∈ l) : P c :=
  of_decide_eq_true (List.all_eq_true.mp h c hc)

theorem toNat_of_isSpace {c : Char} (h : isSpace c = true) : c.toNat ≤ 0x20 ∨ 0x85 ≤ c.toNat := by
  rcases (Bool.or_eq_true _ _).mp h with hlist | hrange
  · exact forall_of_all (fun d => d.toNat ≤ 0x20 ∨ 0x85 ≤ d.toNat) (by decide)
      (of_decide_eq_true hlist)
  · have hle : '\u2000'.toNat ≤ c.toNat :=
      UInt32.le_iff_toNat_le.mp (of_decide_eq_true ((Bool.and_eq_true _ _).mp hrange).1)
    exact .inr (le_trans (by decide) hle)

/-- What `str.isspace` says of a character. -/
def isSpacePython (c : Char) : Bool := isSpace c || ('\x1c' ≤ c && c ≤ '\x1f')

theorem isSpacePython_of_isSpace {c : Char} (h : isSpace c = true) : isSpacePython c = true := by
  unfold isSpacePython
  rw [h, Bool.true_or]

/-- The printable characters of ASCII. -/
def IsGraphic (c : Char) : Prop := 0x20 < c.toNat ∧ c.toNat < 0x80

theorem IsGraphic.isSpacePython_eq {c : Char} (h : IsGraphic c) : isSpacePython c = false := by
  obtain ⟨hlow, hhigh⟩ := h
  refine Bool.eq_false_iff.mpr fun hspace => ?_
  rcases (Bool.or_eq_true _ _).mp hspace with hspace | hrange
  · have hcode := toNat_of_isSpace hspace
    omega
  · have hle : c.toNat ≤ '\x1f'.toNat :=
      UInt32.le_iff_toNat_le.mp (of_decide_eq_true ((Bool.and_eq_true _ _).mp hrange).2)
    exact absurd (hlow.trans_le hle) (by decide)

/-- What is no lower-case letter is its own upper case. -/
theorem toUpper_eq_self {c : Char} (h : c.toNat < 97) : c.toUpper = c := by
  refine dif_neg fun hlower => ?_
  have hle : 'a'.toNat ≤ c.toNat := UInt32.le_iff_toNat_le.mp hlower.1
  have ha : 'a'.toNat = 97 := rfl
  omega

/-- What has no case is its own lower case. -/
theorem toLower_eq_self {c : Char} (h : c.toNat < 65 ∨ 90 < c.toNat) : c.toLower = c := by
  refine dif_neg fun hupper => ?_
  have hlower : 'A'.toNat ≤ c.toNat := UInt32.le_iff_toNat_le.mp hupper.1
  have hle : c.toNat ≤ 'Z'.toNat := UInt32.le_iff_toNat_le.mp hupper.2
  have hA : 'A'.toNat = 65 := rfl
  have hZ : 'Z'.toNat = 90 := rfl
  omega

theorem trim_eq_nil {p : Char → Bool} : trim p s = [] ↔ ∀ c ∈ s, p c = true := by
  unfold trim
  rw [List.rdropWhile_eq_nil_iff]
  constructor
  · intro h
    have hnil : s.dropWhile p = [] := by
      by_contra hne
      have hhead := List.head_dropWhile_not p hne
      rw [h _ (List.head_mem hne)] at hhead
      cases hhead
    exact List.dropWhile_eq_nil_iff.mp hnil
  · intro h c hc
    exact h c ((List.dropWhile_sublist p).subset hc)

/-! ## Suffixes -/

theorem rdrop_append (s x : List Char) : (s ++ x).rdrop x.length = s := by
  unfold List.rdrop
  rw [List.length_append, Nat.add_sub_cancel, List.take_left]

/-- Of the texts of one length only one is a suffix. -/
theorem not_suffix_append {y : List Char} (hlength : y.length = x.length) (hne : y ≠ x) :
    ¬y <:+ s ++ x := by
  intro h
  have hsuffix := List.suffix_of_suffix_length_le h (List.suffix_append s x) hlength.le
  exact hne (hsuffix.eq_of_length hlength)

theorem not_suffix_of_notMem {c : Char} (hx : c ∈ x) (hs : c ∉ s) : ¬x <:+ s :=
  fun h => hs (h.subset hx)

/-! ## Numerals -/

/-- `[0-9]+` -/
def IsDigits (s : List Char) : Prop := s ≠ [] ∧ ∀ c ∈ s, c.isDigit = true

instance (s : List Char) : Decidable (IsDigits s) :=
  have : Decidable (∀ c ∈ s, c.isDigit = true) := List.decidableBAll (fun c => c.isDigit = true) s
  inferInstanceAs (Decidable (s ≠ [] ∧ ∀ c ∈ s, c.isDigit = true))

/-- The number that some digits denote. -/
def value (s : List Char) : ℕ := Nat.ofDigitChars 10 s 0

/-- A sign in front of a numeral. -/
def signed {α : Type} [Neg α] (read : List Char → Option α) : List Char → Option α
  | '+' :: s => read s
  | '-' :: s => (read s).map Neg.neg
  | s => read s

/-- `[+-]?[0-9]+` -/
def readInt : List Char → Option ℤ :=
  signed fun s => if IsDigits s then some (value s : ℤ) else none

/-- `[0-9]+(\.[0-9]*)?|\.[0-9]+` -/
def readUnsigned (s : List Char) : Option ℚ :=
  let whole := s.takeWhile (· ≠ '.')
  let fraction := (s.dropWhile (· ≠ '.')).drop 1
  if IsDigits (whole ++ fraction) then
    some ((value (whole ++ fraction) : ℚ) / (10 : ℚ) ^ fraction.length)
  else none

/-- `[+-]?([0-9]+(\.[0-9]*)?|\.[0-9]+)` -/
def readDecimal : List Char → Option ℚ := signed readUnsigned

/-- The characters of the numerals. -/
def IsNumeral (c : Char) : Prop := c.isDigit = true ∨ c = '.' ∨ c = '+' ∨ c = '-'

instance (c : Char) : Decidable (IsNumeral c) :=
  inferInstanceAs (Decidable (c.isDigit = true ∨ c = '.' ∨ c = '+' ∨ c = '-'))

theorem IsDigits.isNumeral (h : IsDigits s) : ∀ c ∈ s, IsNumeral c := fun c hc => .inl (h.2 c hc)

section Signed

variable {α : Type} [Neg α] {read : List Char → Option α}

theorem signed_of_isDigits (h : IsDigits s) : signed read s = read s := by
  obtain ⟨-, hdigits⟩ := h
  unfold signed
  split
  · exact absurd (hdigits '+' (List.mem_cons_self ..)) (by decide)
  · exact absurd (hdigits '-' (List.mem_cons_self ..)) (by decide)
  · rfl

/-- A signed numeral consists of what the numeral behind the sign does, and of a sign. -/
theorem isNumeral_of_signed (hread : ∀ {s y}, read s = some y → ∀ c ∈ s, IsNumeral c) {y : α}
    (h : signed read s = some y) : ∀ c ∈ s, IsNumeral c := by
  unfold signed at h
  split at h
  · intro c hc
    rcases List.mem_cons.mp hc with rfl | hc
    · exact .inr (.inr (.inl rfl))
    · exact hread h c hc
  · obtain ⟨z, hz, -⟩ := Option.map_eq_some_iff.mp h
    intro c hc
    rcases List.mem_cons.mp hc with rfl | hc
    · exact .inr (.inr (.inr rfl))
    · exact hread hz c hc
  · exact hread h

end Signed

theorem readInt_of_isDigits (h : IsDigits s) : readInt s = some (value s : ℤ) := by
  unfold readInt
  rw [signed_of_isDigits h, if_pos h]

theorem isNumeral_of_readInt {n : ℤ} (h : readInt s = some n) : ∀ c ∈ s, IsNumeral c := by
  refine isNumeral_of_signed (fun hread => ?_) h
  split at hread
  · rename_i hdigits
    exact hdigits.isNumeral
  · cases hread

/-- Digits are a numeral without a point. -/
theorem readDecimal_of_isDigits (h : IsDigits s) : readDecimal s = some (value s : ℚ) := by
  have hpoint : ∀ c ∈ s, decide (c ≠ '.') = true := by
    intro c hc
    refine decide_eq_true fun hdot => ?_
    rw [hdot] at hc
    exact absurd (h.2 '.' hc) (by decide)
  have hwhole : s.takeWhile (· ≠ '.') = s := List.takeWhile_eq_self_iff.mpr hpoint
  have hfraction : s.dropWhile (· ≠ '.') = [] := List.dropWhile_eq_nil_iff.mpr hpoint
  unfold readDecimal readUnsigned
  rw [signed_of_isDigits h]
  dsimp only
  rw [hwhole, hfraction, List.drop_nil, List.append_nil, if_pos h, List.length_nil, pow_zero,
    div_one]

theorem mem_dropWhile_ne {c d : Char} (h : c ∈ s.dropWhile (· ≠ d)) :
    c = d ∨ c ∈ (s.dropWhile (· ≠ d)).drop 1 := by
  induction s with
  | nil => cases h
  | cons e s ih =>
    rw [List.dropWhile_cons] at h ⊢
    by_cases hd : e = d
    · rw [if_neg (by simp [hd])] at h ⊢
      rcases List.mem_cons.mp h with rfl | h
      · exact .inl hd
      · exact .inr h
    · rw [if_pos (by simp [hd])] at h ⊢
      exact ih h

theorem isNumeral_of_readDecimal {y : ℚ} (h : readDecimal s = some y) :
    ∀ c ∈ s, IsNumeral c := by
  refine isNumeral_of_signed (fun {s y} hread c hc => ?_) h
  unfold readUnsigned at hread
  dsimp only at hread
  split at hread
  · rename_i hdigits
    rw [← List.takeWhile_append_dropWhile (p := (· ≠ '.')) (l := s)] at hc
    rcases List.mem_append.mp hc with hc | hc
    · exact hdigits.isNumeral c (List.mem_append_left _ hc)
    · rcases mem_dropWhile_ne hc with rfl | hc
      · exact .inr (.inl rfl)
      · exact hdigits.isNumeral c (List.mem_append_right _ hc)
  · cases hread

/-! ## Readers -/

/-- What `strconv.ParseFloat` reads, with exact numbers. A text without an exponent, an underscore,
a hexadecimal prefix and the `n` of infinities and NaN is read when it is a plain numeral. -/
structure GoReader where
  parseFloat : List Char → Option ℚ
  parseFloat_eq : ∀ {s}, (∀ c ∈ s, c ∉ "_eExXnN".toList) → parseFloat s = readDecimal s

/-- What Python makes of texts, with exact numbers. The letters of a number are those of an
exponent, of infinities and of NaN. -/
structure PythonReader where
  lower : List Char → List Char
  upper : List Char → List Char
  int : List Char → Option ℤ
  float : List Char → Option ℚ
  lower_eq : ∀ {s}, (∀ c ∈ s, c.toNat < 0x80 ∨ isSpace c = true) → lower s = s.map Char.toLower
  upper_eq : ∀ {s}, (∀ c ∈ s, c.toNat < 0x80 ∨ isSpace c = true) → upper s = s.map Char.toUpper
  int_nil : int [] = none
  int_of_readInt : ∀ {s n}, readInt s = some n → int s = some n
  float_of_readDecimal : ∀ {s y}, readDecimal s = some y → float s = some y
  float_eq_none : ∀ {s c}, c ∈ s → c.isAlpha = true → c ∉ "eEiInNfFtTyYaA".toList →
    float s = none

/-- The reader of plain numerals. -/
def GoReader.plain : GoReader := ⟨readDecimal, fun _ => rfl⟩

theorem le_toNat_of_isAlpha {c : Char} (h : c.isAlpha = true) : 'A'.toNat ≤ c.toNat := by
  rcases (Bool.or_eq_true _ _).mp h with hupper | hlower
  · exact UInt32.le_iff_toNat_le.mp (of_decide_eq_true hupper).1
  · have hle : 'a'.toNat ≤ c.toNat := 
      UInt32.le_iff_toNat_le.mp (of_decide_eq_true ((Bool.and_eq_true _ _).mp hlower).1)
    exact Nat.le_trans (by decide) hle

theorem IsNumeral.toNat_lt {c : Char} (h : IsNumeral c) : c.toNat < 65 := by
  rcases h with h | rfl | rfl | rfl
  · exact lt_of_le_of_lt (Char.isDigit_iff_toNat.mp h).2 (by decide)
  · decide
  · decide
  · decide

theorem IsNumeral.isGraphic {c : Char} (h : IsNumeral c) : IsGraphic c := by
  refine ⟨?_, h.toNat_lt.trans (by decide)⟩
  rcases h with h | rfl | rfl | rfl
  · exact lt_of_lt_of_le (by decide) (Char.isDigit_iff_toNat.mp h).1
  · decide
  · decide
  · decide

theorem IsNumeral.isAlpha_eq {c : Char} (h : IsNumeral c) : c.isAlpha = false :=
  Bool.eq_false_iff.mpr fun halpha => (le_toNat_of_isAlpha halpha).not_gt h.toNat_lt

/-- The reader of plain numerals. -/
def PythonReader.plain : PythonReader where
  lower s := s.map Char.toLower
  upper s := s.map Char.toUpper
  int := readInt
  float := readDecimal
  lower_eq _ := rfl
  upper_eq _ := rfl
  int_nil := rfl
  int_of_readInt := id
  float_of_readDecimal := id
  float_eq_none := by
    intro s c hc halpha _
    by_contra hne
    obtain ⟨y, hy⟩ := Option.ne_none_iff_exists'.mp hne
    rw [(isNumeral_of_readDecimal hy c hc).isAlpha_eq] at halpha
    cases halpha

end Numeral
