import GnnSandbox.Graph.Infrastructure
import GnnSandbox.Lib.Numeral

/-!
# The speed of a link

The bandwidth that an infrastructure gives a link becomes the bandwidth of its row and the speed of
the interfaces at it. The features of an interface and the topology that is shown read these texts
each in their own way.
-/

namespace GnnSandbox.Gnn.Fetch

open Numeral (PythonReader)

/-- `1e9` -/
def defaultSpeedBps : ℚ := 1000000000

/-- `_parse_speed_bps` -/
def parseSpeedBps (py : PythonReader) : Option String → ℚ
  | none => defaultSpeedBps
  | some speedStr =>
    if speedStr = "" then defaultSpeedBps
    else
      let s := py.upper (Numeral.trim Numeral.isSpacePython speedStr.toList)
      let speed : Option ℚ :=
        if "GBIT".toList <:+ s ∨ "GBPS".toList <:+ s then
          (py.float (s.rdrop 4)).map (· * 1000000000)
        else if "G".toList <:+ s then (py.float (s.rdrop 1)).map (· * 1000000000)
        else if "MBIT".toList <:+ s ∨ "MBPS".toList <:+ s then
          (py.float (s.rdrop 4)).map (· * 1000000)
        else if "M".toList <:+ s then (py.float (s.rdrop 1)).map (· * 1000000)
        else if "KBIT".toList <:+ s ∨ "KBPS".toList <:+ s then
          (py.float (s.rdrop 4)).map (· * 1000)
        else if "K".toList <:+ s then (py.float (s.rdrop 1)).map (· * 1000)
        else py.float s
      speed.getD defaultSpeedBps

end GnnSandbox.Gnn.Fetch

namespace GnnSandbox.Supervisor

open Numeral (PythonReader)

/-- `_parse_bandwidth_bps` -/
def parseBandwidthBps (py : PythonReader) : Option String → Option ℤ
  | none => none
  | some bwStr =>
    if bwStr = "" ∨ py.lower bwStr.toList = "unlimited".toList then none
    else
      let s := Numeral.trim Numeral.isSpacePython (py.lower bwStr.toList)
      if "gbit".toList <:+ s then (py.int (s.rdrop 4)).map (· * 1000000000)
      else if "mbit".toList <:+ s then (py.int (s.rdrop 4)).map (· * 1000000)
      else if "kbit".toList <:+ s then (py.int (s.rdrop 4)).map (· * 1000)
      else if "bit".toList <:+ s then py.int (s.rdrop 3)
      else none

end GnnSandbox.Supervisor

namespace GnnSandbox.Gnn

open Numeral (PythonReader)

/-! ## Bandwidths of the resource definition -/

inductive BitPrefix where
  | k
  | m
  | g
deriving DecidableEq

def BitPrefix.letter : BitPrefix → Char
  | k => 'k'
  | m => 'm'
  | g => 'g'

def BitPrefix.factor : BitPrefix → ℕ
  | k => 1000
  | m => 1000000
  | g => 1000000000

/-- A bandwidth of the pattern `[0-9]+[kmg]?bit`. -/
structure Bandwidth where
  digits : List Char
  bitPrefix : Option BitPrefix
  isDigits : Numeral.IsDigits digits

namespace Bandwidth

variable (b : Bandwidth)

/-- What stands behind the digits. -/
def tail : List Char := (b.bitPrefix.map BitPrefix.letter).toList ++ "bit".toList

def text : String := String.ofList (b.digits ++ b.tail)

/-- The number of bits per second that the text denotes. -/
def bps : ℕ := Numeral.value b.digits * (b.bitPrefix.map BitPrefix.factor).getD 1

/-! ## What the readers see -/

theorem toList_text : b.text.toList = b.digits ++ b.tail := String.toList_ofList

theorem text_ne_empty : b.text ≠ "" := by
  intro h
  have hnil : b.digits ++ b.tail = [] := b.toList_text.symm.trans (congrArg String.toList h)
  exact b.isDigits.1 (List.append_eq_nil_iff.mp hnil).1

theorem isGraphic : ∀ c ∈ b.digits ++ b.tail, Numeral.IsGraphic c := by
  intro c hc
  rcases List.mem_append.mp hc with hc | hc
  · exact (b.isDigits.isNumeral c hc).isGraphic
  · unfold tail at hc
    cases hp : b.bitPrefix with
    | none =>
      rw [hp] at hc
      exact Numeral.forall_of_all (fun d => 0x20 < d.toNat ∧ d.toNat < 0x80) (by decide) hc
    | some p =>
      rw [hp] at hc
      have hall : ((p.letter :: "bit".toList).all fun d =>
          decide (0x20 < d.toNat ∧ d.toNat < 0x80)) = true := by
        cases p <;> decide
      exact Numeral.forall_of_all (fun d => 0x20 < d.toNat ∧ d.toNat < 0x80) hall hc

theorem trim_chars : Numeral.trim Numeral.isSpacePython (b.digits ++ b.tail) = b.digits ++ b.tail :=
  Numeral.trim_eq_self fun c hc => (b.isGraphic c hc).isSpacePython_eq

theorem map_toLower_tail : b.tail.map Char.toLower = b.tail := by
  unfold tail
  cases b.bitPrefix with
  | none => rfl
  | some p => cases p <;> rfl

variable {b} {py : PythonReader}

theorem map_digits {f : Char → Char} (h : ∀ c, c.toNat < 65 → f c = c) :
    b.digits.map f = b.digits := by
  have hsame : ∀ c ∈ b.digits, f c = id c := fun c hc => h c (b.isDigits.isNumeral c hc).toNat_lt
  rw [List.map_congr_left hsame, List.map_id]

/-- What the features of an interface are read from. -/
theorem upper_text : py.upper (Numeral.trim Numeral.isSpacePython b.text.toList) =
    b.digits ++ b.tail.map Char.toUpper := by
  rw [toList_text, trim_chars, py.upper_eq fun c hc => .inl (b.isGraphic c hc).2, List.map_append,
    map_digits fun c hc => Numeral.toUpper_eq_self (hc.trans (by decide))]

/-- What the topology that is shown is read from. -/
theorem lower_text : py.lower b.text.toList = b.digits ++ b.tail := by
  rw [toList_text, py.lower_eq fun c hc => .inl (b.isGraphic c hc).2, List.map_append,
    map_digits fun c hc => Numeral.toLower_eq_self (.inl hc), map_toLower_tail]

/-- A letter that is not behind the digits. -/
theorem notMem_append {c : Char} {t : List Char} (hc : 65 ≤ c.toNat) (ht : c ∉ t) :
    c ∉ b.digits ++ t := by
  intro hmem
  rcases List.mem_append.mp hmem with hmem | hmem
  · exact absurd (b.isDigits.isNumeral c hmem).toNat_lt hc.not_gt
  · exact ht hmem

theorem not_suffix {c : Char} {p t : List Char} (hc : 65 ≤ c.toNat) (hp : c ∈ p) (ht : c ∉ t) :
    ¬p <:+ b.digits ++ t :=
  Numeral.not_suffix_of_notMem hp (notMem_append hc ht)

theorem float_rdrop (t : List Char) {n : ℕ} (hn : t.length = n) :
    py.float ((b.digits ++ t).rdrop n) = some (Numeral.value b.digits : ℚ) := by
  rw [← hn, Numeral.rdrop_append,
    py.float_of_readDecimal (Numeral.readDecimal_of_isDigits b.isDigits)]

theorem int_rdrop (t : List Char) {n : ℕ} (hn : t.length = n) :
    py.int ((b.digits ++ t).rdrop n) = some (Numeral.value b.digits : ℤ) := by
  rw [← hn, Numeral.rdrop_append, py.int_of_readInt (Numeral.readInt_of_isDigits b.isDigits)]

open Fetch in
/-- The features miss the unit `bit`. -/
theorem parseSpeedBps_text : parseSpeedBps py (some b.text) =
    if b.bitPrefix = none then defaultSpeedBps else (b.bps : ℚ) := by
  unfold parseSpeedBps
  dsimp only
  rw [if_neg b.text_ne_empty, upper_text]
  unfold bps tail
  cases b.bitPrefix with
  | none =>
    have htail : (((none : Option BitPrefix).map BitPrefix.letter).toList ++ "bit".toList).map
        Char.toUpper = "BIT".toList := rfl
    have hG : ∀ p, 'G' ∈ p → ¬p <:+ b.digits ++ "BIT".toList := fun p hp =>
      not_suffix (by decide) hp (by decide)
    have hM : ∀ p, 'M' ∈ p → ¬p <:+ b.digits ++ "BIT".toList := fun p hp =>
      not_suffix (by decide) hp (by decide)
    have hK : ∀ p, 'K' ∈ p → ¬p <:+ b.digits ++ "BIT".toList := fun p hp =>
      not_suffix (by decide) hp (by decide)
    have hB : 'B' ∈ b.digits ++ "BIT".toList := List.mem_append_right _ (by decide)
    rw [htail, if_neg (not_or.mpr ⟨hG _ (by decide), hG _ (by decide)⟩), if_neg (hG _ (by decide)),
      if_neg (not_or.mpr ⟨hM _ (by decide), hM _ (by decide)⟩), if_neg (hM _ (by decide)),
      if_neg (not_or.mpr ⟨hK _ (by decide), hK _ (by decide)⟩), if_neg (hK _ (by decide)),
      py.float_eq_none hB (by decide) (by decide), if_pos rfl]
    rfl
  | some p =>
    rw [if_neg (Option.some_ne_none p)]
    cases p with
    | g =>
      have htail : (((some BitPrefix.g).map BitPrefix.letter).toList ++ "bit".toList).map
          Char.toUpper = "GBIT".toList := rfl
      rw [htail, if_pos (.inl (List.suffix_append _ _)), float_rdrop "GBIT".toList (n := 4) rfl]
      simp [BitPrefix.factor]
    | m =>
      have htail : (((some BitPrefix.m).map BitPrefix.letter).toList ++ "bit".toList).map
          Char.toUpper = "MBIT".toList := rfl
      have hG : ∀ p, 'G' ∈ p → ¬p <:+ b.digits ++ "MBIT".toList := fun p hp =>
        not_suffix (by decide) hp (by decide)
      rw [htail, if_neg (not_or.mpr ⟨hG _ (by decide), hG _ (by decide)⟩),
        if_neg (hG _ (by decide)), if_pos (.inl (List.suffix_append _ _)), float_rdrop "MBIT".toList (n := 4) rfl]
      simp [BitPrefix.factor]
    | k =>
      have htail : (((some BitPrefix.k).map BitPrefix.letter).toList ++ "bit".toList).map
          Char.toUpper = "KBIT".toList := rfl
      have hG : ∀ p, 'G' ∈ p → ¬p <:+ b.digits ++ "KBIT".toList := fun p hp =>
        not_suffix (by decide) hp (by decide)
      have hM : ∀ p, 'M' ∈ p → ¬p <:+ b.digits ++ "KBIT".toList := fun p hp =>
        not_suffix (by decide) hp (by decide)
      rw [htail, if_neg (not_or.mpr ⟨hG _ (by decide), hG _ (by decide)⟩),
        if_neg (hG _ (by decide)), if_neg (not_or.mpr ⟨hM _ (by decide), hM _ (by decide)⟩),
        if_neg (hM _ (by decide)), if_pos (.inl (List.suffix_append _ _)), float_rdrop "KBIT".toList (n := 4) rfl]
      simp [BitPrefix.factor]

/-- The topology that is shown knows all units. -/
theorem parseBandwidthBps_text :
    Supervisor.parseBandwidthBps py (some b.text) = some (b.bps : ℤ) := by
  have hdigit : ∀ {t : List Char}, b.digits ++ t ≠ "unlimited".toList := by
    intro t h
    cases hd : b.digits with
    | nil => exact b.isDigits.1 hd
    | cons d ds =>
      rw [hd] at h
      have hdigit := b.isDigits.2 d (hd ▸ List.mem_cons_self ..)
      rw [(List.cons.inj h).1] at hdigit
      exact absurd hdigit (by decide)
  unfold Supervisor.parseBandwidthBps
  dsimp only
  rw [lower_text, if_neg (not_or.mpr ⟨b.text_ne_empty, hdigit⟩), trim_chars]
  unfold bps tail
  cases b.bitPrefix with
  | none =>
    have htail : ((none : Option BitPrefix).map BitPrefix.letter).toList ++ "bit".toList =
        "bit".toList := rfl
    rw [htail, if_neg (not_suffix (c := 'g') (by decide) (by decide) (by decide)),
      if_neg (not_suffix (c := 'm') (by decide) (by decide) (by decide)),
      if_neg (not_suffix (c := 'k') (by decide) (by decide) (by decide)),
      if_pos (List.suffix_append _ _), int_rdrop "bit".toList (n := 3) rfl]
    simp
  | some p =>
    cases p with
    | g =>
      have htail : ((some BitPrefix.g).map BitPrefix.letter).toList ++ "bit".toList =
          "gbit".toList := rfl
      rw [htail, if_pos (List.suffix_append _ _), int_rdrop "gbit".toList (n := 4) rfl]
      simp [BitPrefix.factor]
    | m =>
      have htail : ((some BitPrefix.m).map BitPrefix.letter).toList ++ "bit".toList =
          "mbit".toList := rfl
      rw [htail, if_neg (not_suffix (c := 'g') (by decide) (by decide) (by decide)),
        if_pos (List.suffix_append _ _), int_rdrop "mbit".toList (n := 4) rfl]
      simp [BitPrefix.factor]
    | k =>
      have htail : ((some BitPrefix.k).map BitPrefix.letter).toList ++ "bit".toList =
          "kbit".toList := rfl
      rw [htail, if_neg (not_suffix (c := 'g') (by decide) (by decide) (by decide)),
        if_neg (not_suffix (c := 'm') (by decide) (by decide) (by decide)),
        if_pos (List.suffix_append _ _), int_rdrop "kbit".toList (n := 4) rfl]
      simp [BitPrefix.factor]

end Bandwidth

/-! ## The speed of a link -/

theorem cast_bps_eq_default (b : Bandwidth) :
    (b.bps : ℚ) = Fetch.defaultSpeedBps ↔ b.bps = 1000000000 := by
  have hdefault : Fetch.defaultSpeedBps = ((1000000000 : ℕ) : ℚ) := by
    rw [Nat.cast_ofNat]
    rfl
  rw [hdefault, Nat.cast_inj]

/-- A link of 500 bits per second counts as one of a gigabit. -/
def slow : Bandwidth := ⟨['5', '0', '0'], none, by decide⟩

end GnnSandbox.Gnn
