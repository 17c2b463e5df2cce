import GnnSandbox.Agent.Schedule
import GnnSandbox.Lib.Numeral

/-!
# The two readings of a rate

A rate of a traffic test reaches an agent through the spec, which the operator reads, or through
the configuration of a pattern, which the agent reads itself.
-/

namespace GnnSandbox.Agent

/-- An error of `bandwidth.Parse` carries the trimmed text. -/
inductive BandwidthError where
  | invalid (s : String)
  | noUnitSuffix (s : String)
deriving DecidableEq

def kbps : ℤ := 1000

def mbps : ℤ := 1000000

def gbps : ℤ := 1000000000

/-- What fits in an `int64`. -/
def FitsInt64 (n : ℤ) : Prop := -9223372036854775808 ≤ n ∧ n ≤ 9223372036854775807

instance (n : ℤ) : Decidable (FitsInt64 n) :=
  inferInstanceAs (Decidable (-9223372036854775808 ≤ n ∧ n ≤ 9223372036854775807))

/-- The parts of Go that `bandwidth.Parse` rests on. The conversion of a number that does not fit in
64 bits is left to the implementation. -/
structure Numbers extends Numeral.GoReader where
  int64 : ℚ → ℤ
  int64_eq : ∀ {x}, FitsInt64 (truncate x) → int64 x = truncate x

/-- With a conversion that always truncates. -/
def Numbers.exact (go : Numbers) : Numbers := { go with int64 := truncate, int64_eq := fun _ => rfl }

variable (go : Numbers)

/-- The number in front of a suffix, in units of it. -/
def parseSuffixed (s : String) (x : List Char) (unit : ℤ) : Except BandwidthError ℤ :=
  match go.parseFloat x with
  | none => .error (.invalid s)
  | some v => .ok (go.int64 (v * unit))

/-- `bandwidth.Parse` -/
def parseBandwidth (text : String) : Except BandwidthError ℤ :=
  let s := trimSpace text
  if s = "" ∨ s = "0" ∨ s = "0Kbps" ∨ s = "0Mbps" ∨ s = "0Gbps" then .ok 0
  else if "Gbps".toList <:+ s.toList then parseSuffixed go s (s.toList.rdrop 4) gbps
  else if "Mbps".toList <:+ s.toList then parseSuffixed go s (s.toList.rdrop 4) mbps
  else if "Kbps".toList <:+ s.toList then parseSuffixed go s (s.toList.rdrop 4) kbps
  else
    match atoi s with
    | none => .error (.noUnitSuffix s)
    | some v => .ok v

/-! ## What the agent accepts -/

/-- The characters of a rate: those of a number, blanks and the letters of the units. -/
def RateChar (c : Char) : Prop :=
  Numeral.IsNumeral c ∨ Numeral.isSpace c = true ∨ c ∈ "GMKBPSgmkbps".toList

instance (c : Char) : Decidable (RateChar c) :=
  inferInstanceAs (Decidable (Numeral.IsNumeral c ∨ Numeral.isSpace c = true ∨
    c ∈ "GMKBPSgmkbps".toList))

def RateText (s : String) : Prop := ∀ c ∈ s.toList, RateChar c

instance (s : String) : Decidable (RateText s) := List.decidableBAll (fun c => RateChar c) s.toList

/-- The suffixes with their factors. -/
def units : List (String × ℤ) := [("Gbps", gbps), ("Mbps", mbps), ("Kbps", kbps)]

variable {go} {s : String} {n : ℤ}

theorem toList_trimSpace (s : String) :
    (trimSpace s).toList = Numeral.trim Numeral.isSpace s.toList := String.toList_ofList

/-- A text of these characters has nothing that only some readers take for a number. -/
theorem RateChar.notMem {c : Char} (h : RateChar c) : c ∉ "_eExXnN".toList := by
  intro hmem
  obtain ⟨hle, hspace, hletter⟩ := Numeral.forall_of_all (fun d => 65 ≤ d.toNat ∧
    Numeral.isSpace d = false ∧ d ∉ "GMKBPSgmkbps".toList) (by decide) hmem
  rcases h with h | h | h
  · exact absurd h.toNat_lt (Nat.not_lt.mpr hle)
  · rw [hspace] at h
    cases h
  · exact hletter h

/-- Both readings of a sign. -/
theorem signed_cases (read : List Char → Option ℤ) (l : List Char) :
    (∃ ds, signed l = (-1, ds) ∧ Numeral.signed read l = (read ds).map Neg.neg) ∨
      ∃ ds, signed l = (1, ds) ∧ Numeral.signed read l = read ds := by
  unfold signed
  split
  · exact .inl ⟨_, rfl, rfl⟩
  · exact .inr ⟨_, rfl, rfl⟩
  · rename_i hminus hplus
    refine .inr ⟨l, rfl, ?_⟩
    unfold Numeral.signed
    split
    · exact absurd rfl (hplus _)
    · exact absurd rfl (hminus _)
    · rfl

theorem readInt_of_atoi (h : atoi s = some n) : Numeral.readInt s.toList = some n := by
  unfold atoi at h
  obtain ⟨m, hm, hn⟩ := Option.bind_eq_some_iff.mp h
  dsimp only at hn
  split at hn
  · obtain rfl := Option.some.inj hn
    have hdigits : ∀ ds, digits ds = some m →
        (if Numeral.IsDigits ds then some (Numeral.value ds : ℤ) else none) = some (m : ℤ) := by
      intro ds hds
      unfold digits at hds
      split at hds
      · rename_i hne
        rw [if_pos ⟨hne.1, List.all_eq_true.mp hne.2⟩, ← Option.some.inj hds]
        rfl
      · cases hds
    unfold Numeral.readInt
    obtain ⟨ds, hsigned, hread⟩ | ⟨ds, hsigned, hread⟩ := signed_cases
      (fun ds => if Numeral.IsDigits ds then some (Numeral.value ds : ℤ) else none) s.toList
    · rw [hsigned] at hm
      rw [hread, hsigned, hdigits ds hm]
      exact congrArg some (neg_one_mul _).symm
    · rw [hsigned] at hm
      rw [hread, hsigned, hdigits ds hm]
      exact congrArg some (one_mul _).symm
  · cases hn

theorem length_of_mem_units : ∀ unit ∈ units, unit.1.toList.length = 4 := by
  decide

/-- What is in front of a suffix is a number, and the result is its product with the unit. -/
theorem parseSuffixed_spec {x : List Char} {unit : ℤ} (hx : ∀ c ∈ x, RateChar c)
    (h : parseSuffixed go s x unit = .ok n)
    (hfits : ∀ v, parseSuffixed go.exact s x unit = .ok v → FitsInt64 v) :
    ∃ v, Numeral.readDecimal x = some v ∧ n = truncate (v * unit) := by
  have hread := go.parseFloat_eq fun c hc => (hx c hc).notMem
  unfold parseSuffixed at h hfits
  cases hv : go.parseFloat x with
  | none =>
    rw [hv] at h
    cases h
  | some v =>
    rw [hv] at h
    have hexact : go.exact.parseFloat x = some v := hv
    rw [hexact] at hfits
    refine ⟨v, hread.symm.trans hv, ?_⟩
    rw [← Except.ok.inj h]
    exact go.int64_eq (hfits _ rfl)

/-- What the agent accepts is blank, a number in front of a unit, or an integer. -/
theorem parseBandwidth_cases (hs : RateText s)
    (haccepts : parseBandwidth go s = .ok n)
    (hfits : ∀ v, parseBandwidth go.exact s = .ok v → FitsInt64 v) :
    ((trimSpace s).toList = [] ∧ n = 0) ∨
    (∃ unit ∈ units, ∃ x v, (trimSpace s).toList = x ++ unit.1.toList ∧
      Numeral.readDecimal x = some v ∧ n = truncate (v * unit.2)) ∨
    Numeral.readInt (trimSpace s).toList = some n := by
  have hchars : ∀ c ∈ (trimSpace s).toList, RateChar c := by
    intro c hc
    rw [toList_trimSpace] at hc
    exact hs c (Numeral.mem_of_mem_trim hc)
  unfold parseBandwidth at haccepts hfits
  dsimp only at haccepts hfits
  generalize trimSpace s = t at *
  split at haccepts
  · rename_i hzero
    obtain rfl := Except.ok.inj haccepts
    have hread : Numeral.readDecimal ['0'] = some 0 :=
      (Numeral.readDecimal_of_isDigits (by decide)).trans (congrArg some Nat.cast_zero)
    rcases hzero with rfl | rfl | rfl | rfl | rfl
    · exact .inl ⟨rfl, rfl⟩
    · exact .inr (.inr rfl)
    · exact .inr (.inl ⟨("Kbps", kbps), by decide, ['0'], 0, rfl, hread, by rw [zero_mul]; rfl⟩)
    · exact .inr (.inl ⟨("Mbps", mbps), by decide, ['0'], 0, rfl, hread, by rw [zero_mul]; rfl⟩)
    · exact .inr (.inl ⟨("Gbps", gbps), by decide, ['0'], 0, rfl, hread, by rw [zero_mul]; rfl⟩)
  · rename_i hzero
    rw [if_neg hzero] at hfits
    have hunit : ∀ unit ∈ units, unit.1.toList <:+ t.toList →
        parseSuffixed go t (t.toList.rdrop 4) unit.2 = .ok n →
        (∀ v, parseSuffixed go.exact t (t.toList.rdrop 4) unit.2 = .ok v → FitsInt64 v) →
        ∃ unit ∈ units, ∃ x v, t.toList = x ++ unit.1.toList ∧ Numeral.readDecimal x = some v ∧
          n = truncate (v * unit.2) := by
      intro unit hmem hsuffix hparse hfits
      obtain ⟨x, hx⟩ := hsuffix
      have hdrop : t.toList.rdrop 4 = x := by
        rw [← hx, ← length_of_mem_units unit hmem, Numeral.rdrop_append]
      rw [hdrop] at hparse hfits
      obtain ⟨v, hv, hn⟩ := parseSuffixed_spec
        (fun c hc => hchars c (hx ▸ List.mem_append_left _ hc)) hparse hfits
      exact ⟨unit, hmem, x, v, hx.symm, hv, hn⟩
    split at haccepts
    · rename_i hsuffix
      rw [if_pos hsuffix] at hfits
      exact .inr (.inl (hunit ("Gbps", gbps) (by decide) hsuffix haccepts hfits))
    · rename_i hg
      rw [if_neg hg] at hfits
      split at haccepts
      · rename_i hsuffix
        rw [if_pos hsuffix] at hfits
        exact .inr (.inl (hunit ("Mbps", mbps) (by decide) hsuffix haccepts hfits))
      · rename_i hm
        rw [if_neg hm] at hfits
        split at haccepts
        · rename_i hsuffix
          rw [if_pos hsuffix] at hfits
          exact .inr (.inl (hunit ("Kbps", kbps) (by decide) hsuffix haccepts hfits))
        · split at haccepts
          · cases haccepts
          · rename_i v hv
            exact .inr (.inr (Except.ok.inj haccepts ▸ readInt_of_atoi hv))

end GnnSandbox.Agent

namespace GnnSandbox.Operator.Traffic

variable (py : Numeral.PythonReader)

/-- 10 Mbps -/
def fallbackBps : ℤ := 10000000

def suffixes : List (String × ℤ) :=
  [("gbps", 1000000000), ("mbps", 1000000), ("kbps", 1000), ("bps", 1)]

/-- One pass of the loop over the suffixes. -/
def readSuffix (s : List Char) (suffix : String × ℤ) : Option ℤ :=
  if suffix.1.toList <:+ s then
    (py.float (s.rdrop suffix.1.length)).map fun v => Agent.truncate (v * suffix.2)
  else none

/-- `_parse_bandwidth_bps` -/
def parseBandwidthBps (bandwidthStr : String) : ℤ :=
  if bandwidthStr = "" then fallbackBps
  else
    let s := Numeral.trim Numeral.isSpacePython (py.lower bandwidthStr.toList)
    match suffixes.findSome? (readSuffix py s) with
    | some n => n
    | none => (py.int s).getD fallbackBps

/-! ## The two readings -/

open Agent (RateChar RateText)

variable {py} {s : String} {x : List Char} {v : ℚ}

/-- What is no blank is a character of ASCII. -/
theorem isGraphic_of_rateChar {c : Char} (h : RateChar c) :
    Numeral.isSpace c = true ∨ Numeral.IsGraphic c := by
  rcases h with h | h | h
  · exact .inr h.isGraphic
  · exact .inl h
  · exact .inr (Numeral.forall_of_all (fun d => 0x20 < d.toNat ∧ d.toNat < 0x80) (by decide) h)

theorem isSpacePython_of_rateChar {c : Char} (h : RateChar c) :
    Numeral.isSpacePython c = Numeral.isSpace c := by
  rcases isGraphic_of_rateChar h with h | h
  · rw [h, Numeral.isSpacePython_of_isSpace h]
  · have hspace := h.isSpacePython_eq
    rw [hspace]
    refine (Bool.eq_false_iff.mpr fun hblank => ?_).symm
    rw [Numeral.isSpacePython_of_isSpace hblank] at hspace
    cases hspace

theorem isSpacePython_toLower {c : Char} (h : RateChar c) :
    Numeral.isSpacePython c.toLower = Numeral.isSpacePython c := by
  rcases h with h | h | h
  · rw [Numeral.toLower_eq_self (.inl h.toNat_lt)]
  · have hcode := Numeral.toNat_of_isSpace h
    rw [Numeral.toLower_eq_self (by omega)]
  · exact Numeral.forall_of_all
      (fun d => Numeral.isSpacePython d.toLower = Numeral.isSpacePython d) (by decide) h

/-- The operator reads the lower case of what the agent reads. -/
theorem strip_lower (py : Numeral.PythonReader) (hs : RateText s) : Numeral.trim Numeral.isSpacePython (py.lower s.toList) =
    (Agent.trimSpace s).toList.map Char.toLower := by
  have hascii : ∀ c ∈ s.toList, c.toNat < 0x80 ∨ Numeral.isSpace c = true := fun c hc =>
    (isGraphic_of_rateChar (hs c hc)).symm.imp_left And.right
  rw [py.lower_eq hascii, Numeral.trim_map fun c hc => isSpacePython_toLower (hs c hc),
    Numeral.trim_congr fun c hc => isSpacePython_of_rateChar (hs c hc), Agent.toList_trimSpace]

theorem map_toLower_eq (h : ∀ c ∈ x, Numeral.IsNumeral c) : x.map Char.toLower = x := by
  have hsame : ∀ c ∈ x, c.toLower = id c := fun c hc =>
    Numeral.toLower_eq_self (.inl (h c hc).toNat_lt)
  rw [List.map_congr_left hsame, List.map_id]

theorem readSuffix_append (hread : Numeral.readDecimal x = some v) (suffix : String × ℤ) :
    readSuffix py (x ++ suffix.1.toList) suffix = some (Agent.truncate (v * suffix.2)) := by
  unfold readSuffix
  rw [if_pos (List.suffix_append x _), ← String.length_toList, Numeral.rdrop_append,
    py.float_of_readDecimal hread]
  rfl

/-- The first suffix that fits is the one behind the number. -/
theorem findSome_suffixes (hread : Numeral.readDecimal x = some v) :
    ∀ suffix ∈ suffixes.take 3, suffixes.findSome? (readSuffix py (x ++ suffix.1.toList)) =
      some (Agent.truncate (v * suffix.2)) := by
  have hother : ∀ suffix other : String × ℤ, other.1.toList.length = suffix.1.toList.length →
      other.1.toList ≠ suffix.1.toList → readSuffix py (x ++ suffix.1.toList) other = none :=
    fun _ _ hlength hne => if_neg (Numeral.not_suffix_append hlength hne)
  intro suffix hsuffix
  have hself := @readSuffix_append py x v hread suffix
  unfold suffixes at hsuffix ⊢
  rcases List.mem_cons.mp hsuffix with rfl | hsuffix
  · rw [List.findSome?_cons, hself]
  rcases List.mem_cons.mp hsuffix with rfl | hsuffix
  · have hg := hother ("mbps", 1000000) ("gbps", 1000000000) rfl (by decide)
    simp only [List.findSome?_cons, hg, hself]
  obtain rfl := List.mem_singleton.mp hsuffix
  have hg := hother ("kbps", 1000) ("gbps", 1000000000) rfl (by decide)
  have hm := hother ("kbps", 1000) ("mbps", 1000000) rfl (by decide)
  simp only [List.findSome?_cons, hg, hm, hself]

theorem lower_units : ∀ unit ∈ Agent.units, ∃ suffix ∈ suffixes.take 3,
    unit.1.toList.map Char.toLower = suffix.1.toList ∧ suffix.2 = unit.2 := by
  decide

/-- Without a unit there is no suffix. -/
theorem findSome_suffixes_eq_none (h : 's' ∉ x) :
    suffixes.findSome? (readSuffix py x) = none := by
  refine List.findSome?_eq_none_iff.mpr fun suffix hsuffix => if_neg fun hx => h ?_
  have hall : ∀ suffix ∈ suffixes, 's' ∈ suffix.1.toList := by decide
  exact hx.subset (hall suffix hsuffix)

theorem parseBandwidthBps_of_some {n : ℤ} (hne : s ≠ "")
    (htext : Numeral.trim Numeral.isSpacePython (py.lower s.toList) = x)
    (hn : suffixes.findSome? (readSuffix py x) = some n) : parseBandwidthBps py s = n := by
  unfold parseBandwidthBps
  rw [if_neg hne]
  dsimp only
  rw [htext, hn]

theorem parseBandwidthBps_of_none (hne : s ≠ "")
    (htext : Numeral.trim Numeral.isSpacePython (py.lower s.toList) = x)
    (hnone : suffixes.findSome? (readSuffix py x) = none) :
    parseBandwidthBps py s = (py.int x).getD fallbackBps := by
  unfold parseBandwidthBps
  rw [if_neg hne]
  dsimp only
  rw [htext, hnone]

/-- With readers of plain numerals. -/
def plainNumbers : Agent.Numbers := ⟨.plain, Agent.truncate, fun _ => rfl⟩

theorem fits_of_eq {go : Agent.Numbers} {n : ℤ} (h : Agent.parseBandwidth go.exact s = .ok n)
    (hn : Agent.FitsInt64 n) : ∀ v, Agent.parseBandwidth go.exact s = .ok v → Agent.FitsInt64 v := by
  intro v hv
  obtain rfl := Except.ok.inj (h.symm.trans hv)
  exact hn

theorem half_accepted : Agent.parseBandwidth plainNumbers " 1.5Mbps" = .ok 1500000 := by
  decide +kernel

end GnnSandbox.Operator.Traffic
