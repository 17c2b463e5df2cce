import GnnSandbox.Agent.Linear

/-!
# Schedules that repeat

A schedule that repeats goes through its waypoints once a period, one that does not holds the
rate of its last waypoint. The position on the wall clock is wrapped to the day before the period
is looked at, so that a week has seven times the same day and the last rate is lost at midnight.
-/

namespace GnnSandbox.Agent

/-! ## The configuration -/

structure SchedulePatternConfig where
  timeReference : String
  interpolation : String
  repeats : String
  waypoints : List Waypoint

/-- `unicode.ToLower`, as far as letters of ASCII come out of it. -/
def lowerChar (c : Char) : Char :=
  if c = '\u0130' then 'i' else if c = '\u212a' then 'k' else c.toLower

/-- `strings.ToLower` -/
def toLower (s : String) : String := String.ofList (s.toList.map lowerChar)

/-- `RepeatSeconds` -/
def repeatSeconds (repeats : String) : ℚ :=
  if toLower repeats = "daily" then 86400
  else if toLower repeats = "weekly" then 604800
  else 0

section Build

variable {ε : Type} (parseFloat : String → Option ℚ) (parseRate : String → Except ε ℤ)

/-- `buildSchedule` -/
def buildSchedule (slice : SortSlice) (cfg : SchedulePatternConfig) :
    Except (WaypointError ε) SchedulePattern := do
  let wps ← parseWaypoints parseFloat parseRate slice cfg.waypoints
  return ⟨wps, cfg.interpolation, repeatSeconds cfg.repeats, cfg.timeReference, none⟩

end Build

/-- `SetStartTime` -/
def SchedulePattern.setStartTime (p : SchedulePattern) (t : ℤ) : SchedulePattern :=
  { p with startTime := some t }

/-! ## What the modes say -/

/-- From its start on, a schedule with a period has the same rate a period later and comes past
each waypoint of the period in every stretch of time of that length; without a period the rate
of the last waypoint stays once its offset is passed. -/
structure Repeats (p : SchedulePattern) (start : ℤ) : Prop where
  periodic : 0 < p.repeatSec → ∀ t ≥ start, ∀ u, ((u - t : ℤ) : ℚ) = p.repeatSec * 1000000000 →
    (p.bandwidthAt u).1 = (p.bandwidthAt t).1
  reached : 0 < p.repeatSec → ∀ w ∈ p.waypoints, 0 ≤ w.offsetSec → w.offsetSec < p.repeatSec →
    ∀ c ≥ start, ∃ t ≥ c, ((t - c : ℤ) : ℚ) < p.repeatSec * 1000000000 ∧
      p.position t = w.offsetSec
  held : p.repeatSec = 0 → ∀ last, p.waypoints.getLast? = some last → ∀ t ≥ start,
    last.offsetSec ≤ p.position t → ∀ u > t, (p.bandwidthAt u).1 = last.rateBps

/-- The positions of the time reference: whole seconds of the day, or whole nanoseconds. -/
def Positioned (timeReference : String) (x : ℚ) : Prop :=
  if timeReference = "wall_clock" then ∃ n : ℕ, n < 86400 ∧ x = n
  else ∃ n : ℤ, x = n / 1000000000

/-- The rates of the whole seconds of a day are the last one: there is only one waypoint, or the
day begins with that rate, and so does each segment, or its line cut to whole numbers stays on
it. -/
def FlatDay (p : SchedulePattern) (rate : ℤ) : Prop :=
  p.waypoints.length = 1 ∨
  (∀ first, p.waypoints.head? = some first → 0 ≤ first.offsetSec → first.rateBps = rate) ∧
  ∀ i v w, p.waypoints[i]? = some v → p.waypoints[i + 1]? = some w → ∀ n : ℕ, n < 86400 →
    v.offsetSec < (n : ℚ) → (n : ℚ) ≤ w.offsetSec →
    (∀ last, p.waypoints.getLast? = some last → (n : ℚ) < last.offsetSec) →
    segmentRate p.interpolation v w n = rate

/-- Each waypoint of the period has an offset that is a position of the time reference; a
schedule on the wall clock that does not repeat has its last waypoint after the last second of
the day, or a flat day. -/
structure Repeatable (p : SchedulePattern) : Prop where
  waypoints : 0 < p.repeatSec → ∀ w ∈ p.waypoints, 0 ≤ w.offsetSec → w.offsetSec < p.repeatSec →
    Positioned p.timeReference w.offsetSec
  flat : p.repeatSec = 0 → p.timeReference = "wall_clock" →
    ∀ last, p.waypoints.getLast? = some last →
      86399 < last.offsetSec ∨ FlatDay p last.rateBps

/-! ## Positions -/

section Position

variable {p : SchedulePattern} {t start : ℤ}

theorem repeatSeconds_cases (repeats : String) : repeatSeconds repeats = 86400 ∨
    repeatSeconds repeats = 604800 ∨ repeatSeconds repeats = 0 := by
  unfold repeatSeconds
  split_ifs
  · exact .inl rfl
  · exact .inr (.inl rfl)
  · exact .inr (.inr rfl)

/-- On the wall clock a position is a second of the day. -/
theorem elapsed_wallClock (h : p.timeReference = "wall_clock") (t : ℤ) :
    p.elapsed t = ((t / 1000000000 % 86400 : ℤ) : ℚ) := by
  unfold SchedulePattern.elapsed clock
  rw [if_pos h]
  dsimp only
  congr 1
  omega

/-- A number below the period is not wrapped. -/
theorem truncate_eq_zero {x : ℚ} (h₀ : 0 ≤ x) (h₁ : x < 1) : truncate x = 0 := by
  rw [truncate_of_nonneg h₀, Int.floor_eq_zero_iff]
  exact ⟨h₀, h₁⟩

theorem position_wallClock (h : p.timeReference = "wall_clock")
    (hperiod : p.repeatSec ≤ 0 ∨ 86400 ≤ p.repeatSec) (t : ℤ) :
    p.position t = ((t / 1000000000 % 86400 : ℤ) : ℚ) := by
  unfold SchedulePattern.position
  dsimp only
  rw [elapsed_wallClock h]
  have hlt : t / 1000000000 % 86400 < 86400 := Int.emod_lt_of_pos _ (by decide)
  have hnonneg : 0 ≤ t / 1000000000 % 86400 := Int.emod_nonneg _ (by decide)
  split_ifs with hpos
  · have hge : (86400 : ℚ) ≤ p.repeatSec := hperiod.resolve_left (not_le.mpr hpos)
    have hbelow : ((t / 1000000000 % 86400 : ℤ) : ℚ) < p.repeatSec := by
      refine lt_of_lt_of_le ?_ hge
      exact_mod_cast hlt
    rw [truncate_eq_zero (div_nonneg (Int.cast_nonneg hnonneg) hpos.le)
      ((div_lt_one hpos).mpr hbelow)]
    simp
  · rfl

/-- After the start, the time elapsed since then is cut by whole periods. -/
theorem position_elapsed (h : p.timeReference ≠ "wall_clock") (hstart : p.startTime = some start)
    (hpos : 0 < p.repeatSec) (ht : start ≤ t) :
    p.position t = ((t - start : ℤ) : ℚ) / 1000000000 -
      ⌊((t - start : ℤ) : ℚ) / 1000000000 / p.repeatSec⌋ * p.repeatSec := by
  have helapsed : p.elapsed t = ((t - start : ℤ) : ℚ) / 1000000000 := by
    rw [SchedulePattern.elapsed, if_neg h, hstart, Option.getD_some]
  have hnonneg : 0 ≤ ((t - start : ℤ) : ℚ) / 1000000000 / p.repeatSec :=
    div_nonneg (div_nonneg (Int.cast_nonneg (sub_nonneg.mpr ht)) (by norm_num)) hpos.le
  rw [SchedulePattern.position, if_pos hpos, helapsed, truncate_of_nonneg hnonneg]

theorem position_unrepeated (h : p.timeReference ≠ "wall_clock") (hstart : p.startTime = some start)
    (hzero : p.repeatSec = 0) (t : ℤ) : p.position t = ((t - start : ℤ) : ℚ) / 1000000000 := by
  rw [SchedulePattern.position, hzero, if_neg (lt_irrefl _), SchedulePattern.elapsed, if_neg h,
    hstart, Option.getD_some]

/-- A second of the day comes in every stretch of a day. -/
theorem exists_second (n c : ℤ) (hn : 0 ≤ n) (hn' : n < 86400) :
    ∃ t ≥ c, t < c + 86400000000000 ∧ t / 1000000000 % 86400 = n := by
  refine ⟨c + (n * 1000000000 - c) % 86400000000000, ?_, ?_, ?_⟩ <;> omega

/-- A multiple of the period, and a rest below it, come in every stretch of its length. -/
theorem exists_residue (period rest c : ℤ) (hpos : 0 < period) :
    ∃ t ≥ c, t < c + period ∧ ∃ k, t = rest + k * period := by
  have hlt := Int.emod_lt_of_pos (rest - c) hpos
  have hnonneg := Int.emod_nonneg (rest - c) hpos.ne'
  refine ⟨c + (rest - c) % period, by omega, by omega, -((rest - c) / period), ?_⟩
  have hdiv := Int.mul_ediv_add_emod (rest - c) period
  rw [neg_mul, mul_comm]
  omega

end Position

/-! ## The modes -/

section Modes

variable {p : SchedulePattern} {start : ℤ}

theorem bandwidthAt_eq (p : SchedulePattern) (t : ℤ) :
    (p.bandwidthAt t).1 = p.rateAt (p.position t) := rfl

/-- The period in whole nanoseconds. -/
theorem exists_periodNs (hrepeat : p.repeatSec = 86400 ∨ p.repeatSec = 604800) :
    ∃ days : ℤ, 0 < days ∧ p.repeatSec = days * 86400 := by
  rcases hrepeat with h | h
  · exact ⟨1, by decide, by rw [h]; norm_num⟩
  · exact ⟨7, by decide, by rw [h]; norm_num⟩

/-- **A period later the rate is the same.** -/
theorem position_periodic (hstart : p.startTime = some start)
    (hrepeat : p.repeatSec = 86400 ∨ p.repeatSec = 604800) {t u : ℤ} (ht : start ≤ t)
    (hu : ((u - t : ℤ) : ℚ) = p.repeatSec * 1000000000) : p.position u = p.position t := by
  obtain ⟨days, hdays, hperiod⟩ := exists_periodNs hrepeat
  have hshift : u = t + days * 86400000000000 := by
    rw [hperiod] at hu
    have hcast : ((u - t : ℤ) : ℚ) = ((days * 86400000000000 : ℤ) : ℚ) := by
      rw [hu]
      push_cast
      ring
    have := Int.cast_injective hcast
    omega
  have hpos : 0 < p.repeatSec := by
    rw [hperiod]
    positivity
  by_cases h : p.timeReference = "wall_clock"
  · have hge : 86400 ≤ p.repeatSec := by
      rcases hrepeat with h | h <;> rw [h]
      norm_num
    rw [position_wallClock h (.inr hge), position_wallClock h (.inr hge), hshift]
    congr 1
    omega
  · have hlater : ((u - start : ℤ) : ℚ) / 1000000000 =
        ((t - start : ℤ) : ℚ) / 1000000000 + p.repeatSec := by
      have hsum : ((u - start : ℤ) : ℚ) = ((u - t : ℤ) : ℚ) + ((t - start : ℤ) : ℚ) := by
        push_cast
        ring
      rw [hsum, hu]
      ring
    rw [position_elapsed h hstart hpos (by omega : start ≤ u), position_elapsed h hstart hpos ht,
      hlater, add_div, div_self hpos.ne', Int.floor_add_one]
    push_cast
    ring

/-- A period has each position of its time reference. -/
theorem exists_position (hstart : p.startTime = some start)
    (hrepeat : p.repeatSec = 86400 ∨ p.repeatSec = 604800) {x : ℚ} (hx : 0 ≤ x)
    (hx' : x < p.repeatSec) (hpositioned : Positioned p.timeReference x) {c : ℤ} (hc : start ≤ c) :
    ∃ t ≥ c, ((t - c : ℤ) : ℚ) < p.repeatSec * 1000000000 ∧ p.position t = x := by
  obtain ⟨days, hdays, hperiod⟩ := exists_periodNs hrepeat
  have hpos : 0 < p.repeatSec := hx.trans_lt hx'
  have hbelow : ∀ t : ℤ, t < c + days * 86400000000000 →
      ((t - c : ℤ) : ℚ) < p.repeatSec * 1000000000 := by
    intro t ht
    have hlt : ((t - c : ℤ) : ℚ) < ((days * 86400000000000 : ℤ) : ℚ) := Int.cast_lt.mpr (by omega)
    refine hlt.trans_eq ?_
    rw [hperiod]
    push_cast
    ring
  unfold Positioned at hpositioned
  by_cases h : p.timeReference = "wall_clock"
  · rw [if_pos h] at hpositioned
    obtain ⟨n, hn, rfl⟩ := hpositioned
    obtain ⟨t, htc, htc', hsecond⟩ := exists_second n c (Int.natCast_nonneg n) (by omega)
    have hge : 86400 ≤ p.repeatSec := by
      rcases hrepeat with h | h <;> rw [h]
      norm_num
    refine ⟨t, htc, hbelow t (by omega), ?_⟩
    rw [position_wallClock h (.inr hge), hsecond, Int.cast_natCast]
  · rw [if_neg h] at hpositioned
    obtain ⟨n, rfl⟩ := hpositioned
    obtain ⟨t, htc, htc', k, ht⟩ := exists_residue (days * 86400000000000) (start + n) c (by omega)
    refine ⟨t, htc, hbelow t htc', ?_⟩
    have helapsed : ((t - start : ℤ) : ℚ) / 1000000000 = n / 1000000000 + k * p.repeatSec := by
      have hdiff : t - start = n + k * (days * 86400000000000) := by omega
      rw [hdiff, hperiod]
      push_cast
      ring
    have hfloor : ⌊(n / 1000000000 + k * p.repeatSec) / p.repeatSec⌋ = k := by
      rw [add_div, mul_div_assoc, div_self hpos.ne', mul_one, Int.floor_add_intCast,
        Int.floor_eq_zero_iff.mpr ⟨div_nonneg hx hpos.le, (div_lt_one hpos).mpr hx'⟩, zero_add]
    rw [position_elapsed h hstart hpos (hc.trans htc), helapsed, hfloor]
    ring

/-- Every position is one of its time reference. -/
theorem positioned_position (hstart : p.startTime = some start)
    (hrepeat : p.repeatSec = 86400 ∨ p.repeatSec = 604800) {t : ℤ} (ht : start ≤ t) :
    Positioned p.timeReference (p.position t) := by
  obtain ⟨days, hdays, hperiod⟩ := exists_periodNs hrepeat
  have hpos : 0 < p.repeatSec := by
    rw [hperiod]
    positivity
  unfold Positioned
  split_ifs with h
  · have hge : 86400 ≤ p.repeatSec := by
      rcases hrepeat with h | h <;> rw [h]
      norm_num
    have hlt := Int.emod_lt_of_pos (t / 1000000000) (show (0 : ℤ) < 86400 by decide)
    have hnonneg := Int.emod_nonneg (t / 1000000000) (show (86400 : ℤ) ≠ 0 by decide)
    refine ⟨(t / 1000000000 % 86400).toNat, by omega, ?_⟩
    rw [position_wallClock h (.inr hge), ← Int.cast_natCast, Int.toNat_of_nonneg hnonneg]
  · rw [position_elapsed h hstart hpos ht]
    generalize ⌊((t - start : ℤ) : ℚ) / 1000000000 / p.repeatSec⌋ = k
    refine ⟨t - start - k * (days * 86400000000000), ?_⟩
    rw [hperiod]
    push_cast
    ring

/-- On a flat day each whole second has the last rate. -/
theorem flatDay_iff (hsorted : p.waypoints.Pairwise fun v w => v.offsetSec ≤ w.offsetSec)
    {last : ScheduleWaypoint} (hlast : p.waypoints.getLast? = some last) :
    FlatDay p last.rateBps ↔ ∀ n : ℕ, n < 86400 → p.rateAt n = last.rateBps := by
  have hne : p.waypoints ≠ [] := List.ne_nil_of_mem (List.mem_of_getLast? hlast)
  have hpos : 0 < p.waypoints.length := List.length_pos_iff.mpr hne
  have hhead : p.waypoints.head? = some (waypointAt p.waypoints 0) := by
    rw [List.head?_eq_getElem?]
    exact waypointAt_eq hpos
  constructor
  · intro hflat n hn
    have hone : ∀ first, p.waypoints.head? = some first → p.waypoints.length = 1 →
        first.rateBps = last.rateBps := by
      intro first hfirst hone
      rw [List.getLast?_eq_getElem?, hone] at hlast
      rw [List.head?_eq_getElem?] at hfirst
      rw [Option.some.inj (hfirst.symm.trans hlast)]
    rcases rateAt_cases (n : ℚ) hne hsorted with ⟨first, hfirst, hrate, hle | hlength⟩ |
      ⟨last', hlast', hrate, -⟩ | ⟨i, v, w, hv, hw, hlt, hle, hbefore, hrate⟩
    · rw [hrate]
      rcases hflat with hlength | ⟨hday, -⟩
      · exact hone first hfirst hlength
      · exact hday first hfirst ((Nat.cast_nonneg n).trans hle)
    · rw [hrate]
      exact hone first hfirst hlength
    · rw [hrate, Option.some.inj (hlast'.symm.trans hlast)]
    · rw [hrate]
      rcases hflat with hlength | ⟨-, hsegments⟩
      · have hlt' := (List.getElem?_eq_some_iff.mp hw).1
        omega
      · exact hsegments i v w hv hw n hn hlt hle hbefore
  · intro hrates
    by_cases hlength : p.waypoints.length = 1
    · exact .inl hlength
    · refine .inr ⟨fun first hfirst hzero => ?_, fun i v w hv hw n hn hlt hle hbefore => ?_⟩
      · have hrate := hrates 0 (by decide)
        obtain rfl := Option.some.inj (hhead.symm.trans hfirst)
        rwa [rateAt_eq, if_neg hpos.ne', if_neg hlength, Nat.cast_zero, if_pos hzero] at hrate
      · rw [← hrates n hn, rateAt_segment hsorted hv hw hlt hle hbefore]

/-- On the wall clock the last rate is held exactly on a flat day, or when the last waypoint is
never reached. -/
theorem held_wallClock_iff (h : p.timeReference = "wall_clock") (hzero : p.repeatSec = 0)
    (hsorted : p.waypoints.Pairwise fun v w => v.offsetSec ≤ w.offsetSec) (start : ℤ)
    {last : ScheduleWaypoint} (hlast : p.waypoints.getLast? = some last) :
    (∀ t ≥ start, last.offsetSec ≤ p.position t → ∀ u > t, (p.bandwidthAt u).1 = last.rateBps) ↔
      86399 < last.offsetSec ∨ FlatDay p last.rateBps := by
  have hposition := position_wallClock h (.inl hzero.le)
  rw [flatDay_iff hsorted hlast]
  constructor
  · intro hheld
    by_cases hlate : 86399 < last.offsetSec
    · exact .inl hlate
    · refine .inr fun n hn => ?_
      obtain ⟨t, ht, -, hend⟩ := exists_second 86399 start (by decide) (by decide)
      obtain ⟨u, hu, -, hsecond⟩ := exists_second n (t + 1) (Int.natCast_nonneg n) (by omega)
      have hpassed : last.offsetSec ≤ p.position t := by
        rw [hposition, hend]
        exact not_lt.mp hlate
      rw [← hheld t ht hpassed u (by omega), bandwidthAt_eq, hposition, hsecond, Int.cast_natCast]
  · intro hflat t _ hpassed u _
    have hnonneg := Int.emod_nonneg (u / 1000000000) (show (86400 : ℤ) ≠ 0 by decide)
    have hlt := Int.emod_lt_of_pos (u / 1000000000) (show (0 : ℤ) < 86400 by decide)
    rcases hflat with hlate | hrates
    · rw [hposition] at hpassed
      have hsecond : t / 1000000000 % 86400 ≤ 86399 := by omega
      have hcast : ((t / 1000000000 % 86400 : ℤ) : ℚ) ≤ 86399 := by exact_mod_cast hsecond
      exact absurd (hlate.trans_le (hpassed.trans hcast)) (lt_irrefl _)
    · have hrate := hrates (u / 1000000000 % 86400).toNat (by omega)
      rwa [← Int.cast_natCast, Int.toNat_of_nonneg hnonneg, ← hposition] at hrate

/-- Since the start the last rate is held. -/
theorem held_elapsed (h : p.timeReference ≠ "wall_clock") (hstart : p.startTime = some start)
    (hzero : p.repeatSec = 0)
    (hsorted : p.waypoints.Pairwise fun v w => v.offsetSec ≤ w.offsetSec)
    {last : ScheduleWaypoint} (hlast : p.waypoints.getLast? = some last) {t u : ℤ}
    (hpassed : last.offsetSec ≤ p.position t) (hu : t < u) :
    (p.bandwidthAt u).1 = last.rateBps := by
  have hlater : p.position t < p.position u := by
    rw [position_unrepeated h hstart hzero, position_unrepeated h hstart hzero]
    have hcast : ((t - start : ℤ) : ℚ) < ((u - start : ℤ) : ℚ) := Int.cast_lt.mpr (by omega)
    exact div_lt_div_of_pos_right hcast (by norm_num)
  have hne : p.waypoints ≠ [] := List.ne_nil_of_mem (List.mem_of_getLast? hlast)
  have hbeyond := hpassed.trans_lt hlater
  rw [bandwidthAt_eq]
  rcases rateAt_cases (p.position u) hne hsorted with ⟨first, hfirst, hrate, hle | hlength⟩ |
    ⟨last', hlast', hrate, -⟩ | ⟨i, v, w, -, -, -, -, hbefore, -⟩
  · rw [List.getLast?_eq_getElem?] at hlast
    rw [List.head?_eq_getElem?] at hfirst
    have hfirst' := offset_le hsorted (Nat.zero_le _) hfirst hlast
    exact absurd (hbeyond.trans_le (hle.trans hfirst')) (lt_irrefl _)
  · rw [List.getLast?_eq_getElem?, hlength] at hlast
    rw [List.head?_eq_getElem?] at hfirst
    rw [hrate, Option.some.inj (hfirst.symm.trans hlast)]
  · rw [hrate, Option.some.inj (hlast'.symm.trans hlast)]
  · exact absurd ((hbefore last hlast).trans hbeyond) (lt_irrefl _)

/-- A started schedule repeats as it says exactly when it is repeatable. -/
theorem repeats_iff_of_sorted (hstart : p.startTime = some start)
    (hrepeat : p.repeatSec = 86400 ∨ p.repeatSec = 604800 ∨ p.repeatSec = 0)
    (hsorted : p.waypoints.Pairwise fun v w => v.offsetSec ≤ w.offsetSec) :
    Repeats p start ↔ Repeatable p := by
  have hperiod (hpos : 0 < p.repeatSec) : p.repeatSec = 86400 ∨ p.repeatSec = 604800 := by
    rcases hrepeat with h | h | h
    · exact .inl h
    · exact .inr h
    · exact absurd h hpos.ne'
  constructor
  · intro hrepeats
    refine ⟨fun hpos w hw hle hlt => ?_, fun hzero hwall last hlast => ?_⟩
    · obtain ⟨t, ht, -, hposition⟩ := hrepeats.reached hpos w hw hle hlt start le_rfl
      rw [← hposition]
      exact positioned_position hstart (hperiod hpos) ht
    · exact (held_wallClock_iff hwall hzero hsorted start hlast).mp (hrepeats.held hzero last hlast)
  · intro hrepeatable
    refine ⟨fun hpos t ht u hu => ?_, fun hpos w hw hle hlt c hc => ?_,
      fun hzero last hlast t ht hpassed u hu => ?_⟩
    · rw [bandwidthAt_eq, bandwidthAt_eq, position_periodic hstart (hperiod hpos) ht hu]
    · exact exists_position hstart (hperiod hpos) hle hlt
        (hrepeatable.waypoints hpos w hw hle hlt) hc
    · by_cases hwall : p.timeReference = "wall_clock"
      · exact (held_wallClock_iff hwall hzero hsorted start hlast).mpr
          (hrepeatable.flat hzero hwall last hlast) t ht hpassed u hu
      · exact held_elapsed hwall hstart hzero hsorted hlast hpassed hu

end Modes

/-- **When the modes mean what they say.** A schedule that was built and started repeats, or holds
its last rate, exactly when it is repeatable. -/
theorem repeats_iff_repeatable {ε : Type} (parseFloat : String → Option ℚ)
    (parseRate : String → Except ε ℤ) (slice : SortSlice) (cfg : SchedulePatternConfig)
    (p : SchedulePattern) (hbuild : buildSchedule parseFloat parseRate slice cfg = .ok p)
    (start : ℤ) : Repeats (p.setStartTime start) start ↔ Repeatable p := by
  unfold buildSchedule at hbuild
  cases hparse : parseWaypoints parseFloat parseRate slice cfg.waypoints with
  | error err =>
    rw [hparse] at hbuild
    cases hbuild
  | ok wps =>
    rw [hparse] at hbuild
    cases hbuild
    refine (repeats_iff_of_sorted rfl (repeatSeconds_cases cfg.repeats)
      (parseWaypoints_spec hparse).2).trans ⟨fun h => ⟨h.waypoints, ?_⟩, fun h => ⟨h.waypoints, ?_⟩⟩
    · exact h.flat
    · exact h.flat

/-- The business hours in a mode. -/
def businessConfig (repeats : String) : SchedulePatternConfig :=
  ⟨"wall_clock", "linear", repeats, businessHours⟩

def businessSchedule (repeatSec : ℚ) : SchedulePattern :=
  ⟨businessWaypoints, "linear", repeatSec, "wall_clock", none⟩

theorem repeats_business : Repeats ((businessSchedule 86400).setStartTime 0) 0 := by
  have hbuild : buildSchedule (fun _ => none) plainRate stableSlice (businessConfig "Daily") =
      .ok (businessSchedule 86400) := by rfl
  refine (repeats_iff_repeatable _ _ _ _ _ hbuild 0).mpr
    ⟨fun _ w hw _ _ => ?_, fun hzero => absurd hzero (by decide)⟩
  have hwhole : ∀ w ∈ businessWaypoints, ∃ n ∈ [0, 32400, 64800], w.offsetSec = (n : ℕ) := by
    decide
  obtain ⟨n, hn, hoffset⟩ := hwhole w hw
  have hday : ∀ n ∈ [0, 32400, 64800], n < 86400 := by decide
  have hwall : (businessSchedule 86400).timeReference = "wall_clock" := rfl
  rw [Positioned, if_pos hwall]
  exact ⟨n, hday n hn, hoffset⟩

/-- Two rates that change at noon of the second day. -/
def secondNoon : List Waypoint := [⟨"00:00", "5"⟩, ⟨"36:00", "80"⟩]

/-- On the wall clock a week never comes to its second noon, and a schedule that does not repeat
falls back at midnight from its last rate to its first. -/
theorem wall_clock_forgets :
    buildSchedule (fun _ => none) plainRate stableSlice
        ⟨"wall_clock", "linear", "weekly", secondNoon⟩ =
      .ok ⟨[⟨0, 5⟩, ⟨129600, 80⟩], "linear", 604800, "wall_clock", none⟩ ∧
    ¬Repeats ⟨[⟨0, 5⟩, ⟨129600, 80⟩], "linear", 604800, "wall_clock", some 0⟩ 0 ∧
    buildSchedule (fun _ => none) plainRate stableSlice (businessConfig "none") =
      .ok (businessSchedule 0) ∧
    ((businessSchedule 0).setStartTime 0).position 64800000000000 = 64800 ∧
    (((businessSchedule 0).setStartTime 0).bandwidthAt 64800000000000).1 = 30 ∧
    (((businessSchedule 0).setStartTime 0).bandwidthAt 86400000000000).1 = 5 ∧
    ¬Repeats ((businessSchedule 0).setStartTime 0) 0 := by
  have hposition : ((businessSchedule 0).setStartTime 0).position 64800000000000 = 64800 := by
    decide +kernel
  have hmidnight : (((businessSchedule 0).setStartTime 0).bandwidthAt 86400000000000).1 = 5 := by
    decide +kernel
  refine ⟨rfl, fun h => ?_, rfl, hposition, by decide +kernel, hmidnight, fun h => ?_⟩
  · obtain ⟨t, -, -, ht⟩ := h.reached (by decide) ⟨129600, 80⟩ (by decide) (by decide) (by decide)
      0 le_rfl
    rw [position_wallClock rfl (.inr (by decide))] at ht
    have hlt := Int.emod_lt_of_pos (t / 1000000000) (show (0 : ℤ) < 86400 by decide)
    have hcast : ((t / 1000000000 % 86400 : ℤ) : ℚ) = ((129600 : ℤ) : ℚ) := ht
    have := Int.cast_injective hcast
    omega
  · have hheld := h.held rfl ⟨64800, 30⟩ rfl 64800000000000 (by decide) hposition.ge
      86400000000000 (by decide)
    rw [hmidnight] at hheld
    exact absurd hheld (by decide)

end GnnSandbox.Agent
