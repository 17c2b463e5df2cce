import GnnSandbox.Lib.Raise
import GnnSandbox.Lib.StableSort
import Mathlib.Algebra.Field.Rat
import Mathlib.Algebra.Order.Field.Rat
import Mathlib.Data.List.Forall2
import Mathlib.Data.List.Sort

/-!
# Schedules of waypoints

A schedule maps the time of day, or the time since its start, to a rate. With the interpolation
`step` it is meant to hold the rate of a waypoint until the next one. Offsets and positions are
exact numbers of seconds, times are nanoseconds since the epoch.
-/

namespace GnnSandbox.Agent

open Raise

/-- A waypoint of the configuration. -/
structure Waypoint where
  time : String
  rate : String

structure ScheduleWaypoint where
  offsetSec : ℚ
  rateBps : ℤ
deriving DecidableEq, Inhabited

/-! ## Parsing -/

inductive TimeError where
  | invalidHour (text : String)
  | invalidMinute (text : String)
  | invalidTime (text : String)

inductive WaypointError (ε : Type) where
  | rate (text : String) (err : ε)
  | time (text : String) (err : TimeError)

/-- `unicode.IsSpace` -/
def isSpace (c : Char) : Bool :=
  c ∈ ['\t', '\n', '\x0b', '\x0c', '\r', ' ', '\u0085', '\u00a0', '\u1680', '\u2028', '\u2029',
    '\u202f', '\u205f', '\u3000'] || ('\u2000' ≤ c && c ≤ '\u200a')

/-- `strings.TrimSpace` -/
def trimSpace (s : String) : String :=
  String.ofList (((s.toList.dropWhile isSpace).reverse.dropWhile isSpace).reverse)

def digits (ds : List Char) : Option ℕ :=
  if ds ≠ [] ∧ ds.all Char.isDigit = true then some (Nat.ofDigitChars 10 ds 0) else none

/-- A sign, when there is one, and the rest. -/
def signed : List Char → ℤ × List Char
  | '-' :: ds => (-1, ds)
  | '+' :: ds => (1, ds)
  | ds => (1, ds)

/-- `strconv.Atoi` -/
def atoi (s : String) : Option ℤ := do
  let n ← digits (signed s.toList).2
  let value := (signed s.toList).1 * n
  if -9223372036854775808 ≤ value ∧ value ≤ 9223372036854775807 then some value else none

section Parse

variable {ε : Type} (parseFloat : String → Option ℚ) (parseRate : String → Except ε ℤ)

/-- `parseTime`, where `parseFloat` is `strconv.ParseFloat`. -/
def parseTime (text : String) : Except TimeError ℚ :=
  let s := trimSpace text
  if ':' ∈ s.toList then
    match atoi (String.ofList (s.toList.takeWhile (· ≠ ':'))) with
    | none => .error (.invalidHour s)
    | some h =>
      match atoi (String.ofList (s.toList.dropWhile (· ≠ ':')).tail) with
      | none => .error (.invalidMinute s)
      | some m => .ok ((h * 3600 + m * 60 : ℤ) : ℚ)
  else
    match parseFloat s with
    | none => .error (.invalidTime s)
    | some v => .ok v

def parseWaypoint (w : Waypoint) : Except (WaypointError ε) ScheduleWaypoint :=
  match parseRate w.rate with
  | .error err => .error (.rate w.rate err)
  | .ok rateBps =>
    match parseTime parseFloat w.time with
    | .error err => .error (.time w.time err)
    | .ok offsetSec => .ok ⟨offsetSec, rateBps⟩

/-- `sort.Slice` by offset, which puts equal offsets in an order that it does not tell. -/
structure SortSlice where
  sort : List ScheduleWaypoint → List ScheduleWaypoint
  perm : ∀ l, (sort l).Perm l
  sorted : ∀ l, (sort l).Pairwise fun v w => v.offsetSec ≤ w.offsetSec

/-- `ParseWaypoints` -/
def parseWaypoints (slice : SortSlice) (raw : List Waypoint) :
    Except (WaypointError ε) (List ScheduleWaypoint) := do
  let result ← collect (parseWaypoint parseFloat parseRate) raw
  return slice.sort result

end Parse

/-! ## The schedule -/

/-- `RepeatSec` is zero when the schedule does not repeat. -/
structure SchedulePattern where
  waypoints : List ScheduleWaypoint
  interpolation : String
  repeatSec : ℚ
  timeReference : String
  startTime : Option ℤ

/-- Hours, minutes and seconds of the day. -/
def clock (t : ℤ) : ℤ × ℤ × ℤ :=
  let s := t / 1000000000 % 86400
  (s / 3600, s % 3600 / 60, s % 60)

/-- `int(x)` -/
def truncate (x : ℚ) : ℤ := x.num.tdiv x.den

/-- The waypoint of an index that is in range. -/
def waypointAt (wp : List ScheduleWaypoint) (i : ℕ) : ScheduleWaypoint := wp.getD i default

/-- `sort.Search` for the segment that holds a position. -/
def segment (wp : List ScheduleWaypoint) (tSec : ℚ) : ℕ :=
  BinarySearch.search (wp.length - 1) fun i => decide (tSec ≤ (waypointAt wp (i + 1)).offsetSec)

namespace SchedulePattern

/-- `tSec`, before and after it is wrapped. -/
def elapsed (p : SchedulePattern) (t : ℤ) : ℚ :=
  if p.timeReference = "wall_clock" then
    let (h, m, s) := clock t
    ((h * 3600 + m * 60 + s : ℤ) : ℚ)
  else ((t - p.startTime.getD t : ℤ) : ℚ) / 1000000000

def position (p : SchedulePattern) (t : ℤ) : ℚ :=
  let tSec := p.elapsed t
  if 0 < p.repeatSec then tSec - truncate (tSec / p.repeatSec) * p.repeatSec else tSec

/-- The rate at a position. -/
def rateAt (p : SchedulePattern) (tSec : ℚ) : ℤ :=
  let wp := p.waypoints
  let first := waypointAt wp 0
  let last := waypointAt wp (wp.length - 1)
  if wp.length = 0 then 0
  else if wp.length = 1 then first.rateBps
  else if tSec ≤ first.offsetSec then first.rateBps
  else if last.offsetSec ≤ tSec then last.rateBps
  else
    let prev := waypointAt wp (segment wp tSec)
    let next := waypointAt wp (segment wp tSec + 1)
    if p.interpolation = "step" then prev.rateBps
    else
      let frac := (tSec - prev.offsetSec) / (next.offsetSec - prev.offsetSec)
      let rate := prev.rateBps + frac * ((next.rateBps - prev.rateBps : ℤ) : ℚ)
      truncate (if rate < 0 then 0 else rate)

/-- `BandwidthAt`, which starts a schedule that has no start time. -/
def bandwidthAt (p : SchedulePattern) (t : ℤ) : ℤ × SchedulePattern :=
  let p := { p with startTime := some (p.startTime.getD t) }
  (p.rateAt (p.position t), p)

end SchedulePattern

/-- The rate of a waypoint with the greatest offset that is not later than the position, or of
the first waypoint when all are later. -/
def StepRate (wp : List ScheduleWaypoint) (tSec : ℚ) (rate : ℤ) : Prop :=
  (∃ w ∈ wp, w.offsetSec ≤ tSec ∧ (∀ v ∈ wp, v.offsetSec ≤ tSec → v.offsetSec ≤ w.offsetSec) ∧
    rate = w.rateBps) ∨
  (∀ w ∈ wp, tSec < w.offsetSec) ∧ ∃ w, wp.head? = some w ∧ rate = w.rateBps

/-- No waypoint between the first and the last is reached at the position, unless one that is
has the rate of the waypoint in front of them. -/
def Settled (wp : List ScheduleWaypoint) (tSec : ℚ) : Prop :=
  ∀ i v w, wp[i]? = some v → wp[i + 1]? = some w → v.offsetSec < tSec → w.offsetSec = tSec →
    (∃ last ∈ wp, tSec < last.offsetSec) →
    ∃ u ∈ wp, u.offsetSec = tSec ∧ u.rateBps = v.rateBps

/-! ## Waypoints in order -/

section Order

variable {wp : List ScheduleWaypoint} {tSec : ℚ} {i j : ℕ}

theorem waypointAt_eq (hi : i < wp.length) : wp[i]? = some (waypointAt wp i) := by
  unfold waypointAt
  rw [List.getD_eq_getElem?_getD, List.getElem?_eq_getElem hi, Option.getD_some]

theorem waypointAt_mem (hi : i < wp.length) : waypointAt wp i ∈ wp :=
  List.mem_of_getElem? (waypointAt_eq hi)

/-- Offsets grow with the index. -/
theorem offset_le (hsorted : wp.Pairwise fun v w => v.offsetSec ≤ w.offsetSec) {v w : ScheduleWaypoint}
    (hij : i ≤ j) (hv : wp[i]? = some v) (hw : wp[j]? = some w) : v.offsetSec ≤ w.offsetSec := by
  rcases Nat.eq_or_lt_of_le hij with rfl | hlt
  · rw [hv] at hw
    exact le_of_eq (congrArg _ (Option.some.inj hw))
  · obtain ⟨hi, rfl⟩ := List.getElem?_eq_some_iff.mp hv
    obtain ⟨hj, rfl⟩ := List.getElem?_eq_some_iff.mp hw
    exact List.pairwise_iff_getElem.mp hsorted i j hi hj hlt

/-- The segment of a position between the first and the last waypoint begins before it and ends
at it or later. -/
theorem segment_spec (hsorted : wp.Pairwise fun v w => v.offsetSec ≤ w.offsetSec)
    (hfirst : (waypointAt wp 0).offsetSec < tSec)
    (hlast : tSec < (waypointAt wp (wp.length - 1)).offsetSec) :
    segment wp tSec + 1 < wp.length ∧ (waypointAt wp (segment wp tSec)).offsetSec < tSec ∧
      tSec ≤ (waypointAt wp (segment wp tSec + 1)).offsetSec := by
  have hrises : BinarySearch.Rises
      (fun i => decide (tSec ≤ (waypointAt wp (i + 1)).offsetSec)) (wp.length - 1) := by
    intro i k hik hk hi
    refine decide_eq_true ((of_decide_eq_true hi).trans ?_)
    exact offset_le hsorted (Nat.add_le_add_right hik 1) (waypointAt_eq (by omega))
      (waypointAt_eq (by omega))
  obtain ⟨hle, hbefore, hafter⟩ := BinarySearch.search_splits hrises
  change segment wp tSec ≤ _ at hle
  change ∀ k < segment wp tSec, _ at hbefore
  change ∀ k, segment wp tSec ≤ k → _ at hafter
  have hlength : 0 < wp.length - 1 := by
    by_contra hzero
    rw [Nat.eq_zero_of_not_pos hzero] at hlast
    exact lt_asymm hfirst hlast
  -- the last waypoint is later than the position, so that the search ends before it
  have hlt : segment wp tSec < wp.length - 1 := by
    by_contra hge
    have heq : segment wp tSec = wp.length - 1 := le_antisymm hle (not_lt.mp hge)
    have hfalse := hbefore (wp.length - 2) (by omega)
    rw [show wp.length - 2 + 1 = wp.length - 1 by omega] at hfalse
    exact of_decide_eq_false hfalse hlast.le
  refine ⟨by omega, ?_, of_decide_eq_true (hafter _ le_rfl hlt)⟩
  rcases Nat.eq_zero_or_pos (segment wp tSec) with hzero | hpos
  · rw [hzero]
    exact hfirst
  · have hfalse := hbefore (segment wp tSec - 1) (by omega)
    rw [Nat.sub_add_cancel hpos] at hfalse
    exact not_le.mp (of_decide_eq_false hfalse)

end Order

/-! ## Steps -/

section Step

variable {p : SchedulePattern} {tSec : ℚ}

/-- With steps, a position before the first or after the last waypoint has its rate, and one in
between that of the last waypoint that it has passed. -/
theorem rateAt_step (tSec : ℚ) (hstep : p.interpolation = "step") (hne : p.waypoints ≠ [])
    (hsorted : p.waypoints.Pairwise fun v w => v.offsetSec ≤ w.offsetSec) :
    (∃ w, p.waypoints.head? = some w ∧ p.rateAt tSec = w.rateBps ∧
        ∀ v ∈ p.waypoints, tSec ≤ v.offsetSec) ∨
      (∃ w ∈ p.waypoints, p.rateAt tSec = w.rateBps ∧ w.offsetSec ≤ tSec ∧
        ∀ v ∈ p.waypoints, v.offsetSec ≤ w.offsetSec) ∨
      ∃ i v w, p.waypoints[i]? = some v ∧ p.waypoints[i + 1]? = some w ∧
        p.rateAt tSec = v.rateBps ∧ v.offsetSec < tSec ∧ tSec ≤ w.offsetSec ∧
        ∃ last ∈ p.waypoints, tSec < last.offsetSec := by
  have hpos : 0 < p.waypoints.length := List.length_pos_iff.mpr hne
  have hhead : p.waypoints.head? = some (waypointAt p.waypoints 0) := by
    rw [List.head?_eq_getElem?]
    exact waypointAt_eq hpos
  have hfirst : ∀ v ∈ p.waypoints, (waypointAt p.waypoints 0).offsetSec ≤ v.offsetSec := by
    intro v hv
    obtain ⟨i, hi⟩ := List.mem_iff_getElem?.mp hv
    exact offset_le hsorted (Nat.zero_le i) (waypointAt_eq hpos) hi
  have hlast : ∀ v ∈ p.waypoints,
      v.offsetSec ≤ (waypointAt p.waypoints (p.waypoints.length - 1)).offsetSec := by
    intro v hv
    obtain ⟨i, hi⟩ := List.mem_iff_getElem?.mp hv
    have hlt := (List.getElem?_eq_some_iff.mp hi).1
    exact offset_le hsorted (by omega) hi (waypointAt_eq (by omega))
  unfold SchedulePattern.rateAt
  dsimp only
  rw [if_neg hpos.ne']
  split_ifs with hone hbefore hafter
  · -- the only waypoint is the first and the last
    have hzero : p.waypoints.length - 1 = 0 := by omega
    rw [hzero] at hlast
    rcases le_total tSec (waypointAt p.waypoints 0).offsetSec with hle | hle
    · exact .inl ⟨_, hhead, rfl, fun v hv => hle.trans (hfirst v hv)⟩
    · exact .inr (.inl ⟨_, waypointAt_mem hpos, rfl, hle, hlast⟩)
  · exact .inl ⟨_, hhead, rfl, fun v hv => hbefore.trans (hfirst v hv)⟩
  · exact .inr (.inl ⟨_, waypointAt_mem (by omega), rfl, hafter, hlast⟩)
  · obtain ⟨hlt, hv, hw⟩ := segment_spec hsorted (not_le.mp hbefore) (not_le.mp hafter)
    exact .inr (.inr ⟨_, _, _, waypointAt_eq (by omega), waypointAt_eq hlt, rfl, hv, hw, _,
      waypointAt_mem (by omega), not_le.mp hafter⟩)

/-- In between, the rate is right unless the next waypoint is reached. -/
theorem stepRate_between {wp : List ScheduleWaypoint}
    (hsorted : wp.Pairwise fun v w => v.offsetSec ≤ w.offsetSec) {i : ℕ} {v w : ScheduleWaypoint}
    (hv : wp[i]? = some v) (hw : wp[i + 1]? = some w) (hlt : v.offsetSec < tSec)
    (hle : tSec ≤ w.offsetSec) (hlast : ∃ last ∈ wp, tSec < last.offsetSec) :
    StepRate wp tSec v.rateBps ↔ Settled wp tSec := by
  have hvmem := List.mem_of_getElem? hv
  have hwmem := List.mem_of_getElem? hw
  -- a waypoint is in front of the position exactly up to the index `i`
  have hindex : ∀ j u, wp[j]? = some u → (u.offsetSec < tSec ↔ j ≤ i) := by
    intro j u hu
    refine ⟨fun hj => ?_, fun hj => (offset_le hsorted hj hu hv).trans_lt hlt⟩
    by_contra hgt
    exact not_lt.mpr (hle.trans (offset_le hsorted (by omega) hw hu)) hj
  constructor
  · rintro (⟨u, hu, hreached, hgreatest, hrate⟩ | ⟨hall, -⟩)
    · intro j v' w' hv' hw' hlt' heq' _
      have hj : j ≤ i := (hindex j v' hv').mp hlt'
      have hj' : ¬j + 1 ≤ i := fun h => (heq' ▸ (hindex (j + 1) w' hw').mpr h).false
      obtain rfl : j = i := by omega
      obtain rfl : v' = v := Option.some.inj (hv'.symm.trans hv)
      refine ⟨u, hu, le_antisymm hreached ?_, hrate.symm⟩
      exact heq' ▸ hgreatest w' (List.mem_of_getElem? hw') heq'.le
    · exact absurd (hall v hvmem) (not_lt.mpr hlt.le)
  · intro hsettled
    rcases eq_or_lt_of_le hle with heq | hgt
    · obtain ⟨u, hu, hoffset, hrate⟩ := hsettled i v w hv hw hlt heq.symm hlast
      exact .inl ⟨u, hu, hoffset.le, fun x _ hx => hoffset ▸ hx, hrate.symm⟩
    · refine .inl ⟨v, hvmem, hlt.le, fun x hx hreached => ?_, rfl⟩
      obtain ⟨j, hj⟩ := List.mem_iff_getElem?.mp hx
      by_cases hij : j ≤ i
      · exact offset_le hsorted hij hj hv
      · have hge := offset_le hsorted (show i + 1 ≤ j by omega) hw hj
        exact absurd (hgt.trans_le hge) (not_lt.mpr hreached)

/-- The rate of a schedule with steps is right exactly when no waypoint in between is reached. -/
theorem stepRate_iff (tSec : ℚ) (hstep : p.interpolation = "step") (hne : p.waypoints ≠ [])
    (hsorted : p.waypoints.Pairwise fun v w => v.offsetSec ≤ w.offsetSec) :
    StepRate p.waypoints tSec (p.rateAt tSec) ↔ Settled p.waypoints tSec := by
  obtain ⟨w, hhead, hrate, hall⟩ | ⟨w, hw, hrate, hle, hall⟩ |
    ⟨i, v, w, hv, hw, hrate, hlt, hle, hlast⟩ := rateAt_step tSec hstep hne hsorted
  · refine iff_of_true ?_ fun i v _ hv _ hlt _ _ =>
      absurd hlt (not_lt.mpr (hall v (List.mem_of_getElem? hv)))
    rw [hrate]
    have hmem : w ∈ p.waypoints := List.mem_of_mem_head? hhead
    rcases eq_or_lt_of_le (hall w hmem) with heq | hlt
    · exact .inl ⟨w, hmem, heq.ge, fun v _ hv => heq ▸ hv, rfl⟩
    · refine .inr ⟨fun v hv => hlt.trans_le ?_, w, hhead, rfl⟩
      rw [List.head?_eq_getElem?] at hhead
      obtain ⟨i, hi⟩ := List.mem_iff_getElem?.mp hv
      exact offset_le hsorted (Nat.zero_le i) hhead hi
  · rw [hrate]
    refine iff_of_true (.inl ⟨w, hw, hle, fun v hv _ => hall v hv, rfl⟩) ?_
    rintro i v _ - - - - ⟨last, hmem, hlt⟩
    exact absurd (hle.trans_lt hlt) (not_lt.mpr (hall last hmem))
  · rw [hrate]
    exact stepRate_between hsorted hv hw hlt hle hlast

end Step

section Parsed

variable {ε : Type} {parseFloat : String → Option ℚ} {parseRate : String → Except ε ℤ}
  {slice : SortSlice} {raw : List Waypoint} {wp : List ScheduleWaypoint}

/-- Parsed waypoints are in order, and there are as many as were given. -/
theorem parseWaypoints_spec (h : parseWaypoints parseFloat parseRate slice raw = .ok wp) :
    wp.length = raw.length ∧ wp.Pairwise fun v w => v.offsetSec ≤ w.offsetSec := by
  unfold parseWaypoints at h
  cases hparse : collect (parseWaypoint parseFloat parseRate) raw with
  | error err =>
    rw [hparse] at h
    cases h
  | ok result =>
    rw [hparse] at h
    cases h
    refine ⟨?_, slice.sorted result⟩
    rw [(slice.perm result).length_eq]
    exact (collect_eq_ok.mp hparse).length_eq.symm

end Parsed

/-! ## A day of work -/

/-- Waypoints in order, with equal offsets as they were given. -/
def stableSlice : SortSlice where
  sort l := l.insertionSort fun v w => v.offsetSec ≤ w.offsetSec
  perm l := List.perm_insertionSort _ l
  sorted l := List.pairwise_insertionSort _ l

def businessHours : List Waypoint := [⟨"09:00", "80"⟩, ⟨"00:00", "5"⟩, ⟨"18:00", "30"⟩]

/-- Rates as plain numbers. -/
def plainRate (text : String) : Except Unit ℤ :=
  match atoi text with
  | some n => .ok n
  | none => .error ()

def businessWaypoints : List ScheduleWaypoint := [⟨0, 5⟩, ⟨32400, 80⟩, ⟨64800, 30⟩]

theorem parse_businessHours :
    parseWaypoints (fun _ => none) plainRate stableSlice businessHours = .ok businessWaypoints := by
  rfl

/-- **When steps switch at the waypoints.** The rate is that of a waypoint with the greatest
offset that is not later than the position, unless the position is the offset of a waypoint
strictly between the first and the last: there it is still the rate of the waypoint in front. -/
theorem step_rate_iff {ε : Type} (parseFloat : String → Option ℚ) (parseRate : String → Except ε ℤ)
    (slice : SortSlice) (raw : List Waypoint) (wp : List ScheduleWaypoint) (hne : raw ≠ [])
    (hparse : parseWaypoints parseFloat parseRate slice raw = .ok wp) (repeatSec : ℚ)
    (timeReference : String) (startTime : Option ℤ) (t : ℤ) :
    let p : SchedulePattern := ⟨wp, "step", repeatSec, timeReference, startTime⟩
    StepRate wp (p.position t) (p.bandwidthAt t).1 ↔ Settled wp (p.position t) := by
  intro p
  obtain ⟨hlength, hsorted⟩ := parseWaypoints_spec hparse
  have hwp : wp ≠ [] := by
    rw [← List.length_pos_iff, hlength]
    exact List.length_pos_iff.mpr hne
  have hposition : ({ p with startTime := some (p.startTime.getD t) } : SchedulePattern).position t =
      p.position t := rfl
  have hrate := stepRate_iff (p := { p with startTime := some (p.startTime.getD t) })
    (p.position t) rfl hwp hsorted
  rw [← hposition] at hrate ⊢
  exact hrate

/-- The business hours of every day, in steps. -/
def businessPattern : SchedulePattern := ⟨businessWaypoints, "step", 86400, "wall_clock", none⟩

/-- Nine o'clock. -/
def nine : ℤ := 32400000000000

theorem step_rate_iff_nine :
    StepRate businessWaypoints (businessPattern.position nine) (businessPattern.bandwidthAt nine).1 ↔
      Settled businessWaypoints (businessPattern.position nine) :=
  step_rate_iff _ _ _ _ _ (by decide) parse_businessHours 86400 "wall_clock" none nine

/-- At nine o'clock the rate is still that of midnight. -/
theorem nine_is_late :
    parseWaypoints (fun _ => none) plainRate stableSlice businessHours = .ok businessWaypoints ∧
      businessPattern.position nine = 32400 ∧ (businessPattern.bandwidthAt nine).1 = 5 ∧
      ¬StepRate businessWaypoints (businessPattern.position nine)
        (businessPattern.bandwidthAt nine).1 := by
  have hposition : businessPattern.position nine = 32400 := by decide +kernel
  have hrate : (businessPattern.bandwidthAt nine).1 = 5 := by decide +kernel
  refine ⟨parse_businessHours, hposition, hrate, ?_⟩
  rw [hposition, hrate]
  rintro (⟨w, hw, -, hgreatest, hw'⟩ | ⟨hall, -⟩)
  · have hnine := hgreatest ⟨32400, 80⟩ (by decide) le_rfl
    simp only [businessWaypoints, List.mem_cons, List.not_mem_nil, or_false] at hw
    rcases hw with rfl | rfl | rfl
    · exact absurd hnine (by decide)
    · exact absurd hw' (by decide)
    · exact absurd hw' (by decide)
  · exact absurd (hall ⟨0, 5⟩ (by decide)) (by decide)

end GnnSandbox.Agent
