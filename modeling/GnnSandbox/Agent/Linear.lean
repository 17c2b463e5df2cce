import GnnSandbox.Agent.Schedule
import Mathlib.Data.Rat.Floor
import Mathlib.Tactic.Linarith
import Mathlib.Tactic.Positivity
import Mathlib.Tactic.Ring

/-!
# Schedules between waypoints

Without steps the rate follows the line through the two waypoints around the position. The
segment that the search finds begins strictly before the position, so that it has a length, and
on a segment the rate is the line's value without its fraction.
-/

namespace GnnSandbox.Agent

/-- The line through two waypoints. -/
def line (v w : ScheduleWaypoint) (x : ℚ) : ℚ :=
  v.rateBps + (x - v.offsetSec) / (w.offsetSec - v.offsetSec) * ((w.rateBps - v.rateBps : ℤ) : ℚ)

/-- The rate that a value of the line becomes. -/
def lineRate (v w : ScheduleWaypoint) (x : ℚ) : ℤ :=
  truncate (if line v w x < 0 then 0 else line v w x)

/-- The rate of a position on the segment of two waypoints. -/
def segmentRate (interpolation : String) (v w : ScheduleWaypoint) (x : ℚ) : ℤ :=
  if interpolation = "step" then v.rateBps else lineRate v w x

namespace SchedulePattern

/-- The divisor of the interpolation at a position, where there is an interpolation. -/
def divisor (p : SchedulePattern) (tSec : ℚ) : Option ℚ :=
  let wp := p.waypoints
  if wp.length ≤ 1 ∨ tSec ≤ (waypointAt wp 0).offsetSec ∨
      (waypointAt wp (wp.length - 1)).offsetSec ≤ tSec ∨ p.interpolation = "step" then none
  else some ((waypointAt wp (segment wp tSec + 1)).offsetSec -
    (waypointAt wp (segment wp tSec)).offsetSec)

end SchedulePattern

/-- A rate at every position: no division by zero, the end rates outside the range, a rate
between those of two adjacent waypoints around a position within it, and between two adjacent
waypoints rates that rise or fall as theirs do. Waypoints with different offsets have their own
rate at them. -/
structure WellDefined (p : SchedulePattern) : Prop where
  divides : ∀ x d, p.divisor x = some d → d ≠ 0 ∧ ∃ v ∈ p.waypoints, ∃ w ∈ p.waypoints,
    w.offsetSec - v.offsetSec = d ∧ p.rateAt x = lineRate v w x
  before : ∀ first, p.waypoints.head? = some first → ∀ x < first.offsetSec,
    p.rateAt x = first.rateBps
  after : ∀ last, p.waypoints.getLast? = some last → ∀ x, last.offsetSec < x →
    p.rateAt x = last.rateBps
  enclosed : 2 ≤ p.waypoints.length → ∀ first last, p.waypoints.head? = some first →
    p.waypoints.getLast? = some last → ∀ x, first.offsetSec ≤ x → x ≤ last.offsetSec →
    ∃ i v w, p.waypoints[i]? = some v ∧ p.waypoints[i + 1]? = some w ∧ v.offsetSec ≤ x ∧
      x ≤ w.offsetSec ∧ min v.rateBps w.rateBps ≤ p.rateAt x ∧
      p.rateAt x ≤ max v.rateBps w.rateBps
  monotone : ∀ i v w, p.waypoints[i]? = some v → p.waypoints[i + 1]? = some w →
    ∀ x y, v.offsetSec < x → x ≤ y → y < w.offsetSec →
      (v.rateBps ≤ w.rateBps → p.rateAt x ≤ p.rateAt y) ∧
      (w.rateBps ≤ v.rateBps → p.rateAt y ≤ p.rateAt x)
  atWaypoint : (p.waypoints.map ScheduleWaypoint.offsetSec).Nodup →
    ∀ w ∈ p.waypoints, p.rateAt w.offsetSec = w.rateBps
  closed : (p.waypoints.map ScheduleWaypoint.offsetSec).Nodup →
    ∀ i v w, p.waypoints[i]? = some v → p.waypoints[i + 1]? = some w →
    ∀ x y, v.offsetSec ≤ x → x ≤ y → y ≤ w.offsetSec →
      (v.rateBps ≤ w.rateBps → p.rateAt x ≤ p.rateAt y) ∧
      (w.rateBps ≤ v.rateBps → p.rateAt y ≤ p.rateAt x)

/-! ## The line -/

section Line

variable {v w : ScheduleWaypoint} {x y : ℚ}

theorem truncate_of_nonneg (h : 0 ≤ x) : truncate x = ⌊x⌋ := by
  rw [Rat.floor_def', truncate, Int.tdiv_eq_ediv_of_nonneg (Rat.num_nonneg.mpr h)]

/-- The line between its ends is a mean of their rates. -/
theorem line_eq_mean (v w : ScheduleWaypoint) (x : ℚ) :
    line v w x = v.rateBps + (x - v.offsetSec) / (w.offsetSec - v.offsetSec) *
      ((w.rateBps : ℚ) - v.rateBps) := by
  rw [line, Int.cast_sub]

theorem line_left (v w : ScheduleWaypoint) : line v w v.offsetSec = v.rateBps := by
  rw [line, sub_self, zero_div, zero_mul, add_zero]

theorem line_right (h : v.offsetSec < w.offsetSec) : line v w w.offsetSec = w.rateBps := by
  rw [line_eq_mean, div_self (sub_pos.mpr h).ne']
  ring

/-- The line rises to a higher rate. -/
theorem line_le_line (h : v.offsetSec < w.offsetSec) (hrate : v.rateBps ≤ w.rateBps) (hxy : x ≤ y) :
    line v w x ≤ line v w y := by
  have hpos : 0 < w.offsetSec - v.offsetSec := sub_pos.mpr h
  have hrise : (0 : ℚ) ≤ (w.rateBps : ℚ) - v.rateBps := sub_nonneg.mpr (Int.cast_le.mpr hrate)
  rw [line_eq_mean, line_eq_mean]
  refine add_le_add_right (mul_le_mul_of_nonneg_right ?_ hrise) _
  exact div_le_div_of_nonneg_right (sub_le_sub_right hxy _) hpos.le

/-- The line falls to a lower rate. -/
theorem line_le_line_of_ge (h : v.offsetSec < w.offsetSec) (hrate : w.rateBps ≤ v.rateBps)
    (hxy : x ≤ y) : line v w y ≤ line v w x := by
  have hpos : 0 < w.offsetSec - v.offsetSec := sub_pos.mpr h
  have hfall : (w.rateBps : ℚ) - v.rateBps ≤ 0 := sub_nonpos.mpr (Int.cast_le.mpr hrate)
  rw [line_eq_mean, line_eq_mean]
  refine add_le_add_right (mul_le_mul_of_nonpos_right ?_ hfall) _
  exact div_le_div_of_nonneg_right (sub_le_sub_right hxy _) hpos.le

/-- Between its ends the line stays between their rates. -/
theorem line_mem (h : v.offsetSec < w.offsetSec) (hv : v.offsetSec ≤ x) (hw : x ≤ w.offsetSec) :
    ((min v.rateBps w.rateBps : ℤ) : ℚ) ≤ line v w x ∧
      line v w x ≤ ((max v.rateBps w.rateBps : ℤ) : ℚ) := by
  rcases le_total v.rateBps w.rateBps with hrate | hrate
  · rw [min_eq_left hrate, max_eq_right hrate, ← line_left v w, ← line_right h]
    exact ⟨line_le_line h hrate hv, line_le_line h hrate hw⟩
  · rw [min_eq_right hrate, max_eq_left hrate, ← line_left v w, ← line_right h]
    exact ⟨line_le_line_of_ge h hrate hw, line_le_line_of_ge h hrate hv⟩

/-- With rates that are not negative the rate is the line's value without its fraction. -/
theorem lineRate_eq_floor (h : v.offsetSec < w.offsetSec) (hv : v.offsetSec ≤ x)
    (hw : x ≤ w.offsetSec) (hv₀ : 0 ≤ v.rateBps) (hw₀ : 0 ≤ w.rateBps) :
    lineRate v w x = ⌊line v w x⌋ := by
  have hline : 0 ≤ line v w x := by
    refine le_trans ?_ (line_mem h hv hw).1
    exact Int.cast_nonneg (le_min hv₀ hw₀)
  rw [lineRate, if_neg (not_lt.mpr hline), truncate_of_nonneg hline]

theorem lineRate_mem (h : v.offsetSec < w.offsetSec) (hv : v.offsetSec ≤ x) (hw : x ≤ w.offsetSec)
    (hv₀ : 0 ≤ v.rateBps) (hw₀ : 0 ≤ w.rateBps) :
    min v.rateBps w.rateBps ≤ lineRate v w x ∧ lineRate v w x ≤ max v.rateBps w.rateBps := by
  obtain ⟨hmin, hmax⟩ := line_mem h hv hw
  rw [lineRate_eq_floor h hv hw hv₀ hw₀]
  refine ⟨Int.le_floor.mpr hmin, ?_⟩
  have hfloor := Int.floor_le_floor hmax
  rwa [Int.floor_intCast] at hfloor

end Line

/-! ## The rate of a position -/

section Rate

variable {p : SchedulePattern} {x y : ℚ} {i : ℕ} {v w : ScheduleWaypoint}

theorem segmentRate_of_linear (hlin : p.interpolation ≠ "step") (v w : ScheduleWaypoint) (x : ℚ) :
    segmentRate p.interpolation v w x = lineRate v w x := if_neg hlin

theorem rateAt_eq (p : SchedulePattern) (x : ℚ) :
    p.rateAt x =
      if p.waypoints.length = 0 then 0
      else if p.waypoints.length = 1 then (waypointAt p.waypoints 0).rateBps
      else if x ≤ (waypointAt p.waypoints 0).offsetSec then (waypointAt p.waypoints 0).rateBps
      else if (waypointAt p.waypoints (p.waypoints.length - 1)).offsetSec ≤ x then
        (waypointAt p.waypoints (p.waypoints.length - 1)).rateBps
      else segmentRate p.interpolation (waypointAt p.waypoints (segment p.waypoints x))
        (waypointAt p.waypoints (segment p.waypoints x + 1)) x := rfl

/-- A position up to the first or from the last waypoint on has its rate, and one in between
that of its segment. -/
theorem rateAt_cases (x : ℚ) (hne : p.waypoints ≠ [])
    (hsorted : p.waypoints.Pairwise fun v w => v.offsetSec ≤ w.offsetSec) :
    (∃ first, p.waypoints.head? = some first ∧ p.rateAt x = first.rateBps ∧
        (x ≤ first.offsetSec ∨ p.waypoints.length = 1)) ∨
      (∃ last, p.waypoints.getLast? = some last ∧ p.rateAt x = last.rateBps ∧
        last.offsetSec ≤ x) ∨
      ∃ i v w, p.waypoints[i]? = some v ∧ p.waypoints[i + 1]? = some w ∧ v.offsetSec < x ∧
        x ≤ w.offsetSec ∧ (∀ last, p.waypoints.getLast? = some last → x < last.offsetSec) ∧
        p.rateAt x = segmentRate p.interpolation v w x := by
  have hpos : 0 < p.waypoints.length := List.length_pos_iff.mpr hne
  have hhead : p.waypoints.head? = some (waypointAt p.waypoints 0) := by
    rw [List.head?_eq_getElem?]
    exact waypointAt_eq hpos
  have hlast : p.waypoints.getLast? = some (waypointAt p.waypoints (p.waypoints.length - 1)) := by
    rw [List.getLast?_eq_getElem?]
    exact waypointAt_eq (by omega)
  rw [rateAt_eq, if_neg hpos.ne']
  split_ifs with hone hbefore hafter
  · exact .inl ⟨_, hhead, rfl, .inr hone⟩
  · exact .inl ⟨_, hhead, rfl, .inl hbefore⟩
  · exact .inr (.inl ⟨_, hlast, rfl, hafter⟩)
  · obtain ⟨hlt, hv, hw⟩ := segment_spec hsorted (not_le.mp hbefore) (not_le.mp hafter)
    refine .inr (.inr ⟨_, _, _, waypointAt_eq (by omega), waypointAt_eq hlt, hv, hw, ?_, rfl⟩)
    intro last hlast'
    rw [← Option.some.inj (hlast.symm.trans hlast')]
    exact not_le.mp hafter

/-- Without steps the rate of a segment is that of its line. -/
theorem rateAt_linear (x : ℚ) (hlin : p.interpolation ≠ "step") (hne : p.waypoints ≠ [])
    (hsorted : p.waypoints.Pairwise fun v w => v.offsetSec ≤ w.offsetSec) :
    (∃ first, p.waypoints.head? = some first ∧ p.rateAt x = first.rateBps ∧
        (x ≤ first.offsetSec ∨ p.waypoints.length = 1)) ∨
      (∃ last, p.waypoints.getLast? = some last ∧ p.rateAt x = last.rateBps ∧
        last.offsetSec ≤ x) ∨
      ∃ i v w, p.waypoints[i]? = some v ∧ p.waypoints[i + 1]? = some w ∧ v.offsetSec < x ∧
        x ≤ w.offsetSec ∧ p.rateAt x = lineRate v w x := by
  rcases rateAt_cases x hne hsorted with hfirst | hlast | ⟨i, v, w, hv, hw, hlt, hle, -, hrate⟩
  · exact .inl hfirst
  · exact .inr (.inl hlast)
  · exact .inr (.inr ⟨i, v, w, hv, hw, hlt, hle, hrate.trans (segmentRate_of_linear hlin v w x)⟩)

/-- The divisor is the length of a segment that begins before the position. -/
theorem divisor_pos (hsorted : p.waypoints.Pairwise fun v w => v.offsetSec ≤ w.offsetSec) {d : ℚ}
    (hd : p.divisor x = some d) : 0 < d := by
  unfold SchedulePattern.divisor at hd
  dsimp only at hd
  split_ifs at hd with hnone
  obtain rfl := Option.some.inj hd
  rw [not_or, not_or, not_or] at hnone
  obtain ⟨-, hbefore, hafter, -⟩ := hnone
  obtain ⟨-, hv, hw⟩ := segment_spec hsorted (not_le.mp hbefore) (not_le.mp hafter)
  exact sub_pos.mpr (hv.trans_le hw)

/-- Where there is a divisor it divides in the rate. -/
theorem rateAt_of_divisor (hsorted : p.waypoints.Pairwise fun v w => v.offsetSec ≤ w.offsetSec)
    {d : ℚ} (hd : p.divisor x = some d) :
    ∃ v ∈ p.waypoints, ∃ w ∈ p.waypoints, w.offsetSec - v.offsetSec = d ∧
      p.rateAt x = lineRate v w x := by
  unfold SchedulePattern.divisor at hd
  dsimp only at hd
  split_ifs at hd with hnone
  obtain rfl := Option.some.inj hd
  rw [not_or, not_or, not_or, not_le] at hnone
  obtain ⟨hlength, hbefore, hafter, hstep⟩ := hnone
  obtain ⟨hlt, -⟩ := segment_spec hsorted (not_le.mp hbefore) (not_le.mp hafter)
  refine ⟨_, waypointAt_mem (by omega), _, waypointAt_mem hlt, rfl, ?_⟩
  rw [rateAt_eq, if_neg (by omega), if_neg (by omega), if_neg hbefore, if_neg hafter,
    segmentRate_of_linear hstep]

/-- After a waypoint and up to the next one, but before the last, the rate is that of their
segment. -/
theorem rateAt_segment (hsorted : p.waypoints.Pairwise fun v w => v.offsetSec ≤ w.offsetSec)
    (hv : p.waypoints[i]? = some v) (hw : p.waypoints[i + 1]? = some w) (hvx : v.offsetSec < x)
    (hxw : x ≤ w.offsetSec)
    (hbefore : ∀ last, p.waypoints.getLast? = some last → x < last.offsetSec) :
    p.rateAt x = segmentRate p.interpolation v w x := by
  have hne : p.waypoints ≠ [] := by
    intro hnil
    rw [hnil] at hv
    cases hv
  have hlength := (List.getElem?_eq_some_iff.mp hw).1
  rcases rateAt_cases x hne hsorted with ⟨first, hfirst, -, hle | hone⟩ |
    ⟨last, hlast, -, hle⟩ | ⟨j, v', w', hv', hw', hlt, hle, -, hrate⟩
  · rw [List.head?_eq_getElem?] at hfirst
    have hfirst' := offset_le hsorted (Nat.zero_le i) hfirst hv
    exact absurd (hvx.trans_le (hle.trans hfirst')) (lt_irrefl _)
  · omega
  · exact absurd ((hbefore last hlast).trans_le hle) (lt_irrefl _)
  · -- no other segment holds the position
    have hij : i = j := by
      rcases lt_trichotomy i j with hij | hij | hij
      · exact absurd ((hxw.trans (offset_le hsorted hij hw hv')).trans_lt hlt) (lt_irrefl _)
      · exact hij
      · exact absurd ((hle.trans (offset_le hsorted hij hw' hv)).trans_lt hvx) (lt_irrefl _)
    subst hij
    obtain rfl := Option.some.inj (hv'.symm.trans hv)
    obtain rfl := Option.some.inj (hw'.symm.trans hw)
    exact hrate

/-- Strictly between two adjacent waypoints the rate is that of their line. -/
theorem rateAt_between (hlin : p.interpolation ≠ "step")
    (hsorted : p.waypoints.Pairwise fun v w => v.offsetSec ≤ w.offsetSec)
    (hv : p.waypoints[i]? = some v) (hw : p.waypoints[i + 1]? = some w) (hvx : v.offsetSec < x)
    (hxw : x < w.offsetSec) : p.rateAt x = lineRate v w x := by
  have hlength := (List.getElem?_eq_some_iff.mp hw).1
  have hbefore : ∀ last, p.waypoints.getLast? = some last → x < last.offsetSec := by
    intro last hlast
    rw [List.getLast?_eq_getElem?] at hlast
    exact hxw.trans_le (offset_le hsorted (by omega) hw hlast)
  rw [rateAt_segment hsorted hv hw hvx hxw.le hbefore, segmentRate_of_linear hlin]

/-- Waypoints with different offsets are told by them. -/
theorem eq_of_offset_eq (hdistinct : (p.waypoints.map ScheduleWaypoint.offsetSec).Nodup)
    (hv : v ∈ p.waypoints) (hw : w ∈ p.waypoints) (h : v.offsetSec = w.offsetSec) : v = w :=
  List.inj_on_of_nodup_map hdistinct hv hw h

/-- With different offsets the rate at a waypoint is its own. -/
theorem rateAt_offset (hlin : p.interpolation ≠ "step")
    (hsorted : p.waypoints.Pairwise fun v w => v.offsetSec ≤ w.offsetSec)
    (hdistinct : (p.waypoints.map ScheduleWaypoint.offsetSec).Nodup) (hrates : ∀ v ∈ p.waypoints,
      0 ≤ v.rateBps) (hw : w ∈ p.waypoints) : p.rateAt w.offsetSec = w.rateBps := by
  obtain ⟨j, hj⟩ := List.mem_iff_getElem?.mp hw
  rcases rateAt_linear w.offsetSec hlin (List.ne_nil_of_mem hw) hsorted with
    ⟨first, hfirst, hrate, hle | hone⟩ | ⟨last, hlast, hrate, hle⟩ |
    ⟨i, v', w', hv', hw', hlt, hle, hrate⟩
  · have hmem := List.mem_of_head? hfirst
    rw [List.head?_eq_getElem?] at hfirst
    have hsame := le_antisymm hle (offset_le hsorted (Nat.zero_le j) hfirst hj)
    rw [hrate, eq_of_offset_eq hdistinct hw hmem hsame]
  · have hlt := (List.getElem?_eq_some_iff.mp hj).1
    obtain rfl : j = 0 := by omega
    rw [List.head?_eq_getElem?, hj] at hfirst
    rw [hrate, Option.some.inj hfirst]
  · have hmem := List.mem_of_getLast? hlast
    rw [List.getLast?_eq_getElem?] at hlast
    have hlt := (List.getElem?_eq_some_iff.mp hj).1
    have hsame := le_antisymm hle (offset_le hsorted (by omega) hj hlast)
    rw [hrate, eq_of_offset_eq hdistinct hmem hw hsame]
  · -- the segment ends at the waypoint
    have hij : i + 1 ≤ j := by
      by_contra hji
      exact absurd (hlt.trans_le (offset_le hsorted (by omega) hj hv')) (lt_irrefl _)
    have hmem := List.mem_of_getElem? hw'
    obtain rfl := eq_of_offset_eq hdistinct hmem hw
      (le_antisymm (offset_le hsorted hij hw' hj) hle)
    rw [hrate, lineRate_eq_floor hlt hlt.le le_rfl (hrates _ (List.mem_of_getElem? hv'))
      (hrates _ hmem), line_right hlt, Int.floor_intCast]

/-- The rate of a line rises or falls with it. -/
theorem lineRate_monotone (h : v.offsetSec < w.offsetSec) (hv : 0 ≤ v.rateBps) (hw : 0 ≤ w.rateBps)
    (hvx : v.offsetSec ≤ x) (hxy : x ≤ y) (hyw : y ≤ w.offsetSec) :
    (v.rateBps ≤ w.rateBps → lineRate v w x ≤ lineRate v w y) ∧
      (w.rateBps ≤ v.rateBps → lineRate v w y ≤ lineRate v w x) := by
  rw [lineRate_eq_floor h hvx (hxy.trans hyw) hv hw,
    lineRate_eq_floor h (hvx.trans hxy) hyw hv hw]
  exact ⟨fun hrate => Int.floor_le_floor (line_le_line h hrate hxy),
    fun hrate => Int.floor_le_floor (line_le_line_of_ge h hrate hxy)⟩

/-- With different offsets the rate is that of the line at its ends as well. -/
theorem rateAt_eq_lineRate (hlin : p.interpolation ≠ "step")
    (hsorted : p.waypoints.Pairwise fun v w => v.offsetSec ≤ w.offsetSec)
    (hdistinct : (p.waypoints.map ScheduleWaypoint.offsetSec).Nodup) (hrates : ∀ v ∈ p.waypoints,
      0 ≤ v.rateBps) (hv : p.waypoints[i]? = some v) (hw : p.waypoints[i + 1]? = some w)
    (h : v.offsetSec < w.offsetSec) (hvx : v.offsetSec ≤ x) (hxw : x ≤ w.offsetSec) :
    p.rateAt x = lineRate v w x := by
  have hvmem := List.mem_of_getElem? hv
  have hwmem := List.mem_of_getElem? hw
  rcases eq_or_lt_of_le hvx with rfl | hlt
  · rw [rateAt_offset hlin hsorted hdistinct hrates hvmem,
      lineRate_eq_floor h le_rfl hxw (hrates v hvmem) (hrates w hwmem), line_left,
      Int.floor_intCast]
  · rcases eq_or_lt_of_le hxw with rfl | hgt
    · rw [rateAt_offset hlin hsorted hdistinct hrates hwmem,
        lineRate_eq_floor h hvx le_rfl (hrates v hvmem) (hrates w hwmem), line_right h,
        Int.floor_intCast]
    · exact rateAt_between hlin hsorted hv hw hlt hgt

/-- A position in the range has two adjacent waypoints around it. -/
theorem rateAt_enclosed (hlin : p.interpolation ≠ "step")
    (hsorted : p.waypoints.Pairwise fun v w => v.offsetSec ≤ w.offsetSec)
    (hrates : ∀ v ∈ p.waypoints, 0 ≤ v.rateBps) (hlength : 2 ≤ p.waypoints.length)
    {first last : ScheduleWaypoint} (hfirst : p.waypoints.head? = some first)
    (hlast : p.waypoints.getLast? = some last) (hx : first.offsetSec ≤ x)
    (hx' : x ≤ last.offsetSec) :
    ∃ i v w, p.waypoints[i]? = some v ∧ p.waypoints[i + 1]? = some w ∧ v.offsetSec ≤ x ∧
      x ≤ w.offsetSec ∧ min v.rateBps w.rateBps ≤ p.rateAt x ∧
      p.rateAt x ≤ max v.rateBps w.rateBps := by
  have hne : p.waypoints ≠ [] := by
    intro hnil
    rw [hnil] at hfirst
    cases hfirst
  rcases rateAt_linear x hlin hne hsorted with ⟨first', hfirst', hrate, hle⟩ |
    ⟨last', hlast', hrate, hle⟩ | ⟨i, v, w, hv, hw, hlt, hle, hrate⟩
  · obtain rfl := Option.some.inj (hfirst'.symm.trans hfirst)
    have hsecond : p.waypoints[1]? = some (waypointAt p.waypoints 1) := waypointAt_eq hlength
    have hat : x = first'.offsetSec := by
      rcases hle with hle | hone
      · exact le_antisymm hle hx
      · omega
    rw [List.head?_eq_getElem?] at hfirst
    refine ⟨0, first', _, hfirst, hsecond, hx, ?_, ?_, ?_⟩
    · rw [hat]
      exact offset_le hsorted (Nat.zero_le 1) hfirst hsecond
    · rw [hrate]
      exact min_le_left _ _
    · rw [hrate]
      exact le_max_left _ _
  · obtain rfl := Option.some.inj (hlast'.symm.trans hlast)
    have hsecond : p.waypoints[p.waypoints.length - 2]? =
        some (waypointAt p.waypoints (p.waypoints.length - 2)) := waypointAt_eq (by omega)
    rw [List.getLast?_eq_getElem?] at hlast
    refine ⟨p.waypoints.length - 2, _, last', hsecond, ?_, ?_, hx', ?_, ?_⟩
    · rw [show p.waypoints.length - 2 + 1 = p.waypoints.length - 1 by omega]
      exact hlast
    · exact (offset_le hsorted (by omega) hsecond hlast).trans hle
    · rw [hrate]
      exact min_le_right _ _
    · rw [hrate]
      exact le_max_right _ _
  · obtain ⟨hmin, hmax⟩ := lineRate_mem (hlt.trans_le hle) hlt.le hle
      (hrates v (List.mem_of_getElem? hv)) (hrates w (List.mem_of_getElem? hw))
    rw [hrate]
    exact ⟨i, v, w, hv, hw, hlt.le, hle, hmin, hmax⟩

/-- Sorted waypoints with rates that are not negative give a rate at every position. -/
theorem wellDefined_of_sorted (hlin : p.interpolation ≠ "step")
    (hsorted : p.waypoints.Pairwise fun v w => v.offsetSec ≤ w.offsetSec)
    (hrates : ∀ v ∈ p.waypoints, 0 ≤ v.rateBps) : WellDefined p where
  divides _ _ hd := ⟨(divisor_pos hsorted hd).ne', rateAt_of_divisor hsorted hd⟩
  before first hfirst x hx := by
    have hmem := List.mem_of_head? hfirst
    rcases rateAt_linear x hlin (List.ne_nil_of_mem hmem) hsorted with ⟨first', hfirst', hrate, -⟩ |
      ⟨last, hlast, -, hle⟩ | ⟨i, v, w, hv, -, hlt, -⟩
    · rw [hrate, Option.some.inj (hfirst'.symm.trans hfirst)]
    · rw [List.getLast?_eq_getElem?] at hlast
      rw [List.head?_eq_getElem?] at hfirst
      have hfirst' := offset_le hsorted (Nat.zero_le _) hfirst hlast
      exact absurd (hx.trans_le (hfirst'.trans hle)) (lt_irrefl _)
    · rw [List.head?_eq_getElem?] at hfirst
      have hfirst' := offset_le hsorted (Nat.zero_le i) hfirst hv
      exact absurd (hx.trans_le (hfirst'.trans hlt.le)) (lt_irrefl _)
  after last hlast x hx := by
    have hmem := List.mem_of_getLast? hlast
    rcases rateAt_linear x hlin (List.ne_nil_of_mem hmem) hsorted with
      ⟨first, hfirst, hrate, hle | hone⟩ | ⟨last', hlast', hrate, -⟩ | ⟨i, v, w, -, hw, -, hle, -⟩
    · rw [List.getLast?_eq_getElem?] at hlast
      rw [List.head?_eq_getElem?] at hfirst
      have hfirst' := offset_le hsorted (Nat.zero_le _) hfirst hlast
      exact absurd (hx.trans_le (hle.trans hfirst')) (lt_irrefl _)
    · rw [List.getLast?_eq_getElem?, hone] at hlast
      rw [List.head?_eq_getElem?] at hfirst
      rw [hrate, Option.some.inj (hfirst.symm.trans hlast)]
    · rw [hrate, Option.some.inj (hlast'.symm.trans hlast)]
    · rw [List.getLast?_eq_getElem?] at hlast
      have hlt := (List.getElem?_eq_some_iff.mp hw).1
      have hlast' := offset_le hsorted (by omega) hw hlast
      exact absurd (hx.trans_le (hle.trans hlast')) (lt_irrefl _)
  enclosed hlength _ _ hfirst hlast _ hx hx' :=
    rateAt_enclosed hlin hsorted hrates hlength hfirst hlast hx hx'
  monotone i v w hv hw x y hvx hxy hyw := by
    rw [rateAt_between hlin hsorted hv hw hvx (hxy.trans_lt hyw),
      rateAt_between hlin hsorted hv hw (hvx.trans_le hxy) hyw]
    exact lineRate_monotone ((hvx.trans_le hxy).trans hyw) (hrates v (List.mem_of_getElem? hv))
      (hrates w (List.mem_of_getElem? hw)) hvx.le hxy hyw.le
  atWaypoint hdistinct _ hw := rateAt_offset hlin hsorted hdistinct hrates hw
  closed hdistinct i v w hv hw x y hvx hxy hyw := by
    have hvmem := List.mem_of_getElem? hv
    have hwmem := List.mem_of_getElem? hw
    rcases eq_or_lt_of_le (hvx.trans (hxy.trans hyw)) with heq | hlt
    · obtain rfl := eq_of_offset_eq hdistinct hvmem hwmem heq
      have hsame : x = y := le_antisymm hxy (hyw.trans hvx)
      exact ⟨fun _ => hsame ▸ le_rfl, fun _ => hsame ▸ le_rfl⟩
    · rw [rateAt_eq_lineRate hlin hsorted hdistinct hrates hv hw hlt hvx (hxy.trans hyw),
        rateAt_eq_lineRate hlin hsorted hdistinct hrates hv hw hlt (hvx.trans hxy) hyw]
      exact lineRate_monotone hlt (hrates v hvmem) (hrates w hwmem) hvx hxy hyw

end Rate

/-- **Linear schedules are well-defined**: parsed waypoints whose rates are not negative give a
rate at every position, and it is this rate that is used at a time. -/
theorem linear_wellDefined {ε : Type} (parseFloat : String → Option ℚ)
    (parseRate : String → Except ε ℤ) (slice : SortSlice) (raw : List Waypoint)
    (wp : List ScheduleWaypoint) (hparse : parseWaypoints parseFloat parseRate slice raw = .ok wp)
    (hrates : ∀ w ∈ wp, 0 ≤ w.rateBps) (interpolation : String) (hlin : interpolation ≠ "step")
    (repeatSec : ℚ) (timeReference : String) (startTime : Option ℤ) :
    let p : SchedulePattern := ⟨wp, interpolation, repeatSec, timeReference, startTime⟩
    WellDefined p ∧ ∀ t, (p.bandwidthAt t).1 = p.rateAt (p.position t) :=
  ⟨wellDefined_of_sorted hlin (parseWaypoints_spec hparse).2 hrates, fun _ => rfl⟩

theorem linear_wellDefined_business :
    let p : SchedulePattern := ⟨businessWaypoints, "linear", 86400, "wall_clock", none⟩
    WellDefined p ∧ ∀ t, (p.bandwidthAt t).1 = p.rateAt (p.position t) :=
  linear_wellDefined _ _ _ _ _ parse_businessHours (by decide) "linear" (by decide) 86400
    "wall_clock" none

end GnnSandbox.Agent
