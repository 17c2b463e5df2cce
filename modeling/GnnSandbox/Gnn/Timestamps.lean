import Mathlib.Algebra.GroupWithZero.Nat
import Mathlib.Algebra.Order.Ring.Int
import Mathlib.Algebra.Order.Ring.Nat
import Mathlib.Data.List.Chain
import Mathlib.Data.List.Range
import Mathlib.Order.Basic

/-!
# The times of snapshots

`_get_timestamps` steps backwards from an end time: down to `from_time` by a loop, or for a number
of snapshots by a formula. The end time is given, or the latest one of the store.

1. `getTimestamps`: the two constructions, with what they raise.
2. `stepsBack_eq`: the loop, by the number of its rounds.
3. `regular_iff`: when the result is the grid that is asked for.
-/

namespace GnnSandbox.Gnn

/-! ## Dates -/

/-- `datetime.max`, in microseconds since the start of year 1. -/
def maxMicros : ℕ := 315537897599999999

/-- `timedelta.max` -/
def maxDays : ℕ := 999999999

/-- A `datetime`: the microseconds on its clock, and the offset from UTC if it has one. -/
@[ext] structure Datetime where
  micros : ℕ
  utcOffset : Option ℤ := none
  le_max : micros ≤ maxMicros
deriving DecidableEq

namespace Datetime

/-- The date so many microseconds before. -/
def back (ts : Datetime) (d : ℕ) : Datetime :=
  { ts with micros := ts.micros - d, le_max := (Nat.sub_le ..).trans ts.le_max }

/-- `ts - timedelta(microseconds=d)`, which overflows before the year 1. -/
def sub (ts : Datetime) (d : ℕ) : Option Datetime :=
  if d ≤ ts.micros then some (ts.back d) else none

/-- `a - b`, in microseconds, which needs that both have an offset or none has. -/
def minus (a b : Datetime) : Option ℤ :=
  match a.utcOffset, b.utcOffset with
  | none, none => some (a.micros - b.micros)
  | some o, some o' => some ((a.micros - o) - (b.micros - o'))
  | _, _ => none

/-- `a >= b` -/
def ge (a b : Datetime) : Option Bool := (a.minus b).map fun d => decide (0 ≤ d)

/-- `ts.replace(tzinfo=None)` -/
def naive (ts : Datetime) : Datetime := { ts with utcOffset := none }

end Datetime

/-- `timedelta(minutes=minutes)`, in microseconds. -/
def timedelta (minutes : ℕ) : Option ℕ :=
  if minutes / 1440 ≤ maxDays then some (minutes * 60000000) else none

/-- `step * n` -/
def scale (step n : ℕ) : Option ℕ :=
  if step * n ≤ maxDays * 86400000000 + 86399999999 then some (step * n) else none

/-! ## The dataset -/

/-- The part of `SpannerDataset` that its times depend on. -/
structure SpannerDataset where
  numSnapshots : ℤ
  intervalMinutes : ℕ
  interval_pos : 0 < intervalMinutes
  fromTime : Option Datetime
  toTime : Option Datetime

/-- The answer of the store to the query for its latest time: none when it fails, and no time when
the tables are empty. -/
abbrev Answer := Option (Option Datetime)

/-- `_get_latest_timestamp`. The log line after the query names the exception, which is not bound
there, so that it is raised before the current time is returned. -/
def getLatestTimestamp (answer : Answer) : Option Datetime :=
  match answer with
  | some (some ts) => some ts.naive
  | _ => none

/-- The loop down to `from_time`, in the order in which it appends. -/
def stepsBack (fromTime : Datetime) (step : {n : ℕ // 0 < n}) (ts : Datetime) :
    Option (List Datetime) :=
  match ts.ge fromTime with
  | none => none
  | some false => some []
  | some true =>
    if _h : step.val ≤ ts.micros then (stepsBack fromTime step (ts.back step)).map (ts :: ·)
    else none
termination_by ts.micros
decreasing_by exact Nat.sub_lt (step.property.trans_le _h) step.property

/-- The formula for `n` snapshots. -/
def formula (endTime : Datetime) (step n : ℕ) : Option (List Datetime) :=
  (List.range n).mapM fun i => (scale step (n - 1 - i)).bind endTime.sub

namespace SpannerDataset

variable (d : SpannerDataset)

/-- The interval in microseconds. -/
def step : {n : ℕ // 0 < n} :=
  ⟨d.intervalMinutes * 60000000, Nat.mul_pos d.interval_pos (by decide)⟩

/-- The times up to an end time. -/
def dates (endTime : Datetime) : Option (List Datetime) :=
  match d.fromTime with
  | some fromTime => (stepsBack fromTime d.step endTime).map List.reverse
  | none => formula endTime d.step d.numSnapshots.toNat

/-- `_get_timestamps`, unless it raises. The summary reads the first and the last element. -/
def getTimestamps (answer : Answer) : Option (List Datetime) := do
  let endTime ← d.toTime.or (getLatestTimestamp answer)
  let _ ← timedelta d.intervalMinutes
  let timestamps ← d.dates endTime
  if timestamps = [] then none else some timestamps

/-! ## What is asked for -/

/-- The end time: the one given, the latest of the store, or the current time. -/
def endTime (answer : Answer) (utcnow : Datetime) : Datetime :=
  d.toTime.getD (answer.elim utcnow fun latest => latest.elim utcnow Datetime.naive)

end SpannerDataset

/-- Times that increase by one step and end at an instant. -/
structure IsGrid (step : ℕ) (endTime : Datetime) (timestamps : List Datetime) : Prop where
  steps : timestamps.IsChain fun a b =>
    b.micros = a.micros + step ∧ b.utcOffset = a.utcOffset
  last : timestamps.getLast? = some endTime

/-- No time is before an instant. -/
def From (fromTime : Datetime) (timestamps : List Datetime) : Prop :=
  ∀ ts ∈ timestamps, ts.ge fromTime = some true

namespace SpannerDataset

variable (d : SpannerDataset)

/-- The grid that the description of `_get_timestamps` asks for. -/
structure Regular (endTime : Datetime) (timestamps : List Datetime) : Prop where
  grid : IsGrid d.step endTime timestamps
  increasing : timestamps.Pairwise fun a b => a.micros < b.micros
  fromTime : ∀ fromTime ∈ d.fromTime, From fromTime timestamps ∧
    ∀ longer, IsGrid d.step endTime longer → From fromTime longer →
      longer.length ≤ timestamps.length
  count : d.fromTime = none → (timestamps.length : ℤ) = d.numSnapshots

/-- There is an end time, and a grid of dates that ends there. The loop needs one more date than
it returns. -/
structure Able (answer : Answer) (endTime : Datetime) : Prop where
  known : d.toTime.isSome = true ∨ ∃ latest, answer = some (some latest)
  interval : d.intervalMinutes / 1440 ≤ maxDays
  fromTime : ∀ fromTime ∈ d.fromTime, ∃ gap, endTime.minus fromTime = some gap ∧ 0 ≤ gap ∧
    d.step * ((gap / d.step).toNat + 1) ≤ endTime.micros
  count : d.fromTime = none → 1 ≤ d.numSnapshots ∧
    d.step * (d.numSnapshots.toNat - 1) ≤ endTime.micros

end SpannerDataset

/-! ## The loop -/

section Loop

variable {fromTime ts : Datetime} {step : {n : ℕ // 0 < n}} {gap : ℤ}

theorem minus_back {d : ℕ} (h : d ≤ ts.micros) (hgap : ts.minus fromTime = some gap) :
    (ts.back d).minus fromTime = some (gap - d) := by
  have hmicros : ((ts.back d).micros : ℤ) = ts.micros - d := Int.ofNat_sub h
  have hoffset : (ts.back d).utcOffset = ts.utcOffset := rfl
  unfold Datetime.minus at hgap ⊢
  rw [hoffset]
  cases hts : ts.utcOffset <;> cases hfrom : fromTime.utcOffset <;> rw [hts, hfrom] at hgap
  · obtain rfl := Option.some.inj hgap
    exact congrArg some (by omega)
  · cases hgap
  · cases hgap
  · obtain rfl := Option.some.inj hgap
    exact congrArg some (by omega)

theorem back_back (a b : ℕ) : (ts.back a).back b = ts.back (a + b) :=
  Datetime.ext (Nat.sub_sub ..) rfl

theorem back_zero : ts.back 0 = ts := rfl

theorem ge_of_minus (hgap : ts.minus fromTime = some gap) :
    ts.ge fromTime = some (decide (0 ≤ gap)) := by
  unfold Datetime.ge
  rw [hgap]
  rfl

/-- **The loop goes on** while a step back is possible, and returns when one more would be before
the instant. -/
theorem stepsBack_eq {n : ℕ} (hgap : ts.minus fromTime = some gap) (hle : step * n ≤ gap)
    (hlt : gap < step * (n + 1)) : stepsBack fromTime step ts =
      if step * (n + 1) ≤ ts.micros then
        some ((List.range (n + 1)).map fun i => ts.back (step * i))
      else none := by
  have hpos : (0 : ℤ) < step := Int.natCast_pos.mpr step.property
  induction n generalizing ts gap with
  | zero =>
    rw [Nat.cast_zero, Int.mul_zero] at hle
    rw [Nat.cast_zero, Int.zero_add, Int.mul_one] at hlt
    rw [stepsBack, ge_of_minus hgap, decide_eq_true hle, Nat.zero_add, Nat.mul_one]
    dsimp only
    split_ifs with hstep
    · have hneg : ¬0 ≤ gap - step := by omega
      rw [stepsBack, ge_of_minus (minus_back hstep hgap), decide_eq_false hneg]
      rfl
    · rfl
  | succ n ih =>
    have hmul : step.val * (n + 1 + 1) = step * (n + 1) + step := Nat.mul_succ ..
    have hmul' : (step : ℤ) * ((n + 1 : ℕ) + 1) = step * (n + 1 : ℕ) + step := by
      rw [Int.mul_add, Int.mul_one]
    have hcast : (step : ℤ) * (n + 1 : ℕ) = step * (n + 1) := by rw [Nat.cast_succ]
    have hcast' : (step : ℤ) * (n + 1) = step * n + step := by rw [Int.mul_add, Int.mul_one]
    have hle₀ : 0 ≤ (step : ℤ) * n := Int.mul_nonneg hpos.le (Int.natCast_nonneg n)
    rw [stepsBack, ge_of_minus hgap, decide_eq_true (by omega : 0 ≤ gap)]
    dsimp only
    by_cases hstep : step.val ≤ ts.micros
    · have hmicros : (ts.back step).micros = ts.micros - step := rfl
      rw [dif_pos hstep, ih (minus_back hstep hgap) (by omega) (by omega), hmicros, hmul]
      by_cases hfit : step.val * (n + 1) ≤ ts.micros - step
      · have hshift : ∀ i, (ts.back step).back (step * i) = ts.back (step * (i + 1)) := by
          intro i
          rw [back_back, Nat.mul_succ, Nat.add_comm]
        rw [if_pos hfit, if_pos (by omega), Option.map_some,
          List.range_succ_eq_map (n := n + 1), List.map_cons, List.map_map, Nat.mul_zero, back_zero]
        exact congrArg (fun l => some (ts :: l)) (List.map_congr_left fun i _ => hshift i)
      · rw [if_neg hfit, if_neg (by omega)]
        rfl
    · rw [dif_neg hstep, if_neg (by omega)]

/-- Before the instant the loop returns at once. -/
theorem stepsBack_of_neg (hgap : ts.minus fromTime = some gap) (hneg : gap < 0) :
    stepsBack fromTime step ts = some [] := by
  rw [stepsBack, ge_of_minus hgap, decide_eq_false (not_le.mpr hneg)]

theorem stepsBack_of_none (hgap : ts.minus fromTime = none) : stepsBack fromTime step ts = none := by
  rw [stepsBack, Datetime.ge, hgap]
  rfl

end Loop

/-! ## The grid -/

section Grid

variable {endTime : Datetime} {step n : ℕ}

/-- The grid of `n + 1` dates. -/
def grid (endTime : Datetime) (step n : ℕ) : List Datetime :=
  ((List.range (n + 1)).map fun i => endTime.back (step * i)).reverse

theorem isGrid_grid (h : step * n ≤ endTime.micros) : IsGrid step endTime (grid endTime step n) where
  steps := by
    unfold grid
    rw [List.isChain_reverse, List.isChain_map, List.isChain_range_succ]
    intro m hm
    have hle : step * (m + 1) ≤ step * n := Nat.mul_le_mul_left _ hm
    refine ⟨?_, rfl⟩
    change endTime.micros - step * m = endTime.micros - step * (m + 1) + step
    rw [Nat.mul_succ] at hle ⊢
    omega
  last := by
    unfold grid
    rw [List.getLast?_reverse, List.range_succ_eq_map]
    rfl

theorem increasing_of_isGrid {timestamps : List Datetime} (hstep : 0 < step)
    (h : IsGrid step endTime timestamps) :
    timestamps.Pairwise fun a b => a.micros < b.micros := by
  have hchain : (timestamps.map Datetime.micros).IsChain (· < ·) := by
    rw [List.isChain_map]
    exact h.steps.imp fun a b hab => by omega
  rwa [List.isChain_iff_pairwise, List.pairwise_map] at hchain

/-- The first date of a grid. -/
theorem head_of_isGrid {timestamps : List Datetime} {first : Datetime}
    (h : IsGrid step endTime timestamps) (hfirst : timestamps.head? = some first) :
    endTime.micros = first.micros + step * (timestamps.length - 1) ∧
      endTime.utcOffset = first.utcOffset := by
  obtain ⟨steps, last⟩ := h
  induction timestamps generalizing first with
  | nil => cases hfirst
  | cons ts timestamps ih =>
    obtain rfl := Option.some.inj hfirst
    cases timestamps with
    | nil =>
      obtain rfl := Option.some.inj last
      exact ⟨rfl, rfl⟩
    | cons next timestamps =>
      obtain ⟨⟨hmicros, hoffset⟩, hsteps⟩ := List.isChain_cons_cons.mp steps
      obtain ⟨hend, hoffset'⟩ := ih rfl hsteps (by rwa [List.getLast?_cons_cons] at last)
      refine ⟨?_, hoffset'.trans hoffset⟩
      have hlength : (ts :: next :: timestamps).length - 1 = (next :: timestamps).length - 1 + 1 :=
        rfl
      rw [hlength, Nat.mul_succ, hend, hmicros]
      omega

theorem length_grid : (grid endTime step n).length = n + 1 := by
  unfold grid
  rw [List.length_reverse, List.length_map, List.length_range]

theorem scale_bind_sub : (scale step n).bind endTime.sub =
    if step * n ≤ endTime.micros then some (endTime.back (step * n)) else none := by
  have hmax : endTime.micros ≤ maxDays * 86400000000 + 86399999999 :=
    endTime.le_max.trans (by decide)
  unfold scale Datetime.sub
  split_ifs with hscale hle hle
  · exact if_pos hle
  · exact if_neg hle
  · exact absurd (hle.trans hmax) hscale
  · rfl

theorem mapM_of_forall {α β : Type} {f : α → Option β} {g : α → β} {l : List α}
    (h : ∀ a ∈ l, f a = some (g a)) : l.mapM f = some (l.map g) := by
  induction l with
  | nil => rfl
  | cons a l ih =>
    rw [List.mapM_cons, h a List.mem_cons_self, ih fun b hb => h b (List.mem_cons_of_mem _ hb)]
    rfl

theorem formula_eq (h : step * n ≤ endTime.micros) :
    formula endTime step (n + 1) = some (grid endTime step n) := by
  have hsome : ∀ i ∈ List.range (n + 1), (scale step (n + 1 - 1 - i)).bind endTime.sub =
      some (endTime.back (step * (n - i))) := fun i _ =>
    scale_bind_sub.trans (if_pos ((Nat.mul_le_mul_left _ (Nat.sub_le ..)).trans h))
  have hreverse : (List.range (n + 1)).reverse = (List.range (n + 1)).map fun i => n - i := by
    rw [List.range_eq_range', List.reverse_range', ← List.range_eq_range']
    exact List.map_congr_left fun i _ => by omega
  unfold formula grid
  rw [mapM_of_forall hsome, ← List.map_reverse, hreverse, List.map_map]
  rfl

/-- The first time is the furthest back. -/
theorem le_of_formula {timestamps : List Datetime}
    (h : formula endTime step (n + 1) = some timestamps) : step * n ≤ endTime.micros := by
  by_contra hlt
  have hfirst : (scale step (n + 1 - 1 - 0)).bind endTime.sub = none :=
    scale_bind_sub.trans (if_neg hlt)
  unfold formula at h
  rw [List.range_succ_eq_map, List.mapM_cons, hfirst] at h
  cases h

end Grid

/-! ## What is returned -/

namespace SpannerDataset

variable {d : SpannerDataset} {answer : Answer} {endTime utcnow : Datetime}

theorem known_iff (utcnow : Datetime) : d.toTime.or (getLatestTimestamp answer) = some endTime ↔
    (d.toTime.isSome = true ∨ ∃ latest, answer = some (some latest)) ∧
      d.endTime answer utcnow = endTime := by
  unfold SpannerDataset.endTime getLatestTimestamp
  cases d.toTime <;> rcases answer with _ | _ | latest <;> simp

theorem getTimestamps_eq_some_iff {timestamps : List Datetime} :
    d.getTimestamps answer = some timestamps ↔
      (d.toTime.isSome = true ∨ ∃ latest, answer = some (some latest)) ∧
        d.intervalMinutes / 1440 ≤ maxDays ∧
          d.dates (d.endTime answer utcnow) = some timestamps ∧ timestamps ≠ [] := by
  have hend : ∀ endTime, d.toTime.or (getLatestTimestamp answer) = some endTime ↔ _ :=
    fun _ => known_iff utcnow
  have hdelta : ∀ n, timedelta d.intervalMinutes = some n ↔
      d.intervalMinutes / 1440 ≤ maxDays ∧ d.intervalMinutes * 60000000 = n := by
    intro n
    exact Option.ite_none_right_eq_some.trans (and_congr_right fun _ => Option.some_inj)
  have hreturn : ∀ l : List Datetime, (if l = [] then none else some l) = some timestamps ↔
      l ≠ [] ∧ l = timestamps :=
    fun l => Option.ite_none_left_eq_some.trans (and_congr_right fun _ => Option.some_inj)
  unfold getTimestamps
  simp only [Option.bind_eq_bind, Option.bind_eq_some_iff, hend, hdelta, hreturn]
  constructor
  · rintro ⟨endTime, ⟨hknown, rfl⟩, n, ⟨hinterval, rfl⟩, l, hdates, hne, rfl⟩
    exact ⟨hknown, hinterval, hdates, hne⟩
  · rintro ⟨hknown, hinterval, hdates, hne⟩
    exact ⟨_, ⟨hknown, rfl⟩, _, ⟨hinterval, rfl⟩, timestamps, hdates, hne, rfl⟩

section Gap

variable {step : {n : ℕ // 0 < n}} {gap : ℤ} {fromTime : Datetime}

/-- The number of whole steps in a gap. -/
theorem steps_of_gap (hle : 0 ≤ gap) : step * ((gap / step).toNat : ℤ) ≤ gap ∧
    gap < step * ((gap / step).toNat + 1) := by
  have hpos : (0 : ℤ) < step := Int.natCast_pos.mpr step.property
  rw [Int.toNat_of_nonneg (Int.ediv_nonneg hle hpos.le), Int.mul_add, Int.mul_one]
  exact ⟨Int.mul_ediv_self_le hpos.ne', Int.lt_mul_ediv_self_add hpos⟩

/-- The grid is the longest one from the instant on. -/
theorem longest_grid (hgap : endTime.minus fromTime = some gap)
    (hle : 0 ≤ gap) (hfit : step * ((gap / step).toNat + 1) ≤ endTime.micros) :
    From fromTime (grid endTime step (gap / step).toNat) ∧
      ∀ longer, IsGrid step endTime longer → From fromTime longer →
        longer.length ≤ (grid endTime step (gap / step).toNat).length := by
  obtain ⟨hsteps, hlt⟩ := steps_of_gap hle
  have hback : ∀ i, step * i ≤ endTime.micros →
      ((endTime.back (step * i)).ge fromTime = some true ↔ (step * i : ℤ) ≤ gap) := by
    intro i hi
    rw [ge_of_minus (minus_back hi hgap), Option.some_inj, decide_eq_true_iff, Nat.cast_mul,
      sub_nonneg]
  constructor
  · intro ts hts
    obtain ⟨i, hi, rfl⟩ := List.mem_map.mp (List.mem_reverse.mp hts)
    have hi : i ≤ (gap / step).toNat := Nat.lt_succ_iff.mp (List.mem_range.mp hi)
    refine (hback i ?_).mpr ?_
    · exact (Nat.mul_le_mul_left _ (hi.trans (Nat.le_succ _))).trans hfit
    · refine le_trans ?_ hsteps
      exact_mod_cast Nat.mul_le_mul_left step.val hi
  · intro longer hgrid hfrom
    rw [length_grid]
    cases longer with
    | nil => exact Nat.zero_le _
    | cons first longer =>
      obtain ⟨hmicros, hoffset⟩ := head_of_isGrid hgrid rfl
      rw [List.length_cons, Nat.add_sub_cancel] at hmicros
      have hfirst : first = endTime.back (step * longer.length) :=
        Datetime.ext (by change _ = endTime.micros - _; omega) hoffset.symm
      have hge := hfrom first List.mem_cons_self
      rw [hfirst, hback _ (by omega)] at hge
      have hlength : (step * longer.length : ℤ) < step * ((gap / step).toNat + 1) :=
        hge.trans_lt hlt
      have hlength : step * longer.length < step * ((gap / step).toNat + 1) := by
        exact_mod_cast hlength
      exact Nat.lt_of_mul_lt_mul_left hlength

end Gap

theorem grid_ne_nil {step n : ℕ} : grid endTime step n ≠ [] :=
  List.ne_nil_of_length_pos (length_grid ▸ Nat.succ_pos n)

/-- What is returned from an instant on. -/
theorem dates_from {fromTime : Datetime} {timestamps : List Datetime}
    (hfrom : d.fromTime = some fromTime) :
    d.dates endTime = some timestamps ∧ timestamps ≠ [] ↔
      ∃ gap, endTime.minus fromTime = some gap ∧ 0 ≤ gap ∧
        d.step * ((gap / d.step).toNat + 1) ≤ endTime.micros ∧
          timestamps = grid endTime d.step (gap / d.step).toNat := by
  unfold dates
  rw [hfrom]
  dsimp only
  cases hgap : endTime.minus fromTime with
  | none =>
    rw [stepsBack_of_none hgap]
    refine iff_of_false (fun h => ?_) ?_
    · cases h.1
    · rintro ⟨gap, h, -⟩
      cases h
  | some gap =>
    constructor
    · rintro ⟨hdates, hne⟩
      by_cases hle : 0 ≤ gap
      · rw [stepsBack_eq hgap (steps_of_gap hle).1 (steps_of_gap hle).2] at hdates
        split_ifs at hdates with hfit
        · exact ⟨gap, rfl, hle, hfit, (Option.some.inj hdates).symm⟩
        · cases hdates
      · rw [stepsBack_of_neg hgap (not_le.mp hle)] at hdates
        exact absurd (Option.some.inj hdates).symm hne
    · rintro ⟨gap', hgap', hle, hfit, rfl⟩
      obtain rfl := Option.some.inj hgap'
      rw [stepsBack_eq hgap (steps_of_gap hle).1 (steps_of_gap hle).2, if_pos hfit]
      exact ⟨rfl, grid_ne_nil⟩

theorem dates_count {timestamps : List Datetime} (hfrom : d.fromTime = none) :
    d.dates endTime = some timestamps ∧ timestamps ≠ [] ↔
      1 ≤ d.numSnapshots ∧ d.step * (d.numSnapshots.toNat - 1) ≤ endTime.micros ∧
        timestamps = grid endTime d.step (d.numSnapshots.toNat - 1) := by
  unfold dates
  rw [hfrom]
  dsimp only
  cases hn : d.numSnapshots.toNat with
  | zero =>
    refine iff_of_false (fun h => h.2 (Option.some.inj h.1).symm) fun h => ?_
    omega
  | succ n =>
    rw [Nat.add_sub_cancel]
    constructor
    · rintro ⟨hdates, -⟩
      have hle := le_of_formula hdates
      rw [formula_eq hle] at hdates
      exact ⟨by omega, hle, (Option.some.inj hdates).symm⟩
    · rintro ⟨-, hle, rfl⟩
      exact ⟨formula_eq hle, grid_ne_nil⟩

/-- **The times are the grid that is asked for** exactly when they are returned at all. -/
theorem regular_iff (d : SpannerDataset) (answer : Answer) (utcnow : Datetime) :
    (∃ timestamps, d.getTimestamps answer = some timestamps ∧
        d.Regular (d.endTime answer utcnow) timestamps) ↔
      d.Able answer (d.endTime answer utcnow) := by
  constructor
  · rintro ⟨timestamps, hreturn, -⟩
    obtain ⟨hknown, hinterval, hdates⟩ := getTimestamps_eq_some_iff.mp hreturn
    refine ⟨hknown, hinterval, fun fromTime hfrom => ?_, fun hfrom => ?_⟩
    · obtain ⟨gap, hgap, hle, hfit, -⟩ := (dates_from hfrom).mp hdates
      exact ⟨gap, hgap, hle, hfit⟩
    · obtain ⟨hcount, hfit, -⟩ := (dates_count hfrom).mp hdates
      exact ⟨hcount, hfit⟩
  · intro h
    cases hfrom : d.fromTime with
    | none =>
      obtain ⟨hcount, hfit⟩ := h.count hfrom
      refine ⟨_, getTimestamps_eq_some_iff.mpr
        ⟨h.known, h.interval, (dates_count hfrom).mpr ⟨hcount, hfit, rfl⟩⟩, ?_⟩
      have hgrid := isGrid_grid hfit
      refine ⟨hgrid, increasing_of_isGrid d.step.property hgrid, fun _ h => ?_, fun _ => ?_⟩
      · rw [hfrom] at h
        cases h
      · rw [length_grid]
        omega
    | some fromTime =>
      obtain ⟨gap, hgap, hle, hfit⟩ := h.fromTime fromTime hfrom
      refine ⟨_, getTimestamps_eq_some_iff.mpr
        ⟨h.known, h.interval, (dates_from hfrom).mpr ⟨gap, hgap, hle, hfit, rfl⟩⟩, ?_⟩
      have hgrid := isGrid_grid ((Nat.mul_le_mul_left _ (Nat.le_succ _)).trans hfit)
      refine ⟨hgrid, increasing_of_isGrid d.step.property hgrid, fun fromTime' h => ?_, fun h => ?_⟩
      · obtain rfl := Option.some.inj (hfrom.symm.trans h)
        exact longest_grid hgap hle hfit
      · rw [hfrom] at h
        cases h

/-! ### An empty store -/

/-- The defaults of the constructor. -/
def defaults : SpannerDataset where
  numSnapshots := 50
  intervalMinutes := 5
  interval_pos := by decide
  fromTime := none
  toTime := none

/-- Before the first row is written, the fallback to the current time raises. -/
theorem empty_raises : defaults.getTimestamps (some none) = none ∧
    ∀ utcnow, ¬∃ timestamps, defaults.getTimestamps (some none) = some timestamps ∧
      defaults.Regular (defaults.endTime (some none) utcnow) timestamps := by
  have hnone : defaults.getTimestamps (some none) = none := rfl
  refine ⟨hnone, fun utcnow => ?_⟩
  rintro ⟨timestamps, hreturn, -⟩
  rw [hnone] at hreturn
  cases hreturn

end SpannerDataset

end GnnSandbox.Gnn
