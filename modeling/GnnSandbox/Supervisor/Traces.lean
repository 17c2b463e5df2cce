import GnnSandbox.Graph.Json
import GnnSandbox.Lib.StableSort
import GnnSandbox.Lib.Transition
import Mathlib.Data.Prod.Lex
import Mathlib.Data.String.Basic

/-!
# The listener for trace events

`TraceStreamListener._listen` polls the table AgentTrace and emits the rows it finds. Between polls
it keeps the timestamp of the last row, and a client can reset it to an earlier one.

1. `progress_step`: how far the listener has got, after one event.
2. `delivered_once`: when every row is emitted once, in any run.
-/

namespace GnnSandbox.Supervisor

open Graph (Json)
open StableSort Batch Transition

/-! ## Timestamps -/

/-- A timestamp in UTC, which the database keeps to the microsecond. -/
structure Stamp where
  year : ℕ
  month : ℕ
  day : ℕ
  hour : ℕ := 0
  minute : ℕ := 0
  second : ℕ := 0
  microsecond : ℕ := 0
deriving DecidableEq

/-- The fields by which timestamps are ordered. -/
def Stamp.fields (t : Stamp) : ℕ ×ₗ ℕ ×ₗ ℕ ×ₗ ℕ ×ₗ ℕ ×ₗ ℕ ×ₗ ℕ :=
  toLex (t.year, toLex (t.month, toLex (t.day, toLex (t.hour, toLex (t.minute,
    toLex (t.second, t.microsecond))))))

theorem fields_injective : Function.Injective Stamp.fields := by
  rintro ⟨⟩ ⟨⟩ h
  simpa [Stamp.fields] using h

instance : LinearOrder Stamp := LinearOrder.lift' Stamp.fields fields_injective

/-- A number with zeros in front. -/
def padded (width n : ℕ) : String :=
  String.ofList (List.replicate (width - (toString n).length) '0') ++ toString n

/-- `isoformat()`, which leaves out microseconds that are zero. -/
def Stamp.isoformat (t : Stamp) : String :=
  padded 4 t.year ++ "-" ++ padded 2 t.month ++ "-" ++ padded 2 t.day ++ "T" ++
    padded 2 t.hour ++ ":" ++ padded 2 t.minute ++ ":" ++ padded 2 t.second ++
    (if t.microsecond = 0 then "" else "." ++ padded 6 t.microsecond) ++ "+00:00"

/-! ## Rows and events -/

/-- A row of AgentTrace. -/
structure Row where
  id : String
  eventType : String
  traceId : String
  spanId : String
  parentSpanId : Option String := none
  operationName : String
  timestamp : Stamp
  details : Option Json := none
deriving DecidableEq

/-- `trace_event` -/
structure TraceEvent where
  id : String
  eventType : String
  traceId : String
  spanId : String
  parentSpanId : Option String
  operationName : String
  timestamp : String
  details : Option Json
deriving DecidableEq

def Row.traceEvent (row : Row) : TraceEvent where
  id := row.id
  eventType := row.eventType
  traceId := row.traceId
  spanId := row.spanId
  parentSpanId := row.parentSpanId
  operationName := row.operationName
  timestamp := row.timestamp.isoformat
  details := row.details

/-- `ORDER BY timestamp ASC, id ASC` -/
def Row.order (row : Row) : Stamp ×ₗ String := toLex (row.timestamp, row.id)

/-! ## The listener -/

/-- The rows that are visible and the cursor of the listener; then, for what is proved about them,
the time from which rows are to be delivered and the events that were emitted since that was set. -/
structure Listener where
  table : List Row := []
  lastSeenId : Option String := none
  lastSeenTimestamp : Option String := none
  resetTimestamp : Option String := none
  start : Option Stamp := none
  emitted : List TraceEvent := []
deriving DecidableEq

/-- The condition of the query for a row; `read` is how the database reads a timestamp. -/
def Listener.selects (read : String → Stamp) (s : Listener) (startTime : String) (row : Row) : Bool :=
  match s.lastSeenId with
  | none => read startTime ≤ row.timestamp
  | some _ => s.lastSeenTimestamp.any fun last => read last < row.timestamp

/-- What the query finds, without its limit. -/
def Listener.found (read : String → Stamp) (s : Listener) (startTime : String) : List Row :=
  sortBy Row.order (s.table.filter (s.selects read startTime))

/-- `LIMIT 1000` -/
def batchLimit : ℕ := 1000

/-- `self._reset_timestamp and row[6].isoformat() < self._reset_timestamp` -/
def Listener.skips (s : Listener) (row : Row) : Bool :=
  (s.resetTimestamp.filter (· ≠ "")).any fun text => row.timestamp.isoformat < text

/-- The body of the loop over the results. -/
def Listener.process (s : Listener) (row : Row) : Listener :=
  { s with
    lastSeenId := some row.id
    lastSeenTimestamp := some row.timestamp.isoformat
    emitted := if s.skips row then s.emitted else s.emitted ++ [row.traceEvent] }

/-- `self._reset_timestamp or (now - 30 s)` -/
def Listener.startTime (s : Listener) (recent : String) : String :=
  (s.resetTimestamp.filter (· ≠ "")).getD recent

/-- A poll, 30 seconds after `recent`. -/
def Listener.poll (read : String → Stamp) (s : Listener) (recent : String) : Listener :=
  ((s.found read (s.startTime recent)).take batchLimit).foldl Listener.process
    { s with start := s.start.or (some (read (s.startTime recent))) }

/-- `reset_cursor` -/
def Listener.resetCursor (read : String → Stamp) (s : Listener) (timestamp : String) : Listener :=
  { s with
    lastSeenId := none
    resetTimestamp := some timestamp
    start := some (read timestamp)
    emitted := [] }

/-- What can happen: rows become visible, the listener polls, a client resets it. -/
inductive Event where
  | commit (rows : List Row)
  | poll (recent : String)
  | reset (timestamp : String)

/-- Rows become visible in the order of their timestamps, all rows of a timestamp together. A reset
names a time. -/
def step (read : String → Stamp) (s : Listener) : Event → Option Listener
  | .commit rows =>
    if ∀ a ∈ s.table, ∀ b ∈ rows, a.timestamp < b.timestamp then
      some { s with table := s.table ++ rows }
    else none
  | .poll recent => some (s.poll read recent)
  | .reset timestamp => if timestamp ≠ "" then some (s.resetCursor read timestamp) else none

/-! ## What is delivered -/

/-- The table in the order of its rows. -/
def Listener.sorted (s : Listener) : List Row := sortBy Row.order s.table

/-- The rows that are to be delivered. -/
def Listener.wanted (s : Listener) : List Row :=
  s.sorted.filter fun row => s.start.any fun start => start ≤ row.timestamp

/-- The rows that the next polls will find. -/
def Listener.due (read : String → Stamp) (s : Listener) : List Row :=
  match s.lastSeenId with
  | none => s.wanted
  | some _ => s.sorted.filter fun row => s.lastSeenTimestamp.any fun last => read last < row.timestamp

/-- **Delivered once.** The emitted events and those of the rows that the next polls will find are
together one event for each row that is to be delivered, in the order of the rows. -/
def Listener.Delivered (read : String → Stamp) (s : Listener) : Prop :=
  s.emitted ++ (s.due read).map Row.traceEvent = s.wanted.map Row.traceEvent

/-- When an event does no harm. A poll before anything was found and without a reset starts where
the first one did, no batch ends between rows with the same timestamp, and no row that is to be
delivered after a reset is written as an earlier text. -/
def Careful (read : String → Stamp) (s : Listener) : Event → Prop
  | .poll recent =>
    (s.lastSeenId = none → s.resetTimestamp = none → ∀ start ∈ s.start, ∀ row ∈ s.table,
      (start ≤ row.timestamp ↔ read recent ≤ row.timestamp)) ∧
    Uncut Row.timestamp batchLimit (s.found read (s.startTime recent)) ∧
    ∀ text ∈ s.resetTimestamp, ∀ row ∈ s.table, read text ≤ row.timestamp →
      ¬row.timestamp.isoformat < text
  | _ => True

/-- The reset, if there was one, was to this time. -/
def Listener.ResetTo (read : String → Stamp) (s : Listener) (start : Stamp) : Prop :=
  ∀ text ∈ s.resetTimestamp, text ≠ "" ∧ read text = start

/-- How far the listener has got. -/
inductive Listener.Progress (read : String → Stamp) (s : Listener) : Prop
  | idle (start : s.start = none) (seen : s.lastSeenId = none) (reset : s.resetTimestamp = none)
      (emitted : s.emitted = [])
  | fresh (start : Stamp) (start_eq : s.start = some start) (seen : s.lastSeenId = none)
      (reset : s.ResetTo read start) (emitted : s.emitted = [])
  | upTo (start last : Stamp) (id : String) (start_eq : s.start = some start)
      (seen : s.lastSeenId = some id) (timestamp : s.lastSeenTimestamp = some last.isoformat)
      (reset : s.ResetTo read start) (le : start ≤ last)
      (present : ∃ row ∈ s.table, row.timestamp = last)
      (emitted : s.emitted = (s.sorted.filter fun row =>
        start ≤ row.timestamp ∧ row.timestamp ≤ last).map Row.traceEvent)

/-- The database reads the timestamps of its rows as they are written. -/
def Listener.Reads (read : String → Stamp) (s : Listener) : Prop :=
  ∀ row ∈ s.table, read row.timestamp.isoformat = row.timestamp

/-! ## Polls -/

section

variable {read : String → Stamp} {s s' : Listener} {start last : Stamp}

theorem pairwise_sorted (s : Listener) : s.sorted.Pairwise fun a b => a.timestamp ≤ b.timestamp := by
  refine (pairwise_sortBy Row.order s.table).imp fun {a b} h => ?_
  rcases (Prod.Lex.le_iff).mp h with hlt | ⟨heq, -⟩
  · exact hlt.le
  · exact heq.le

theorem mem_sorted {row : Row} : row ∈ s.sorted ↔ row ∈ s.table := mem_sortBy Row.order

/-- The loop over the results. -/
theorem foldl_process (rows : List Row) (s : Listener) :
    rows.foldl Listener.process s =
      { s with
        lastSeenId := (rows.getLast?.map Row.id).or s.lastSeenId
        lastSeenTimestamp := (rows.getLast?.map fun row => row.timestamp.isoformat).or
          s.lastSeenTimestamp
        emitted := s.emitted ++ (rows.filter fun row => !s.skips row).map Row.traceEvent } := by
  induction rows generalizing s with
  | nil => simp
  | cons row rows ih =>
    rw [List.foldl_cons, ih]
    have hskips : (s.process row).skips = s.skips := rfl
    rw [hskips, List.getLast?_cons]
    unfold Listener.process
    cases hrows : rows.getLast? <;> cases hskip : s.skips row <;> simp [hskip]

theorem found_eq (s : Listener) (startTime : String) :
    s.found read startTime = s.sorted.filter (s.selects read startTime) :=
  sortBy_filter _ s.table

theorem pairwise_found (s : Listener) (startTime : String) :
    (s.found read startTime).Pairwise fun a b => a.timestamp ≤ b.timestamp := by
  rw [found_eq]
  exact (pairwise_sorted s).filter _

/-- The listener after a poll that skips nothing. -/
theorem poll_eq {recent : String}
    (hskips : ∀ row ∈ s.found read (s.startTime recent), s.skips row = false) :
    s.poll read recent =
      let batch := (s.found read (s.startTime recent)).take batchLimit
      { s with
        start := s.start.or (some (read (s.startTime recent)))
        lastSeenId := (batch.getLast?.map Row.id).or s.lastSeenId
        lastSeenTimestamp := (batch.getLast?.map fun row => row.timestamp.isoformat).or
          s.lastSeenTimestamp
        emitted := s.emitted ++ batch.map Row.traceEvent } := by
  have hall : ((s.found read (s.startTime recent)).take batchLimit).filter
      (fun row => !s.skips row) = (s.found read (s.startTime recent)).take batchLimit := by
    refine List.filter_eq_self.mpr fun row hrow => ?_
    rw [hskips row (List.mem_of_mem_take hrow)]
    rfl
  unfold Listener.poll
  rw [foldl_process]
  refine congrArg (fun events => ({ s with
    start := s.start.or (some (read (s.startTime recent)))
    lastSeenId := _
    lastSeenTimestamp := _
    emitted := s.emitted ++ events } : Listener)) ?_
  exact congrArg (List.map Row.traceEvent) hall

/-- A row that is to be delivered is not skipped. -/
theorem skips_eq_false (hcareful : ∀ text ∈ s.resetTimestamp, ∀ row ∈ s.table,
    read text ≤ row.timestamp → ¬row.timestamp.isoformat < text) (hreset : s.ResetTo read start)
    {row : Row} (hrow : row ∈ s.table) (hstart : start ≤ row.timestamp) : s.skips row = false := by
  unfold Listener.skips
  cases hr : s.resetTimestamp with
  | none => rfl
  | some text =>
    obtain ⟨hne, hread⟩ := hreset text hr
    have hlt := hcareful text hr row hrow (hread ▸ hstart)
    rw [Option.filter_some_pos (by simpa using hne), Option.any_some]
    exact decide_eq_false hlt

/-- Where a poll goes on that finds the rows from a time or after it. -/
theorem progress_of_batch {recent : String} (hstart : s.start.or (some (read (s.startTime recent))) =
      some start) (hreset : s.ResetTo read start)
    (hskips : ∀ row ∈ s.found read (s.startTime recent), s.skips row = false)
    (hcut : Uncut Row.timestamp batchLimit (s.found read (s.startTime recent))) {a : Row}
    (ha : ((s.found read (s.startTime recent)).take batchLimit).getLast? = some a)
    (hle : start ≤ a.timestamp)
    (hemitted : s.emitted ++ ((s.found read (s.startTime recent)).filter fun row =>
        row.timestamp ≤ a.timestamp).map Row.traceEvent =
      (s.sorted.filter fun row => start ≤ row.timestamp ∧ row.timestamp ≤ a.timestamp).map
        Row.traceEvent) :
    (s.poll read recent).Progress read := by
  have hmem : a ∈ s.table := by
    have hfound := List.mem_of_mem_take (List.mem_of_getLast? ha)
    rw [found_eq] at hfound
    exact mem_sorted.mp (List.mem_filter.mp hfound).1
  have hbatch := (take_eq_filter (pairwise_found s _) hcut ha).1
  rw [poll_eq hskips]
  refine .upTo start a.timestamp a.id hstart ?_ ?_ hreset hle
    ⟨a, hmem, rfl⟩ ?_
  · simp only [ha, Option.map_some, Option.some_or]
  · simp only [ha, Option.map_some, Option.some_or]
  · rw [← hbatch] at hemitted
    exact hemitted

/-- A poll that finds nothing. -/
theorem poll_of_found_nil {recent : String} (h : s.found read (s.startTime recent) = []) :
    s.poll read recent = { s with start := s.start.or (some (read (s.startTime recent))) } := by
  unfold Listener.poll
  rw [h]
  rfl

/-- The batch ends with a row when something is found. -/
theorem exists_last (h : s.found read startTime ≠ []) :
    ∃ a, ((s.found read startTime).take batchLimit).getLast? = some a := by
  have hne : (s.found read startTime).take batchLimit ≠ [] := by
    rw [ne_eq, List.take_eq_nil_iff]
    rintro (hlimit | hnil)
    · cases hlimit
    · exact h hnil
  exact ⟨_, List.getLast?_eq_some_getLast hne⟩

/-- The time from which a poll before any row was seen asks for rows. -/
theorem startTime_of_resetTo {recent : String} (hreset : s.ResetTo read start)
    (hrecent : s.resetTimestamp = none → ∀ row ∈ s.table,
      (start ≤ row.timestamp ↔ read recent ≤ row.timestamp)) :
    ∀ row ∈ s.table, (start ≤ row.timestamp ↔ read (s.startTime recent) ≤ row.timestamp) := by
  unfold Listener.startTime
  cases hr : s.resetTimestamp with
  | none => exact hrecent hr
  | some text =>
    obtain ⟨hne, rfl⟩ := hreset text hr
    rw [Option.filter_some_pos (by simpa using hne)]
    exact fun _ _ => Iff.rfl

theorem found_of_fresh {recent : String} (hseen : s.lastSeenId = none)
    (hrows : ∀ row ∈ s.table,
      (start ≤ row.timestamp ↔ read (s.startTime recent) ≤ row.timestamp)) :
    s.found read (s.startTime recent) = s.sorted.filter fun row => start ≤ row.timestamp := by
  rw [found_eq]
  refine List.filter_congr fun row hrow => ?_
  unfold Listener.selects
  rw [hseen]
  exact decide_eq_decide.mpr (hrows row (mem_sorted.mp hrow)).symm

theorem found_of_upTo (startTime : String) {id : String} (hreads : s.Reads read)
    (hseen : s.lastSeenId = some id) (htimestamp : s.lastSeenTimestamp = some last.isoformat)
    (hpresent : ∃ row ∈ s.table, row.timestamp = last) :
    s.found read startTime = s.sorted.filter fun row => last < row.timestamp := by
  obtain ⟨row, hrow, rfl⟩ := hpresent
  rw [found_eq]
  refine List.filter_congr fun row' _ => ?_
  unfold Listener.selects
  rw [hseen, htimestamp, Option.any_some, hreads row hrow]

/-- A careful poll before any row was seen. -/
theorem progress_poll_of_fresh {recent : String}
    (hstart : s.start.or (some (read (s.startTime recent))) = some start)
    (hseen : s.lastSeenId = none) (hreset : s.ResetTo read start) (hemitted : s.emitted = [])
    (hrows : ∀ row ∈ s.table, (start ≤ row.timestamp ↔ read (s.startTime recent) ≤ row.timestamp))
    (hcareful : Careful read s (.poll recent)) : (s.poll read recent).Progress read := by
  have hfound := found_of_fresh hseen hrows
  by_cases hnil : s.found read (s.startTime recent) = []
  · rw [poll_of_found_nil hnil]
    exact .fresh start hstart hseen hreset hemitted
  · obtain ⟨a, ha⟩ := exists_last hnil
    have hmem (row : Row) (hrow : row ∈ s.found read (s.startTime recent)) :
        row ∈ s.table ∧ start ≤ row.timestamp := by
      rw [hfound, List.mem_filter, mem_sorted] at hrow
      exact ⟨hrow.1, of_decide_eq_true hrow.2⟩
    refine progress_of_batch hstart hreset
      (fun row hrow => skips_eq_false hcareful.2.2 hreset (hmem row hrow).1 (hmem row hrow).2)
      hcareful.2.1 ha (hmem a (List.mem_of_mem_take (List.mem_of_getLast? ha))).2 ?_
    rw [hemitted, hfound, List.filter_filter, List.nil_append]
    refine congrArg _ (List.filter_congr fun row _ => ?_)
    rw [Bool.decide_and, Bool.and_comm]

/-- A careful poll after some rows were seen. -/
theorem progress_poll_of_upTo {recent id : String} (hreads : s.Reads read)
    (hstart : s.start = some start) (hseen : s.lastSeenId = some id)
    (htimestamp : s.lastSeenTimestamp = some last.isoformat) (hreset : s.ResetTo read start)
    (hle : start ≤ last) (hpresent : ∃ row ∈ s.table, row.timestamp = last)
    (hemitted : s.emitted = (s.sorted.filter fun row =>
      start ≤ row.timestamp ∧ row.timestamp ≤ last).map Row.traceEvent)
    (hcareful : Careful read s (.poll recent)) : (s.poll read recent).Progress read := by
  have hfound := found_of_upTo (s.startTime recent) hreads hseen htimestamp hpresent
  by_cases hnil : s.found read (s.startTime recent) = []
  · rw [poll_of_found_nil hnil, hstart]
    exact .upTo start last id rfl hseen htimestamp hreset hle hpresent hemitted
  · obtain ⟨a, ha⟩ := exists_last hnil
    have hmem (row : Row) (hrow : row ∈ s.found read (s.startTime recent)) :
        row ∈ s.table ∧ last < row.timestamp := by
      rw [hfound, List.mem_filter, mem_sorted] at hrow
      exact ⟨hrow.1, of_decide_eq_true hrow.2⟩
    have hlast := (hmem a (List.mem_of_mem_take (List.mem_of_getLast? ha))).2
    refine progress_of_batch (by rw [hstart, Option.some_or]) hreset
      (fun row hrow => skips_eq_false hcareful.2.2 hreset (hmem row hrow).1
        (hle.trans (hmem row hrow).2.le))
      hcareful.2.1 ha (hle.trans hlast.le) ?_
    -- what was emitted before comes up to `last`, and the batch from there up to `a`
    have hsplit := filter_le_append_filter_lt ((pairwise_sorted s).filter fun row =>
      start ≤ row.timestamp ∧ row.timestamp ≤ a.timestamp) last
    rw [hemitted, hfound, ← List.map_append, ← hsplit, List.filter_filter, List.filter_filter,
      List.filter_filter]
    congr 2
    · refine List.filter_congr fun row _ => ?_
      rw [← Bool.decide_and, decide_eq_decide]
      exact ⟨fun h => ⟨h.2, h.1, h.2.trans hlast.le⟩, fun h => ⟨h.2.1, h.1⟩⟩
    · refine List.filter_congr fun row _ => ?_
      rw [← Bool.decide_and, ← Bool.decide_and, decide_eq_decide]
      exact ⟨fun h => ⟨h.2, hle.trans h.2.le, h.1⟩, fun h => ⟨h.2.2, h.1⟩⟩

end

/-! ## Runs -/

section

variable {read : String → Stamp} {s s' : Listener} {e : Event}

theorem progress_poll {recent : String} (hreads : s.Reads read) (h : s.Progress read)
    (hcareful : Careful read s (.poll recent)) : (s.poll read recent).Progress read := by
  cases h with
  | idle hstart hseen hreset hemitted =>
    have hstarts : s.startTime recent = recent := by
      unfold Listener.startTime
      rw [hreset]
      rfl
    refine @progress_poll_of_fresh read s (read recent) recent ?_ hseen ?_ hemitted ?_ hcareful
    · rw [hstart, hstarts, Option.none_or]
    · intro text htext
      rw [hreset] at htext
      cases htext
    · rw [hstarts]
      exact fun _ _ => Iff.rfl
  | fresh start hstart hseen hreset hemitted =>
    refine progress_poll_of_fresh (by rw [hstart, Option.some_or]) hseen hreset hemitted ?_ hcareful
    exact startTime_of_resetTo hreset fun hnone => hcareful.1 hseen hnone start hstart
  | upTo start last id hstart hseen htimestamp hreset hle hpresent hemitted =>
    exact progress_poll_of_upTo hreads hstart hseen htimestamp hreset hle hpresent hemitted hcareful

/-- Rows that become visible are later than all that was seen. -/
theorem progress_commit {rows : List Row} (h : s.Progress read)
    (hlater : ∀ a ∈ s.table, ∀ b ∈ rows, a.timestamp < b.timestamp) :
    ({ s with table := s.table ++ rows } : Listener).Progress read := by
  cases h with
  | idle hstart hseen hreset hemitted => exact .idle hstart hseen hreset hemitted
  | fresh start hstart hseen hreset hemitted => exact .fresh start hstart hseen hreset hemitted
  | upTo start last id hstart hseen htimestamp hreset hle hpresent hemitted =>
    obtain ⟨row, hrow, rfl⟩ := hpresent
    refine .upTo start row.timestamp id hstart hseen htimestamp hreset hle
      ⟨row, List.mem_append_left _ hrow, rfl⟩ ?_
    have hsorted : ({ s with table := s.table ++ rows } : Listener).sorted =
        s.sorted ++ sortBy Row.order rows :=
      sortBy_append fun a ha b hb => Prod.Lex.lt_iff.mpr (.inl (hlater a ha b hb))
    have hnone : (sortBy Row.order rows).filter
        (fun b => start ≤ b.timestamp ∧ b.timestamp ≤ row.timestamp) = [] := by
      rw [List.filter_eq_nil_iff]
      intro b hb
      have hlt := hlater row hrow b ((mem_sortBy Row.order).mp hb)
      simpa using fun _ => hlt
    rw [hsorted, List.filter_append, hnone, List.append_nil]
    exact hemitted

theorem progress_step (hreads : s.Reads read) (h : s.Progress read) (hcareful : Careful read s e)
    (hstep : step read s e = some s') : s'.Progress read := by
  cases e with
  | commit rows =>
    change (if _ then _ else _) = some s' at hstep
    split at hstep
    · rename_i hlater
      obtain rfl := Option.some.inj hstep
      exact progress_commit h hlater
    · cases hstep
  | poll recent =>
    obtain rfl := Option.some.inj hstep
    exact progress_poll hreads h hcareful
  | reset timestamp =>
    change (if _ then _ else _) = some s' at hstep
    split at hstep
    · rename_i hne
      obtain rfl := Option.some.inj hstep
      refine .fresh (read timestamp) rfl rfl ?_ rfl
      rintro text htext
      obtain rfl := Option.some.inj htext
      exact ⟨hne, rfl⟩
    · cases hstep

/-- Progress is delivery. -/
theorem Listener.Progress.delivered (hreads : s.Reads read) (h : s.Progress read) :
    s.Delivered read := by
  unfold Listener.Delivered Listener.due
  cases h with
  | idle hstart hseen hreset hemitted => rw [hseen, hemitted, List.nil_append]
  | fresh start hstart hseen hreset hemitted => rw [hseen, hemitted, List.nil_append]
  | upTo start last id hstart hseen htimestamp hreset hle hpresent hemitted =>
    obtain ⟨row, hrow, rfl⟩ := hpresent
    have hsplit := filter_le_append_filter_lt ((pairwise_sorted s).filter fun row =>
      start ≤ row.timestamp) row.timestamp
    rw [hseen, htimestamp, hemitted, ← List.map_append]
    unfold Listener.wanted
    rw [hstart]
    simp only [Option.any_some, hreads row hrow]
    rw [← hsplit, List.filter_filter, List.filter_filter]
    congr 2
    · refine List.filter_congr fun row' _ => ?_
      rw [Bool.decide_and, Bool.and_comm]
    · refine List.filter_congr fun row' _ => ?_
      rw [← Bool.decide_and, decide_eq_decide]
      exact ⟨fun h => ⟨h, hle.trans h.le⟩, fun h => h.1⟩

/-- Before a poll, what was emitted and what it finds make up all that is to be delivered. -/
theorem wanted_poll {recent : String} (hreads : s.Reads read) (h : s.Progress read)
    (hcareful : Careful read s (.poll recent)) :
    (s.poll read recent).wanted.map Row.traceEvent =
      s.emitted ++ (s.found read (s.startTime recent)).map Row.traceEvent := by
  have hwanted : (s.poll read recent).wanted = s.sorted.filter fun row =>
      (s.start.or (some (read (s.startTime recent)))).any fun start => start ≤ row.timestamp := by
    unfold Listener.poll
    rw [foldl_process]
    rfl
  rw [hwanted]
  cases h with
  | idle hstart hseen hreset hemitted =>
    rw [hstart, hemitted, List.nil_append, Option.none_or,
      found_of_fresh hseen fun _ _ => Iff.rfl]
    rfl
  | fresh start hstart hseen hreset hemitted =>
    rw [hstart, hemitted, List.nil_append, Option.some_or, found_of_fresh hseen
      (startTime_of_resetTo hreset fun hnone => hcareful.1 hseen hnone start hstart)]
    rfl
  | upTo start last id hstart hseen htimestamp hreset hle hpresent hemitted =>
    have hdelivered := (Listener.Progress.upTo start last id hstart hseen htimestamp hreset hle
      hpresent hemitted).delivered hreads
    unfold Listener.Delivered Listener.due at hdelivered
    rw [found_of_upTo _ hreads hseen htimestamp hpresent, hstart]
    obtain ⟨row, hrow, rfl⟩ := hpresent
    rw [hseen, htimestamp] at hdelivered
    simp only [Option.any_some, hreads row hrow] at hdelivered
    rw [hdelivered]
    unfold Listener.wanted
    rw [hstart]
    rfl

/-- A careful poll skips nothing that it finds. -/
theorem skips_found {recent : String} (hreads : s.Reads read) (h : s.Progress read)
    (hcareful : Careful read s (.poll recent)) :
    ∀ row ∈ s.found read (s.startTime recent), s.skips row = false := by
  intro row hrow
  cases h with
  | idle hstart hseen hreset hemitted =>
    unfold Listener.skips
    rw [hreset]
    rfl
  | fresh start hstart hseen hreset hemitted =>
    rw [found_of_fresh hseen
      (startTime_of_resetTo hreset fun hnone => hcareful.1 hseen hnone start hstart),
      List.mem_filter, mem_sorted] at hrow
    exact skips_eq_false hcareful.2.2 hreset hrow.1 (of_decide_eq_true hrow.2)
  | upTo start last id hstart hseen htimestamp hreset hle hpresent hemitted =>
    rw [found_of_upTo _ hreads hseen htimestamp hpresent, List.mem_filter, mem_sorted] at hrow
    exact skips_eq_false hcareful.2.2 hreset hrow.1 (hle.trans (of_decide_eq_true hrow.2).le)

/-- A careful poll emits the next rows, up to its limit. -/
theorem length_emitted_poll {recent : String} (hreads : s.Reads read) (h : s.Progress read)
    (hcareful : Careful read s (.poll recent)) :
    (s.poll read recent).emitted.length =
      min (s.emitted.length + batchLimit) (s.poll read recent).wanted.length := by
  have hwanted := congrArg List.length (wanted_poll hreads h hcareful)
  rw [List.length_map, List.length_append, List.length_map] at hwanted
  rw [hwanted, poll_eq (skips_found hreads h hcareful)]
  simp only [List.length_append, List.length_map, List.length_take]
  omega

/-- The database reads the timestamps of all rows of a run as they are written. -/
def ReadsAll (read : String → Stamp) (es : List Event) : Prop :=
  ∀ rows, Event.commit rows ∈ es → ∀ row ∈ rows, read row.timestamp.isoformat = row.timestamp

/-- What a careful run has read. -/
theorem progress_run {es : List Event} (hall : ReadsAll read es) (hreads : s.Reads read)
    (h : s.Progress read) (hok : Throughout (step read) (Careful read) s es)
    (hrun : run (step read) s es = some s') : s'.Reads read ∧ s'.Progress read := by
  induction es generalizing s with
  | nil =>
    obtain rfl := Option.some.inj hrun
    exact ⟨hreads, h⟩
  | cons e es ih =>
    obtain ⟨t, ht, hrest⟩ := run_cons_eq_some.mp hrun
    refine ih (fun rows hmem => hall rows (List.mem_cons_of_mem e hmem)) ?_
      (progress_step hreads h hok.1 ht) (hok.2 t ht) hrest
    cases e with
    | commit rows =>
      change (if _ then _ else _) = some t at ht
      split at ht
      · obtain rfl := Option.some.inj ht
        exact List.forall_mem_append.mpr ⟨hreads, hall rows List.mem_cons_self⟩
      · cases ht
    | poll recent =>
      obtain rfl := Option.some.inj ht
      unfold Listener.poll
      rw [foldl_process]
      exact hreads
    | reset timestamp =>
      change (if _ then _ else _) = some t at ht
      split at ht
      · obtain rfl := Option.some.inj ht
        exact hreads
      · cases ht

/-- **Every row is emitted once.** In every run whose polls are careful, what was emitted since the
listener began or was reset is one event for each of the first rows from then on, in their order,
and the next polls find the others; each careful poll emits the next thousand of them, or all that
are left. -/
theorem delivered_once {es : List Event} (hall : ReadsAll read es)
    (hok : Throughout (step read) (Careful read) {} es) (hrun : run (step read) {} es = some s) :
    s.Delivered read ∧ ∀ recent, Careful read s (.poll recent) →
      (s.poll read recent).emitted.length =
        min (s.emitted.length + batchLimit) (s.poll read recent).wanted.length := by
  obtain ⟨hreads, h⟩ := progress_run hall (fun row hrow => by cases hrow)
    (.idle rfl rfl rfl rfl) hok hrun
  exact ⟨h.delivered hreads, fun recent => length_emitted_poll hreads h⟩

end

/-! ### Rows of one moment -/

def noon : Stamp := { year := 2025, month := 6, day := 1, hour := 12 }

/-- A database that knows no other time. -/
def atNoon (_ : String) : Stamp := noon

/-- Rows that were written at the same time. -/
def burst (n : ℕ) : List Row := (List.range n).map fun i =>
  { id := toString i, eventType := "agent_start", traceId := "t", spanId := toString i,
    operationName := "plan", timestamp := noon }

theorem timestamp_of_mem_burst {n : ℕ} {row : Row} (h : row ∈ burst n) : row.timestamp = noon := by
  obtain ⟨i, -, rfl⟩ := List.mem_map.mp h
  rfl

theorem run_burst (n : ℕ) (recent : String) :
    run (step atNoon) {} [.commit (burst n), .poll recent] =
      some (Listener.poll atNoon { table := burst n } recent) := by
  have hcommit : step atNoon {} (.commit (burst n)) = some { table := burst n } := by
    simp [step]
  rw [run_cons, hcommit]
  rfl

/-- What a poll leaves after rows of one moment became visible. -/
theorem poll_burst (n : ℕ) (recent : String) :
    let s := Listener.poll atNoon { table := burst n } recent
    s.emitted.length = min batchLimit n ∧ s.wanted.length = n ∧ (0 < n → s.due atNoon = []) := by
  let t : Listener := { table := burst n }
  have hsorted : t.sorted.length = n := by
    rw [Listener.sorted, (sortBy_perm Row.order _).length_eq]
    simp [t, burst]
  have hfound : t.found atNoon (t.startTime recent) = t.sorted := by
    rw [found_eq]
    refine List.filter_eq_self.mpr fun row hrow => ?_
    exact decide_eq_true (timestamp_of_mem_burst (mem_sorted.mp hrow)).ge
  have hpoll := @poll_eq atNoon t recent fun row _ => rfl
  rw [hfound] at hpoll
  refine ⟨?_, ?_, fun hn => ?_⟩
  · rw [hpoll]
    simp [t, hsorted]
  · rw [hpoll]
    refine Eq.trans (congrArg List.length (List.filter_eq_self.mpr fun row hrow => ?_)) hsorted
    exact decide_eq_true (timestamp_of_mem_burst (mem_sorted.mp hrow)).ge
  · obtain ⟨a, ha⟩ := @exists_last atNoon t (t.startTime recent) (by
      rw [hfound, ne_eq, ← List.length_eq_zero_iff, hsorted]
      omega)
    rw [hfound] at ha
    rw [hpoll]
    simp only [Listener.due, ha, Option.map_some, Option.some_or, Option.any_some]
    rw [List.filter_eq_nil_iff]
    intro row hrow
    have hnoon : row.timestamp = noon := timestamp_of_mem_burst (mem_sorted.mp hrow)
    simp [atNoon, hnoon]

/-- All rows of a moment are emitted when they fit into a batch. -/
theorem burst_delivered : ∃ s, run (step atNoon) {} [.commit (burst 2), .poll "2025-06-01T11:59:30"] =
    some s ∧ s.Delivered atNoon ∧ s.emitted.length = 2 := by
  have hfits : Uncut Row.timestamp batchLimit (Listener.found atNoon { table := burst 2 }
      "2025-06-01T11:59:30") := by
    refine uncut_of_length_le ((sortBy_perm Row.order _).length_eq.trans_le ?_)
    exact (List.length_filter_le _ _).trans (by decide)
  have hok : Throughout (step atNoon) (Careful atNoon) {}
      [.commit (burst 2), .poll "2025-06-01T11:59:30"] := by
    refine .of_step trivial rfl (.of_step ⟨fun _ _ start hstart => ?_, hfits, fun text htext => ?_⟩
      rfl trivial)
    · cases hstart
    · cases htext
  refine ⟨_, rfl, (delivered_once ?_ hok rfl).1, (poll_burst 2 _).1⟩
  intro rows hrows row hrow
  obtain rfl : rows = burst 2 := by simpa using hrows
  exact (timestamp_of_mem_burst hrow).symm

/-- A thousand and one rows of one moment: the last one is not emitted, and no poll will find it. -/
theorem burst_cut : ∃ s, run (step atNoon) {} [.commit (burst 1001), .poll "2025-06-01T11:59:30"] =
    some s ∧ s.emitted.length = 1000 ∧ s.wanted.length = 1001 ∧ s.due atNoon = [] ∧
      ¬s.Delivered atNoon := by
  obtain ⟨hemitted, hwanted, hdue⟩ := poll_burst 1001 "2025-06-01T11:59:30"
  refine ⟨_, run_burst 1001 _, hemitted, hwanted, hdue (by decide), fun hdelivered => ?_⟩
  have hlength := congrArg List.length hdelivered
  rw [hdue (by decide), List.map_nil, List.append_nil, List.length_map, hemitted, hwanted] at hlength
  exact absurd hlength (by decide)

end GnnSandbox.Supervisor
