import GnnSandbox.Agent.Collector
import GnnSandbox.Lib.Transition

/-!
# Samples between a load and its store

The calls that add to a collector run without its mutex, so their atomic additions fall anywhere
between the loads and the stores of a snapshot. The ledger of a run keeps what has been added, what
the snapshots have read, and which byte deltas they have used.
-/

namespace GnnSandbox.Agent

open Transition

/-- A load of a snapshot; a sum is loaded only when there are samples. -/
inductive Load where
  | counter (c : Counter)
  | sum (c samples : Counter)
  | activeSessions
deriving DecidableEq

/-- The loads of a snapshot, in their order. -/
def snapshotLoads : List Load :=
  [.counter .bytesSent, .counter .bytesReceived, .counter .latencySamples,
    .sum .latencySumMs .latencySamples, .counter .jitterSamples, .sum .jitterSumMs .jitterSamples,
    .counter .packetsSent, .counter .packetsReceived, .activeSessions]

/-- The local variables of a snapshot. -/
structure Locals where
  now : ℤ
  loaded : Counter → Int64
  activeSessions : Int32

def Load.perform (c : Collector) (l : Locals) : Load → Locals
  | .counter k => { l with loaded := Function.update l.loaded k (c.counters k) }
  | .sum k samples =>
    if 0 < l.loaded samples then { l with loaded := Function.update l.loaded k (c.counters k) }
    else l
  | .activeSessions => { l with activeSessions := c.activeSessions }

/-- The snapshot that holds the mutex, with what it has still to do. -/
inductive Reader where
  | idle
  | loading (l : Locals) (todo : List Load)
  | storing (l : Locals) (todo : List Counter)

structure Ledger where
  added : Counter → Int64
  read : Counter → Int64
  used : Counter → Int64

/-- A collector in use: the additions that each goroutine has still to make, and the snapshot. -/
structure Metered where
  collector : Collector
  adding : ℕ → List (Counter × Int64)
  reader : Reader
  ledger : Ledger

inductive MeterEvent where
  | call (goroutine : ℕ) (call : AddCall)
  | add (goroutine : ℕ)
  | sessions (n : Int32)
  | lock (now : ℤ)
  | snapshotStep
deriving DecidableEq

def Snapshot.bytes (s : Snapshot) : Counter → Int64
  | .bytesSent => s.bytesSent
  | .bytesReceived => s.bytesReceived
  | _ => 0

namespace Metered

def initial (start : ℤ) : Metered :=
  ⟨.reset start, fun _ => [], .idle, ⟨fun _ => 0, fun _ => 0, fun _ => 0⟩⟩

/-- The next atomic addition of a goroutine. -/
def add (m : Metered) (goroutine : ℕ) : Option Metered :=
  match m.adding goroutine with
  | (c, n) :: rest => some
      { m with
        collector := m.collector.add c n
        adding := Function.update m.adding goroutine rest
        ledger := { m.ledger with added := Function.update m.ledger.added c (m.ledger.added c + n) } }
  | [] => none

/-- `c.mu.Lock()` and `time.Now()`. -/
def lock (m : Metered) (now : ℤ) : Option Metered :=
  match m.reader with
  | .idle =>
    if m.collector.lastSnapshot.timestamp ≤ now then
      some { m with reader := .loading ⟨now, fun _ => 0, 0⟩ snapshotLoads }
    else none
  | _ => none

/-- The deltas that a snapshot uses, when some time has passed. -/
def use (m : Metered) (l : Locals) (c : Counter) : Int64 :=
  if m.collector.lastSnapshot.timestamp < l.now then
    m.ledger.used c + (l.loaded c - m.collector.lastSnapshot.bytes c)
  else m.ledger.used c

/-- `c.lastSnapshot = s`, and the snapshot returns. -/
def finish (m : Metered) (l : Locals) : Metered :=
  { m with
    collector :=
      { m.collector with
        lastSnapshot := Snapshot.of m.collector.lastSnapshot l.now l.loaded l.activeSessions }
    reader := .idle
    ledger := { m.ledger with read := fun c => m.ledger.read c + l.loaded c, used := m.use l } }

def store (m : Metered) (c : Counter) (l : Locals) (rest : List Counter) : Metered :=
  { m with
    collector := { m.collector with counters := Function.update m.collector.counters c 0 }
    reader := .storing l rest }

/-- The next step of the snapshot. -/
def snapshotStep (m : Metered) : Option Metered :=
  match m.reader with
  | .idle => none
  | .loading l (load :: rest) => some { m with reader := .loading (load.perform m.collector l) rest }
  | .loading l [] => some { m with reader := .storing l snapshotStores }
  | .storing l (c :: rest) => some (m.store c l rest)
  | .storing l [] => some (m.finish l)

def step (m : Metered) : MeterEvent → Option Metered
  | .call goroutine call =>
    if m.adding goroutine = [] then
      some { m with adding := Function.update m.adding goroutine call.atomics }
    else none
  | .add goroutine => m.add goroutine
  | .sessions n => some
      { m with
        collector := { m.collector with activeSessions := m.collector.activeSessions + n } }
  | .lock now => m.lock now
  | .snapshotStep => m.snapshotStep

/-! ## A snapshot that nothing interrupts -/

variable {m m' : Metered} {e : MeterEvent}

/-- The loads of a snapshot that nothing interrupts. -/
def loadAll (c : Collector) (l : Locals) (todo : List Load) : Locals :=
  todo.foldl (fun l load => load.perform c l) l

theorem run_loads (l : Locals) (todo : List Load) (hreader : m.reader = .loading l todo) :
    run step m (List.replicate todo.length .snapshotStep) =
      some { m with reader := .loading (loadAll m.collector l todo) [] } := by
  induction todo generalizing m l with
  | nil =>
    change some m = _
    rw [loadAll, List.foldl_nil, ← hreader]
  | cons load rest ih =>
    rw [List.length_cons, List.replicate_succ, run_cons]
    have hstep : step m .snapshotStep =
        some { m with reader := .loading (load.perform m.collector l) rest } := by
      change m.snapshotStep = _
      unfold snapshotStep
      rw [hreader]
    rw [hstep]
    exact ih _ rfl

theorem run_stores (l : Locals) (todo : List Counter) (hreader : m.reader = .storing l todo) :
    run step m (List.replicate todo.length .snapshotStep) =
      some { m with
        collector :=
          { m.collector with counters := fun c => if c ∈ todo then 0 else m.collector.counters c }
        reader := .storing l [] } := by
  induction todo generalizing m with
  | nil =>
    change some m = _
    simp [← hreader]
  | cons c rest ih =>
    rw [List.length_cons, List.replicate_succ, run_cons]
    have hstep : step m .snapshotStep = some (m.store c l rest) := by
      change m.snapshotStep = _
      unfold snapshotStep
      rw [hreader]
    rw [hstep, Option.bind_some, ih rfl]
    have hcounters : (fun k => if k ∈ rest then 0 else (m.store c l rest).collector.counters k) =
        fun k => if k ∈ c :: rest then 0 else m.collector.counters k := by
      funext k
      by_cases hk : k = c
      · subst hk
        simp [store]
      · simp [store, hk]
    dsimp only
    rw [hcounters]
    rfl

theorem of_loadAll (c : Collector) (now : ℤ) :
    Snapshot.of c.lastSnapshot (loadAll c ⟨now, fun _ => 0, 0⟩ snapshotLoads).now
      (loadAll c ⟨now, fun _ => 0, 0⟩ snapshotLoads).loaded
      (loadAll c ⟨now, fun _ => 0, 0⟩ snapshotLoads).activeSessions =
        (c.snapshot now).1 := by
  by_cases hlatency : 0 < c.counters .latencySamples <;>
    by_cases hjitter : 0 < c.counters .jitterSamples <;>
      simp [loadAll, snapshotLoads, Load.perform, Function.update, hlatency, hjitter, Snapshot.of,
        Collector.snapshot, meanMs]

/-- A snapshot that nothing interrupts. -/
theorem run_snapshot {now : ℤ} (hidle : m.reader = .idle)
    (hnow : m.collector.lastSnapshot.timestamp ≤ now) :
    ∃ m', run step m (.lock now :: List.replicate 17 .snapshotStep) = some m' ∧
      m'.reader = .idle ∧ m'.collector = (m.collector.snapshot now).2 := by
  let l : Locals := ⟨now, fun _ => 0, 0⟩
  let m₁ : Metered := { m with reader := .loading l snapshotLoads }
  let m₂ : Metered := { m with reader := .storing (loadAll m.collector l snapshotLoads) snapshotStores }
  have hlock : step m (.lock now) = some m₁ := by
    change m.lock now = _
    unfold lock
    rw [hidle]
    exact if_pos hnow
  have hsplit : List.replicate 17 MeterEvent.snapshotStep =
      List.replicate snapshotLoads.length .snapshotStep ++ .snapshotStep ::
        (List.replicate snapshotStores.length .snapshotStep ++ [.snapshotStep]) := by decide
  rw [run_cons, hlock, Option.bind_some, hsplit, run_append, run_loads (m := m₁) l _ rfl,
    Option.bind_some, run_cons]
  change ∃ m', (run step m₂ _) = some m' ∧ _
  rw [run_append, run_stores (m := m₂) _ _ rfl, Option.bind_some]
  refine ⟨_, rfl, rfl, ?_⟩
  exact congrArg (fun s => (⟨cleared m.collector.counters, m.collector.activeSessions, s⟩ : Collector))
    (of_loadAll m.collector now)
/-! ## Nothing is lost -/

/-- What the snapshot in progress has read and cleared. -/
def taken (m : Metered) (c : Counter) : Int64 :=
  match m.reader with
  | .storing l todo => if c ∈ todo then 0 else l.loaded c
  | _ => 0

/-- The windows that have been read and what is left in the counters are what has been added, and
so are the byte deltas that have been used and the bytes since the last snapshot. -/
structure Conserved (m : Metered) : Prop where
  windows : ∀ c ∈ snapshotStores,
    m.ledger.read c + m.taken c + m.collector.counters c = m.ledger.added c
  bytes : ∀ c ∈ byteCounters,
    m.ledger.used c + (m.collector.counters c - m.collector.lastSnapshot.bytes c) =
      m.ledger.added c

/-- A store clears what its snapshot has loaded, and a snapshot ends after some time or with no
new bytes. -/
def CleanStep (c : Collector) : Reader → Prop
  | .storing l (k :: _) => c.counters k = l.loaded k
  | .storing l [] => c.lastSnapshot.timestamp < l.now ∨
      ∀ k ∈ byteCounters, l.loaded k = c.lastSnapshot.bytes k
  | _ => True

def Clean (m : Metered) : MeterEvent → Prop
  | .snapshotStep => CleanStep m.collector m.reader
  | _ => True

instance (c : Collector) : ∀ r, Decidable (CleanStep c r)
  | .storing l (k :: _) => inferInstanceAs (Decidable (c.counters k = l.loaded k))
  | .storing l [] => inferInstanceAs (Decidable (c.lastSnapshot.timestamp < l.now ∨
      ∀ k ∈ byteCounters, l.loaded k = c.lastSnapshot.bytes k))
  | .idle | .loading .. => isTrue trivial

instance (m : Metered) : ∀ e, Decidable (m.Clean e)
  | .snapshotStep => inferInstanceAs (Decidable (CleanStep m.collector m.reader))
  | .call .. | .add _ | .sessions _ | .lock _ => isTrue trivial

/-- The stores that a snapshot has still to make are the last of its stores. -/
def Ordered (m : Metered) : Prop :=
  ∀ l todo, m.reader = .storing l todo → todo <:+ snapshotStores

theorem ordered_snapshotStep (h : m.Ordered) (hstep : m.snapshotStep = some m') : m'.Ordered := by
  unfold snapshotStep at hstep
  split at hstep
  · cases hstep
  · obtain rfl := Option.some.inj hstep
    exact fun _ _ h => nomatch h
  · obtain rfl := Option.some.inj hstep
    rintro _ _ hreader
    obtain ⟨-, rfl⟩ := Reader.storing.inj hreader
    exact List.suffix_rfl
  · rename_i l c rest hreader
    obtain rfl := Option.some.inj hstep
    rintro _ _ hreader'
    obtain ⟨-, rfl⟩ := Reader.storing.inj hreader'
    exact (List.suffix_cons c rest).trans (h l _ hreader)
  · obtain rfl := Option.some.inj hstep
    exact fun _ _ h => nomatch h

/-- What a step that is none of the snapshot's does. -/
theorem step_cases (hstep : m.step e = some m') :
    (e = .snapshotStep ∧ m.snapshotStep = some m') ∨
      (e ≠ .snapshotStep ∧
        (m'.reader = m.reader ∨ ∃ l todo, m.reader = .idle ∧ m'.reader = .loading l todo) ∧
        m'.collector.lastSnapshot = m.collector.lastSnapshot ∧ m'.ledger.read = m.ledger.read ∧
        m'.ledger.used = m.ledger.used ∧
        ∃ n : Counter → Int64, ∀ c, m'.collector.counters c = m.collector.counters c + n c ∧
          m'.ledger.added c = m.ledger.added c + n c) := by
  have hzero : ∃ n : Counter → Int64, ∀ c,
      m.collector.counters c = m.collector.counters c + n c ∧
        m.ledger.added c = m.ledger.added c + n c :=
    ⟨fun _ => 0, fun c => ⟨(Int64.add_zero _).symm, (Int64.add_zero _).symm⟩⟩
  cases e with
  | call goroutine call =>
    change (if m.adding goroutine = [] then
      some { m with adding := Function.update m.adding goroutine call.atomics } else none) =
        some m' at hstep
    split_ifs at hstep
    obtain rfl := Option.some.inj hstep
    exact .inr ⟨by simp, .inl rfl, rfl, rfl, rfl, hzero⟩
  | add goroutine =>
    change m.add goroutine = some m' at hstep
    unfold add at hstep
    split at hstep
    · rename_i c n rest hadding
      obtain rfl := Option.some.inj hstep
      refine .inr ⟨by simp, .inl rfl, rfl, rfl, rfl, fun k => if k = c then n else 0, fun k => ?_⟩
      by_cases hk : k = c
      · subst hk
        simp [Collector.add]
      · simp [Collector.add, hk]
    · cases hstep
  | sessions n =>
    obtain rfl := Option.some.inj hstep
    exact .inr ⟨by simp, .inl rfl, rfl, rfl, rfl, hzero⟩
  | lock now =>
    change m.lock now = some m' at hstep
    unfold lock at hstep
    split at hstep
    · rename_i hidle
      split_ifs at hstep
      obtain rfl := Option.some.inj hstep
      exact .inr ⟨by simp, .inr ⟨_, _, hidle, rfl⟩, rfl, rfl, rfl, hzero⟩
    · cases hstep
  | snapshotStep => exact .inl ⟨rfl, hstep⟩

theorem ordered_step (h : m.Ordered) (hstep : m.step e = some m') : m'.Ordered := by
  rcases step_cases hstep with ⟨-, hsnap⟩ | ⟨-, hreader | ⟨l, todo, -, hreader⟩, -⟩
  · exact ordered_snapshotStep h hsnap
  · intro l todo hl
    exact h l todo (hreader ▸ hl)
  · intro l' todo' hl
    rw [hreader] at hl
    cases hl

/-- A step of a snapshot that only loads. -/
theorem Conserved.with_reader (hm : m.Conserved) {reader : Reader}
    (htaken : ∀ c ∈ snapshotStores, taken { m with reader := reader } c = m.taken c) :
    Conserved { m with reader := reader } := by
  refine ⟨fun c hc => ?_, hm.bytes⟩
  rw [htaken c hc]
  exact hm.windows c hc

/-- The store of a counter. -/
theorem conserved_store {l : Locals} {c : Counter} {rest : List Counter} (h : m.Ordered)
    (hm : m.Conserved) (hreader : m.reader = .storing l (c :: rest)) :
    (m.store c l rest).Conserved ↔ m.collector.counters c = l.loaded c := by
  have hsuffix := h l _ hreader
  have hc : c ∈ snapshotStores := hsuffix.subset List.mem_cons_self
  have hnodup : (c :: rest).Nodup := hsuffix.sublist.nodup (by decide)
  have hrest : c ∉ rest := (List.nodup_cons.mp hnodup).1
  have htaken : m.taken c = 0 := by
    rw [taken, hreader]
    exact if_pos List.mem_cons_self
  have htaken' : (m.store c l rest).taken c = l.loaded c := if_neg hrest
  have hother : ∀ k, k ≠ c → (m.store c l rest).taken k = m.taken k := by
    intro k hk
    have hmem : k ∈ c :: rest ↔ k ∈ rest := List.mem_cons.trans (or_iff_right hk)
    simp only [taken, hreader, hmem]
    rfl
  have hcounter : (m.store c l rest).collector.counters c = 0 := Function.update_self ..
  have hcounters : ∀ k, k ≠ c →
      (m.store c l rest).collector.counters k = m.collector.counters k :=
    fun k hk => Function.update_of_ne hk _ _
  have hwindow := hm.windows c hc
  rw [htaken] at hwindow
  constructor
  · intro h'
    have hwindow' := h'.windows c hc
    rw [htaken', hcounter] at hwindow'
    change m.ledger.read c + l.loaded c + 0 = m.ledger.added c at hwindow'
    grind
  · intro heq
    refine ⟨fun k hk => ?_, fun k hk => ?_⟩
    · change m.ledger.read k + _ + _ = m.ledger.added k
      by_cases hkc : k = c
      · subst hkc
        rw [htaken', hcounter]
        grind
      · rw [hother k hkc, hcounters k hkc]
        exact hm.windows k hk
    · have hkc : k ≠ c := by
        rintro rfl
        exact not_mem_stores hk hc
      rw [hcounters k hkc]
      exact hm.bytes k hk

/-- The end of a snapshot. -/
theorem conserved_finish {l : Locals} (hm : m.Conserved) (hreader : m.reader = .storing l []) :
    (m.finish l).Conserved ↔ m.collector.lastSnapshot.timestamp < l.now ∨
      ∀ c ∈ byteCounters,
        l.loaded c = m.collector.lastSnapshot.bytes c := by
  have hlast : ∀ c ∈ byteCounters,
      (m.finish l).collector.lastSnapshot.bytes c = l.loaded c := by
    intro c hc
    rcases mem_byteCounters.mp hc with rfl | rfl <;> rfl
  have hwindows : ∀ c ∈ snapshotStores,
      (m.finish l).ledger.read c + (m.finish l).taken c + (m.finish l).collector.counters c =
        (m.finish l).ledger.added c := by
    intro c hc
    have hwindow := hm.windows c hc
    have htaken : m.taken c = l.loaded c := by
      rw [taken, hreader]
      exact if_neg List.not_mem_nil
    rw [htaken] at hwindow
    change m.ledger.read c + l.loaded c + 0 + m.collector.counters c = m.ledger.added c
    rw [Int64.add_zero, hwindow]
  have hused : ∀ c, (m.finish l).ledger.used c = m.use l c := fun _ => rfl
  constructor
  · intro h'
    refine or_iff_not_imp_left.mpr fun htime c hc => ?_
    have hbytes := h'.bytes c hc
    rw [hlast c hc, hused, use, if_neg htime] at hbytes
    change m.ledger.used c + (m.collector.counters c - l.loaded c) = m.ledger.added c at hbytes
    have hold := hm.bytes c hc
    grind
  · intro hclean
    refine ⟨hwindows, fun c hc => ?_⟩
    rw [hlast c hc, hused, use]
    change _ + (m.collector.counters c - l.loaded c) = m.ledger.added c
    have hold := hm.bytes c hc
    split_ifs with htime
    · grind
    · have heq := hclean.resolve_left htime c hc
      grind

/-- One step. -/
theorem conserved_step (h : m.Ordered) (hm : m.Conserved) (hstep : m.step e = some m') :
    m'.Conserved ↔ m.Clean e := by
  rcases step_cases hstep with ⟨rfl, hsnap⟩ | ⟨he, hreader, hlast, hread, hused, n, hn⟩
  · unfold snapshotStep at hsnap
    split at hsnap
    · cases hsnap
    · rename_i l load rest hreader
      obtain rfl := Option.some.inj hsnap
      refine iff_of_true (hm.with_reader fun c hc => ?_) (by simp only [Clean, CleanStep, hreader])
      rw [taken, taken, hreader]
    · rename_i l hreader
      obtain rfl := Option.some.inj hsnap
      refine iff_of_true (hm.with_reader fun c hc => ?_) (by simp only [Clean, CleanStep, hreader])
      rw [taken, taken, hreader]
      exact if_pos hc
    · rename_i l c rest hreader
      obtain rfl := Option.some.inj hsnap
      simp only [Clean, CleanStep, hreader]
      exact conserved_store h hm hreader
    · rename_i l hreader
      obtain rfl := Option.some.inj hsnap
      simp only [Clean, CleanStep, hreader]
      exact conserved_finish hm hreader
  · have htaken : ∀ c, m'.taken c = m.taken c := by
      intro c
      rcases hreader with hreader | ⟨l, todo, hidle, hreader⟩
      · rw [taken, taken, hreader]
      · rw [taken, taken, hreader, hidle]
    refine iff_of_true ⟨fun c hc => ?_, fun c hc => ?_⟩ ?_
    · rw [htaken, hread, (hn c).1, (hn c).2, ← hm.windows c hc]
      grind
    · rw [hused, hlast, (hn c).1, (hn c).2]
      have hold := hm.bytes c hc
      grind
    · cases e with
      | snapshotStep => exact absurd rfl he
      | _ => trivial

theorem conserved_initial (start : ℤ) : (initial start).Conserved where
  windows c _ := rfl
  bytes c hc := by
    rcases mem_byteCounters.mp hc with rfl | rfl <;> exact (by decide : (0 : Int64) + (0 - 0) = 0)

/-- A packet is sent, and then a snapshot is taken. -/
def sentRun : List MeterEvent :=
  [.call 0 .packetSent, .add 0, .lock 5] ++ List.replicate 17 .snapshotStep

/-- A packet is sent after the snapshot has loaded its count and before it clears it. -/
def interruptedRun : List MeterEvent :=
  .lock 5 :: List.replicate 8 .snapshotStep ++ [.call 0 .packetSent, .add 0] ++
    List.replicate 9 .snapshotStep

end Metered

end GnnSandbox.Agent
