import Mathlib.Algebra.Field.Rat
import Mathlib.Logic.Function.Basic

/-!
# The metrics collector of a flow

Atomic counters that the goroutines of a flow add to, and the snapshots that are taken of them. A
snapshot clears the counters of its window; the byte counters keep growing, and a snapshot compares
them with the snapshot before. Durations are in nanoseconds, rates and means are exact.
-/

namespace GnnSandbox.Agent

/-- The 64-bit counters of a collector. -/
inductive Counter where
  | bytesSent
  | bytesReceived
  | latencySumMs
  | latencySamples
  | jitterSumMs
  | jitterSamples
  | packetsSent
  | packetsReceived
deriving DecidableEq, Repr

structure Snapshot where
  timestamp : ℤ
  bytesSent : Int64
  bytesReceived : Int64
  throughputBps : ℚ
  throughputSentBps : ℚ
  throughputRecvBps : ℚ
  latencyMs : ℚ
  packetLossPct : ℚ
  packetsSent : Int64
  packetsReceived : Int64
  packetsDropped : Int64
  jitterMs : ℚ
  activeSessions : Int32
deriving DecidableEq

structure Collector where
  counters : Counter → Int64
  activeSessions : Int32
  lastSnapshot : Snapshot

/-- A call that adds to the counters. -/
inductive AddCall where
  | bytesSent (n : Int64)
  | bytesReceived (n : Int64)
  | latencySample (ms : ℚ)
  | jitterSample (ms : ℚ)
  | packetSent
  | packetReceived
  | packetsSent (n : Int64)
deriving DecidableEq

/-- `int64(ms * 1000)` -/
def microseconds (ms : ℚ) : Int64 := Int64.ofInt ((ms * 1000).num.tdiv (ms * 1000).den)

/-- The atomic additions of a call, in their order. -/
def AddCall.atomics : AddCall → List (Counter × Int64)
  | .bytesSent n => [(.bytesSent, n)]
  | .bytesReceived n => [(.bytesReceived, n)]
  | .latencySample ms => [(.latencySumMs, microseconds ms), (.latencySamples, 1)]
  | .jitterSample ms => [(.jitterSumMs, microseconds ms), (.jitterSamples, 1)]
  | .packetSent => [(.packetsSent, 1)]
  | .packetReceived => [(.packetsReceived, 1)]
  | .packetsSent n => [(.packetsSent, n)]

/-- What a call adds to a counter. -/
def AddCall.amount (call : AddCall) (c : Counter) : Int64 :=
  ((call.atomics.filter fun a => a.1 = c).map Prod.snd).sum

/-! ## Snapshots -/

/-- Bits per second; zero when no time has passed. -/
def throughput (bytes lastBytes : Int64) (now last : ℤ) : ℚ :=
  if last < now then (bytes - lastBytes).toInt * 8 / ((now - last : ℤ) / 10 ^ 9 : ℚ) else 0

/-- A mean in milliseconds from a sum in microseconds. -/
def meanMs (sum samples : Int64) : ℚ :=
  if 0 < samples then (sum.toInt : ℚ) / samples.toInt / 1000 else 0

def dropped (pkts pktsRecv : Int64) : Int64 :=
  if 0 < pkts then if pkts - pktsRecv < 0 then 0 else pkts - pktsRecv else 0

def lossPct (pkts pktsRecv : Int64) : ℚ :=
  if 0 < pkts then ((dropped pkts pktsRecv).toInt : ℚ) / pkts.toInt * 100 else 0

/-- The snapshot of the values that were loaded. -/
def Snapshot.of (last : Snapshot) (now : ℤ) (loaded : Counter → Int64) (activeSessions : Int32) :
    Snapshot where
  timestamp := now
  bytesSent := loaded .bytesSent
  bytesReceived := loaded .bytesReceived
  throughputBps :=
    throughput (loaded .bytesSent) last.bytesSent now last.timestamp +
      throughput (loaded .bytesReceived) last.bytesReceived now last.timestamp
  throughputSentBps := throughput (loaded .bytesSent) last.bytesSent now last.timestamp
  throughputRecvBps := throughput (loaded .bytesReceived) last.bytesReceived now last.timestamp
  latencyMs := meanMs (loaded .latencySumMs) (loaded .latencySamples)
  packetLossPct := lossPct (loaded .packetsSent) (loaded .packetsReceived)
  packetsSent := loaded .packetsSent
  packetsReceived := loaded .packetsReceived
  packetsDropped := dropped (loaded .packetsSent) (loaded .packetsReceived)
  jitterMs := meanMs (loaded .jitterSumMs) (loaded .jitterSamples)
  activeSessions := activeSessions

/-- The counters that a snapshot clears, in their order. -/
def snapshotStores : List Counter :=
  [.latencySumMs, .latencySamples, .jitterSumMs, .jitterSamples, .packetsSent, .packetsReceived]

/-- The counters that no snapshot clears. -/
def byteCounters : List Counter := [.bytesSent, .bytesReceived]

/-- The counters after a snapshot. -/
def cleared (counters : Counter → Int64) (c : Counter) : Int64 :=
  if c ∈ snapshotStores then 0 else counters c

namespace Collector

/-- `Snapshot`, when nothing happens in between. -/
def snapshot (c : Collector) (now : ℤ) : Snapshot × Collector :=
  let s := Snapshot.of c.lastSnapshot now c.counters c.activeSessions
  (s, { c with counters := cleared c.counters, lastSnapshot := s })

/-- `Counters` -/
def read (c : Collector) : Int64 × Int64 × Int32 :=
  (c.counters .bytesSent, c.counters .bytesReceived, c.activeSessions)

/-- `Reset`, of a collector that is new. -/
def reset (now : ℤ) : Collector :=
  ⟨fun _ => 0, 0, ⟨now, 0, 0, 0, 0, 0, 0, 0, 0, 0, 0, 0, 0⟩⟩

/-- One atomic addition. -/
def add (c : Collector) (counter : Counter) (n : Int64) : Collector :=
  { c with counters := Function.update c.counters counter (c.counters counter + n) }

/-- A call, when nothing happens in between. -/
def addAll (c : Collector) (call : AddCall) : Collector :=
  call.atomics.foldl (fun c a => c.add a.1 a.2) c

end Collector

/-! ## What a call adds -/

theorem counters_addAll (collector : Collector) (call : AddCall) (c : Counter) :
    (collector.addAll call).counters c = collector.counters c + call.amount c := by
  unfold Collector.addAll AddCall.amount
  induction call.atomics generalizing collector with
  | nil => exact (Int64.add_zero _).symm
  | cons a rest ih =>
    rw [List.foldl_cons, ih, List.filter_cons]
    by_cases hc : a.1 = c
    · subst hc
      rw [if_pos (by simp), List.map_cons, List.sum_cons, Collector.add]
      dsimp only
      rw [Function.update_self, Int64.add_assoc]
    · rw [if_neg (by simp [hc]), Collector.add]
      dsimp only
      rw [Function.update_of_ne (Ne.symm hc)]

/-! ## The parts of a snapshot -/

theorem mem_byteCounters {c : Counter} : c ∈ byteCounters ↔ c = .bytesSent ∨ c = .bytesReceived := by
  simp [byteCounters]

theorem not_mem_stores {c : Counter} (h : c ∈ byteCounters) : c ∉ snapshotStores := by
  rcases mem_byteCounters.mp h with rfl | rfl <;> decide

theorem throughput_self (bytes : Int64) (now last : ℤ) : throughput bytes bytes now last = 0 := by
  unfold throughput
  split_ifs
  · rw [show bytes - bytes = 0 by grind]
    simp
  · rfl

end GnnSandbox.Agent
