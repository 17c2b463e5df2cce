import GnnSandbox.Agent.Windows

/-!
# The readers of a collector

Prometheus scrapes a collector, and so do status requests and two places that log. Each of them
takes a snapshot, which clears the window and becomes the one that the next throughput is computed
from, whoever reads it.
-/

namespace GnnSandbox.Agent

open Transition

/-- The places that take a snapshot of the collector of a flow. -/
inductive ReadSite where
  | flowSnapshots
  | toStatus
  | udpProgress
  | finalStats
deriving DecidableEq

inductive ReadEvent where
  | add (call : AddCall)
  | counters
  | snapshot (site : ReadSite) (now : ℤ)
deriving DecidableEq

def Snapshot.packets (s : Snapshot) : Counter → Int64
  | .packetsSent => s.packetsSent
  | .packetsReceived => s.packetsReceived
  | _ => 0

def packetCounters : List Counter := [.packetsSent, .packetsReceived]

theorem mem_packetCounters {c : Counter} :
    c ∈ packetCounters ↔ c = .packetsSent ∨ c = .packetsReceived := by
  simp [packetCounters]

/-- A collector with what has been added to it, what the scrapes have reported, what the other
readers have read, and the scrape before. -/
structure Scraped where
  collector : Collector
  added : Counter → Int64
  reported : Counter → Int64
  others : Counter → Int64
  previous : Snapshot

namespace Scraped

def initial (start : ℤ) : Scraped :=
  ⟨.reset start, fun _ => 0, fun _ => 0, fun _ => 0, (Collector.reset start).lastSnapshot⟩

/-- A snapshot for the scraper or for another reader. -/
def take (m : Scraped) (site : ReadSite) (now : ℤ) : Scraped :=
  let s := (m.collector.snapshot now).1
  if site = .flowSnapshots then
    { m with
      collector := (m.collector.snapshot now).2
      reported := fun c => m.reported c + s.packets c
      previous := s }
  else
    { m with
      collector := (m.collector.snapshot now).2
      others := fun c => m.others c + s.packets c }

def step (m : Scraped) : ReadEvent → Option Scraped
  | .add call => some
      { m with
        collector := m.collector.addAll call
        added := fun c => m.added c + call.amount c }
  | .counters => some m
  | .snapshot site now =>
    if m.collector.lastSnapshot.timestamp ≤ now then some (m.take site now) else none

/-- A scrape brings the packets that have been reported up to those that have been added, and its
throughput is over the bytes and the time since the scrape before. -/
def Faithful (m : Scraped) : ReadEvent → Prop
  | .snapshot .flowSnapshots now =>
    let s := (m.collector.snapshot now).1
    (∀ c ∈ packetCounters, m.reported c + s.packets c = m.added c) ∧
      s.throughputSentBps =
        throughput s.bytesSent m.previous.bytesSent now m.previous.timestamp ∧
      s.throughputRecvBps =
        throughput s.bytesReceived m.previous.bytesReceived now m.previous.timestamp ∧
      s.throughputBps = s.throughputSentBps + s.throughputRecvBps
  | _ => True

/-- The last snapshot is as good as the scrape before: it is of the same instant and the same
bytes, or no bytes have come since either of them. -/
def SameBase (m : Scraped) (last previous counter : Int64) : Prop :=
  last = previous ∧
    (m.collector.lastSnapshot.timestamp = m.previous.timestamp ∨ counter = previous)

/-- At a scrape the other readers have found no packets so far, and the last snapshot is as good
as the scrape before. -/
def Undisturbed (m : Scraped) : ReadEvent → Prop
  | .snapshot .flowSnapshots _ =>
    (∀ c ∈ packetCounters, m.others c = 0) ∧
      m.SameBase m.collector.lastSnapshot.bytesSent m.previous.bytesSent
        (m.collector.counters .bytesSent) ∧
      m.SameBase m.collector.lastSnapshot.bytesReceived m.previous.bytesReceived
        (m.collector.counters .bytesReceived)
  | _ => True

instance (m : Scraped) (last previous counter : Int64) :
    Decidable (m.SameBase last previous counter) := inferInstanceAs (Decidable (_ ∧ (_ ∨ _)))

instance (m : Scraped) : ∀ e, Decidable (m.Undisturbed e)
  | .snapshot .flowSnapshots _ => inferInstanceAs (Decidable (_ ∧ _ ∧ _))
  | .snapshot .toStatus _ | .snapshot .udpProgress _ | .snapshot .finalStats _ => isTrue trivial
  | .add _ | .counters => isTrue trivial

/-! ## What has been read -/

/-- Every packet has been reported or read by another reader, or it is still in the window. -/
def Accounted (m : Scraped) : Prop :=
  ∀ c ∈ packetCounters,
    m.reported c + m.others c + m.collector.counters c = m.added c

variable {m m' : Scraped} {e : ReadEvent}

theorem packets_snapshot (collector : Collector) (now : ℤ) {c : Counter}
    (hc : c ∈ packetCounters) :
    (collector.snapshot now).1.packets c = collector.counters c ∧
      (collector.snapshot now).2.counters c = 0 := by
  rcases mem_packetCounters.mp hc with rfl | rfl <;> exact ⟨rfl, rfl⟩

theorem accounted_step (h : m.Accounted) (hstep : m.step e = some m') : m'.Accounted := by
  intro c hc
  have hold := h c hc
  cases e with
  | add call =>
    obtain rfl := Option.some.inj hstep
    dsimp only
    rw [counters_addAll]
    grind
  | counters =>
    obtain rfl := Option.some.inj hstep
    exact hold
  | snapshot site now =>
    change (if _ then some (m.take site now) else none) = some m' at hstep
    split_ifs at hstep
    obtain rfl := Option.some.inj hstep
    obtain ⟨hread, hcleared⟩ := packets_snapshot m.collector now hc
    unfold take
    dsimp only
    split_ifs
    · dsimp only
      rw [hread, hcleared]
      grind
    · dsimp only
      rw [hread, hcleared]
      grind

theorem throughput_of_sameBase {last previous counter : Int64} (now : ℤ)
    (h : m.SameBase last previous counter) :
    throughput counter last now m.collector.lastSnapshot.timestamp =
      throughput counter previous now m.previous.timestamp := by
  obtain ⟨rfl, htime | rfl⟩ := h
  · rw [htime]
  · rw [throughput_self, throughput_self]

/-- One event. -/
theorem faithful_of_undisturbed (h : m.Accounted) (hok : m.Undisturbed e) : m.Faithful e := by
  cases e with
  | snapshot site now =>
    cases site with
    | flowSnapshots =>
      obtain ⟨hothers, hsent, hreceived⟩ := hok
      refine ⟨fun c hc => ?_, throughput_of_sameBase now hsent,
        throughput_of_sameBase now hreceived, rfl⟩
      have hold := h c hc
      rw [hothers c hc] at hold
      rw [(packets_snapshot m.collector now hc).1]
      grind
    | _ => trivial
  | _ => trivial

theorem accounted_initial (start : ℤ) : (initial start).Accounted := fun _ _ => rfl

/-- **Scrapes see every packet**, and compute the throughput since the scrape before, in every run
in which the other readers leave them what they need. -/
theorem faithful_run {events : List ReadEvent} {start : ℤ}
    (hok : Throughout step Undisturbed (initial start) events) :
    Throughout step Faithful (initial start) events :=
  hok.imp (fun _ _ => faithful_of_undisturbed) (fun _ _ _ h _ => accounted_step h)
    (accounted_initial start)

/-- Two packets between two scrapes, and a reader that looks at the bytes only. -/
def scrapedRun : List ReadEvent :=
  [.add (.bytesSent 1300), .add .packetSent, .counters, .snapshot .flowSnapshots 15,
    .add (.bytesSent 1300), .add .packetSent, .snapshot .flowSnapshots 30]

theorem faithful_scraped : Throughout step Faithful (initial 0) scrapedRun :=
  faithful_run (by decide +kernel)

/-- A packet is sent, a status request reads it, and then comes a scrape. -/
def statusRun : List ReadEvent :=
  [.add .packetSent, .snapshot .toStatus 10, .snapshot .flowSnapshots 15]

/-- No scrape reports the packet. -/
theorem status_takes_packet : ¬Throughout step Faithful (initial 0) statusRun := by
  intro h
  obtain ⟨m, hrun⟩ := Option.isSome_iff_exists.mp
    (show (run step (initial 0) (statusRun.take 2)).isSome = true by decide +kernel)
  have hm : m = (run step (initial 0) (statusRun.take 2)).getD (initial 0) := by rw [hrun]; rfl
  have hscrape := throughout_iff.mp h (statusRun.take 2) (.snapshot .flowSnapshots 15) [] m rfl hrun
  have hsent := hscrape.1 .packetsSent (by decide)
  rw [hm] at hsent
  exact absurd hsent (by decide +kernel)

end Scraped

end GnnSandbox.Agent
