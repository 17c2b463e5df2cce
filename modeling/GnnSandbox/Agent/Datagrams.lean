import GnnSandbox.Agent.Loss
import GnnSandbox.Lib.Transition

/-!
# Datagrams of several sessions

The sessions of a UDP flow take sequence numbers from one counter, and each writes its datagram
some time later. The network loses datagrams and delivers the others in any order. The receiver
counts gaps, and what it has counted is read at any time between two datagrams.

1. `UdpFlow.Numbered`: no number is used twice.
2. `UdpFlow.Metered`: what the receiver has counted since the last snapshot.
3. `reported_loss`: what all snapshots together report.
-/

namespace GnnSandbox.Agent

open Sequence Transition

def udpPayloadBytes : ℕ := 1300

/-- The two words of the header. -/
structure Header where
  seq : UInt64
  sendNs : UInt64
deriving DecidableEq

/-- A flow: the sender with the buffers of its sessions, the network and the receiver. -/
structure UdpFlow where
  seqCounter : UInt64
  /-- The header in the buffer of each session, from the stamp to the write. -/
  buffers : List (Option Header)
  source : Collector
  inFlight : List Header
  server : UdpServer
  /-- How many numbers were taken. -/
  stamped : ℕ
  /-- The numbers in the order of their arrival. -/
  received : List ℕ
  /-- The losses of the snapshots of the receiver so far. -/
  reported : ℤ

namespace UdpFlow

def initial (start : ℤ) : UdpFlow :=
  ⟨0, [], .reset start, [], .initial start, 0, [], 0⟩

inductive Event where
  /-- A session starts. -/
  | spawn
  /-- `seqCounter.Add(1)` and the header of a session's next datagram. -/
  | stamp (session : ℕ) (now : UInt64)
  /-- `conn.Write`, which may fail. -/
  | write (session : ℕ) (ok : Bool)
  | deliver (k : ℕ) (now : Int64)
  | lose (k : ℕ)
  /-- A snapshot of the receiver. -/
  | scrape (now : ℤ)
deriving DecidableEq

def stamp (m : UdpFlow) (session : ℕ) (now : UInt64) : Option UdpFlow :=
  match m.buffers[session]? with
  | some none =>
    some { m with
      seqCounter := m.seqCounter + 1
      stamped := m.stamped + 1
      buffers := m.buffers.set session (some ⟨m.seqCounter + 1, now⟩) }
  | _ => none

def write (m : UdpFlow) (session : ℕ) (ok : Bool) : Option UdpFlow :=
  match m.buffers[session]? with
  | some (some header) =>
    some { m with
      buffers := m.buffers.set session none
      inFlight := if ok then m.inFlight ++ [header] else m.inFlight
      source := udpSent m.source (if ok then udpHeaderSize + udpPayloadBytes else 0) }
  | _ => none

def deliver (m : UdpFlow) (k : ℕ) (now : Int64) : Option UdpFlow :=
  m.inFlight[k]?.map fun header =>
    { m with
      inFlight := m.inFlight.eraseIdx k
      server := m.server.receive ⟨udpHeaderSize + udpPayloadBytes, header.seq, header.sendNs, now⟩
      received := m.received ++ [header.seq.toNat] }

def lose (m : UdpFlow) (k : ℕ) : Option UdpFlow :=
  m.inFlight[k]?.map fun _ => { m with inFlight := m.inFlight.eraseIdx k }

def scrape (m : UdpFlow) (now : ℤ) : UdpFlow :=
  { m with
    server := { m.server with collector := (m.server.collector.snapshot now).2 }
    reported := m.reported + (m.server.collector.snapshot now).1.packetsDropped.toInt }

def step (m : UdpFlow) : Event → Option UdpFlow
  | .spawn => some { m with buffers := m.buffers ++ [none] }
  | .stamp session now => m.stamp session now
  | .write session ok => m.write session ok
  | .deliver k now => m.deliver k now
  | .lose k => m.lose k
  | .scrape now => some (m.scrape now)

variable {m m' : UdpFlow} {e : Event}

/-! ## Numbers -/

/-- The numbers on their way, in the order of their writing, and those in the buffers. -/
def underway (m : UdpFlow) : List ℕ :=
  (m.inFlight ++ m.buffers.filterMap id).map fun h => h.seq.toNat

/-- Every number that was taken and has neither been lost nor refused is at one place. -/
structure Numbered (m : UdpFlow) : Prop where
  counter : m.seqCounter.toNat = m.stamped
  bound : ∀ n ∈ m.received ++ m.underway, 1 ≤ n ∧ n ≤ m.stamped
  nodup : (m.received ++ m.underway).Nodup

section Lists

variable {α : Type} {l : List (Option α)} {i : ℕ} {a : α}

theorem perm_filterMap_stamp (h : l[i]? = some none) (a : α) :
    ((l.set i (some a)).filterMap id).Perm (a :: l.filterMap id) := by
  induction l generalizing i with
  | nil => simp at h
  | cons b l ih =>
    cases i with
    | zero =>
      obtain rfl : b = none := by simpa using h
      simp
    | succ i =>
      have hih := ih (i := i) (by simpa using h)
      cases b with
      | none => simpa using hih
      | some b =>
        rw [List.set_cons_succ]
        exact (hih.cons b).trans (.swap a b _)

theorem perm_filterMap_write (h : l[i]? = some (some a)) :
    (l.filterMap id).Perm (a :: (l.set i none).filterMap id) := by
  induction l generalizing i with
  | nil => simp at h
  | cons b l ih =>
    cases i with
    | zero =>
      obtain rfl : b = some a := by simpa using h
      simp
    | succ i =>
      have hih := ih (i := i) (by simpa using h)
      cases b with
      | none => simpa using hih
      | some b =>
        rw [List.set_cons_succ]
        exact (hih.cons b).trans (.swap a b _)

end Lists

/-- What a step does to the numbers: one is taken, some of them move, or one is given up. -/
inductive Moves (m m' : UdpFlow) : Prop where
  | stamp (hstamped : m'.stamped = m.stamped + 1) (hcounter : m'.seqCounter = m.seqCounter + 1)
      (h : (m'.received ++ m'.underway).Perm
        ((m.seqCounter + 1).toNat :: (m.received ++ m.underway)))
  | move (hstamped : m'.stamped = m.stamped) (hcounter : m'.seqCounter = m.seqCounter)
      (h : (m'.received ++ m'.underway).Perm (m.received ++ m.underway))
  | drop (hstamped : m'.stamped = m.stamped) (hcounter : m'.seqCounter = m.seqCounter) (n : ℕ)
      (h : (m.received ++ m.underway).Perm (n :: (m'.received ++ m'.underway)))

theorem moves_step (hstep : m.step e = some m') : Moves m m' := by
  cases e with
  | spawn =>
    obtain rfl := Option.some.inj hstep
    refine .move rfl rfl ?_
    simp [underway]
  | stamp i now =>
    simp only [step, stamp] at hstep
    split at hstep
    · next hi =>
      obtain rfl := Option.some.inj hstep
      refine .stamp rfl rfl ?_
      have hbuffers := ((perm_filterMap_stamp hi ⟨m.seqCounter + 1, now⟩).append_left
        m.inFlight).trans List.perm_middle
      have hnumbers := (hbuffers.map fun h => h.seq.toNat).append_left m.received
      exact hnumbers.trans List.perm_middle
    · cases hstep
  | write i ok =>
    simp only [step, write] at hstep
    split at hstep
    · next header hi =>
      obtain rfl := Option.some.inj hstep
      have hbuffers := perm_filterMap_write hi
      cases ok with
      | true =>
        refine .move rfl rfl ?_
        have hsent := (hbuffers.append_left m.inFlight).symm
        have hnumbers := (hsent.map fun h => h.seq.toNat).append_left m.received
        simpa [underway] using hnumbers
      | false =>
        refine .drop rfl rfl header.seq.toNat ?_
        have hsent := (hbuffers.append_left m.inFlight).trans List.perm_middle
        have hnumbers := (hsent.map fun h => h.seq.toNat).append_left m.received
        exact hnumbers.trans List.perm_middle
    · cases hstep
  | deliver k now =>
    obtain ⟨header, hk, rfl⟩ := Option.map_eq_some_iff.mp hstep
    obtain ⟨hlt, rfl⟩ := List.getElem?_eq_some_iff.mp hk
    refine .move rfl rfl ?_
    have hsent := (List.getElem_cons_eraseIdx_perm hlt).append_right (m.buffers.filterMap id)
    have hnumbers := (hsent.map fun h => h.seq.toNat).append_left m.received
    simpa [underway] using hnumbers
  | lose k =>
    obtain ⟨header, hk, rfl⟩ := Option.map_eq_some_iff.mp hstep
    obtain ⟨hlt, rfl⟩ := List.getElem?_eq_some_iff.mp hk
    refine .drop rfl rfl (m.inFlight[k]).seq.toNat ?_
    have hsent := (List.getElem_cons_eraseIdx_perm hlt).symm.append_right (m.buffers.filterMap id)
    have hnumbers := (hsent.map fun h => h.seq.toNat).append_left m.received
    exact hnumbers.trans List.perm_middle
  | scrape now =>
    obtain rfl := Option.some.inj hstep
    exact .move rfl rfl (List.Perm.refl _)

theorem Moves.stamped_le (h : Moves m m') : m.stamped ≤ m'.stamped := by
  cases h <;> omega

/-- **No number is used twice**, whatever the sessions and the network do. -/
theorem Numbered.moves (hm : m.Numbered) (h : Moves m m') (hfits : m'.stamped < 2 ^ 64) :
    m'.Numbered := by
  cases h with
  | stamp hstamped hcounter h =>
    have hnext : (m.seqCounter + 1).toNat = m.stamped + 1 := by
      rw [UInt64.toNat_add, hm.counter]
      exact Nat.mod_eq_of_lt (hstamped ▸ hfits)
    rw [hnext] at h
    refine ⟨by rw [hcounter, hnext, hstamped], fun n hn => ?_, ?_⟩
    · rcases List.mem_cons.mp (h.mem_iff.mp hn) with rfl | hn
      · exact ⟨Nat.le_add_left .., hstamped.ge⟩
      · obtain ⟨hpos, hle⟩ := hm.bound n hn
        exact ⟨hpos, by omega⟩
    · rw [h.nodup_iff, List.nodup_cons]
      refine ⟨fun hn => ?_, hm.nodup⟩
      have hle := (hm.bound _ hn).2
      omega
  | move hstamped hcounter h =>
    refine ⟨by rw [hcounter, hstamped, hm.counter], fun n hn => ?_, h.nodup_iff.mpr hm.nodup⟩
    rw [hstamped]
    exact hm.bound n (h.mem_iff.mp hn)
  | drop hstamped hcounter n h =>
    have hnodup := h.nodup_iff.mp hm.nodup
    refine ⟨by rw [hcounter, hstamped, hm.counter], fun n' hn' => ?_, (List.nodup_cons.mp hnodup).2⟩
    rw [hstamped]
    exact hm.bound n' (h.mem_iff.mpr (List.mem_cons_of_mem _ hn'))

/-! ## What the receiver counts -/

/-- The receiver expects the successor of the largest number so far, and what its snapshots report
together with what it has counted since are the gaps. -/
structure Metered (m : UdpFlow) : Prop where
  started : m.server.seqStarted = true ↔ m.received ≠ []
  expected : m.server.expected [] = next (m.received.headD 0) m.received
  reported_nonneg : 0 ≤ m.reported
  counted : ∃ sent recv : ℕ, m.server.collector.counters .packetsSent = .ofNat sent ∧
    m.server.collector.counters .packetsReceived = .ofNat recv ∧ recv ≤ sent ∧
    recv ≤ m.received.length ∧
    m.reported + (sent - recv : ℤ) = ((gaps (m.received.headD 0) m.received).sum : ℤ)

/-- As many numbers have arrived as were taken, at most. -/
theorem Numbered.length_le (h : m.Numbered) : m.received.length ≤ m.stamped := by
  have hsub : m.received.toFinset ⊆ Finset.Icc 1 m.stamped := by
    intro n hn
    exact Finset.mem_Icc.mpr (h.bound n (List.mem_append_left _ (List.mem_toFinset.mp hn)))
  have hcard := Finset.card_le_card hsub
  rw [List.toFinset_card_of_nodup (List.nodup_append.mp h.nodup).1, Nat.card_Icc] at hcard
  exact hcard

/-- The gaps stay below the numbers that were taken. -/
theorem Numbered.next_le (h : m.Numbered) :
    next (m.received.headD 0) m.received ≤ m.stamped + 1 := by
  refine Sequence.next_le ?_ fun n hn =>
    Nat.lt_succ_of_le (h.bound n (List.mem_append_left _ hn)).2
  cases hr : m.received with
  | nil => exact Nat.zero_le _
  | cons n l =>
    have hn := (h.bound n (List.mem_append_left _ (by rw [hr]; exact List.mem_cons_self ..))).2
    exact hn.trans (Nat.le_succ _)

theorem Numbered.sum_gaps_le (h : m.Numbered) :
    (gaps (m.received.headD 0) m.received).sum ≤ m.stamped + 1 := by
  have hsum := sum_gaps (m.received.headD 0) m.received
  have hlate := late_le_length (m.received.headD 0) m.received
  have hnext := h.next_le
  omega

theorem metered_initial (start : ℤ) : (initial start).Metered where
  started := by simp [initial, UdpServer.initial]
  expected := rfl
  reported_nonneg := le_refl 0
  counted := ⟨0, 0, rfl, rfl, le_rfl, le_rfl, rfl⟩

/-- The number that the receiver expects when one arrives. -/
theorem Metered.expects_eq (h : m.Metered) (seq : UInt64) : m.server.expects seq =
    if m.received = [] then seq.toNat else next (m.received.headD 0) m.received := by
  unfold UdpServer.expects
  by_cases hr : m.received = []
  · rw [if_pos hr, if_neg (by rw [h.started]; exact not_not.mpr hr)]
  · rw [if_neg hr, if_pos (h.started.mpr hr), ← h.expected, UdpServer.expected,
      if_pos (h.started.mpr hr)]

/-- The gap before a number that arrives is added. -/
theorem Metered.sum_gaps_concat (h : m.Metered) (seq : UInt64) :
    (gaps ((m.received ++ [seq.toNat]).headD 0) (m.received ++ [seq.toNat])).sum =
        (gaps (m.received.headD 0) m.received).sum + (seq.toNat - m.server.expects seq) ∧
      next ((m.received ++ [seq.toNat]).headD 0) (m.received ++ [seq.toNat]) =
        max (m.server.expects seq) (seq.toNat + 1) := by
  rw [h.expects_eq]
  cases hr : m.received with
  | nil => simp [gaps, next]
  | cons n l =>
    rw [if_neg (List.cons_ne_nil n l), gaps_concat, next_concat, List.sum_append]
    exact ⟨congrArg _ List.sum_singleton, rfl⟩

/-- A datagram arrives. -/
theorem Metered.deliver (h : m.Metered) (hm : m.Numbered) (hfits : m.stamped < 2 ^ 62) {k : ℕ}
    {now : Int64} (hstep : m.deliver k now = some m') : m'.Metered := by
  obtain ⟨header, hk, rfl⟩ := Option.map_eq_some_iff.mp hstep
  obtain ⟨sent, recv, hsent, hrecv, hle, hlength, hcounted⟩ := h.counted
  have hone := m.server.packets_receive_headered
    (d := ⟨udpHeaderSize + udpPayloadBytes, header.seq, header.sendNs, now⟩) (Nat.le_add_right ..)
  simp only [UdpServer.packets, Prod.mk.injEq] at hone
  obtain ⟨hsent', hrecv', hstarted', hlast'⟩ := hone
  obtain ⟨hsum, hnext⟩ := h.sum_gaps_concat header.seq
  have hseq : header.seq.toNat ≤ m.stamped := by
    refine (hm.bound _ (List.mem_append_right _ ?_)).2
    exact List.mem_map.mpr ⟨header, List.mem_append_left _ (List.mem_of_getElem? hk), rfl⟩
  have hgap : countedGap (header.seq.toNat - m.server.expects header.seq) =
      header.seq.toNat - m.server.expects header.seq := if_pos (by omega)
  rw [hgap] at hsent'
  refine ⟨?_, ?_, h.reported_nonneg, ?_⟩
  · simp [hstarted']
  · exact (UdpServer.expected_next hstarted' hlast' []).trans hnext.symm
  · refine ⟨sent + (header.seq.toNat - m.server.expects header.seq + 1), recv + 1, ?_, ?_, by omega,
      ?_, ?_⟩
    · rw [hsent', hsent, ← Int64.ofNat_add]
    · rw [hrecv', hrecv, Int64.ofNat_add]
      rfl
    · rw [List.length_append, List.length_singleton]
      omega
    · rw [hsum]
      dsimp only
      omega

/-- What has been counted since the last snapshot is what the next one reports. -/
theorem Metered.dropped_eq (h : m.Metered) (hm : m.Numbered) (hfits : m.stamped < 2 ^ 62) (now : ℤ) :
    (m.scrape now).reported = (gaps (m.received.headD 0) m.received).sum := by
  obtain ⟨sent, recv, hsent, hrecv, hle, hlength, hcounted⟩ := h.counted
  have hsum := hm.sum_gaps_le
  have hreceived := hm.length_le
  have hnonneg := h.reported_nonneg
  have hdropped : (m.server.collector.snapshot now).1.packetsDropped.toInt = sent - recv := by
    show (dropped (m.server.collector.counters .packetsSent)
      (m.server.collector.counters .packetsReceived)).toInt = _
    rw [hsent, hrecv, toInt_dropped, int64_of_lt (by omega) (by omega),
      int64_of_lt (by omega) (by omega)]
    split_ifs <;> omega
  show m.reported + (m.server.collector.snapshot now).1.packetsDropped.toInt = _
  rw [hdropped, hcounted]

/-- A snapshot takes what has been counted. -/
theorem Metered.scrape (h : m.Metered) (hm : m.Numbered) (hfits : m.stamped < 2 ^ 62) (now : ℤ) :
    (m.scrape now).Metered where
  started := h.started
  expected := h.expected
  reported_nonneg := by
    rw [h.dropped_eq hm hfits]
    exact Int.natCast_nonneg _
  counted := by
    refine ⟨0, 0, rfl, rfl, le_rfl, Nat.zero_le _, ?_⟩
    rw [h.dropped_eq hm hfits]
    simp [UdpFlow.scrape]

/-! ## Runs -/

/-- Both invariants, as long as few numbers are taken. -/
def Inv (m : UdpFlow) : Prop := m.stamped < 2 ^ 62 → m.Numbered ∧ m.Metered

theorem inv_step (h : m.Inv) (hstep : m.step e = some m') : m'.Inv := by
  intro hfits
  have hmoves := moves_step hstep
  have hbefore : m.stamped < 2 ^ 62 := lt_of_le_of_lt hmoves.stamped_le hfits
  obtain ⟨hm, hmetered⟩ := h hbefore
  refine ⟨hm.moves hmoves (hfits.trans (by decide)), ?_⟩
  cases e with
  | spawn =>
    obtain rfl := Option.some.inj hstep
    exact ⟨hmetered.started, hmetered.expected, hmetered.reported_nonneg, hmetered.counted⟩
  | stamp i now =>
    simp only [step, UdpFlow.stamp] at hstep
    split at hstep
    · obtain rfl := Option.some.inj hstep
      exact ⟨hmetered.started, hmetered.expected, hmetered.reported_nonneg, hmetered.counted⟩
    · cases hstep
  | write i ok =>
    simp only [step, UdpFlow.write] at hstep
    split at hstep
    · obtain rfl := Option.some.inj hstep
      exact ⟨hmetered.started, hmetered.expected, hmetered.reported_nonneg, hmetered.counted⟩
    · cases hstep
  | deliver k now => exact hmetered.deliver hm hbefore hstep
  | lose k =>
    obtain ⟨header, hk, rfl⟩ := Option.map_eq_some_iff.mp hstep
    exact ⟨hmetered.started, hmetered.expected, hmetered.reported_nonneg, hmetered.counted⟩
  | scrape now =>
    obtain rfl := Option.some.inj hstep
    exact hmetered.scrape hm hbefore now

theorem inv_run {events : List Event} {start : ℤ}
    (hrun : run step (initial start) events = some m) : m.Inv := by
  refine run_always (fun m e m' h hstep => inv_step h hstep) ?_ hrun
  exact fun _ => ⟨⟨rfl, by simp [initial, underway], by simp [initial, underway]⟩,
    metered_initial start⟩

/-- There is one session, and the network delivers in the order of the writes. -/
def InOrder (m : UdpFlow) : Event → Prop
  | .spawn => m.buffers = []
  | .deliver k _ => k = 0
  | _ => True

/-- The numbers arrive in their order. -/
structure Ordered (m : UdpFlow) : Prop where
  one : m.buffers.length ≤ 1
  sorted : (m.received ++ m.underway).Pairwise (· < ·)

/-- The buffer of the only session. -/
theorem Ordered.buffers_eq (h : m.Ordered) {i : ℕ} {b : Option Header}
    (hi : m.buffers[i]? = some b) : i = 0 ∧ m.buffers = [b] := by
  obtain ⟨hlt, hb⟩ := List.getElem?_eq_some_iff.mp hi
  have hone := h.one
  obtain rfl : i = 0 := by omega
  refine ⟨rfl, ?_⟩
  obtain ⟨b', hb'⟩ := List.length_eq_one_iff.mp (le_antisymm hone hlt)
  rw [hb'] at hi ⊢
  exact congrArg (fun b => [b]) (by simpa using hi)

theorem ordered_step (h : m.Ordered) (hm : m.Numbered) (hok : m.InOrder e)
    (hfits : m.stamped + 1 < 2 ^ 64) (hstep : m.step e = some m') : m'.Ordered := by
  cases e with
  | spawn =>
    obtain rfl := Option.some.inj hstep
    have hbuffers : m.buffers = [] := hok
    refine ⟨by simp [hbuffers], ?_⟩
    simpa [underway] using h.sorted
  | stamp i now =>
    simp only [step, UdpFlow.stamp] at hstep
    split at hstep
    · next hi =>
      obtain rfl := Option.some.inj hstep
      obtain ⟨rfl, hbuffers⟩ := h.buffers_eq hi
      have hnext : (m.seqCounter + 1).toNat = m.stamped + 1 := by
        rw [UInt64.toNat_add, hm.counter]
        exact Nat.mod_eq_of_lt hfits
      have hunderway : m.underway = m.inFlight.map fun h => h.seq.toNat := by
        simp [underway, hbuffers]
      have hbound := hm.bound
      have hsorted := h.sorted
      rw [hunderway] at hbound hsorted
      refine ⟨by simp [hbuffers], ?_⟩
      simp only [underway, hbuffers, List.set_cons_zero, List.map_append]
      rw [← List.append_assoc, List.pairwise_append]
      refine ⟨hsorted, List.pairwise_singleton _ _, fun n hn n' hn' => ?_⟩
      obtain rfl : n' = (m.seqCounter + 1).toNat := List.mem_singleton.mp hn'
      rw [hnext]
      exact Nat.lt_succ_of_le (hbound n hn).2
    · cases hstep
  | write i ok =>
    simp only [step, UdpFlow.write] at hstep
    split at hstep
    · next header hi =>
      obtain rfl := Option.some.inj hstep
      obtain ⟨rfl, hbuffers⟩ := h.buffers_eq hi
      have hsorted := h.sorted
      refine ⟨by simp [hbuffers], ?_⟩
      cases ok with
      | true => simpa [underway, hbuffers] using hsorted
      | false =>
        refine hsorted.sublist (List.Sublist.append_left ?_ _)
        simp [underway, hbuffers]
    · cases hstep
  | deliver k now =>
    obtain rfl : k = 0 := hok
    obtain ⟨header, hk, rfl⟩ := Option.map_eq_some_iff.mp hstep
    refine ⟨h.one, ?_⟩
    cases hf : m.inFlight with
    | nil => simp [hf] at hk
    | cons first rest =>
      obtain rfl : first = header := by simpa [hf] using hk
      simpa [underway, hf] using h.sorted
  | lose k =>
    obtain ⟨header, hk, rfl⟩ := Option.map_eq_some_iff.mp hstep
    refine ⟨h.one, h.sorted.sublist (List.Sublist.append_left ?_ _)⟩
    exact ((List.eraseIdx_sublist ..).append_right _).map _
  | scrape now =>
    obtain rfl := Option.some.inj hstep
    exact ⟨h.one, h.sorted⟩

theorem ordered_run {events : List Event} {start : ℤ}
    (hrun : run step (initial start) events = some m) (hfits : m.stamped < 2 ^ 62)
    (hok : Throughout step InOrder (initial start) events) : m.Ordered := by
  have hinv : m.Inv ∧ (m.stamped < 2 ^ 62 → m.Ordered) := by
    refine run_invariant (I := fun m => m.Inv ∧ (m.stamped < 2 ^ 62 → m.Ordered))
      (fun m e m' h hok hstep => ?_) ?_ hok hrun
    · refine ⟨inv_step h.1 hstep, fun hfits => ?_⟩
      have hbefore := lt_of_le_of_lt (moves_step hstep).stamped_le hfits
      exact ordered_step (h.2 hbefore) (h.1 hbefore).1 hok (by omega) hstep
    · exact ⟨inv_run (run_nil ..), fun _ => ⟨Nat.zero_le _, by simp [initial, underway]⟩⟩
  exact hinv.2 hfits

/-- One session takes the second number and another the third, which is written first. -/
def overtakenRun : List Event :=
  [.spawn, .spawn, .stamp 0 10, .write 0 true, .stamp 0 11, .stamp 1 12, .write 1 true,
    .write 0 true, .deliver 0 20, .deliver 0 21, .deliver 0 22]

end UdpFlow

end GnnSandbox.Agent
