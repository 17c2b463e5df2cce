import GnnSandbox.Agent.Collector
import GnnSandbox.Lib.Sequence
import Mathlib.Algebra.Order.BigOperators.Group.List
import Mathlib.Algebra.Order.Group.Nat
import Mathlib.Tactic.NormNum

/-!
# Packet loss

The receiver of a UDP flow counts the gaps that it sees in the sequence numbers as packets sent,
and its collector takes what was received from what was sent. The sender uses the same counters.
-/

namespace GnnSandbox.Agent

open Sequence

/-- A datagram with its size, the two words of its header and the time at which it is read. -/
structure Datagram where
  n : ℕ
  seq : UInt64
  sendNs : UInt64
  recvNs : Int64

def udpHeaderSize : ℕ := 16

def maxSaneLatencyMs : ℚ := 10000

/-- The variables of `Serve`, with the collector. -/
structure UdpServer where
  collector : Collector
  totalPackets : Int64
  totalBytes : Int64
  seqStarted : Bool
  lastSeq : UInt64
  prevOWDms : Option ℚ

namespace UdpServer

def addAll (u : UdpServer) (call : AddCall) : UdpServer :=
  { u with collector := u.collector.addAll call }

/-- One-way latency and jitter. -/
def measure (u : UdpServer) (d : Datagram) : UdpServer :=
  let owdMs : ℚ := (d.recvNs - d.sendNs.toInt64).toInt / 10 ^ 6
  if 0 ≤ owdMs ∧ owdMs < maxSaneLatencyMs then
    let u := u.addAll (.latencySample owdMs)
    let u := match u.prevOWDms with
      | some prev => u.addAll (.jitterSample (if owdMs < prev then prev - owdMs else owdMs - prev))
      | none => u
    { u with prevOWDms := some owdMs }
  else u

/-- The gap before a datagram, counted when it is positive as a signed number. -/
def countGap (u : UdpServer) (seq : UInt64) : UdpServer :=
  if u.seqStarted = true ∧ u.lastSeq < seq then
    let gap := (seq - u.lastSeq - 1).toInt64
    if 0 < gap then u.addAll (.packetsSent gap) else u
  else u

/-- Loss detection by sequence numbers. -/
def track (u : UdpServer) (seq : UInt64) : UdpServer :=
  let u := ((u.countGap seq).addAll (.packetsSent 1)).addAll .packetReceived
  if u.seqStarted = false ∨ u.lastSeq < seq then { u with lastSeq := seq, seqStarted := true }
  else u

/-- The body of the loop of `Serve` up to the progress log. -/
def receive (u : UdpServer) (d : Datagram) : UdpServer :=
  if d.n = 0 then u
  else
    let u := { u with totalPackets := u.totalPackets + 1, totalBytes := u.totalBytes + Int64.ofNat d.n }
    let u := u.addAll (.bytesReceived (.ofNat d.n))
    if d.n < udpHeaderSize then u.addAll .packetReceived
    else (u.measure d).track d.seq

/-- The datagrams between two snapshots. -/
def receiveAll (u : UdpServer) (ds : List Datagram) : UdpServer := ds.foldl receive u

end UdpServer

/-- `Serve` before its first datagram. -/
def UdpServer.initial (start : ℤ) : UdpServer := ⟨.reset start, 0, 0, false, 0, none⟩

/-- What `udpSendLoop` counts after a write of `n` bytes. -/
def udpSent (c : Collector) (n : ℕ) : Collector :=
  if 0 < n then (c.addAll (.bytesSent (.ofNat n))).addAll .packetSent else c

/-- The sequence numbers of the datagrams with a header, in the order of their arrival. -/
def seqsOf (ds : List Datagram) : List ℕ :=
  (ds.filter fun d => udpHeaderSize ≤ d.n).map fun d => d.seq.toNat

/-- How many datagrams are too short for a header. -/
def shortsOf (ds : List Datagram) : ℕ :=
  ds.countP fun d => 0 < d.n ∧ d.n < udpHeaderSize

/-- A collector after a snapshot or a reset. -/
def Fresh (c : Collector) : Prop := c.counters .packetsSent = 0 ∧ c.counters .packetsReceived = 0

/-- The number that a server expects. -/
def UdpServer.expected (u : UdpServer) (seqs : List ℕ) : ℕ :=
  if u.seqStarted then u.lastSeq.toNat + 1 else seqs.headD 0

/-- The signed number of 64 bits. -/
def int64 (z : ℤ) : ℤ := z.bmod (2 ^ 64)

/-! ## Signed numbers of 64 bits -/

theorem toInt64_eq (u : UInt64) : u.toInt64 = Int64.ofNat u.toNat := by
  apply Int64.toBitVec_inj.mp
  simp

theorem toInt_ofNat (n : ℕ) : (Int64.ofNat n).toInt = int64 n := by
  rw [int64, ← Int64.ofInt_eq_ofNat, Int64.toInt_ofInt]
  rfl

theorem pos_iff {n : ℕ} (h : n < 2 ^ 64) : 0 < Int64.ofNat n ↔ 0 < n ∧ n < 2 ^ 63 := by
  rw [Int64.lt_iff_toInt_lt, toInt_ofNat, int64, Int.bmod_def, Int64.toInt_zero]
  split_ifs <;> omega

theorem int64_of_lt {z : ℤ} (hlo : -(2 ^ 63) ≤ z) (hhi : z < 2 ^ 63) : int64 z = z := by
  rw [int64, Int.bmod_def]
  split_ifs <;> omega

/-- The loss that a snapshot reports. -/
theorem toInt_dropped (a b : ℕ) : (dropped (.ofNat a) (.ofNat b)).toInt =
    if 0 < int64 a then max 0 (int64 (a - b)) else 0 := by
  have hsub : (Int64.ofNat a - Int64.ofNat b).toInt = int64 (a - b) := by
    rw [Int64.toInt_sub, toInt_ofNat, toInt_ofNat, int64, int64, int64, Int.bmod_sub_bmod,
      Int.sub_bmod_bmod]
  unfold dropped
  simp only [Int64.lt_iff_toInt_lt, toInt_ofNat, hsub, Int64.toInt_zero]
  split_ifs with ha hneg
  · rw [Int64.toInt_zero, max_eq_left hneg.le]
  · rw [hsub, max_eq_right (not_lt.mp hneg)]
  · rw [Int64.toInt_zero]

/-! ## The counters after some datagrams -/

/-- A gap as it is counted. -/
def countedGap (g : ℕ) : ℕ := if g < 2 ^ 63 then g else 0

namespace UdpServer

variable {u : UdpServer} {d : Datagram}

/-- The packets counted as sent, those received, and the sequence state. -/
def packets (u : UdpServer) : Int64 × Int64 × Bool × UInt64 :=
  (u.collector.counters .packetsSent, u.collector.counters .packetsReceived, u.seqStarted,
    u.lastSeq)

theorem packets_addAll (u : UdpServer) (call : AddCall) : (u.addAll call).packets =
    (u.collector.counters .packetsSent + call.amount .packetsSent,
      u.collector.counters .packetsReceived + call.amount .packetsReceived, u.seqStarted,
      u.lastSeq) := by
  rw [packets, addAll, counters_addAll, counters_addAll]

theorem packets_of_amount_eq_zero (u : UdpServer) {call : AddCall}
    (hsent : call.amount .packetsSent = 0) (hreceived : call.amount .packetsReceived = 0) :
    (u.addAll call).packets = u.packets := by
  rw [packets_addAll, hsent, hreceived, Int64.add_zero, Int64.add_zero, packets]

/-- The calls that leave the packets alone. -/
theorem packets_latencySample (u : UdpServer) (ms : ℚ) :
    (u.addAll (.latencySample ms)).packets = u.packets :=
  packets_of_amount_eq_zero u (by simp [AddCall.amount, AddCall.atomics])
    (by simp [AddCall.amount, AddCall.atomics])

theorem packets_jitterSample (u : UdpServer) (ms : ℚ) :
    (u.addAll (.jitterSample ms)).packets = u.packets :=
  packets_of_amount_eq_zero u (by simp [AddCall.amount, AddCall.atomics])
    (by simp [AddCall.amount, AddCall.atomics])

theorem packets_bytesReceived (u : UdpServer) (n : Int64) :
    (u.addAll (.bytesReceived n)).packets = u.packets :=
  packets_of_amount_eq_zero u (by simp [AddCall.amount, AddCall.atomics])
    (by simp [AddCall.amount, AddCall.atomics])

theorem packets_packetReceived (u : UdpServer) : (u.addAll .packetReceived).packets =
    (u.collector.counters .packetsSent, u.collector.counters .packetsReceived + 1, u.seqStarted,
      u.lastSeq) := by
  rw [packets_addAll]
  simp [AddCall.amount, AddCall.atomics]

theorem packets_packetsSent (u : UdpServer) (n : Int64) : (u.addAll (.packetsSent n)).packets =
    (u.collector.counters .packetsSent + n, u.collector.counters .packetsReceived, u.seqStarted,
      u.lastSeq) := by
  rw [packets_addAll]
  simp [AddCall.amount, AddCall.atomics]

theorem packets_measure (u : UdpServer) (d : Datagram) : (u.measure d).packets = u.packets := by
  unfold measure
  dsimp only
  split_ifs
  · cases hprev : u.prevOWDms with
    | none =>
      simp only [addAll, hprev]
      exact packets_latencySample u _
    | some prev =>
      simp only [addAll, hprev]
      exact (packets_jitterSample (u.addAll _) _).trans (packets_latencySample u _)
  · rfl

/-- What a server expects when a number arrives. -/
def expects (u : UdpServer) (seq : UInt64) : ℕ :=
  if u.seqStarted then u.lastSeq.toNat + 1 else seq.toNat

/-- The gap before a number that is larger than all before it. -/
theorem toNat_gap {last seq : UInt64} (h : last < seq) :
    (seq - last - 1).toNat = seq.toNat - (last.toNat + 1) := by
  have hlt := UInt64.lt_iff_toNat_lt.mp h
  have hsub : (seq - last).toNat = seq.toNat - last.toNat := UInt64.toNat_sub_of_le _ _ (UInt64.le_of_lt h)
  have hone : (1 : UInt64) ≤ seq - last := by
    rw [UInt64.le_iff_toNat_le, hsub]
    exact Nat.sub_pos_of_lt hlt
  rw [UInt64.toNat_sub_of_le _ _ hone, hsub, Nat.sub_sub]
  rfl

theorem packets_countGap (u : UdpServer) (seq : UInt64) : (u.countGap seq).packets =
    (u.collector.counters .packetsSent + Int64.ofNat (countedGap (seq.toNat - u.expects seq)),
      u.collector.counters .packetsReceived, u.seqStarted, u.lastSeq) := by
  have hzero : u.packets = (u.collector.counters .packetsSent + Int64.ofNat (countedGap 0),
      u.collector.counters .packetsReceived, u.seqStarted, u.lastSeq) := by
    rw [show Int64.ofNat (countedGap 0) = 0 from rfl, Int64.add_zero, packets]
  unfold countGap expects
  by_cases hnext : u.seqStarted = true ∧ u.lastSeq < seq
  · rw [if_pos hnext, if_pos hnext.1]
    have hgap := toNat_gap hnext.2
    have hlt : seq.toNat - (u.lastSeq.toNat + 1) < 2 ^ 64 :=
      lt_of_le_of_lt (Nat.sub_le _ _) seq.toNat_lt
    dsimp only
    rw [toInt64_eq, hgap, countedGap]
    split_ifs with hpos hfits hfits
    · exact packets_packetsSent u _
    · exact absurd ((pos_iff hlt).mp hpos).2 hfits
    · have hg : seq.toNat - (u.lastSeq.toNat + 1) = 0 := by
        by_contra hne
        exact hpos ((pos_iff hlt).mpr ⟨Nat.pos_of_ne_zero hne, hfits⟩)
      rw [hg]
      exact hzero
    · exact hzero
  · rw [if_neg hnext]
    have hle : seq.toNat - (if u.seqStarted then u.lastSeq.toNat + 1 else seq.toNat) = 0 := by
      split_ifs with hstarted
      · have hnot := UInt64.lt_iff_toNat_lt.not.mp fun h => hnext ⟨hstarted, h⟩
        omega
      · exact Nat.sub_self _
    rw [hle]
    exact hzero

/-- A datagram with a header. -/
theorem packets_track (u : UdpServer) (seq : UInt64) : (u.track seq).packets =
    (u.collector.counters .packetsSent + Int64.ofNat (countedGap (seq.toNat - u.expects seq) + 1),
      u.collector.counters .packetsReceived + 1, true,
      if u.seqStarted = false ∨ u.lastSeq < seq then seq else u.lastSeq) := by
  obtain ⟨hsent, hreceived, hstarted, hlast⟩ :
      (u.countGap seq).collector.counters .packetsSent = u.collector.counters .packetsSent +
          Int64.ofNat (countedGap (seq.toNat - u.expects seq)) ∧
        (u.countGap seq).collector.counters .packetsReceived =
          u.collector.counters .packetsReceived ∧
        (u.countGap seq).seqStarted = u.seqStarted ∧ (u.countGap seq).lastSeq = u.lastSeq := by
    simpa [packets] using packets_countGap u seq
  have hcounted : (((u.countGap seq).addAll (.packetsSent 1)).addAll .packetReceived).packets =
      (u.collector.counters .packetsSent +
          Int64.ofNat (countedGap (seq.toNat - u.expects seq) + 1),
        u.collector.counters .packetsReceived + 1, u.seqStarted, u.lastSeq) := by
    have hone := packets_packetsSent (u.countGap seq) 1
    simp only [packets, Prod.mk.injEq] at hone
    rw [packets_packetReceived, hone.1, hone.2.1, hone.2.2.1, hone.2.2.2, hsent, hreceived,
      hstarted, hlast, Int64.ofNat_add, Int64.add_assoc]
    rfl
  simp only [packets, Prod.mk.injEq] at hcounted
  obtain ⟨hsent', hreceived', hstarted', hlast'⟩ := hcounted
  unfold track
  dsimp only
  rw [hstarted', hlast']
  split_ifs with hnext
  · rw [packets, hsent', hreceived']
  · have hstarted : u.seqStarted = true := by
      rw [← Bool.not_eq_false]
      exact fun h => hnext (.inl h)
    rw [packets, hsent', hreceived', hstarted', hlast', hstarted]

theorem packets_receive_short (u : UdpServer) {d : Datagram} (hpos : d.n ≠ 0)
    (hshort : d.n < udpHeaderSize) : (u.receive d).packets =
    (u.collector.counters .packetsSent, u.collector.counters .packetsReceived + 1, u.seqStarted,
      u.lastSeq) := by
  unfold receive
  rw [if_neg hpos]
  dsimp only
  rw [if_pos hshort, packets_packetReceived]
  have hbytes := packets_bytesReceived
    { u with totalPackets := u.totalPackets + 1, totalBytes := u.totalBytes + Int64.ofNat d.n }
    (.ofNat d.n)
  simp only [packets, Prod.mk.injEq] at hbytes
  rw [hbytes.1, hbytes.2.1, hbytes.2.2.1, hbytes.2.2.2]

theorem packets_receive_headered (u : UdpServer) {d : Datagram} (hn : udpHeaderSize ≤ d.n) :
    (u.receive d).packets =
      (u.collector.counters .packetsSent +
          Int64.ofNat (countedGap (d.seq.toNat - u.expects d.seq) + 1),
        u.collector.counters .packetsReceived + 1, true,
        if u.seqStarted = false ∨ u.lastSeq < d.seq then d.seq else u.lastSeq) := by
  have hpos : d.n ≠ 0 := by
    rintro h
    rw [h] at hn
    exact absurd hn (by decide)
  unfold receive
  rw [if_neg hpos]
  dsimp only
  rw [if_neg (not_lt.mpr hn), packets_track]
  have hsame := (packets_measure _ d).trans (packets_bytesReceived
    { u with totalPackets := u.totalPackets + 1, totalBytes := u.totalBytes + Int64.ofNat d.n }
    (.ofNat d.n))
  simp only [packets, Prod.mk.injEq] at hsame
  rw [expects, hsame.1, hsame.2.1, hsame.2.2.1, hsame.2.2.2]
  rfl

/-- What a server expects after a number. -/
theorem expected_next {u u' : UdpServer} {seq : UInt64} (hstarted : u'.seqStarted = true)
    (hlast : u'.lastSeq = if u.seqStarted = false ∨ u.lastSeq < seq then seq else u.lastSeq)
    (seqs : List ℕ) : u'.expected seqs = max (u.expects seq) (seq.toNat + 1) := by
  rw [expected, if_pos hstarted, hlast, expects]
  split_ifs with hnext hu hu
  · have hlt := UInt64.lt_iff_toNat_lt.mp (hnext.resolve_left (by simp [hu]))
    omega
  · omega
  · have hnot := UInt64.lt_iff_toNat_lt.not.mp fun h => hnext (.inr h)
    omega
  · exact absurd (.inl (Bool.eq_false_of_not_eq_true hu)) hnext

/-- The counters after the datagrams of a window. -/
theorem packets_receiveAll (u : UdpServer) (ds : List Datagram) :
    (u.receiveAll ds).collector.counters .packetsSent = u.collector.counters .packetsSent +
        Int64.ofNat (((gaps (u.expected (seqsOf ds)) (seqsOf ds)).map countedGap).sum +
          (seqsOf ds).length) ∧
      (u.receiveAll ds).collector.counters .packetsReceived =
        u.collector.counters .packetsReceived + Int64.ofNat ((seqsOf ds).length + shortsOf ds) := by
  induction ds generalizing u with
  | nil => exact ⟨(Int64.add_zero _).symm, (Int64.add_zero _).symm⟩
  | cons d ds ih =>
    obtain ⟨hsent, hreceived⟩ := ih (u.receive d)
    change ((u.receive d).receiveAll ds).collector.counters _ = _ ∧
      ((u.receive d).receiveAll ds).collector.counters _ = _
    rw [hsent, hreceived]
    by_cases hheader : udpHeaderSize ≤ d.n
    · -- a number arrives
      have hseqs : seqsOf (d :: ds) = d.seq.toNat :: seqsOf ds := by simp [seqsOf, hheader]
      have hshorts : shortsOf (d :: ds) = shortsOf ds := by
        simp [shortsOf, not_lt.mpr hheader]
      have hone := packets_receive_headered u hheader
      simp only [packets, Prod.mk.injEq] at hone
      obtain ⟨hs, hr, hstarted, hlast⟩ := hone
      have hexpected : u.expected (seqsOf (d :: ds)) = u.expects d.seq := by
        rw [hseqs]
        rfl
      rw [hs, hr, hexpected, hseqs, hshorts, gaps, List.map_cons, List.sum_cons, List.length_cons,
        expected_next hstarted hlast]
      constructor
      · rw [Int64.add_assoc, ← Int64.ofNat_add]
        congr 2
        omega
      · rw [Int64.add_assoc, show (1 : Int64) = Int64.ofNat 1 from rfl, ← Int64.ofNat_add]
        congr 2
        omega
    · have hseqs : seqsOf (d :: ds) = seqsOf ds := by simp [seqsOf, hheader]
      have hlt : d.n < udpHeaderSize := not_le.mp hheader
      by_cases hzero : d.n = 0
      · have hshorts : shortsOf (d :: ds) = shortsOf ds := by simp [shortsOf, hzero]
        have hsame : u.receive d = u := if_pos hzero
        rw [hsame, hseqs, hshorts]
        exact ⟨rfl, rfl⟩
      · have hshorts : shortsOf (d :: ds) = shortsOf ds + 1 := by
          simp [shortsOf, hlt, Nat.pos_of_ne_zero hzero]
        have hone := packets_receive_short u hzero hlt
        simp only [packets, Prod.mk.injEq] at hone
        obtain ⟨hs, hr, hstarted, hlast⟩ := hone
        rw [expected, hs, hr, hstarted, hlast, hseqs, hshorts]
        refine ⟨rfl, ?_⟩
        rw [Int64.add_assoc, show (1 : Int64) = Int64.ofNat 1 from rfl, ← Int64.ofNat_add]
        congr 2
        omega

end UdpServer

/-! ## Measured and real loss -/

/-- The windows whose loss is measured. As long as the sums fit into signed numbers of 64 bits, the
late arrivals have to make up for the numbers below the expected one and for the short datagrams;
beyond that the sums are taken as such numbers. -/
def LossExact (e : ℕ) (seqs : List ℕ) (shorts : ℕ) : Prop :=
  if (gaps e seqs).sum + seqs.length < 2 ^ 63 ∧ seqs.length + shorts < 2 ^ 63 then
    Balanced e seqs shorts
  else
    let counted := ((gaps e seqs).map countedGap).sum
    missing seqs =
      if 0 < int64 (counted + seqs.length) then max 0 (int64 (counted - shorts)) else 0

theorem map_countedGap {gaps : List ℕ} (h : gaps.sum < 2 ^ 63) : gaps.map countedGap = gaps := by
  refine (List.map_congr_left fun g hg => ?_).trans (List.map_id gaps)
  exact if_pos (lt_of_le_of_lt (List.single_le_sum (by simp) g hg) h)

/-- What a snapshot reports of what has been counted. -/
theorem dropped_eq_iff {e shorts : ℕ} {seqs : List ℕ} (hnodup : seqs.Nodup) :
    (dropped (.ofNat (((gaps e seqs).map countedGap).sum + seqs.length))
      (.ofNat (seqs.length + shorts))).toInt = missing seqs ↔ LossExact e seqs shorts := by
  rw [toInt_dropped, LossExact]
  have hdiff : ((((gaps e seqs).map countedGap).sum + seqs.length : ℕ) : ℤ) -
      (seqs.length + shorts : ℕ) = ((gaps e seqs).map countedGap).sum - shorts := by
    omega
  rw [hdiff]
  by_cases hfits : (gaps e seqs).sum + seqs.length < 2 ^ 63 ∧ seqs.length + shorts < 2 ^ 63
  · rw [if_pos hfits, map_countedGap (by omega), ← balanced_iff hnodup,
      int64_of_lt (by omega) (by omega), int64_of_lt (by omega) (by omega)]
    split_ifs with hpos
    · exact Iff.rfl
    · -- no packet was counted
      rw [max_eq_left (by omega)]
  · rw [if_neg hfits]
    push_cast
    exact eq_comm

/-- `udpSendLoop`, with the sizes of its writes. -/
def udpSentAll (c : Collector) (writes : List ℕ) : Collector := writes.foldl udpSent c

theorem counters_udpSentAll (c : Collector) (writes : List ℕ) :
    (udpSentAll c writes).counters .packetsSent =
        c.counters .packetsSent + Int64.ofNat (writes.countP (0 < ·)) ∧
      (udpSentAll c writes).counters .packetsReceived = c.counters .packetsReceived := by
  induction writes generalizing c with
  | nil => exact ⟨(Int64.add_zero _).symm, rfl⟩
  | cons n writes ih =>
    obtain ⟨hsent, hreceived⟩ := ih (udpSent c n)
    change (udpSentAll (udpSent c n) writes).counters _ = _ ∧
      (udpSentAll (udpSent c n) writes).counters _ = _
    rw [hsent, hreceived, udpSent]
    split_ifs with hn
    · rw [counters_addAll, counters_addAll, counters_addAll, counters_addAll,
        List.countP_cons_of_pos (by simpa using hn), Int64.ofNat_add]
      simp only [AddCall.amount, AddCall.atomics]
      constructor
      · simp
        grind
      · simp
    · rw [List.countP_cons_of_neg (by simpa using hn)]
      exact ⟨rfl, rfl⟩

/-- A source reports a loss as soon as it has sent something. -/
theorem lossPct_eq_zero_iff (pkts : Int64) : lossPct pkts 0 = 0 ↔ pkts ≤ 0 := by
  have hsub : pkts - 0 = pkts := by grind
  unfold lossPct dropped
  rw [hsub]
  split_ifs with hpos hneg
  · exact absurd (Int64.lt_trans hpos hneg) (Int64.lt_irrefl)
  · have hne : (pkts.toInt : ℚ) ≠ 0 := by
      have hlt := Int64.lt_iff_toInt_lt.mp hpos
      rw [Int64.toInt_zero] at hlt
      exact_mod_cast hlt.ne'
    refine iff_of_false ?_ (Int64.not_le.mpr hpos)
    rw [div_self hne]
    norm_num
  · exact iff_of_true rfl (Int64.not_lt.mp hpos)

/-- **Measured loss is real loss** in exactly the windows whose late arrivals make up for the
numbers below the expected one and for the short datagrams, and a source reports no loss exactly
as long as it sends nothing. -/
theorem measured_loss_iff (u : UdpServer) (c : Collector) (ds : List Datagram) (writes : List ℕ)
    (hu : Fresh u.collector) (hc : Fresh c) (hnodup : (seqsOf ds).Nodup) (now now' : ℤ) :
    (((u.receiveAll ds).collector.snapshot now).1.packetsDropped.toInt = missing (seqsOf ds) ↔
        LossExact (u.expected (seqsOf ds)) (seqsOf ds) (shortsOf ds)) ∧
      (((udpSentAll c writes).snapshot now').1.packetLossPct = 0 ↔
        int64 (writes.countP (0 < ·)) ≤ 0) := by
  constructor
  · obtain ⟨hsent, hreceived⟩ := u.packets_receiveAll ds
    rw [hu.1, Int64.zero_add] at hsent
    rw [hu.2, Int64.zero_add] at hreceived
    change (dropped _ _).toInt = _ ↔ _
    rw [hsent, hreceived]
    exact dropped_eq_iff hnodup
  · obtain ⟨hsent, hreceived⟩ := counters_udpSentAll c writes
    rw [hc.1, Int64.zero_add] at hsent
    rw [hc.2] at hreceived
    change lossPct _ _ = 0 ↔ _
    rw [hsent, hreceived, lossPct_eq_zero_iff, Int64.le_iff_toInt_le, toInt_ofNat,
      Int64.toInt_zero]

/-- Datagrams with the numbers of a list. -/
def datagrams (seqs : List UInt64) : List Datagram := seqs.map fun seq => ⟨1316, seq, 0, 0⟩

theorem measured_loss_ordered :
    (((UdpServer.initial 0).receiveAll (datagrams [1, 2, 4])).collector.snapshot
        15).1.packetsDropped.toInt = missing (seqsOf (datagrams [1, 2, 4])) ∧
      ((udpSentAll (.reset 0) []).snapshot 15).1.packetLossPct = 0 := by
  obtain ⟨hserver, hsource⟩ := measured_loss_iff (.initial 0) (.reset 0) (datagrams [1, 2, 4]) []
    ⟨rfl, rfl⟩ ⟨rfl, rfl⟩ (by decide) 15 15
  refine ⟨hserver.mpr ?_, hsource.mpr (by decide)⟩
  rw [LossExact, if_pos (by decide)]
  exact .inr (.inl (by decide))

/-- Three datagrams arrive, the third before the second. -/
theorem reordered_is_lost :
    (((UdpServer.initial 0).receiveAll (datagrams [1, 3, 2])).collector.snapshot
        15).1.packetsDropped.toInt ≠ missing (seqsOf (datagrams [1, 3, 2])) := by
  decide +kernel

end GnnSandbox.Agent
