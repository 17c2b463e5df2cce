import GnnSandbox.Lib.TokenBucket
import GnnSandbox.Lib.Transition
import Mathlib.Algebra.Order.Field.Rat

/-!
# The rate limiter of a source flow

The pattern controller sets the rate of one limiter, and the sessions of the flow wait for it. A
rate of zero drops the token bucket and the next positive rate makes a new one, while a session
keeps the bucket that it has read.
-/

namespace GnnSandbox.Agent

open Transition

def defaultChunkBytes : ℤ := 8192

def minBurstMs : ℚ := 100

/-- One token is a byte. -/
def bytesPerSec (bps : ℤ) : ℚ := bps / 8

def burstBytes (bps : ℤ) : ℤ :=
  let burst := ((bps : ℚ) / 8 * minBurstMs / 1000).floor
  if burst < defaultChunkBytes then defaultChunkBytes else burst

/-- A limiter with all buckets that it has made. -/
structure Limiter where
  buckets : List (TokenBucket ℚ)
  limiter : Option ℕ

namespace Limiter

def setRate (l : Limiter) (now : ℚ) (bps : ℤ) : Limiter :=
  if bps ≤ 0 then { l with limiter := none }
  else
    match l.limiter with
    | none =>
      { buckets := l.buckets ++ [.full (bytesPerSec bps) (burstBytes bps) now]
        limiter := some l.buckets.length }
    | some i =>
      { l with
        buckets := l.buckets.modify i fun b =>
          (b.setLimit now (bytesPerSec bps)).setBurst now (burstBytes bps) }

/-- `New` -/
def new (now : ℚ) (bps : ℤ) : Limiter := setRate ⟨[], none⟩ now bps

/-- `WaitN` of a bucket, or no wait. -/
def waitN (l : Limiter) (now : ℚ) (n : ℕ) : Option ℕ → Option Limiter
  | none => some l
  | some i =>
    match l.buckets[i]? with
    | some b => (b.take now n).map fun b' => { l with buckets := l.buckets.set i b' }
    | none => none

end Limiter

/-- A call of `WaitBytes` that has read the limiter. -/
structure WaitCall where
  n : ℕ
  lim : Option ℕ

/-- A limiter in use, with the rate set at the last tick and what has been admitted since. -/
structure Paced where
  limiter : Limiter
  calls : ℕ → Option WaitCall
  clock : ℚ
  bps : ℤ
  tick : ℚ
  admitted : ℕ

inductive PaceEvent where
  | tick (t now : ℚ)
  | waitBytes (call n : ℕ)
  | grant (call : ℕ) (now : ℚ)
  | cancelled (call : ℕ)
deriving DecidableEq

namespace Paced

variable (bandwidthAt : ℚ → ℤ)

def initial (start : ℚ) : Paced :=
  ⟨.new start (bandwidthAt start), fun _ => none, start, bandwidthAt start, start, 0⟩

/-- The bytes of a call are admitted. -/
def grant (m : Paced) (call : ℕ) (now : ℚ) : Option Paced :=
  match m.calls call with
  | some w =>
    if m.clock ≤ now then
      (m.limiter.waitN now w.n w.lim).map fun limiter =>
        { m with
          limiter := limiter
          calls := Function.update m.calls call none
          clock := now
          admitted := m.admitted + w.n }
    else none
  | none => none

/-- What an event does, under a pattern. -/
def step (m : Paced) : PaceEvent → Option Paced
  | .tick t now =>
    if m.clock ≤ now then some
      { m with
        limiter := m.limiter.setRate now (bandwidthAt t)
        clock := now
        bps := bandwidthAt t
        tick := now
        admitted := 0 }
    else none
  | .waitBytes call n =>
    if m.calls call = none then
      some { m with calls := Function.update m.calls call (some ⟨n, m.limiter.limiter⟩) }
    else none
  | .grant call now => m.grant call now
  | .cancelled call => some { m with calls := Function.update m.calls call none }

/-- Since the last tick no more has been admitted than the burst size and what the rate allows. -/
def Bounded (m : Paced) : Prop :=
  m.admitted ≤ burstBytes m.bps + bytesPerSec m.bps * (m.clock - m.tick)

/-- A call that is admitted waits for the bucket that is in use. -/
def Waits (m : Paced) : PaceEvent → Prop
  | .grant call _ => ∀ w ∈ m.calls call, w.lim = m.limiter.limiter ∧ w.lim ≠ none
  | _ => True

instance (m : Paced) : ∀ e, Decidable (m.Waits e)
  | .grant call _ =>
    inferInstanceAs (Decidable (∀ w ∈ m.calls call, w.lim = m.limiter.limiter ∧ w.lim ≠ none))
  | .tick .. | .waitBytes .. | .cancelled _ => isTrue trivial

end Paced

/-! ## The bucket in use -/

theorem defaultChunkBytes_le (bps : ℤ) : defaultChunkBytes ≤ burstBytes bps := by
  unfold burstBytes
  dsimp only
  split_ifs with h
  · exact le_rfl
  · exact not_lt.mp h

theorem burstBytes_nonneg (bps : ℤ) : (0 : ℚ) ≤ burstBytes bps := by
  have hle : (0 : ℤ) ≤ burstBytes bps := le_trans (by decide) (defaultChunkBytes_le bps)
  exact_mod_cast hle

theorem bytesPerSec_nonneg {bps : ℤ} (h : 0 ≤ bps) : 0 ≤ bytesPerSec bps := by
  unfold bytesPerSec
  have hcast : (0 : ℚ) ≤ bps := by exact_mod_cast h
  linarith

/-- The bucket in use has the rate that was set and keeps its bound; without one nothing has been
admitted. -/
def Limiter.Filled (l : Limiter) (bps : ℤ) (used : ℕ) (since clock : ℚ) : Prop :=
  match l.limiter with
  | none => used = 0
  | some i => ∃ b, l.buckets[i]? = some b ∧ b.limit = bytesPerSec bps ∧ b.burst = burstBytes bps ∧
      b.Within used since clock

namespace Limiter

variable {l l' : Limiter} {bps bps' : ℤ} {used n : ℕ} {since clock now : ℚ}

/-- A tick, whatever the rate was before. -/
theorem Filled.setRate (h : l.Filled bps used since clock) (hclock : clock ≤ now) (bps' : ℤ) :
    (l.setRate now bps').Filled bps' 0 now now := by
  unfold Limiter.setRate
  split_ifs with hzero
  · rfl
  · have hrate := bytesPerSec_nonneg (not_le.mp hzero).le
    have hburst := burstBytes_nonneg bps'
    cases hlimiter : l.limiter with
    | none =>
      refine ⟨.full (bytesPerSec bps') (burstBytes bps') now, List.getElem?_concat_length, rfl,
        rfl, ?_⟩
      rw [Nat.cast_zero]
      exact TokenBucket.within_zero hrate hburst hburst le_rfl le_rfl
    | some i =>
      simp only [Filled, hlimiter] at h ⊢
      obtain ⟨b, hb, -, -, hwithin⟩ := h
      refine ⟨(b.setLimit now (bytesPerSec bps')).setBurst now (burstBytes bps'), ?_, rfl, rfl, ?_⟩
      · rw [List.getElem?_modify, hb]
        simp
      · have htokens := TokenBucket.available_nonneg hwithin.limit_nonneg hwithin.burst_nonneg
          hwithin.tokens_nonneg (hwithin.last_le.trans hclock)
        rw [Nat.cast_zero]
        refine TokenBucket.within_zero hrate hburst ?_ le_rfl le_rfl
        exact TokenBucket.available_nonneg hrate hwithin.burst_nonneg htokens le_rfl

/-- Bytes admitted by the bucket in use. -/
theorem Filled.waitN (h : l.Filled bps used since clock) (hclock : clock ≤ now)
    (hlimiter : l.limiter ≠ none) (hwait : l.waitN now n l.limiter = some l') :
    l'.Filled bps (used + n) since now := by
  obtain ⟨i, hi⟩ := Option.ne_none_iff_exists'.mp hlimiter
  simp only [Filled, hi] at h
  obtain ⟨b, hb, hlimit, hburst, hwithin⟩ := h
  simp only [Limiter.waitN, hi, hb] at hwait
  obtain ⟨b', htake, rfl⟩ := Option.map_eq_some_iff.mp hwait
  have hlt := (List.getElem?_eq_some_iff.mp hb).1
  have hkept : b'.limit = b.limit ∧ b'.burst = b.burst := by
    obtain ⟨-, rfl⟩ := TokenBucket.take_eq_some htake
    exact ⟨rfl, rfl⟩
  simp only [Filled]
  refine ⟨b', List.getElem?_set_self hlt, by rw [hkept.1, hlimit], by rw [hkept.2, hburst], ?_⟩
  push_cast
  exact hwithin.take hclock htake

theorem Filled.used_le (h : l.Filled bps used since clock) (hbps : 0 ≤ bps)
    (hsince : since ≤ clock) : used ≤ burstBytes bps + bytesPerSec bps * (clock - since) := by
  unfold Filled at h
  split at h
  · rw [h, Nat.cast_zero]
    have hflow := mul_nonneg (bytesPerSec_nonneg hbps) (sub_nonneg.mpr hsince)
    have hburst := burstBytes_nonneg bps
    linarith
  · obtain ⟨b, -, hlimit, hburst, hwithin⟩ := h
    rw [← hlimit, ← hburst]
    exact hwithin.used_le

end Limiter

namespace Paced

variable {bandwidthAt : ℚ → ℤ} {m m' : Paced} {e : PaceEvent}

/-- The limiter keeps its bound. -/
structure Filled (m : Paced) : Prop where
  bps_nonneg : 0 ≤ m.bps
  tick_le : m.tick ≤ m.clock
  filled : m.limiter.Filled m.bps m.admitted m.tick m.clock

theorem Filled.bounded (h : m.Filled) : m.Bounded := h.filled.used_le h.bps_nonneg h.tick_le

theorem filled_initial (hpattern : ∀ t, 0 ≤ bandwidthAt t) (start : ℚ) :
    (initial bandwidthAt start).Filled := by
  have hnew : Limiter.Filled ⟨[], none⟩ 0 0 start start := rfl
  exact ⟨hpattern start, le_rfl, hnew.setRate le_rfl _⟩

/-- One event. -/
theorem filled_step (hpattern : ∀ t, 0 ≤ bandwidthAt t) (h : m.Filled) (hok : m.Waits e)
    (hstep : m.step bandwidthAt e = some m') : m'.Filled := by
  cases e with
  | tick t now =>
    change (if m.clock ≤ now then some _ else none) = some m' at hstep
    split_ifs at hstep with hclock
    obtain rfl := Option.some.inj hstep
    exact ⟨hpattern t, le_rfl, h.filled.setRate hclock _⟩
  | waitBytes call n =>
    change (if m.calls call = none then some _ else none) = some m' at hstep
    split_ifs at hstep
    obtain rfl := Option.some.inj hstep
    exact ⟨h.bps_nonneg, h.tick_le, h.filled⟩
  | grant call now =>
    change m.grant call now = some m' at hstep
    unfold grant at hstep
    split at hstep
    · rename_i w hw
      split_ifs at hstep with hclock
      obtain ⟨limiter, hwait, rfl⟩ := Option.map_eq_some_iff.mp hstep
      obtain ⟨hlim, hne⟩ := hok w hw
      rw [hlim] at hwait hne
      exact ⟨h.bps_nonneg, h.tick_le.trans hclock, h.filled.waitN hclock hne hwait⟩
    · cases hstep
  | cancelled call =>
    obtain rfl := Option.some.inj hstep
    exact ⟨h.bps_nonneg, h.tick_le, h.filled⟩

/-- **The pattern bounds the traffic** in every run in which each call is admitted by the bucket
that is in use then. -/
theorem bounded_run {events : List PaceEvent} {start : ℚ} (hpattern : ∀ t, 0 ≤ bandwidthAt t)
    (hok : Throughout (step bandwidthAt) Waits (initial bandwidthAt start) events) :
    Always (step bandwidthAt) Bounded (initial bandwidthAt start) events := by
  rintro before after m rfl hrun
  have hbefore := ((throughout_append hrun).mp hok).1
  exact (run_invariant (fun _ _ _ h hok hstep => filled_step hpattern h hok hstep)
    (filled_initial hpattern start) hbefore hrun).bounded

/-- `BurstPattern.BandwidthAt`, with the start time of the flow. -/
def burstBandwidthAt (burstDuration burstInterval burstRateBps idleRateBps : ℤ) (start t : ℚ) : ℤ :=
  if burstInterval ≤ 0 then burstRateBps
  else
    let elapsed := t - start
    let cyclePos := elapsed - (elapsed / burstInterval).floor * burstInterval
    if cyclePos < burstDuration then burstRateBps else idleRateBps

/-- One second with 8 Mbps, one second with nothing. -/
def idlePattern : ℚ → ℤ := burstBandwidthAt 1 2 8000000 0 0

/-- A chunk is sent in each of two ticks of the burst. -/
def burstRun : List PaceEvent :=
  [.waitBytes 0 8192, .grant 0 (1 / 100), .tick (1 / 10) (1 / 10), .waitBytes 0 8192,
    .grant 0 (1 / 5)]

/-- Two chunks are sent after the tick at which the pattern goes idle. -/
def idleRun : List PaceEvent :=
  [.tick 1 1, .waitBytes 0 8192, .grant 0 1, .waitBytes 0 8192, .grant 0 1]

theorem idlePattern_nonneg (t : ℚ) : 0 ≤ idlePattern t := by
  unfold idlePattern burstBandwidthAt
  dsimp only
  split_ifs <;> decide

theorem bounded_burst : Always (step idlePattern) Bounded (initial idlePattern 0) burstRun :=
  bounded_run idlePattern_nonneg (by decide +kernel)

/-- Both chunks are admitted while the rate is zero. -/
theorem idle_rate_unlimited : ¬Always (step idlePattern) Bounded (initial idlePattern 0) idleRun := by
  intro h
  obtain ⟨m, hrun⟩ := Option.isSome_iff_exists.mp
    (show (run (step idlePattern) (initial idlePattern 0) idleRun).isSome = true by decide +kernel)
  have hm : m = (run (step idlePattern) (initial idlePattern 0) idleRun).getD
      (initial idlePattern 0) := by rw [hrun]; rfl
  have hbounded := h idleRun [] m (by simp) hrun
  rw [hm] at hbounded
  unfold Bounded at hbounded
  exact absurd hbounded (by decide +kernel)

end Paced

end GnnSandbox.Agent
