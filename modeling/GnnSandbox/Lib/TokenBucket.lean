import Mathlib.Algebra.Order.Ring.Defs
import Mathlib.Tactic.Linarith
import Mathlib.Tactic.Ring

/-!
# Token buckets

A bucket fills at a rate up to its burst size, and whoever takes tokens has to find them there.
From any instant on, what has been taken is at most the burst size and what has flowed in.

A log has the instants at which something took place, here that single tokens were taken. Work
that starts after its token was taken has a log of its own, which follows that of the tokens.
-/

structure TokenBucket (K : Type*) where
  limit : K
  burst : K
  tokens : K
  last : K

namespace TokenBucket

variable {K : Type*} [CommRing K] [LinearOrder K]

/-- A new bucket is full. -/
def full (limit burst now : K) : TokenBucket K := ⟨limit, burst, burst, now⟩

/-- The tokens at some instant. -/
def available (b : TokenBucket K) (now : K) : K := min b.burst (b.tokens + b.limit * (now - b.last))

def advance (b : TokenBucket K) (now : K) : TokenBucket K :=
  { b with tokens := b.available now, last := now }

/-- Tokens are taken when they are there. -/
def take (b : TokenBucket K) (now n : K) : Option (TokenBucket K) :=
  if n ≤ b.available now then some { b with tokens := b.available now - n, last := now } else none

def setLimit (b : TokenBucket K) (now limit : K) : TokenBucket K :=
  { b.advance now with limit := limit }

def setBurst (b : TokenBucket K) (now burst : K) : TokenBucket K :=
  { b.advance now with burst := burst }

variable {b b' : TokenBucket K} {now now' n used since clock : K}

theorem available_le_burst (b : TokenBucket K) (now : K) : b.available now ≤ b.burst :=
  min_le_left ..

theorem take_eq_some (h : b.take now n = some b') :
    n ≤ b.available now ∧ b' = { b with tokens := b.available now - n, last := now } := by
  unfold take at h
  split_ifs at h with hn
  exact ⟨hn, (Option.some.inj h).symm⟩

/-- What has been used since some instant, and all that can be taken later on, stay within the
burst size and what flows in. -/
structure Within (b : TokenBucket K) (used since clock : K) : Prop where
  limit_nonneg : 0 ≤ b.limit
  burst_nonneg : 0 ≤ b.burst
  tokens_nonneg : 0 ≤ b.tokens
  last_le : b.last ≤ clock
  bound : ∀ now, clock ≤ now → used + b.available now ≤ b.burst + b.limit * (now - since)

/-- Time passes. -/
theorem Within.mono (h : b.Within used since clock) (hclock : clock ≤ now) :
    b.Within used since now :=
  ⟨h.limit_nonneg, h.burst_nonneg, h.tokens_nonneg, h.last_le.trans hclock,
    fun now' hnow' => h.bound now' (hclock.trans hnow')⟩

variable [IsStrictOrderedRing K]

theorem available_nonneg (hlimit : 0 ≤ b.limit) (hburst : 0 ≤ b.burst) (htokens : 0 ≤ b.tokens)
    (hnow : b.last ≤ now) : 0 ≤ b.available now := by
  have hflow : 0 ≤ b.limit * (now - b.last) := mul_nonneg hlimit (sub_nonneg.mpr hnow)
  exact le_min hburst (by linarith)

/-- The beginning. -/
theorem within_zero (hlimit : 0 ≤ b.limit) (hburst : 0 ≤ b.burst) (htokens : 0 ≤ b.tokens)
    (hlast : b.last ≤ clock) (hsince : since ≤ clock) : b.Within 0 since clock := by
  refine ⟨hlimit, hburst, htokens, hlast, fun now hnow => ?_⟩
  have hflow : 0 ≤ b.limit * (now - since) := mul_nonneg hlimit (by linarith)
  have hle := b.available_le_burst now
  linarith

/-- Tokens that are taken count as used. -/
theorem Within.take (h : b.Within used since clock) (hclock : clock ≤ now)
    (htake : b.take now n = some b') : b'.Within (used + n) since now := by
  obtain ⟨hn, rfl⟩ := take_eq_some htake
  refine ⟨h.limit_nonneg, h.burst_nonneg, sub_nonneg.mpr hn, le_rfl, fun now' _ => ?_⟩
  have hnow := h.bound now hclock
  have havailable : available { b with tokens := b.available now - n, last := now } now' ≤
      b.available now - n + b.limit * (now' - now) := min_le_right ..
  have hsplit : b.limit * (now' - since) = b.limit * (now - since) + b.limit * (now' - now) := by
    ring
  dsimp only
  linarith

/-- **The bound** of a token bucket. -/
theorem Within.used_le (h : b.Within used since clock) :
    used ≤ b.burst + b.limit * (clock - since) := by
  have hclock := h.bound clock le_rfl
  have htokens := available_nonneg h.limit_nonneg h.burst_nonneg h.tokens_nonneg h.last_le
  linarith

/-! ## Buckets over time -/

/-- A bucket that is brought up to date has no more later on. -/
theorem available_advance_le (b : TokenBucket K) (now now' : K) :
    (b.advance now).available now' ≤ b.available now' := by
  have hflow : b.available now ≤ b.tokens + b.limit * (now - b.last) := min_le_right ..
  have hmin : (b.advance now).available now' ≤ b.available now + b.limit * (now' - now) :=
    min_le_right ..
  have hsplit : b.limit * (now' - b.last) = b.limit * (now - b.last) + b.limit * (now' - now) := by
    ring
  exact le_min (min_le_left ..) (by linarith)

theorem Within.advance (h : b.Within used since clock) (hclock : clock ≤ now) :
    (b.advance now).Within used since now := by
  refine ⟨h.limit_nonneg, h.burst_nonneg, ?_, le_rfl, fun now' hnow => ?_⟩
  · exact available_nonneg h.limit_nonneg h.burst_nonneg h.tokens_nonneg (h.last_le.trans hclock)
  · have hle := b.available_advance_le now now'
    have hbound := h.bound now' (hclock.trans hnow)
    change used + (b.advance now).available now' ≤ b.burst + b.limit * (now' - since)
    linarith

/-! ## Logs -/

section Logs

omit [CommRing K] [IsStrictOrderedRing K]

variable {a c t : K} {log started granted : List K} {m : ℕ}

/-- How often before an instant. -/
def before (a : K) (log : List K) : ℕ := log.countP fun t => t < a

def upTo (c : K) (log : List K) : ℕ := log.countP fun t => t ≤ c

/-- How often from an instant on. -/
def after (a : K) (log : List K) : ℕ := log.countP fun t => a ≤ t

/-- How often in a window of time. -/
def during (a c : K) (log : List K) : ℕ := log.countP fun t => a ≤ t ∧ t ≤ c

theorem before_cons : before a (t :: log) = before a log + if t < a then 1 else 0 := by
  simp [before, List.countP_cons]

theorem upTo_cons : upTo c (t :: log) = upTo c log + if t ≤ c then 1 else 0 := by
  simp [upTo, List.countP_cons]

theorem after_cons : after a (t :: log) = after a log + if a ≤ t then 1 else 0 := by
  simp [after, List.countP_cons]

theorem during_cons : during a c (t :: log) = during a c log + if a ≤ t ∧ t ≤ c then 1 else 0 := by
  simp [during, List.countP_cons]

/-- A window is what is before its end and not before its beginning. -/
theorem during_add_before (h : a ≤ c) : during a c log + before a log = upTo c log := by
  induction log with
  | nil => rfl
  | cons t log ih =>
    rw [during_cons, before_cons, upTo_cons]
    by_cases hbefore : t < a
    · rw [if_neg fun hd => hd.1.not_gt hbefore, if_pos hbefore, if_pos (hbefore.le.trans h)]
      omega
    · by_cases hend : t ≤ c
      · rw [if_pos ⟨not_lt.mp hbefore, hend⟩, if_neg hbefore, if_pos hend]
        omega
      · rw [if_neg fun hd => hend hd.2, if_neg hbefore, if_neg hend]
        omega

theorem upTo_eq_length (h : ∀ t ∈ log, t ≤ c) : upTo c log = log.length :=
  List.countP_eq_length.mpr fun t ht => decide_eq_true (h t ht)

theorem before_eq_length (h : ∀ t ∈ log, t ≤ c) (hc : c < a) : before a log = log.length :=
  List.countP_eq_length.mpr fun t ht => decide_eq_true ((h t ht).trans_lt hc)

theorem after_eq_zero (h : ∀ t ∈ log, t ≤ c) (hc : c < a) : after a log = 0 :=
  List.countP_eq_zero.mpr fun t ht => by
    simpa using (h t ht).trans_lt hc

theorem during_eq_after (h : ∀ t ∈ log, t ≤ c) : during a c log = after a log :=
  List.countP_congr fun t ht => by simp [h t ht]

/-- Everything that starts was granted before, and at most `m` wait in between. -/
structure Follows (m : ℕ) (started granted : List K) : Prop where
  upTo_le : ∀ c, upTo c started ≤ upTo c granted
  before_le : ∀ a, before a granted ≤ before a started + m

namespace Follows

theorem nil : Follows m ([] : List K) [] := ⟨fun _ => Nat.le_refl _, fun _ => Nat.le_add_right ..⟩

/-- Something is granted while fewer than `m` wait. -/
theorem grant (h : Follows m started granted) (hstarted : ∀ u ∈ started, u ≤ t)
    (hgranted : ∀ u ∈ granted, u ≤ t) (hm : granted.length + 1 ≤ started.length + m) :
    Follows m started (t :: granted) := by
  refine ⟨fun c => ?_, fun a => ?_⟩
  · rw [upTo_cons]
    exact (h.upTo_le c).trans (Nat.le_add_right ..)
  · rw [before_cons]
    split_ifs with ha
    · rw [before_eq_length hstarted ha, before_eq_length hgranted ha]
      exact hm
    · exact h.before_le a

/-- Something starts that has been granted. -/
theorem start (h : Follows m started granted) (hstarted : ∀ u ∈ started, u ≤ t)
    (hgranted : ∀ u ∈ granted, u ≤ t) (hlt : started.length + 1 ≤ granted.length) :
    Follows m (t :: started) granted := by
  refine ⟨fun c => ?_, fun a => ?_⟩
  · rw [upTo_cons]
    split_ifs with hc
    · rw [upTo_eq_length fun u hu => (hstarted u hu).trans hc,
        upTo_eq_length fun u hu => (hgranted u hu).trans hc]
      exact hlt
    · exact h.upTo_le c
  · rw [before_cons]
    have hle := h.before_le a
    omega

/-- More can start in a window than is granted in it only by what waited at its beginning. -/
theorem during_le (h : Follows m started granted) (hac : a ≤ c) :
    during a c started + before a started ≤ during a c granted + before a granted := by
  rw [during_add_before hac, during_add_before hac]
  exact h.upTo_le c

end Follows

end Logs

/-! ## Buckets with a log -/

/-- The log has the instants at which single tokens were taken. -/
structure Metered (b : TokenBucket K) (log : List K) (clock : K) : Prop where
  past : ∀ t ∈ log, t ≤ clock
  within : ∀ since, since ≤ clock → b.Within (after since log) since clock
  during_le : ∀ a c, a ≤ c → (during a c log : K) ≤ b.burst + b.limit * (c - a)

namespace Metered

variable {log : List K}

omit [IsStrictOrderedRing K] in
theorem tokens_nonneg (h : b.Metered log clock) : 0 ≤ b.tokens :=
  (h.within clock le_rfl).tokens_nonneg

/-- A new bucket. -/
theorem full {limit burst now : K} (hlimit : 0 ≤ limit) (hburst : 0 ≤ burst) :
    (TokenBucket.full limit burst now).Metered [] now := by
  refine ⟨fun _ ht => absurd ht List.not_mem_nil, fun since hsince => ?_, fun a c hac => ?_⟩
  · rw [show after since ([] : List K) = 0 from rfl, Nat.cast_zero]
    exact within_zero hlimit hburst hburst le_rfl hsince
  · have hflow : 0 ≤ limit * (c - a) := mul_nonneg hlimit (sub_nonneg.mpr hac)
    rw [show during a c ([] : List K) = 0 from rfl, Nat.cast_zero]
    exact add_nonneg hburst hflow

/-- Time passes. -/
theorem mono (h : b.Metered log clock) (hclock : clock ≤ now) : b.Metered log now := by
  refine ⟨fun t ht => (h.past t ht).trans hclock, fun since hsince => ?_, h.during_le⟩
  obtain hle | hlt := le_or_gt since clock
  · exact (h.within since hle).mono hclock
  · have hnow := (h.within clock le_rfl).mono hclock
    rw [after_eq_zero h.past hlt, Nat.cast_zero]
    exact within_zero hnow.limit_nonneg hnow.burst_nonneg hnow.tokens_nonneg hnow.last_le hsince

/-- The bucket is brought up to date. -/
theorem advance (h : b.Metered log clock) (hclock : clock ≤ now) :
    (b.advance now).Metered log now := by
  have hnow := h.mono hclock
  exact ⟨hnow.past, fun since hsince => (hnow.within since hsince).advance le_rfl, h.during_le⟩

/-- A token is taken. -/
theorem take (h : b.Metered log clock) (hclock : clock ≤ now) (htake : b.take now 1 = some b') :
    b'.Metered (now :: log) now := by
  have hnow := h.mono hclock
  have hafter : ∀ since, since ≤ now → (after since (now :: log) : K) = after since log + 1 := by
    intro since hsince
    rw [after_cons, if_pos hsince, Nat.cast_add, Nat.cast_one]
  have hwithin : ∀ since, since ≤ now → b'.Within (after since (now :: log)) since now := by
    intro since hsince
    rw [hafter since hsince]
    exact (hnow.within since hsince).take le_rfl htake
  refine ⟨List.forall_mem_cons.mpr ⟨le_rfl, hnow.past⟩, hwithin, fun a c hac => ?_⟩
  obtain ⟨-, rfl⟩ := take_eq_some htake
  rw [during_cons]
  split_ifs with hin
  · -- everything of the log is before the end of the window
    have hused := (hwithin a hin.1).used_le
    rw [hafter a hin.1] at hused
    have hflow : b.limit * (now - a) ≤ b.limit * (c - a) :=
      mul_le_mul_of_nonneg_left (sub_le_sub_right hin.2 a) (hnow.within now le_rfl).limit_nonneg
    rw [during_eq_after fun t ht => (hnow.past t ht).trans hin.2, Nat.cast_add, Nat.cast_one]
    exact hused.trans (add_le_add_right hflow _)
  · exact h.during_le a c hac

end Metered

end TokenBucket
