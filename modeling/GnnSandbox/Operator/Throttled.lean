import GnnSandbox.Operator.Throttling

/-!
# Throttled calls

The tokens are those of a bucket, the semaphore counts the calls that are in it, and each attempt
executes its function after its token was granted. All of it is kept by the moves of the calls,
and so it holds in every run.
-/

namespace GnnSandbox.Operator.Throttling

open Transition

variable {α : Type}

/-! ## The invariants -/

/-- The semaphore and the lock are counted as they are held. -/
structure Held (cfg : Config) (s : State α) : Prop where
  semaphore : s.throttler.semaphore + s.calls.countP Stage.Holds = cfg.maxConcurrent
  lock : s.calls.countP Stage.Waits = if s.throttler.tokenLock then 1 else 0

/-- Tokens are granted by a bucket, and there is one when whoever waits for it wakes up. -/
structure Filled (cfg : Config) (s : State α) : Prop where
  metered : (s.throttler.bucket cfg).Metered s.throttler.granted s.now
  due : ∀ k due, .waiting k due ∈ s.calls →
    1 ≤ s.throttler.tokens + cfg.rateLimit * (due - s.throttler.lastRefill)

/-- Functions are executed after their tokens were granted. -/
structure Logged (cfg : Config) (s : State α) : Prop where
  past : ∀ t ∈ s.throttler.times, t ≤ s.now
  delayed : s.throttler.executed.length + s.calls.countP Stage.Delayed =
    s.throttler.granted.length
  follows : TokenBucket.Follows cfg.maxConcurrent s.throttler.times s.throttler.granted

/-- Every call is at one of its attempts, and has executed its function as often at most. -/
def Counted (cfg : Config) (s : State α) : Prop :=
  ∀ i stage, s.calls[i]? = some stage →
    stage.Sound cfg.attempts ∧ s.throttler.executions i ≤ stage.made cfg.attempts

structure Inv (cfg : Config) (s : State α) : Prop where
  held : Held cfg s
  filled : Filled cfg s
  logged : Logged cfg s
  counted : Counted cfg s

section Invariants

variable {cfg : Config} {s s' : State α}

theorem one_le_bucketSize (cfg : Config) : (1 : ℚ) ≤ cfg.bucketSize :=
  Int.cast_one (R := ℚ) ▸ Int.cast_le.mpr (le_max_left 1 _)

/-- No more calls than the semaphore admits are anywhere in it. -/
theorem Held.countP_le (h : Held cfg s) {p : Stage α → Bool}
    (hp : ∀ stage, p stage = true → stage.Holds = true) : s.calls.countP p ≤ cfg.maxConcurrent := by
  have hmono : s.calls.countP p ≤ s.calls.countP Stage.Holds :=
    List.countP_mono_left fun stage _ => hp stage
  have hsemaphore := h.semaphore
  omega

/-- Whoever waits holds the lock. -/
theorem Held.locked (h : Held cfg s) {call : ℕ} {stage : Stage α}
    (hstage : s.calls[call]? = some stage) (hwaits : stage.Waits) :
    s.throttler.tokenLock = true := by
  have hpos : 0 < s.calls.countP Stage.Waits :=
    List.countP_pos_iff.mpr ⟨stage, List.mem_of_getElem? hstage, hwaits⟩
  rw [h.lock] at hpos
  split_ifs at hpos with hlock
  · exact hlock
  · exact absurd hpos (lt_irrefl 0)

theorem Held.moved (h : Held cfg s) (hmove : Moved cfg s s') : Held cfg s' := by
  cases hmove with
  | @move call stage stage' now thr' hstage _ hmoves =>
    constructor
    · have hcount := countP_set Stage.Holds hstage stage'
      have hsemaphore := hmoves.semaphore
      have hheld := h.semaphore
      change thr'.semaphore + (s.calls.set call stage').countP Stage.Holds = cfg.maxConcurrent
      omega
    · have hcount := countP_set Stage.Waits hstage stage'
      have hlock := hmoves.lock (h.locked hstage)
      have hheld := h.lock
      change (s.calls.set call stage').countP Stage.Waits = if thr'.tokenLock then 1 else 0
      omega

/-- Nobody waits in a free lock. -/
theorem Held.not_waiting (h : Held cfg s) (hlock : s.throttler.tokenLock = false) {k : ℕ}
    {due : ℚ} : .waiting k due ∉ s.calls := by
  intro hmem
  obtain ⟨i, hi⟩ := List.mem_iff_getElem?.mp hmem
  exact Bool.false_ne_true (hlock.symm.trans (h.locked hi rfl))

/-- When a call wakes up there is a token for it. -/
theorem Filled.one_le (h : Filled cfg s) (hrate : 0 < cfg.rateLimit) {k : ℕ} {due now : ℚ}
    (hmem : .waiting k due ∈ s.calls) (hdue : due ≤ now) :
    1 ≤ (s.throttler.refill cfg now).tokens := by
  have hone := h.due k due hmem
  have hflow : cfg.rateLimit * (due - s.throttler.lastRefill) ≤
      (now - s.throttler.lastRefill) * cfg.rateLimit := by
    rw [mul_comm (now - _)]
    exact mul_le_mul_of_nonneg_left (sub_le_sub_right hdue _) hrate.le
  exact le_min (one_le_bucketSize cfg) (hone.trans (add_le_add_right hflow _))

/-- A token is granted, and the lock is free afterwards. -/
theorem Filled.consume {now : ℚ} {calls : List (Stage α)} (h : Filled cfg s) (hnow : s.now ≤ now)
    (htokens : 1 ≤ (s.throttler.refill cfg now).tokens)
    (hheld : Held cfg ⟨now, (s.throttler.refill cfg now).consume now, calls⟩) :
    Filled cfg ⟨now, (s.throttler.refill cfg now).consume now, calls⟩ :=
  ⟨h.metered.take hnow (consume_bucket htokens), fun _ _ hmem => absurd hmem (hheld.not_waiting rfl)⟩

theorem Filled.moved (hheld : Held cfg s) (h : Filled cfg s) (hrate : 0 < cfg.rateLimit)
    (hmove : Moved cfg s s') : Filled cfg s' := by
  have hheld' := hheld.moved hmove
  cases hmove with
  | @move call stage stage' now thr' hstage hnow hmoves =>
    have hset : ∀ k due, .waiting k due ∈ s.calls.set call stage' →
        .waiting k due ∈ s.calls ∨ .waiting k due = stage' := fun k due hmem =>
      List.mem_or_eq_of_mem_set hmem
    cases hmoves with
    | enter | refuse | execute | leave | retry | again =>
      refine ⟨h.metered.mono hnow, fun k due hmem => ?_⟩
      obtain hold | ⟨⟨⟩⟩ := hset k due hmem
      exact h.due k due hold
    | wait hlock htokens =>
      refine ⟨?_, fun k due hmem => ?_⟩
      · have hadvance := h.metered.advance hnow
        rw [← refill_bucket] at hadvance
        exact hadvance
      · obtain hold | hnew := hset k due hmem
        · exact absurd hold (hheld.not_waiting hlock)
        · -- it sleeps as long as the missing part of the token takes
          obtain ⟨-, rfl⟩ := Stage.waiting.inj hnew
          have hpart : cfg.rateLimit * ((1 - (s.throttler.refill cfg now).tokens) / cfg.rateLimit) =
              1 - (s.throttler.refill cfg now).tokens := mul_div_cancel₀ _ hrate.ne'
          change 1 ≤ (s.throttler.refill cfg now).tokens + cfg.rateLimit * (now + _ - now)
          rw [add_sub_cancel_left, hpart, add_sub_cancel]
    | grant hlock htokens => exact h.consume hnow htokens hheld'
    | wake hdue =>
      exact h.consume hnow (h.one_le hrate (List.mem_of_getElem? hstage) hdue) hheld'

theorem Logged.moved (hheld : Held cfg s) (hfilled : Filled cfg s) (h : Logged cfg s)
    (hmove : Moved cfg s s') : Logged cfg s' := by
  have hheld' := hheld.moved hmove
  cases hmove with
  | @move call stage stage' now thr' hstage hnow hmoves =>
    have hcount := countP_set Stage.Delayed hstage stage'
    have hlength := hmoves.delayed
    have hold := h.delayed
    have hdelayed : thr'.executed.length + (s.calls.set call stage').countP Stage.Delayed =
        thr'.granted.length := by
      omega
    have hpast : ∀ t ∈ s.throttler.times, t ≤ now := fun t ht => (h.past t ht).trans hnow
    have hgranted : ∀ t ∈ s.throttler.granted, t ≤ now :=
      fun t ht => (hfilled.metered.past t ht).trans hnow
    have hle : (s.calls.set call stage').countP Stage.Delayed ≤ cfg.maxConcurrent :=
      hheld'.countP_le fun _ => Stage.holds_of_delayed
    cases hmoves with
    | enter | refuse | leave | retry | again | wait => exact ⟨hpast, hdelayed, h.follows⟩
    | grant | wake =>
      refine ⟨hpast, hdelayed, h.follows.grant hpast hgranted ?_⟩
      have htimes := s.throttler.length_times
      change s.throttler.executed.length + _ = s.throttler.granted.length + 1 at hdelayed
      omega
    | execute =>
      refine ⟨List.forall_mem_cons.mpr ⟨le_rfl, hpast⟩, hdelayed,
        h.follows.start hpast hgranted ?_⟩
      have htimes := s.throttler.length_times
      change s.throttler.executed.length + 1 + _ = s.throttler.granted.length at hdelayed
      omega

theorem Counted.moved (h : Counted cfg s) (hmove : Moved cfg s s') : Counted cfg s' := by
  cases hmove with
  | @move call stage stage' now thr' hstage _ hmoves =>
    intro i other hother
    obtain ⟨hsound, hle⟩ := h call stage hstage
    by_cases hi : i = call
    · subst hi
      change (s.calls.set i stage')[i]? = some other at hother
      rw [List.getElem?_set_self (List.getElem?_eq_some_iff.mp hstage).1] at hother
      obtain rfl := Option.some.inj hother
      exact ⟨hmoves.sound rfl hsound, hmoves.executions_le hsound hle⟩
    · change (s.calls.set call stage')[i]? = some other at hother
      rw [List.getElem?_set_ne (Ne.symm hi)] at hother
      obtain ⟨hsound', hle'⟩ := h i other hother
      exact ⟨hsound', (hmoves.executions_eq hi).trans_le hle'⟩

/-- **The invariant** is kept. -/
theorem Inv.moved (hrate : 0 < cfg.rateLimit) (h : Inv cfg s) (hmove : Moved cfg s s') :
    Inv cfg s' :=
  ⟨h.held.moved hmove, h.filled.moved h.held hrate hmove,
    h.logged.moved h.held h.filled hmove, h.counted.moved hmove⟩

/-- The beginning. -/
theorem Inv.init (hrate : 0 < cfg.rateLimit) (calls : ℕ) (now : ℚ) :
    Inv cfg (State.init α cfg calls now) := by
  have hnone : ∀ p : Stage α → Bool, p (.ready 0 none) = false →
      (State.init α cfg calls now).calls.countP p = 0 := by
    intro p hp
    refine List.countP_eq_zero.mpr fun stage hstage => ?_
    rw [List.eq_of_mem_replicate hstage, hp]
    exact Bool.false_ne_true
  refine ⟨⟨?_, hnone _ rfl⟩, ⟨?_, fun k due hmem => ?_⟩, ⟨?_, ?_, .nil⟩, fun i stage hstage => ?_⟩
  · rw [hnone _ rfl]
    rfl
  · exact TokenBucket.Metered.full hrate.le (zero_le_one.trans (one_le_bucketSize cfg))
  · cases List.eq_of_mem_replicate hmem
  · exact fun t ht => absurd ht List.not_mem_nil
  · rw [hnone _ rfl]
    rfl
  · rw [List.eq_of_mem_replicate (List.mem_of_getElem? hstage)]
    exact ⟨Nat.zero_le _, Nat.le_refl _⟩

end Invariants

/-! ## Every call ends -/

/-- The moves that the calls have ahead at most. -/
def State.ahead (cfg : Config) (s : State α) : ℕ := (s.calls.map (Stage.ahead cfg.attempts)).sum

section Ends

variable {cfg : Config} {lower : String → String} {s s' : State α} {e : Event α}
  {es : List (Event α)}

theorem Moved.ahead_lt (h : Counted cfg s) (hmove : Moved cfg s s') :
    s'.ahead cfg < s.ahead cfg := by
  cases hmove with
  | @move call stage stage' now thr' hstage _ hmoves =>
    have hsum := sum_map_set (Stage.ahead cfg.attempts) hstage stage'
    have hlt := hmoves.ahead_lt (h call stage hstage).1
    change ((s.calls.set call stage').map _).sum < (s.calls.map _).sum
    omega

theorem step_ahead_lt (h : Counted cfg s) (hstep : step cfg lower s e = some s') :
    s'.ahead cfg < s.ahead cfg := by
  obtain hone | ⟨s₁, hfirst, hsecond⟩ := step_moved hstep
  · exact hone.ahead_lt h
  · exact (hsecond.ahead_lt (h.moved hfirst)).trans (hfirst.ahead_lt h)

/-- A run is no longer than what the calls have ahead. -/
theorem run_length_le (h : Counted cfg s) (hrun : run (step cfg lower) s es = some s') :
    es.length + s'.ahead cfg ≤ s.ahead cfg := by
  induction es generalizing s with
  | nil =>
    obtain rfl := Option.some.inj hrun
    exact (Nat.zero_add _).le
  | cons e es ih =>
    obtain ⟨t, hstep, hes⟩ := run_cons_eq_some.mp hrun
    have hlt := step_ahead_lt h hstep
    have hrest := ih (step_of_moved (fun _ _ => Counted.moved) h hstep) hes
    rw [List.length_cons]
    omega

/-- A call that has ended stays as it is. -/
theorem ended_moved {i : ℕ} {result : Except Raised α} (h : s.calls[i]? = some (.ended result))
    (hmove : Moved cfg s s') : s'.calls[i]? = some (.ended result) := by
  cases hmove with
  | @move call stage stage' now thr' hstage _ hmoves =>
    have hne : call ≠ i := by
      rintro rfl
      obtain rfl := Option.some.inj (hstage.symm.trans h)
      cases hmoves
    exact (List.getElem?_set_ne hne).trans h

/-- When no call can go on, none can at any later time. -/
theorem act_eq_none (hstuck : ∀ e, step cfg lower s e = none) {i : ℕ} {stage : Stage α}
    (hstage : s.calls[i]? = some stage) {now : ℚ} (hnow : s.now ≤ now) (action : Action α) :
    act cfg lower s.throttler ⟨now, i, action⟩ stage = none := by
  have hnone := hstuck ⟨now, i, action⟩
  unfold step at hnone
  rw [if_pos hnow, hstage, Option.bind_some] at hnone
  exact Option.map_eq_none_iff.mp hnone

/-- Every sleep ends. -/
theorem not_asleep (hstuck : ∀ e, step cfg lower s e = none) {i : ℕ} {stage : Stage α}
    (hstage : s.calls[i]? = some stage) : stage.Asleep = false := by
  have hlater : ∀ due, act cfg lower s.throttler ⟨max s.now due, i, .resume⟩ stage = none :=
    fun due => act_eq_none hstuck hstage (le_max_left s.now due) .resume
  cases stage with
  | waiting k due | delayed k due | backoff k e due =>
    have hnone := hlater due
    change (if _ then _ else _) = none at hnone
    rw [if_pos (le_max_right s.now due)] at hnone
    cases hnone
  | _ => rfl

/-- **No deadlock**: where no call can go on, all have ended. -/
theorem ended_of_stuck (h : Held cfg s) (hmax : 0 < cfg.maxConcurrent)
    (hstuck : ∀ e, step cfg lower s e = none) {i : ℕ} {stage : Stage α}
    (hstage : s.calls[i]? = some stage) : ∃ result, stage = .ended result := by
  have hactive : ∀ (i : ℕ) (stage : Stage α), s.calls[i]? = some stage → stage.Holds →
      ∃ k, stage = .admitted k := by
    intro i stage hstage hholds
    cases stage with
    | admitted k => exact ⟨k, rfl⟩
    | waiting k due | delayed k due => cases not_asleep hstuck hstage
    | executing k => cases act_eq_none hstuck hstage le_rfl (.finish (.error ⟨none, ""⟩))
    | ready _ _ | backoff _ _ _ | ended _ => cases hholds
  have hlock : s.throttler.tokenLock = false := by
    by_contra hne
    have hone := h.lock
    rw [if_pos (Bool.of_not_eq_false hne)] at hone
    obtain ⟨stage, hmem, hwaits⟩ :=
      List.countP_pos_iff.mp (hone ▸ Nat.one_pos : 0 < s.calls.countP Stage.Waits)
    obtain ⟨i, hi⟩ := List.mem_iff_getElem?.mp hmem
    cases stage with
    | waiting k due => cases not_asleep hstuck hi
    | _ => cases hwaits
  have hadmitted : ∀ (i k : ℕ), s.calls[i]? ≠ some (Stage.admitted k) := by
    intro i k hi
    have hnone := act_eq_none hstuck hi le_rfl .resume
    change (if _ then _ else _) = none at hnone
    rw [hlock] at hnone
    cases hnone
  -- nobody is in the semaphore, so that it is free
  have hfree : 0 < s.throttler.semaphore := by
    have hzero : s.calls.countP Stage.Holds = 0 := by
      refine List.countP_eq_zero.mpr fun stage hmem hholds => ?_
      obtain ⟨i, hi⟩ := List.mem_iff_getElem?.mp hmem
      obtain ⟨k, rfl⟩ := hactive i stage hi hholds
      exact hadmitted i k hi
    have hsemaphore := h.semaphore
    omega
  cases stage with
  | ended result => exact ⟨result, rfl⟩
  | admitted k => exact absurd hstage (hadmitted i k)
  | executing k =>
    obtain ⟨_, hk⟩ := hactive i _ hstage rfl
    cases hk
  | waiting k due | delayed k due | backoff k e due => cases not_asleep hstuck hstage
  | ready k last =>
    have hnone := act_eq_none hstuck hstage le_rfl .resume
    change (if _ then if _ then _ else _ else _) = none at hnone
    split_ifs at hnone with hk hzero
    · omega
    · cases last <;> cases hnone

end Ends

/-! ## Without an adaptive delay -/

section Undelayed

variable {cfg : Config} {lower : String → String} {s s' : State α} {es : List (Event α)}

/-- As long as there is no adaptive delay, functions are executed when their tokens are granted. -/
theorem times_eq_granted (hrate : 0 < cfg.rateLimit) (h : Inv cfg s)
    (htimes : s.throttler.times = s.throttler.granted)
    (hok : Throughout (step cfg lower) (fun s _ => s.throttler.adaptive.adaptiveDelay ≤ 0) s es)
    (hrun : run (step cfg lower) s es = some s') : s'.throttler.times = s'.throttler.granted := by
  refine (run_invariant (I := fun s => Inv cfg s ∧ s.throttler.times = s.throttler.granted) ?_
    ⟨h, htimes⟩ hok hrun).2
  rintro s e s' ⟨hinv, htimes⟩ hdelay hstep
  refine ⟨step_of_moved (fun _ _ => Inv.moved hrate) hinv hstep, ?_⟩
  unfold step at hstep
  split_ifs at hstep
  obtain ⟨stage, hstage, hmap⟩ := Option.bind_eq_some_iff.mp hstep
  obtain ⟨p, hact, rfl⟩ := Option.map_eq_some_iff.mp hmap
  refine (act_moves hact).times_eq hdelay (Bool.eq_false_iff.mpr fun hdelayed => ?_) htimes
  -- what is delayed has been granted and not executed
  have hpos : 0 < s.calls.countP Stage.Delayed :=
    List.countP_pos_iff.mpr ⟨stage, List.mem_of_getElem? hstage, hdelayed⟩
  have hlength : s.throttler.executed.length = s.throttler.granted.length :=
    s.throttler.length_times.symm.trans (congrArg List.length htimes)
  have hcount := hinv.logged.delayed
  omega

end Undelayed

/-! ## Runs -/

/-- How many calls had their token and had not executed their function at an instant. -/
def RequestThrottler.delayedAt (thr : RequestThrottler) (instant : ℚ) : ℕ :=
  TokenBucket.before instant thr.granted - TokenBucket.before instant thr.times

/-- What holds after a run of `calls` calls. -/
structure Throttled (cfg : Config) (lower : String → String) (calls : ℕ) (start : ℚ)
    (es : List (Event α)) (s : State α) : Prop where
  tokens_nonneg : 0 ≤ s.throttler.tokens
  /-- The tokens that are granted in a window of time. -/
  granted_le : ∀ a c, a ≤ c → (TokenBucket.during a c s.throttler.granted : ℚ) ≤
    cfg.bucketSize + cfg.rateLimit * (c - a)
  /-- The functions that are executed in it. -/
  executed_le : ∀ a c, a ≤ c → (TokenBucket.during a c s.throttler.times : ℚ) ≤
    cfg.bucketSize + cfg.rateLimit * (c - a) + s.throttler.delayedAt a
  delayedAt_le : ∀ a, s.throttler.delayedAt a ≤ cfg.maxConcurrent
  /-- Without an adaptive delay they are the same. -/
  undelayed : Throughout (step cfg lower) (fun s _ => s.throttler.adaptive.adaptiveDelay ≤ 0)
    (.init α cfg calls start) es → s.throttler.times = s.throttler.granted
  executing_le : s.calls.countP Stage.Executes ≤ cfg.maxConcurrent
  executions_le : ∀ call < calls, s.throttler.executions call ≤ cfg.attempts
  /-- A call ends once. -/
  ended : ∀ (call : ℕ) (result : Except Raised α), s.calls[call]? = some (.ended result) →
    ∀ es' s', run (step cfg lower) s es' = some s' → s'.calls[call]? = some (.ended result)
  length_le : es.length ≤ calls * (6 * cfg.attempts + 1)
  /-- A run that cannot go on has ended all calls. -/
  ends : 0 < cfg.maxConcurrent → (∀ e, step cfg lower s e = none) →
    ∀ call < calls, ∃ result : Except Raised α, s.calls[call]? = some (.ended result)

section Runs

variable {cfg : Config} {lower : String → String} {s s' : State α} {es : List (Event α)}

theorem Inv.run (hrate : 0 < cfg.rateLimit) (h : Inv cfg s)
    (hrun : run (step cfg lower) s es = some s') : Inv cfg s' :=
  run_always (fun _ _ _ => step_of_moved fun _ _ => Inv.moved hrate) h hrun

theorem length_calls (hrun : Transition.run (step cfg lower) s es = some s') :
    s'.calls.length = s.calls.length := by
  have hmove : ∀ t t' : State α, t.calls.length = s.calls.length → Moved cfg t t' →
      t'.calls.length = s.calls.length := by
    intro t t' ht hmove
    cases hmove with
    | move => exact (List.length_set ..).trans ht
  exact run_always (I := fun t : State α => t.calls.length = s.calls.length)
    (fun _ _ _ => step_of_moved hmove) rfl hrun

theorem ended_run {call : ℕ} {result : Except Raised α}
    (h : s.calls[call]? = some (.ended result))
    (hrun : Transition.run (step cfg lower) s es = some s') :
    s'.calls[call]? = some (.ended result) :=
  run_always (I := fun t => t.calls[call]? = some (.ended result))
    (fun _ _ _ => step_of_moved fun _ _ => ended_moved) h hrun

end Runs

/-- **The throttler** grants tokens at its rate, and executes functions at its rate up to those
that are in the adaptive delay. -/
theorem throttled (cfg : Config) (lower : String → String) (hrate : 0 < cfg.rateLimit) (calls : ℕ)
    (start : ℚ) (es : List (Event α)) (s : State α)
    (hrun : run (step cfg lower) (.init α cfg calls start) es = some s) :
    Throttled cfg lower calls start es s := by
  have hinit := Inv.init (α := α) hrate calls start
  have hinv := hinit.run hrate hrun
  have hlength : s.calls.length = calls := (length_calls hrun).trans List.length_replicate
  refine ⟨hinv.filled.metered.tokens_nonneg, hinv.filled.metered.during_le, fun a c hac => ?_,
    fun a => ?_, fun hok => times_eq_granted hrate hinit rfl hok hrun, ?_, fun call hcall => ?_,
    fun call result h es' s' hes' => ended_run h hes', ?_, fun hmax hstuck call hcall => ?_⟩
  · have hwindow : TokenBucket.during a c s.throttler.times ≤
        TokenBucket.during a c s.throttler.granted + s.throttler.delayedAt a := by
      have hle := hinv.logged.follows.during_le hac
      unfold RequestThrottler.delayedAt
      omega
    have hgranted := hinv.filled.metered.during_le a c hac
    have hcast : (TokenBucket.during a c s.throttler.times : ℚ) ≤
        TokenBucket.during a c s.throttler.granted + s.throttler.delayedAt a := by
      exact_mod_cast hwindow
    exact hcast.trans (add_le_add_left hgranted _)
  · have hbefore := hinv.logged.follows.before_le a
    unfold RequestThrottler.delayedAt
    omega
  · exact hinv.held.countP_le fun _ => Stage.holds_of_executes
  · have hget := List.getElem?_eq_getElem (hlength ▸ hcall : call < s.calls.length)
    obtain ⟨hsound, hle⟩ := hinv.counted call _ hget
    exact hle.trans (Stage.made_le hsound)
  · have hahead := run_length_le hinit.counted hrun
    have hsum : (State.init α cfg calls start).ahead cfg = calls * (6 * cfg.attempts + 1) := by
      unfold State.ahead State.init
      rw [List.map_replicate, List.sum_replicate]
      rfl
    omega
  · have hget := List.getElem?_eq_getElem (hlength ▸ hcall : call < s.calls.length)
    obtain ⟨result, hended⟩ := ended_of_stuck hinv.held hmax hstuck hget
    exact ⟨result, hget.trans (congrArg some hended)⟩

/-! ### A run with an adaptive delay -/

/-- The defaults with one request a second and no retries. -/
def onePerSecond : Config := { Config.default with rateLimit := 1, maxRetries := 0 }

def failed : Action Unit := .finish (.error ⟨none, "unreachable"⟩)

/-- Three calls fail, which delays the next ones by 1.25 seconds. The first of them succeeds more
than ten seconds after the last failure, and the delay of the last one is shorter. All sleeps last
exactly as long as was asked. -/
def delayedRun : List (Event Unit) :=
  [⟨0, 0, .resume⟩, ⟨0, 0, .resume⟩, ⟨0, 0, failed⟩,
    ⟨0, 1, .resume⟩, ⟨0, 1, .resume⟩, ⟨1, 1, .resume⟩, ⟨1, 1, failed⟩,
    ⟨1, 2, .resume⟩, ⟨1, 2, .resume⟩, ⟨2, 2, .resume⟩, ⟨2, 2, failed⟩,
    ⟨13, 3, .resume⟩, ⟨13, 3, .resume⟩, ⟨14, 4, .resume⟩, ⟨14, 4, .resume⟩,
    ⟨57 / 4, 3, .resume⟩, ⟨57 / 4, 3, .finish (.success ())⟩,
    ⟨15, 5, .resume⟩, ⟨15, 5, .resume⟩, ⟨61 / 4, 4, .resume⟩, ⟨323 / 20, 5, .resume⟩]

/-- The last two functions are executed within 0.9 seconds. -/
theorem delayedRun_executes :
    (run (step onePerSecond id) (.init Unit onePerSecond 6 0) delayedRun).map
      (fun s => TokenBucket.during (61 / 4) (323 / 20) s.throttler.times) = some 2 := by
  decide +kernel

theorem throttled_delayedRun : ∃ s,
    run (step onePerSecond id) (.init Unit onePerSecond 6 0) delayedRun = some s ∧
      Throttled onePerSecond id 6 0 delayedRun s := by
  obtain ⟨s, hrun, -⟩ := Option.map_eq_some_iff.mp delayedRun_executes
  exact ⟨s, hrun, throttled onePerSecond id one_pos 6 0 delayedRun s hrun⟩

/-- A call that may make fewer attempts than none makes none, and raises. -/
theorem negative_attempts : ∃ s,
    run (step { onePerSecond with maxRetries := -2 } id)
      (.init Unit { onePerSecond with maxRetries := -2 } 1 0) [⟨0, 0, .resume⟩] = some s ∧
      (∃ result, s.calls[0]? = some (.ended result)) ∧
      ¬((s.throttler.executions 0 : ℤ) ≤ -2 + 1) :=
  ⟨_, rfl, ⟨_, rfl⟩, by decide⟩

/-- Nobody gets into an empty semaphore. -/
theorem empty_semaphore (e : Event Unit) :
    step { onePerSecond with maxConcurrent := 0 } id
      (.init Unit { onePerSecond with maxConcurrent := 0 } 1 0) e = none := by
  obtain ⟨time, call, action⟩ := e
  unfold step
  split_ifs
  · cases call with
    | zero =>
      cases action with
      | resume => rfl
      | finish outcome => rfl
    | succ call => rfl
  · rfl

/-- More functions are executed in a window of time than the bucket and the rate allow; with
`max_retries` of -2 none is not at most -1; and with a `max_concurrent` of 0 a call never ends. -/
theorem throttling_exceeded :
    (∃ s, run (step onePerSecond id) (.init Unit onePerSecond 6 0) delayedRun = some s ∧
      (onePerSecond.bucketSize : ℚ) + onePerSecond.rateLimit * (323 / 20 - 61 / 4) <
        TokenBucket.during (61 / 4) (323 / 20) s.throttler.times) ∧
      (∃ s, run (step { onePerSecond with maxRetries := -2 } id)
        (.init Unit { onePerSecond with maxRetries := -2 } 1 0) [⟨0, 0, .resume⟩] = some s ∧
        (∃ result, s.calls[0]? = some (.ended result)) ∧
        ¬((s.throttler.executions 0 : ℤ) ≤ -2 + 1)) ∧
      ∀ e, step { onePerSecond with maxConcurrent := 0 } id
        (.init Unit { onePerSecond with maxConcurrent := 0 } 1 0) e = none := by
  obtain ⟨s, hrun, htwo⟩ := Option.map_eq_some_iff.mp delayedRun_executes
  refine ⟨⟨s, hrun, ?_⟩, negative_attempts, empty_semaphore⟩
  have hsize : onePerSecond.bucketSize = 1 := by decide
  have hrate : onePerSecond.rateLimit = 1 := rfl
  rw [hsize, hrate, htwo]
  norm_num

end GnnSandbox.Operator.Throttling
