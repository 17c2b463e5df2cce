import GnnSandbox.Graph.Text
import GnnSandbox.Lib.TokenBucket
import GnnSandbox.Lib.Transition
import Mathlib.Algebra.Order.Field.Rat
import Mathlib.Data.Rat.Floor

/-!
# The request throttler

Calls of `execute_with_throttling` that share a throttler. What a call does between two of its
await points happens at one instant. A call that waits may go on at any later time at which it
can: the semaphore and the lock are free, and a sleep has lasted as long as was asked.

1. `step`: the calls between their await points.
2. `Moves`: what a call can do, one stage at a time, and what each move keeps.
-/

namespace GnnSandbox.Operator.Throttling

open Transition

/-! ## The throttler -/

structure Config where
  rateLimit : ℚ
  /-- `asyncio.Semaphore` refuses a negative one. -/
  maxConcurrent : ℕ
  initialDelay : ℚ
  maxDelay : ℚ
  backoffFactor : ℚ
  maxRetries : ℤ

namespace Config

def default : Config where
  rateLimit := 20
  maxConcurrent := 20
  initialDelay := 1 / 2
  maxDelay := 5
  backoffFactor := 3 / 2
  maxRetries := 3

variable (cfg : Config)

/-- `max(1, int(rate_limit))` -/
def bucketSize : ℤ := max 1 ⌊cfg.rateLimit⌋

/-- The length of `range(max_retries + 1)`. -/
def attempts : ℕ := (cfg.maxRetries + 1).toNat

def calculateBackoffDelay (attempt : ℕ) : ℚ :=
  min (cfg.initialDelay * cfg.backoffFactor ^ attempt) cfg.maxDelay

end Config

/-- The `status` of an exception, which may be no number. -/
inductive Status where
  | number (status : ℚ)
  | other
deriving DecidableEq

structure Exception where
  status : Option Status
  text : String
deriving DecidableEq

def retryablePatterns : List String :=
  ["timeout", "connection", "network", "temporary", "rate limit", "too many requests",
    "service unavailable"]

/-- `_is_retryable_error`, with `str.lower`; it raises on a status that is no number. -/
def isRetryableError (lower : String → String) (e : Exception) : Option Bool :=
  match e.status with
  | some (.number status) => some (status = 429 ∨ 500 ≤ status ∧ status < 600)
  | some .other => none
  | none => some (retryablePatterns.any fun pattern => Graph.contains (lower e.text) pattern)

structure Adaptive where
  consecutiveFailures : ℕ
  lastFailureTime : ℚ
  adaptiveDelay : ℚ
deriving DecidableEq

/-- `_update_adaptive_delay` -/
def Adaptive.update (cfg : Config) (a : Adaptive) (success : Bool) (now : ℚ) : Adaptive :=
  if success then
    { a with
      consecutiveFailures := a.consecutiveFailures - 1
      adaptiveDelay :=
        if 0 < a.adaptiveDelay ∧ 10 < now - a.lastFailureTime then max 0 (a.adaptiveDelay - 1 / 10)
        else a.adaptiveDelay }
  else
    { consecutiveFailures := a.consecutiveFailures + 1
      lastFailureTime := now
      adaptiveDelay :=
        if 2 < a.consecutiveFailures + 1 then
          min (a.adaptiveDelay + 1 / 2 * (a.consecutiveFailures + 1 : ℕ)) (cfg.maxDelay / 4)
        else a.adaptiveDelay }

/-- The throttler, with the instants at which it has granted tokens and those at which calls have
executed their functions. -/
structure RequestThrottler where
  tokens : ℚ
  lastRefill : ℚ
  tokenLock : Bool
  semaphore : ℕ
  adaptive : Adaptive
  granted : List ℚ
  executed : List (ℕ × ℚ)
deriving DecidableEq

/-- `__init__` -/
def RequestThrottler.new (cfg : Config) (now : ℚ) : RequestThrottler where
  tokens := cfg.bucketSize
  lastRefill := now
  tokenLock := false
  semaphore := cfg.maxConcurrent
  adaptive := ⟨0, 0, 0⟩
  granted := []
  executed := []

/-! ## Calls -/

/-- What a call raises. -/
inductive Raised where
  | exception (e : Exception)
  /-- The status of an exception was compared with a number. -/
  | typeError
  | runtimeError (text : String)
deriving DecidableEq

/-- How a function ends. -/
inductive Outcome (α : Type) where
  | success (result : α)
  | error (e : Exception)
deriving DecidableEq

/-- Where a call is; the sleeps end at `due` or later. -/
inductive Stage (α : Type) where
  /-- At the head of the loop. -/
  | ready (attempt : ℕ) (lastException : Option Exception)
  /-- In the semaphore, before the lock. -/
  | admitted (attempt : ℕ)
  /-- Asleep in the lock. -/
  | waiting (attempt : ℕ) (due : ℚ)
  /-- In the adaptive delay. -/
  | delayed (attempt : ℕ) (due : ℚ)
  | executing (attempt : ℕ)
  /-- In the backoff, outside the semaphore. -/
  | backoff (attempt : ℕ) (e : Exception) (due : ℚ)
  | ended (result : Except Raised α)

variable {α : Type}

namespace Stage

/-- In the semaphore. -/
def Holds : Stage α → Bool
  | admitted _ | waiting .. | delayed .. | executing _ => true
  | _ => false

def Waits : Stage α → Bool
  | waiting .. => true
  | _ => false

def Delayed : Stage α → Bool
  | delayed .. => true
  | _ => false

def Asleep : Stage α → Bool
  | waiting .. | delayed .. | backoff .. => true
  | _ => false

def Executes : Stage α → Bool
  | executing _ => true
  | _ => false

theorem holds_of_delayed {stage : Stage α} (h : stage.Delayed = true) : stage.Holds = true := by
  cases stage <;> first | rfl | cases h

theorem holds_of_executes {stage : Stage α} (h : stage.Executes = true) : stage.Holds = true := by
  cases stage <;> first | rfl | cases h

end Stage

namespace RequestThrottler

variable (cfg : Config) (thr : RequestThrottler) (call : ℕ) (now : ℚ) (attempt : ℕ)

def refill : RequestThrottler :=
  { thr with
    tokens := min (cfg.bucketSize : ℚ) (thr.tokens + (now - thr.lastRefill) * cfg.rateLimit)
    lastRefill := now }

/-- A token is consumed, and the lock is released. -/
def consume : RequestThrottler :=
  { thr with
    tokens := thr.tokens - 1
    tokenLock := false
    granted := now :: thr.granted }

/-- The function is called. -/
def execute : RequestThrottler := { thr with executed := (call, now) :: thr.executed }

/-- From the token on. -/
def proceed : RequestThrottler × Stage α :=
  if 0 < thr.adaptive.adaptiveDelay then
    (thr, .delayed attempt (now + thr.adaptive.adaptiveDelay))
  else (thr.execute call now, .executing attempt)

/-- `_acquire_token` with the free lock. -/
def acquireToken : RequestThrottler × Stage α :=
  let thr := thr.refill cfg now
  if thr.tokens < 1 then
    ({ thr with tokenLock := true }, .waiting attempt (now + (1 - thr.tokens) / cfg.rateLimit))
  else (thr.consume now).proceed call now attempt

/-- The function has ended, and the semaphore is released. -/
def release (success : Bool) : RequestThrottler :=
  { thr with
    semaphore := thr.semaphore + 1
    adaptive := thr.adaptive.update cfg success now }

/-- A call goes on. -/
def resume : Stage α → Option (RequestThrottler × Stage α)
  | .ready attempt lastException =>
    if attempt < cfg.maxRetries + 1 then
      if thr.semaphore = 0 then none
      else some ({ thr with semaphore := thr.semaphore - 1 }, .admitted attempt)
    else
      match lastException with
      | some e => some (thr, .ended (.error (.exception e)))
      | none => some (thr, .ended (.error (.runtimeError "Unexpected error in throttling logic")))
  | .admitted attempt =>
    if thr.tokenLock then none else some (thr.acquireToken cfg call now attempt)
  | .waiting attempt due =>
    if due ≤ now then some (((thr.refill cfg now).consume now).proceed call now attempt) else none
  | .delayed attempt due =>
    if due ≤ now then some (thr.execute call now, .executing attempt) else none
  | .backoff attempt e due => if due ≤ now then some (thr, .ready (attempt + 1) (some e)) else none
  | .executing _ | .ended _ => none

/-- What becomes of a call whose function has raised. -/
def afterError (lower : String → String) (e : Exception) : Stage α :=
  if attempt < cfg.maxRetries then
    match isRetryableError lower e with
    | none => .ended (.error .typeError)
    | some true => .backoff attempt e (now + cfg.calculateBackoffDelay attempt)
    | some false => .ended (.error (.exception e))
  else .ended (.error (.exception e))

/-- The function of a call ends. -/
def finish (lower : String → String) (outcome : Outcome α) :
    Stage α → Option (RequestThrottler × Stage α)
  | .executing attempt =>
    match outcome with
    | .success result => some (thr.release cfg now true, .ended (.ok result))
    | .error e => some (thr.release cfg now false, afterError cfg now attempt lower e)
  | _ => none

end RequestThrottler

/-- A throttler with its calls. -/
structure State (α : Type) where
  now : ℚ
  throttler : RequestThrottler
  calls : List (Stage α)

inductive Action (α : Type) where
  | resume
  | finish (outcome : Outcome α)

/-- What a call does at an instant. -/
structure Event (α : Type) where
  time : ℚ
  call : ℕ
  action : Action α

def State.init (α : Type) (cfg : Config) (calls : ℕ) (now : ℚ) : State α :=
  ⟨now, .new cfg now, List.replicate calls (.ready 0 none)⟩

section Step

variable (cfg : Config) (lower : String → String)

/-- What an action does to the throttler and to the call. -/
def act (thr : RequestThrottler) (e : Event α) (stage : Stage α) : Option (RequestThrottler × Stage α) :=
  match e.action with
  | .resume => thr.resume cfg e.call e.time stage
  | .finish outcome => thr.finish cfg e.time lower outcome stage

/-- The clock does not go backwards. -/
def step (s : State α) (e : Event α) : Option (State α) :=
  if s.now ≤ e.time then
    (s.calls[e.call]?).bind fun stage =>
      (act cfg lower s.throttler e stage).map fun p =>
        ⟨e.time, p.1, s.calls.set e.call p.2⟩
  else none

end Step

/-! ## What a call does -/

/-- One stage of a call to the next. Without an adaptive delay two of them follow each other. -/
inductive Moves (cfg : Config) (call : ℕ) (now : ℚ) :
    RequestThrottler → Stage α → RequestThrottler → Stage α → Prop where
  | enter {thr : RequestThrottler} {k : ℕ} {last : Option Exception} (hk : k < cfg.attempts) (hfree : 0 < thr.semaphore) :
    Moves cfg call now thr (.ready k last) { thr with semaphore := thr.semaphore - 1 } (.admitted k)
  | refuse {thr : RequestThrottler} {k : ℕ} {last : Option Exception} {result : Except Raised α} :
    Moves cfg call now thr (.ready k last) thr (.ended result)
  | wait {thr : RequestThrottler} {k : ℕ} (hlock : thr.tokenLock = false)
      (htokens : (thr.refill cfg now).tokens < 1) :
    Moves cfg call now thr (.admitted k) { thr.refill cfg now with tokenLock := true }
      (.waiting k (now + (1 - (thr.refill cfg now).tokens) / cfg.rateLimit))
  | grant {thr : RequestThrottler} {k : ℕ} {due : ℚ} (hlock : thr.tokenLock = false)
      (htokens : 1 ≤ (thr.refill cfg now).tokens) :
    Moves cfg call now thr (.admitted k) ((thr.refill cfg now).consume now) (.delayed k due)
  | wake {thr : RequestThrottler} {k : ℕ} {due due' : ℚ} (hdue : due ≤ now) :
    Moves cfg call now thr (.waiting k due) ((thr.refill cfg now).consume now) (.delayed k due')
  | execute {thr : RequestThrottler} {k : ℕ} {due : ℚ} :
    Moves cfg call now thr (.delayed k due) (thr.execute call now) (.executing k)
  | leave {thr : RequestThrottler} {k : ℕ} {success : Bool} {result : Except Raised α} :
    Moves cfg call now thr (.executing k) (thr.release cfg now success) (.ended result)
  | retry {thr : RequestThrottler} {k : ℕ} {success : Bool} {e : Exception} {due : ℚ}
      (hk : k + 1 < cfg.attempts) :
    Moves cfg call now thr (.executing k) (thr.release cfg now success) (.backoff k e due)
  | again {thr : RequestThrottler} {k : ℕ} {e : Exception} {due : ℚ} :
    Moves cfg call now thr (.backoff k e due) thr (.ready (k + 1) (some e))

section Moves

variable {cfg : Config} {call : ℕ} {now : ℚ} {thr : RequestThrottler} {k : ℕ}

/-- One move, which is into the adaptive delay only when there is one, or a token with the function
right after it. -/
def MovesOn (cfg : Config) (call : ℕ) (now : ℚ) (thr : RequestThrottler) (stage : Stage α)
    (p : RequestThrottler × Stage α) : Prop :=
  Moves cfg call now thr stage p.1 p.2 ∧
      (p.2.Delayed = true → 0 < thr.adaptive.adaptiveDelay) ∨
    ∃ thr₁ k due, Moves cfg call now thr stage thr₁ (.delayed k due) ∧
      p = (thr₁.execute call now, .executing k)

/-- A move that is not into the adaptive delay. -/
theorem MovesOn.of_move {thr' : RequestThrottler} {stage stage' : Stage α}
    (h : Moves cfg call now thr stage thr' stage') (hstage : stage'.Delayed = false) :
    MovesOn cfg call now thr stage (thr', stage') :=
  .inl ⟨h, fun hdelayed => absurd (hstage.symm.trans hdelayed) Bool.false_ne_true⟩

/-- From a token on, a call is in the adaptive delay or executes its function. -/
theorem proceed_moves {stage : Stage α} {granted : RequestThrottler}
    (hadaptive : granted.adaptive = thr.adaptive)
    (h : ∀ due, Moves cfg call now thr stage granted (.delayed k due)) :
    MovesOn cfg call now thr stage (granted.proceed call now k) := by
  unfold RequestThrottler.proceed
  split_ifs with hdelay
  · exact .inl ⟨h _, fun _ => hadaptive ▸ hdelay⟩
  · exact .inr ⟨granted, k, now, h now, rfl⟩

theorem lt_attempts : (k : ℤ) < cfg.maxRetries + 1 ↔ k < cfg.attempts := Int.lt_toNat.symm

theorem resume_moves {stage : Stage α} {p : RequestThrottler × Stage α}
    (h : thr.resume cfg call now stage = some p) : MovesOn cfg call now thr stage p := by
  cases stage with
  | ready k last =>
    change (if _ then if _ then _ else _ else _) = some p at h
    split_ifs at h with hk hfree
    · obtain rfl := Option.some.inj h
      exact .of_move (.enter (lt_attempts.mp hk) (Nat.pos_of_ne_zero hfree)) rfl
    · cases last with
      | none =>
        obtain rfl := Option.some.inj h
        exact .of_move .refuse rfl
      | some e =>
        obtain rfl := Option.some.inj h
        exact .of_move .refuse rfl
  | admitted k =>
    change (if _ then _ else _) = some p at h
    split_ifs at h with hlock
    obtain rfl := Option.some.inj h
    have hfree : thr.tokenLock = false := Bool.eq_false_iff.mpr hlock
    unfold RequestThrottler.acquireToken
    dsimp only
    split_ifs with htokens
    · exact .of_move (.wait hfree htokens) rfl
    · exact proceed_moves rfl fun due => .grant hfree (not_lt.mp htokens)
  | waiting k due =>
    change (if _ then _ else _) = some p at h
    split_ifs at h with hdue
    obtain rfl := Option.some.inj h
    exact proceed_moves rfl fun due' => .wake hdue
  | delayed k due =>
    change (if _ then _ else _) = some p at h
    split_ifs at h
    obtain rfl := Option.some.inj h
    exact .of_move .execute rfl
  | backoff k e due =>
    change (if _ then _ else _) = some p at h
    split_ifs at h
    obtain rfl := Option.some.inj h
    exact .of_move .again rfl
  | executing k => cases h
  | ended result => cases h

theorem finish_moves {lower : String → String} {outcome : Outcome α} {stage : Stage α}
    {p : RequestThrottler × Stage α} (h : thr.finish cfg now lower outcome stage = some p) :
    MovesOn cfg call now thr stage p := by
  cases stage with
  | executing k =>
    cases outcome with
    | success result =>
      obtain rfl := Option.some.inj h
      exact .of_move .leave rfl
    | error e =>
      obtain rfl := Option.some.inj h
      unfold RequestThrottler.afterError
      split_ifs with hk
      · have hattempts : k + 1 < cfg.attempts := lt_attempts.mp (by push_cast; omega)
        split
        · exact .of_move .leave rfl
        · exact .of_move (.retry hattempts) rfl
        · exact .of_move .leave rfl
      · exact .of_move .leave rfl
  | _ => cases h

theorem act_moves {lower : String → String} {e : Event α} {stage : Stage α}
    {p : RequestThrottler × Stage α} (h : act cfg lower thr e stage = some p) :
    MovesOn cfg e.call e.time thr stage p := by
  unfold act at h
  split at h
  · exact resume_moves h
  · exact finish_moves h

end Moves

/-- A call makes a move. -/
inductive Moved (cfg : Config) (s : State α) : State α → Prop where
  | move {call : ℕ} {stage stage' : Stage α} {now : ℚ} {thr' : RequestThrottler}
      (hstage : s.calls[call]? = some stage) (hnow : s.now ≤ now)
      (hmoves : Moves cfg call now s.throttler stage thr' stage') :
    Moved cfg s ⟨now, thr', s.calls.set call stage'⟩

section Moved

variable {cfg : Config} {lower : String → String} {s s' : State α} {e : Event α}

/-- **Steps**: an event is one or two moves of its call. -/
theorem step_moved (h : step cfg lower s e = some s') :
    Moved cfg s s' ∨ ∃ s₁, Moved cfg s s₁ ∧ Moved cfg s₁ s' := by
  unfold step at h
  split_ifs at h with hnow
  obtain ⟨stage, hstage, hmap⟩ := Option.bind_eq_some_iff.mp h
  obtain ⟨⟨thr', stage'⟩, hact, rfl⟩ := Option.map_eq_some_iff.mp hmap
  obtain ⟨hone, -⟩ | ⟨thr₁, k, due, hfirst, heq⟩ := act_moves hact
  · exact .inl (.move hstage hnow hone)
  · obtain ⟨rfl, rfl⟩ := Prod.mk.inj heq
    refine .inr ⟨⟨e.time, thr₁, s.calls.set e.call (.delayed k due)⟩,
      .move hstage hnow hfirst, ?_⟩
    have hset : (s.calls.set e.call (.delayed k due))[e.call]? = some (.delayed k due) :=
      List.getElem?_set_self (List.getElem?_eq_some_iff.mp hstage).1
    have hcalls : (s.calls.set e.call (.delayed k due)).set e.call (.executing k) =
        s.calls.set e.call (.executing k) := List.set_set ..
    exact hcalls ▸ .move hset le_rfl .execute

/-- What every move keeps, every step keeps. -/
theorem step_of_moved {I : State α → Prop} (hmove : ∀ s s', I s → Moved cfg s s' → I s')
    (hI : I s) (h : step cfg lower s e = some s') : I s' := by
  obtain hone | ⟨s₁, hfirst, hsecond⟩ := step_moved h
  · exact hmove s s' hI hone
  · exact hmove s₁ s' (hmove s s₁ hI hfirst) hsecond

end Moved

/-! ## What the moves keep -/

namespace Stage

/-- The attempts that a call has made at most, of the `n` that it may make. -/
def made (n : ℕ) : Stage α → ℕ
  | ready k _ | admitted k | waiting k _ | delayed k _ => k
  | executing k | backoff k _ _ => k + 1
  | ended _ => n

/-- The attempt is one that the call may make. -/
def Sound (n : ℕ) : Stage α → Prop
  | ready k _ => k ≤ n
  | admitted k | waiting k _ | delayed k _ | executing k => k < n
  | backoff k _ _ => k + 1 < n
  | ended _ => True

/-- The moves that a call has ahead at most. -/
def ahead (n : ℕ) : Stage α → ℕ
  | ready k _ => 6 * (n - k) + 1
  | admitted k => 6 * (n - k)
  | waiting k _ => 6 * (n - k) - 1
  | delayed k _ => 6 * (n - k) - 2
  | executing k => 6 * (n - k) - 3
  | backoff k _ _ => 6 * (n - k) - 4
  | ended _ => 0

theorem made_le {n : ℕ} {stage : Stage α} (h : stage.Sound n) : stage.made n ≤ n := by
  cases stage with
  | ready k _ => exact h
  | ended _ => exact Nat.le_refl n
  | admitted k | waiting k _ | delayed k _ => exact Nat.le_of_lt h
  | executing k => exact h
  | backoff k _ _ => exact Nat.le_of_lt h

end Stage

namespace RequestThrottler

/-- The tokens are those of a bucket. -/
def bucket (cfg : Config) (thr : RequestThrottler) : TokenBucket ℚ :=
  ⟨cfg.rateLimit, cfg.bucketSize, thr.tokens, thr.lastRefill⟩

/-- The instants at which functions have been executed. -/
def times (thr : RequestThrottler) : List ℚ := thr.executed.map Prod.snd

theorem length_times (thr : RequestThrottler) : thr.times.length = thr.executed.length :=
  List.length_map ..

/-- How often a call has executed its function. -/
def executions (thr : RequestThrottler) (call : ℕ) : ℕ :=
  thr.executed.countP fun p => p.1 = call

end RequestThrottler

section Kept

variable {cfg : Config} {call : ℕ} {now : ℚ} {thr thr' : RequestThrottler} {stage stage' : Stage α}

theorem refill_bucket : (thr.refill cfg now).bucket cfg = (thr.bucket cfg).advance now := by
  unfold RequestThrottler.bucket RequestThrottler.refill TokenBucket.advance TokenBucket.available
  rw [mul_comm]

/-- A consumed token is one that is taken from the bucket. -/
theorem consume_bucket (h : 1 ≤ (thr.refill cfg now).tokens) :
    (thr.bucket cfg).take now 1 = some (((thr.refill cfg now).consume now).bucket cfg) := by
  have htokens : (thr.refill cfg now).tokens = (thr.bucket cfg).available now :=
    congrArg TokenBucket.tokens refill_bucket
  unfold TokenBucket.take
  rw [if_pos (htokens ▸ h), ← htokens]
  rfl

/-- The semaphore is counted down and up again. -/
theorem Moves.semaphore (h : Moves cfg call now thr stage thr' stage') :
    thr'.semaphore + (if stage'.Holds then 1 else 0) =
      thr.semaphore + (if stage.Holds then 1 else 0) := by
  cases h with
  | enter hk hfree => exact Nat.sub_add_cancel hfree
  | _ => rfl

/-- The lock is held by the call that waits in it. -/
theorem Moves.lock (h : Moves cfg call now thr stage thr' stage')
    (hwaits : stage.Waits → thr.tokenLock = true) :
    (if stage'.Waits then 1 else 0) + (if thr.tokenLock then 1 else 0) =
      (if stage.Waits then 1 else 0) + (if thr'.tokenLock then 1 else 0) := by
  cases h with
  | wait hlock | grant hlock =>
    rw [hlock]
    rfl
  | wake =>
    rw [hwaits rfl]
    rfl
  | _ => rfl

/-- What is granted and not yet executed is in the adaptive delay. -/
theorem Moves.delayed (h : Moves cfg call now thr stage thr' stage') :
    thr'.executed.length + (if stage'.Delayed then 1 else 0) + thr.granted.length =
      thr.executed.length + (if stage.Delayed then 1 else 0) + thr'.granted.length := by
  cases h with
  | grant | wake =>
    change thr.executed.length + 1 + thr.granted.length =
      thr.executed.length + 0 + (thr.granted.length + 1)
    omega
  | _ => rfl

theorem Moves.sound {n : ℕ} (hn : n = cfg.attempts)
    (h : Moves cfg call now thr stage thr' stage') (hs : stage.Sound n) : stage'.Sound n := by
  subst hn
  cases h with
  | enter hk => exact hk
  | refuse | leave => exact trivial
  | retry hk => exact hk
  | again => exact Nat.le_of_lt hs
  | _ => exact hs

/-- A call gets on. -/
theorem Moves.ahead_lt (h : Moves cfg call now thr stage thr' stage')
    (hs : stage.Sound cfg.attempts) : stage'.ahead cfg.attempts < stage.ahead cfg.attempts := by
  cases h with
  | enter hk => exact Nat.lt_succ_self _
  | refuse => exact Nat.succ_pos _
  | again =>
    change _ + 1 < cfg.attempts at hs
    change 6 * (cfg.attempts - (_ + 1)) + 1 < 6 * (cfg.attempts - _) - 4
    omega
  | _ =>
    change _ < cfg.attempts at hs
    simp only [Stage.ahead]
    omega

/-- Every execution is one of an attempt. -/
theorem Moves.executions_le (h : Moves cfg call now thr stage thr' stage')
    (hs : stage.Sound cfg.attempts) (hle : thr.executions call ≤ stage.made cfg.attempts) :
    thr'.executions call ≤ stage'.made cfg.attempts := by
  cases h with
  | execute =>
    have hone : (thr.execute call now).executions call = thr.executions call + 1 :=
      List.countP_cons_of_pos (decide_eq_true rfl)
    rw [hone]
    exact Nat.succ_le_succ hle
  | refuse => exact hle.trans (Stage.made_le hs)
  | leave => exact hle.trans (Stage.made_le hs)
  | _ => exact hle

/-- The executions of the other calls stay as they are. -/
theorem Moves.executions_eq (h : Moves cfg call now thr stage thr' stage') {i : ℕ}
    (hi : i ≠ call) : thr'.executions i = thr.executions i := by
  cases h with
  | execute => exact List.countP_cons_of_neg (by simpa using hi.symm)
  | _ => rfl

/-- Without a move into or out of the adaptive delay the logs stay as they are. -/
theorem Moves.logs_eq (h : Moves cfg call now thr stage thr' stage')
    (hstage : stage.Delayed = false) (hstage' : stage'.Delayed = false) :
    thr'.times = thr.times ∧ thr'.granted = thr.granted := by
  cases h with
  | grant | wake => cases hstage'
  | execute => cases hstage
  | _ => exact ⟨rfl, rfl⟩

/-- Without an adaptive delay a granted token is followed by the function. -/
theorem MovesOn.times_eq {p : RequestThrottler × Stage α} (h : MovesOn cfg call now thr stage p)
    (hdelay : thr.adaptive.adaptiveDelay ≤ 0) (hstage : stage.Delayed = false)
    (htimes : thr.times = thr.granted) : p.1.times = p.1.granted := by
  obtain ⟨hmove, hpos⟩ | ⟨thr₁, k, due, hmove, rfl⟩ := h
  · have hstage' : p.2.Delayed = false :=
      Bool.eq_false_iff.mpr fun hdelayed => (hpos hdelayed).not_ge hdelay
    obtain ⟨hexecuted, hgranted⟩ := hmove.logs_eq hstage hstage'
    rw [hexecuted, hgranted, htimes]
  · cases hmove with
    | grant | wake => exact congrArg (now :: ·) htimes

end Kept

end GnnSandbox.Operator.Throttling
