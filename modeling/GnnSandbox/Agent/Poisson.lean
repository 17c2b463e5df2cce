import GnnSandbox.Lib.Transition
import Mathlib.Algebra.GroupWithZero.Nat
import Mathlib.Data.Int.Notation

/-!
# Sessions that arrive

The arrival loop of a Poisson flow and the goroutines that it spawns, in any order. The loop reads
the number of active sessions, a spawned goroutine counts itself when it is scheduled; what is
committed to run in between is not in the counter.
-/

namespace GnnSandbox.Agent.Poisson

open Transition

/-- Where the goroutine of a session is. -/
inductive Stage where
  | spawned
  | counted
  /-- In `runSession`. -/
  | running
  | leaving
  | ended
deriving DecidableEq

/-- Where the arrival loop is. -/
inductive Loop where
  | waiting
  /-- The counter was below the limit. -/
  | admitting
  /-- The context is done, and the loop waits for the sessions. -/
  | draining
  | returned
deriving DecidableEq

/-- `sessions` has the goroutines by their session ids. -/
structure Arrivals where
  maxSessions : ℤ
  loop : Loop
  activeSessions : Int32
  sessions : List Stage
deriving DecidableEq

/-- `maxSessions` of `Build`. -/
def maxSessions (concurrentSessions : ℤ) : ℤ :=
  if concurrentSessions < 1 then 100 else concurrentSessions

def initial (concurrentSessions : ℤ) : Arrivals :=
  ⟨maxSessions concurrentSessions, .waiting, 0, []⟩

inductive Event where
  /-- `time.After` fires and the counter is read. -/
  | arrival
  | spawn
  | done
  | returns
  | count (id : ℕ)
  | begins (id : ℕ)
  | ends (id : ℕ)
  | uncount (id : ℕ)
deriving DecidableEq

/-- An event of a session that is not its arrival. -/
def Event.OfSession : Event → Prop
  | .count _ | .begins _ | .ends _ | .uncount _ => True
  | _ => False

namespace Arrivals

/-- A goroutine goes on, and changes the counter by `delta`. -/
def advance (s : Arrivals) (id : ℕ) (old new : Stage) (delta : Int32) : Option Arrivals :=
  if s.sessions[id]? = some old then
    some { s with
      activeSessions := s.activeSessions + delta
      sessions := s.sessions.set id new }
  else none

end Arrivals

/-- What an event does. -/
def step (s : Arrivals) : Event → Option Arrivals
  | .arrival =>
    if s.loop = .waiting then
      if s.maxSessions ≤ s.activeSessions.toInt then some s else some { s with loop := .admitting }
    else none
  | .spawn =>
    if s.loop = .admitting then
      some { s with loop := .waiting, sessions := s.sessions ++ [.spawned] }
    else none
  | .done => if s.loop = .waiting then some { s with loop := .draining } else none
  | .returns =>
    if s.loop = .draining ∧ ∀ stage ∈ s.sessions, stage = .ended then
      some { s with loop := .returned }
    else none
  | .count id => s.advance id .spawned .counted 1
  | .begins id => s.advance id .counted .running 0
  | .ends id => s.advance id .running .leaving 0
  | .uncount id => s.advance id .leaving .ended (-1)

/-! ## Running and committed sessions -/

/-- The stages of a session that runs or will run. -/
def Stage.Commits : Stage → Bool
  | .spawned | .counted | .running => true
  | .leaving | .ended => false

namespace Arrivals

/-- The number of sessions that run. -/
def running (s : Arrivals) : ℕ := s.sessions.countP fun stage => stage = .running

/-- The number of sessions that run or were spawned and will run. -/
def committed (s : Arrivals) : ℕ := s.sessions.countP Stage.Commits

/-- However the sessions that were spawned go on, at most `maxSessions` run at the same time. -/
def Within (s : Arrivals) : Prop :=
  ∀ events s', (∀ e ∈ events, e.OfSession) → run step s events = some s' →
    (s'.running : ℤ) ≤ s.maxSessions

end Arrivals

/-- A session is spawned only when fewer than `maxSessions` run or were spawned and will run. -/
def Covered (s : Arrivals) (e : Event) : Prop :=
  e = .spawn → (s.committed : ℤ) < s.maxSessions

instance (s : Arrivals) (e : Event) : Decidable (Covered s e) :=
  inferInstanceAs (Decidable (e = .spawn → (s.committed : ℤ) < s.maxSessions))

variable {s s' : Arrivals} {e : Event} {id : ℕ} {old new : Stage} {delta : Int32}

theorem running_le_committed (s : Arrivals) : s.running ≤ s.committed := by
  refine List.countP_mono_left fun stage _ hrunning => ?_
  rw [of_decide_eq_true hrunning]
  rfl

/-! ## Steps -/

theorem advance_eq_some (h : s.advance id old new delta = some s') :
    s.sessions[id]? = some old ∧
      s' = { s with
        activeSessions := s.activeSessions + delta
        sessions := s.sessions.set id new } := by
  unfold Arrivals.advance at h
  split_ifs at h with hold
  exact ⟨hold, (Option.some.inj h).symm⟩

theorem committed_advance (h : s.advance id old new delta = some s') :
    s'.maxSessions = s.maxSessions ∧
      s'.committed + (if old.Commits then 1 else 0) =
        s.committed + (if new.Commits then 1 else 0) := by
  obtain ⟨hold, rfl⟩ := advance_eq_some h
  exact ⟨rfl, countP_set Stage.Commits hold new⟩

/-- **Steps**: only an arrival that is spawned adds to the sessions that are committed. -/
theorem committed_step (h : step s e = some s') :
    s'.maxSessions = s.maxSessions ∧
      (e = .spawn ∧ s'.committed = s.committed + 1 ∨ e ≠ .spawn ∧ s'.committed ≤ s.committed) := by
  cases e with
  | arrival =>
    change (if _ then _ else _) = some s' at h
    split_ifs at h <;> obtain rfl := Option.some.inj h
    · exact ⟨rfl, .inr ⟨nofun, Nat.le_refl _⟩⟩
    · exact ⟨rfl, .inr ⟨nofun, Nat.le_refl _⟩⟩
  | spawn =>
    change (if _ then _ else _) = some s' at h
    split_ifs at h
    obtain rfl := Option.some.inj h
    refine ⟨rfl, .inl ⟨rfl, ?_⟩⟩
    exact List.countP_append
  | done =>
    change (if _ then _ else _) = some s' at h
    split_ifs at h
    obtain rfl := Option.some.inj h
    exact ⟨rfl, .inr ⟨nofun, Nat.le_refl _⟩⟩
  | returns =>
    change (if _ then _ else _) = some s' at h
    split_ifs at h
    obtain rfl := Option.some.inj h
    exact ⟨rfl, .inr ⟨nofun, Nat.le_refl _⟩⟩
  | count id =>
    obtain ⟨hmax, hcount⟩ := committed_advance h
    exact ⟨hmax, .inr ⟨nofun, Nat.le_of_eq (Nat.add_right_cancel hcount)⟩⟩
  | begins id =>
    obtain ⟨hmax, hcount⟩ := committed_advance h
    exact ⟨hmax, .inr ⟨nofun, Nat.le_of_eq (Nat.add_right_cancel hcount)⟩⟩
  | ends id =>
    obtain ⟨hmax, hcount⟩ := committed_advance h
    refine ⟨hmax, .inr ⟨nofun, ?_⟩⟩
    change s'.committed + 1 = s.committed + 0 at hcount
    omega
  | uncount id =>
    obtain ⟨hmax, hcount⟩ := committed_advance h
    exact ⟨hmax, .inr ⟨nofun, Nat.le_of_eq (Nat.add_right_cancel hcount)⟩⟩

/-! ## What spawned sessions can come to -/

/-- The steps that the sessions that do not run yet still have to take. -/
def Stage.ahead : Stage → ℕ
  | .spawned => 2
  | .counted => 1
  | .running | .leaving | .ended => 0

/-- A session that runs next takes a step ahead and stays committed. -/
theorem advance_ahead (hold : s.sessions[id]? = some old) (new : Stage)
    (hcommits : old.Commits = new.Commits) (delta : Int32) :
    ∃ s', s.advance id old new delta = some s' ∧ s'.committed = s.committed ∧
      s'.maxSessions = s.maxSessions ∧
      (s'.sessions.map Stage.ahead).sum + old.ahead =
        (s.sessions.map Stage.ahead).sum + new.ahead := by
  refine ⟨_, if_pos hold, ?_, rfl, sum_map_set Stage.ahead hold new⟩
  have hcount := countP_set Stage.Commits hold new
  rw [hcommits] at hcount
  exact Nat.add_right_cancel hcount

/-- **All committed sessions can run** at the same time. -/
theorem exists_running (s : Arrivals) : ∃ events s', (∀ e ∈ events, e.OfSession) ∧
    run step s events = some s' ∧ s'.running = s.committed := by
  by_cases hnone : ∀ stage ∈ s.sessions, stage.ahead = 0
  · refine ⟨[], s, nofun, rfl, List.countP_congr fun stage hstage => ?_⟩
    have hzero := hnone stage hstage
    cases stage with
    | spawned | counted => cases hzero
    | running | leaving | ended => decide
  · -- a session that is spawned or counted is scheduled, and it has a step less ahead
    simp only [not_forall] at hnone
    obtain ⟨stage, hmem, hahead⟩ := hnone
    obtain ⟨id, hid⟩ := List.mem_iff_getElem?.mp hmem
    have hnext : ∃ e s₁, e.OfSession ∧ step s e = some s₁ ∧ s₁.committed = s.committed ∧
        (s₁.sessions.map Stage.ahead).sum < (s.sessions.map Stage.ahead).sum := by
      cases stage with
      | spawned =>
        obtain ⟨s₁, hstep, hcommitted, -, hsum⟩ := advance_ahead hid .counted rfl 1
        refine ⟨.count id, s₁, trivial, hstep, hcommitted, ?_⟩
        simp only [Stage.ahead] at hsum
        omega
      | counted =>
        obtain ⟨s₁, hstep, hcommitted, -, hsum⟩ := advance_ahead hid .running rfl 0
        refine ⟨.begins id, s₁, trivial, hstep, hcommitted, ?_⟩
        simp only [Stage.ahead] at hsum
        omega
      | running | leaving | ended => exact absurd rfl hahead
    obtain ⟨e, s₁, hof, hstep, hcommitted, hlt⟩ := hnext
    obtain ⟨events, s', hofs, hrun, hrunning⟩ := exists_running s₁
    refine ⟨e :: events, s', ?_, run_cons_eq_some.mpr ⟨s₁, hstep, hrun⟩, hrunning.trans hcommitted⟩
    intro e' he'
    rcases List.mem_cons.mp he' with rfl | he'
    · exact hof
    · exact hofs e' he'
termination_by (s.sessions.map Stage.ahead).sum

/-- The sessions that were spawned stay within the limit exactly when those committed do. -/
theorem within_iff : s.Within ↔ (s.committed : ℤ) ≤ s.maxSessions := by
  constructor
  · intro h
    obtain ⟨events, s', hof, hrun, hrunning⟩ := exists_running s
    rw [← hrunning]
    exact h events s' hof hrun
  · intro h events s' hof hrun
    have hkept : (s'.committed : ℤ) ≤ s'.maxSessions ∧ s'.maxSessions = s.maxSessions := by
      have hofs : Throughout step (fun _ e => e.OfSession) s events := by
        refine throughout_iff.mpr ?_
        rintro before e after _ rfl -
        exact hof e (by simp)
      refine run_invariant
        (I := fun s₁ => (s₁.committed : ℤ) ≤ s₁.maxSessions ∧ s₁.maxSessions = s.maxSessions)
        (fun s₁ e s₂ h₁ hof hstep => ?_) ⟨h, rfl⟩ hofs hrun
      · obtain ⟨hmax, ⟨rfl, -⟩ | ⟨-, hle⟩⟩ := committed_step hstep
        · cases hof
        · omega
    have hle := running_le_committed s'
    omega

theorem within_initial (concurrentSessions : ℤ) : (initial concurrentSessions).Within := by
  rw [within_iff]
  show (0 : ℤ) ≤ maxSessions concurrentSessions
  unfold maxSessions
  split_ifs <;> omega

/-- **When the limit holds.** Along a run of the arrival loop with the sessions that it spawns,
in any order and with any times between the arrivals, no order of the sessions spawned so far has
more than `maxSessions` run at the same time exactly when each session is spawned while fewer are
committed; and then no more run in any state of the run. -/
theorem within_iff_covered (concurrentSessions : ℤ) (events : List Event) (s : Arrivals)
    (hrun : run step (initial concurrentSessions) events = some s) :
    (Always step Arrivals.Within (initial concurrentSessions) events ↔
      Throughout step Covered (initial concurrentSessions) events) ∧
    (Throughout step Covered (initial concurrentSessions) events →
      Always step (fun s => (s.running : ℤ) ≤ s.maxSessions) (initial concurrentSessions)
        events) := by
  have hiff : Always step Arrivals.Within (initial concurrentSessions) events ↔
      Throughout step Covered (initial concurrentSessions) events := by
    refine always_iff_throughout (I := fun _ => True) (fun _ _ _ _ _ => trivial)
      (fun s e s' _ hwithin hstep => ?_) trivial (within_initial concurrentSessions) hrun
    rw [within_iff] at hwithin ⊢
    unfold Covered
    obtain ⟨hmax, ⟨rfl, hcount⟩ | ⟨hne, hle⟩⟩ := committed_step hstep
    · rw [hmax, hcount]
      refine ⟨fun h _ => by omega, fun h => ?_⟩
      have hlt := h rfl
      omega
    · refine iff_of_true ?_ fun h => absurd h hne
      rw [hmax]
      omega
  refine ⟨hiff, fun hcovered before after s₁ heq hbefore => ?_⟩
  exact hiff.mpr hcovered before after s₁ heq hbefore [] s₁ nofun rfl

/-- One session at a time, in order. -/
theorem within_one_by_one :
    Always step Arrivals.Within (initial 1) [.arrival, .spawn, .count 0, .begins 0, .arrival] :=
  (within_iff_covered 1 [.arrival, .spawn, .count 0, .begins 0, .arrival]
    ⟨1, .waiting, 1, [.running]⟩ (by decide)).1.mpr (by decide)

/-- Two arrivals before the first session has counted itself: two run where one may. -/
theorem two_run_where_one_may :
    run step (initial 1) [.arrival, .spawn, .arrival, .spawn, .count 0, .count 1, .begins 0,
        .begins 1] = some ⟨1, .waiting, 2, [.running, .running]⟩ ∧
      ¬Always step (fun s => (s.running : ℤ) ≤ s.maxSessions) (initial 1) [.arrival, .spawn,
        .arrival, .spawn, .count 0, .count 1, .begins 0, .begins 1] := by
  have hrun : run step (initial 1) [.arrival, .spawn, .arrival, .spawn, .count 0, .count 1,
      .begins 0, .begins 1] = some ⟨1, .waiting, 2, [.running, .running]⟩ := by decide
  exact ⟨hrun, fun h => absurd (h _ [] _ (List.append_nil _).symm hrun) (by decide)⟩

end GnnSandbox.Agent.Poisson
