import Mathlib.Algebra.GroupWithZero.Nat
import Mathlib.Algebra.Order.Ring.Rat
import Mathlib.Data.List.Nodup
import Mathlib.Data.List.Range
import Mathlib.Logic.Function.Basic
import Mathlib.Tactic.Linarith

/-!
# Training with early stopping

The parameters of a model are storages that the optimiser updates in place. A state dict names the
storages, and its copy names the same ones: what the loop keeps as the best weights changes with the
model, and loading it changes nothing.
-/

namespace GnnSandbox.Gnn.Training

/-! ## Models and their storages -/

variable {ρ τ : Type*}

/-- The contents of the storages. -/
abbrev Heap (ρ τ : Type*) := ρ → τ

/-- The named parameters of a model, each with its storage. -/
structure Model (ρ : Type*) where
  parameters : List (String × ρ)
  nodup : (parameters.map Prod.fst).Nodup

/-- A dictionary from names to storages: `state_dict` detaches tensors, which does not copy them. -/
abbrev StateDict (ρ : Type*) := List (String × ρ)

def Model.stateDict (m : Model ρ) : StateDict ρ := m.parameters

/-- `dict.copy`, which copies no tensor. -/
def copy (state : StateDict ρ) : StateDict ρ := state

/-- `param.copy_(input_param)` for one parameter. -/
def loadParameter [DecidableEq ρ] (state : StateDict ρ) (heap : Heap ρ τ) (p : String × ρ) :
    Heap ρ τ :=
  match state.lookup p.1 with
  | none => heap
  | some input => Function.update heap p.2 (heap input)

/-- `model.load_state_dict(state)` -/
def Model.loadStateDict [DecidableEq ρ] (m : Model ρ) (heap : Heap ρ τ) (state : StateDict ρ) :
    Heap ρ τ :=
  m.parameters.foldl (loadParameter state) heap

/-- Loads the kept state dict, if there is one. -/
def Model.restore [DecidableEq ρ] (m : Model ρ) (heap : Heap ρ τ) :
    Option (StateDict ρ) → Heap ρ τ
  | none => heap
  | some best => m.loadStateDict heap best

/-- What `torch.save` writes of a state dict. -/
def contents (heap : Heap ρ τ) (state : StateDict ρ) : List (String × τ) :=
  state.map fun p => (p.1, heap p.2)

/-! ## The loop -/

def earlyStoppingPatience : ℕ := 10

def minDelta : ℚ := 1 / 1000

/-- The local variables of the loop; no best loss is `float('inf')`. -/
structure LoopState (ρ τ : Type*) where
  heap : Heap ρ τ
  bestValLoss : Option ℚ
  epochsWithoutImprovement : ℕ
  bestModelState : Option (StateDict ρ)
  valHistory : List ℚ
  /-- The loop has been left by `break`. -/
  stoppedEarly : Bool

/-- `val_loss < best_val_loss - MIN_DELTA` -/
def improves (bestValLoss : Option ℚ) (valLoss : ℚ) : Bool :=
  match bestValLoss with
  | none => true
  | some best => valLoss < best - minDelta

variable [DecidableEq ρ]

/-- The early stopping at the end of an epoch. -/
def earlyStopping (m : Model ρ) (valLoss : ℚ) (s : LoopState ρ τ) : LoopState ρ τ :=
  if improves s.bestValLoss valLoss then
    { s with
      bestValLoss := some valLoss
      epochsWithoutImprovement := 0
      bestModelState := some (copy m.stateDict) }
  else if earlyStoppingPatience ≤ s.epochsWithoutImprovement + 1 then
    { s with
      epochsWithoutImprovement := s.epochsWithoutImprovement + 1
      heap := m.restore s.heap s.bestModelState
      stoppedEarly := true }
  else { s with epochsWithoutImprovement := s.epochsWithoutImprovement + 1 }

/-- An epoch: the optimiser's updates, the validation and the early stopping. -/
def runEpoch (m : Model ρ) (train : ℕ → Heap ρ τ → Heap ρ τ) (valLoss : ℕ → ℚ) (epoch : ℕ)
    (s : LoopState ρ τ) : LoopState ρ τ :=
  earlyStopping m (valLoss epoch)
    { s with heap := train epoch s.heap, valHistory := s.valHistory ++ [valLoss epoch] }

def runEpochs (m : Model ρ) (train : ℕ → Heap ρ τ → Heap ρ τ) (valLoss : ℕ → ℚ) :
    List ℕ → LoopState ρ τ → LoopState ρ τ
  | [], s => s
  | epoch :: epochs, s =>
    let s' := runEpoch m train valLoss epoch s
    if s'.stoppedEarly then s' else runEpochs m train valLoss epochs s'

structure Checkpoint (τ : Type*) where
  modelStateDict : List (String × τ)
  valLoss : Option ℚ

/-- The checkpoint, with the losses of the epochs that were run and how the loop was left. -/
structure Result (τ : Type*) where
  checkpoint : Checkpoint τ
  valHistory : List ℚ
  stoppedEarly : Bool

def trainHetgnnOnSnapshots (m : Model ρ) (train : ℕ → Heap ρ τ → Heap ρ τ) (valLoss : ℕ → ℚ)
    (maxEpochs : ℕ) (heap : Heap ρ τ) : Result τ :=
  let s := runEpochs m train valLoss (List.range maxEpochs)
    { heap := heap
      bestValLoss := none
      epochsWithoutImprovement := 0
      bestModelState := none
      valHistory := []
      stoppedEarly := false }
  { checkpoint := { modelStateDict := contents s.heap m.stateDict, valLoss := s.bestValLoss }
    valHistory := s.valHistory
    stoppedEarly := s.stoppedEarly }

/-! ## What is asked of a checkpoint -/

section Spec

variable (valLoss : ℕ → ℚ)

/-- The best loss of the first epochs, where small improvements do not count. -/
def recordLoss : ℕ → Option ℚ
  | 0 => none
  | n + 1 => if improves (recordLoss n) (valLoss n) then some (valLoss n) else recordLoss n

/-- The patience is used up by the last epochs before `n`. -/
structure Idle (n : ℕ) : Prop where
  le : earlyStoppingPatience ≤ n
  idle : ∀ e < n, n - earlyStoppingPatience ≤ e → improves (recordLoss valLoss e) (valLoss e) = false

/-- The number of epochs that are run. -/
structure EpochsRun (maxEpochs n : ℕ) : Prop where
  le : n ≤ maxEpochs
  going : ∀ k < n, ¬Idle valLoss k
  last : n = maxEpochs ∨ Idle valLoss n

omit [DecidableEq ρ]

/-- The storages after so many epochs. -/
def heapAfter (train : ℕ → Heap ρ τ → Heap ρ τ) (heap : Heap ρ τ) : ℕ → Heap ρ τ
  | 0 => heap
  | n + 1 => train n (heapAfter train heap n)

def weightsAfter (m : Model ρ) (train : ℕ → Heap ρ τ → Heap ρ τ) (heap : Heap ρ τ) (n : ℕ) :
    List (String × τ) :=
  contents (heapAfter train heap n) m.stateDict

/-- The checkpoint holds the weights of the best epoch. -/
structure BestCheckpoint (m : Model ρ) (train : ℕ → Heap ρ τ → Heap ρ τ) (maxEpochs : ℕ)
    (heap : Heap ρ τ) (r : Result τ) : Prop where
  saved : ∃ e < r.valHistory.length, r.checkpoint.valLoss = some (valLoss e) ∧
    r.checkpoint.modelStateDict = weightsAfter m train heap (e + 1)
  near : ∀ e < r.valHistory.length, ∀ best ∈ r.checkpoint.valLoss, best ≤ valLoss e + minDelta
  runs : EpochsRun valLoss maxEpochs r.valHistory.length
  stops : r.stoppedEarly = true ↔ Idle valLoss r.valHistory.length

end Spec

/-! ## Records -/

section Records

variable {valLoss : ℕ → ℚ} {n : ℕ} {best : ℚ}

theorem recordLoss_isSome (h : 0 < n) : ∃ best, recordLoss valLoss n = some best := by
  induction n with
  | zero => cases h
  | succ n ih =>
    rw [recordLoss]
    split
    · exact ⟨_, rfl⟩
    · next hidle =>
      cases n with
      | zero => exact absurd rfl hidle
      | succ n => exact ih n.succ_pos

/-- **No epoch is better** than the record by more than what counts. -/
theorem recordLoss_le (h : recordLoss valLoss n = some best) {e : ℕ} (he : e < n) :
    best ≤ valLoss e + minDelta := by
  have hpos : (0 : ℚ) ≤ minDelta := by decide +kernel
  induction n generalizing best with
  | zero => cases he
  | succ n ih =>
    rw [recordLoss] at h
    split at h
    · next himproves =>
      obtain rfl := Option.some.inj h
      rcases Nat.lt_succ_iff_lt_or_eq.mp he with he | rfl
      · cases hrecord : recordLoss valLoss n with
        | none =>
          obtain ⟨best, hbest⟩ := @recordLoss_isSome valLoss n (Nat.zero_lt_of_lt he)
          rw [hrecord] at hbest
          cases hbest
        | some before =>
          rw [hrecord] at himproves
          have hlt : valLoss n < before - minDelta := of_decide_eq_true himproves
          have hbefore := ih hrecord he
          linarith
      · linarith
    · next hidle =>
      rcases Nat.lt_succ_iff_lt_or_eq.mp he with he | rfl
      · exact ih h he
      · rw [h] at hidle
        have hle : ¬valLoss e < best - minDelta := fun hlt => hidle (decide_eq_true hlt)
        linarith

/-- How long no epoch has improved. -/
def idleFor (valLoss : ℕ → ℚ) : ℕ → ℕ
  | 0 => 0
  | n + 1 => if improves (recordLoss valLoss n) (valLoss n) then 0 else idleFor valLoss n + 1

theorem le_idleFor_iff {k : ℕ} : k ≤ idleFor valLoss n ↔
    k ≤ n ∧ ∀ e < n, n - k ≤ e → improves (recordLoss valLoss e) (valLoss e) = false := by
  induction n generalizing k with
  | zero => exact ⟨fun h => ⟨h, fun e he => absurd he e.not_lt_zero⟩, fun h => h.1⟩
  | succ n ih =>
    rw [idleFor]
    split
    · next himproves =>
      constructor
      · intro hk
        exact ⟨by omega, fun e he hle => by omega⟩
      · rintro ⟨hk, hidle⟩
        by_contra hpos
        have hlast := hidle n n.lt_succ_self (by omega)
        rw [himproves] at hlast
        cases hlast
    · next hidle =>
      cases k with
      | zero => exact ⟨fun _ => ⟨Nat.zero_le _, fun e he hle => by omega⟩, fun _ => Nat.zero_le _⟩
      | succ k =>
        rw [Nat.succ_le_succ_iff, ih, Nat.succ_le_succ_iff, Nat.succ_sub_succ]
        refine and_congr_right fun hk => ⟨fun h e he hle => ?_, fun h e he => h e (by omega)⟩
        rcases Nat.lt_succ_iff_lt_or_eq.mp he with he | rfl
        · exact h e he hle
        · exact Bool.not_eq_true _ ▸ hidle

theorem idle_iff : Idle valLoss n ↔ earlyStoppingPatience ≤ idleFor valLoss n :=
  ⟨fun h => le_idleFor_iff.mpr ⟨h.le, h.idle⟩, fun h => ⟨(le_idleFor_iff.mp h).1,
    (le_idleFor_iff.mp h).2⟩⟩

theorem EpochsRun.unique {maxEpochs n' : ℕ} (h : EpochsRun valLoss maxEpochs n)
    (h' : EpochsRun valLoss maxEpochs n') : n = n' := by
  rcases lt_trichotomy n n' with hlt | heq | hlt
  · rcases h.last with hmax | hidle
    · exact absurd (hlt.trans_le h'.le) (by omega)
    · exact absurd hidle (h'.going n hlt)
  · exact heq
  · rcases h'.last with hmax | hidle
    · exact absurd (hlt.trans_le h.le) (by omega)
    · exact absurd hidle (h.going n' hlt)

end Records

/-! ## The loop keeps no weights -/

section Loop

variable {m : Model ρ} {train : ℕ → Heap ρ τ → Heap ρ τ} {valLoss : ℕ → ℚ} {heap : Heap ρ τ}
  {s : LoopState ρ τ} {n maxEpochs : ℕ}

/-- A storage is overwritten with itself. -/
theorem loadParameter_stateDict (heap : Heap ρ τ) {p : String × ρ} (hp : p ∈ m.parameters) :
    loadParameter (copy m.stateDict) heap p = heap := by
  unfold loadParameter
  split
  · rfl
  · next input hinput =>
    obtain ⟨before, after, hsplit, -⟩ := List.lookup_eq_some_iff.mp hinput
    have hmem : (p.1, input) ∈ m.parameters := by
      rw [show m.parameters = _ from hsplit]
      exact List.mem_append_right _ (List.mem_cons_self ..)
    have heq : (p.1, input) = p := List.inj_on_of_nodup_map m.nodup hmem hp rfl
    have hinput : input = p.2 := congrArg Prod.snd heq
    rw [hinput, Function.update_eq_self]

/-- **Loading the kept state dict changes nothing.** -/
theorem loadStateDict_stateDict (heap : Heap ρ τ) :
    m.loadStateDict heap (copy m.stateDict) = heap := by
  have hfold : ∀ ps ⊆ m.parameters, ps.foldl (loadParameter (copy m.stateDict)) heap = heap := by
    intro ps hps
    induction ps with
    | nil => rfl
    | cons p ps ih =>
      obtain ⟨hp, hps⟩ := List.cons_subset.mp hps
      rw [List.foldl_cons, loadParameter_stateDict heap hp, ih hps]
  exact hfold m.parameters (List.Subset.refl _)

theorem restore_eq (heap : Heap ρ τ) {best : Option (StateDict ρ)}
    (h : ∀ state ∈ best, state = copy m.stateDict) : m.restore heap best = heap := by
  cases best with
  | none => rfl
  | some state =>
    obtain rfl := h state rfl
    exact loadStateDict_stateDict heap

/-- What the loop knows after `n` epochs. -/
structure Inv (m : Model ρ) (train : ℕ → Heap ρ τ → Heap ρ τ) (valLoss : ℕ → ℚ)
    (heap : Heap ρ τ) (n : ℕ) (s : LoopState ρ τ) : Prop where
  heap : s.heap = heapAfter train heap n
  best : s.bestValLoss = recordLoss valLoss n
  idle : s.epochsWithoutImprovement = idleFor valLoss n
  kept : ∀ state ∈ s.bestModelState, state = copy m.stateDict
  history : s.valHistory = (List.range n).map valLoss
  stopped : s.stoppedEarly = true ↔ Idle valLoss n

/-- An epoch keeps the invariant, and ends the loop when the patience is used up. -/
theorem Inv.runEpoch (h : Inv m train valLoss heap n s) (hgoing : ¬Idle valLoss n) :
    Inv m train valLoss heap (n + 1) (runEpoch m train valLoss n s) := by
  have hheap : train n s.heap = heapAfter train heap (n + 1) := congrArg (train n) h.heap
  have hhistory : s.valHistory ++ [valLoss n] = (List.range (n + 1)).map valLoss := by
    rw [List.range_succ, List.map_append, h.history]
    rfl
  have hstopped : s.stoppedEarly = false := Bool.not_eq_true _ ▸ h.stopped.not.mpr hgoing
  by_cases himproves : improves (recordLoss valLoss n) (valLoss n)
  · have hidle : idleFor valLoss (n + 1) = 0 := if_pos himproves
    have hstep : Training.runEpoch m train valLoss n s = _ :=
      if_pos (h.best ▸ himproves : improves s.bestValLoss (valLoss n) = true)
    rw [hstep]
    exact
      { heap := hheap
        best := (if_pos himproves).symm
        idle := hidle.symm
        kept := fun state hstate => (Option.some.inj hstate).symm
        history := hhistory
        stopped := by
          rw [idle_iff, hidle]
          exact iff_of_false (by simp [hstopped]) (by decide) }
  · have hidle : idleFor valLoss (n + 1) = s.epochsWithoutImprovement + 1 := by
      rw [h.idle]
      exact if_neg himproves
    have hbest : s.bestValLoss = recordLoss valLoss (n + 1) := h.best.trans (if_neg himproves).symm
    have hstep : Training.runEpoch m train valLoss n s = _ :=
      if_neg (h.best ▸ himproves : ¬improves s.bestValLoss (valLoss n) = true)
    rw [hstep]
    split
    · next hpatience =>
      exact
        { heap := (restore_eq _ h.kept).trans hheap
          best := hbest
          idle := hidle.symm
          kept := h.kept
          history := hhistory
          stopped := iff_of_true rfl (idle_iff.mpr (hidle ▸ hpatience)) }
    · next hpatience =>
      exact
        { heap := hheap
          best := hbest
          idle := hidle.symm
          kept := h.kept
          history := hhistory
          stopped := iff_of_false (by simp [hstopped])
            fun hidle' => hpatience (hidle ▸ idle_iff.mp hidle') }

/-- The loop over the remaining epochs keeps the invariant up to where it is left. -/
theorem Inv.runEpochs {k : ℕ} (h : Inv m train valLoss heap n s)
    (hgoing : ∀ j ≤ n, ¬Idle valLoss j) : ∃ n', EpochsRun valLoss (n + k) n' ∧
      Inv m train valLoss heap n' (runEpochs m train valLoss (List.range' n k) s) := by
  induction k generalizing n s with
  | zero =>
    exact ⟨n, { le := le_rfl, going := fun j hj => hgoing j hj.le, last := .inl rfl }, h⟩
  | succ k ih =>
    have hstep := h.runEpoch (hgoing n le_rfl)
    rw [List.range'_succ, Training.runEpochs]
    split
    · next hstop =>
      refine ⟨n + 1, { le := by omega, going := fun j hj => hgoing j (by omega), last := ?_ }, hstep⟩
      exact .inr (hstep.stopped.mp hstop)
    · next hstop =>
      have hgoing' : ∀ j ≤ n + 1, ¬Idle valLoss j := by
        intro j hj
        rcases Nat.lt_succ_iff_lt_or_eq.mp (Nat.lt_succ_of_le hj) with hj | rfl
        · exact hgoing j (by omega)
        · exact fun hidle => hstop (hstep.stopped.mpr hidle)
      obtain ⟨n', hrun, hinv⟩ := ih hstep hgoing'
      rw [Nat.add_right_comm, Nat.add_assoc] at hrun
      exact ⟨n', hrun, hinv⟩

theorem not_idle_zero : ¬Idle valLoss 0 := fun h => absurd h.le (by decide)

/-- **The weights that are saved** are those of the last epoch that is run. -/
theorem trainHetgnnOnSnapshots_spec (m : Model ρ) (train : ℕ → Heap ρ τ → Heap ρ τ)
    (valLoss : ℕ → ℚ) (maxEpochs : ℕ) (heap : Heap ρ τ) : ∃ n, EpochsRun valLoss maxEpochs n ∧
      trainHetgnnOnSnapshots m train valLoss maxEpochs heap =
        { checkpoint := ⟨weightsAfter m train heap n, recordLoss valLoss n⟩
          valHistory := (List.range n).map valLoss
          stoppedEarly := (decide (earlyStoppingPatience ≤ idleFor valLoss n)) } := by
  have hstart : Inv m train valLoss heap 0 ⟨heap, none, 0, none, [], false⟩ :=
    { heap := rfl
      best := rfl
      idle := rfl
      kept := fun _ hstate => by cases hstate
      history := rfl
      stopped := iff_of_false Bool.false_ne_true not_idle_zero }
  obtain ⟨n, hrun, hinv⟩ := @Inv.runEpochs _ _ _ m train valLoss heap _ 0 maxEpochs hstart
    fun j hj => Nat.le_zero.mp hj ▸ not_idle_zero
  rw [Nat.zero_add] at hrun
  refine ⟨n, hrun, ?_⟩
  have hstopped := Bool.eq_iff_iff.mpr
    ((hinv.stopped.trans idle_iff).trans decide_eq_true_iff.symm)
  unfold trainHetgnnOnSnapshots weightsAfter
  rw [List.range_eq_range']
  dsimp only
  rw [hinv.heap, hinv.best, hinv.history, hstopped]

/-- **The checkpoint is the best model** exactly when the weights of the best epoch are those of the
last one. -/
theorem bestCheckpoint_iff (m : Model ρ) (train : ℕ → Heap ρ τ → Heap ρ τ) (valLoss : ℕ → ℚ)
    (maxEpochs : ℕ) (heap : Heap ρ τ) :
    BestCheckpoint valLoss m train maxEpochs heap
      (trainHetgnnOnSnapshots m train valLoss maxEpochs heap) ↔
    ∃ n e, EpochsRun valLoss maxEpochs n ∧ e < n ∧ recordLoss valLoss n = some (valLoss e) ∧
      weightsAfter m train heap (e + 1) = weightsAfter m train heap n := by
  obtain ⟨n, hrun, hresult⟩ := trainHetgnnOnSnapshots_spec m train valLoss maxEpochs heap
  have hlength : ((List.range n).map valLoss).length = n := by simp
  rw [hresult]
  constructor
  · intro h
    obtain ⟨e, he, hbest, hweights⟩ := h.saved
    exact ⟨n, e, hrun, hlength ▸ he, hbest, hweights.symm⟩
  · rintro ⟨n', e, hrun', he, hbest, hweights⟩
    obtain rfl := hrun.unique hrun'
    exact
      { saved := ⟨e, hlength.symm ▸ he, hbest, hweights.symm⟩
        near := fun e he best hbest => recordLoss_le hbest (hlength ▸ he)
        runs := hlength.symm ▸ hrun
        stops := by
          rw [hlength, decide_eq_true_iff]
          exact idle_iff.symm }

end Loop

/-- One parameter, which every epoch sets to its own number. -/
def oneParameter : Model Unit := ⟨[("weight", ())], by decide⟩

def numberOfEpoch (epoch : ℕ) (_ : Heap Unit ℕ) : Heap Unit ℕ := fun _ => epoch

/-- Only the first epoch improves. -/
def firstIsBest (epoch : ℕ) : ℚ := if epoch = 0 then 1 else 2

/-- The restored weights are those of the epoch at which training stopped. -/
theorem last_restored : ¬ ∀ (m : Model Unit) (train : ℕ → Heap Unit ℕ → Heap Unit ℕ)
    (valLoss : ℕ → ℚ) (maxEpochs : ℕ) (heap : Heap Unit ℕ), 0 < maxEpochs →
    BestCheckpoint valLoss m train maxEpochs heap
      (trainHetgnnOnSnapshots m train valLoss maxEpochs heap) := by
  intro h
  have hloss' : (trainHetgnnOnSnapshots oneParameter numberOfEpoch firstIsBest 50
      fun _ => 0).checkpoint.valLoss = some 1 := by decide +kernel
  have hweights' : (trainHetgnnOnSnapshots oneParameter numberOfEpoch firstIsBest 50
      fun _ => 0).checkpoint.modelStateDict = [("weight", 10)] := by decide +kernel
  obtain ⟨e, -, hloss, hweights⟩ :=
    (h oneParameter numberOfEpoch firstIsBest 50 (fun _ => 0) (by decide)).saved
  rw [hloss'] at hloss
  rw [hweights'] at hweights
  have hfirst : e = 0 := by
    by_contra hne
    have htwo : firstIsBest e = 2 := if_neg hne
    rw [htwo] at hloss
    exact absurd (Option.some.inj hloss) (by decide)
  subst hfirst
  exact absurd hweights (by decide)

end GnnSandbox.Gnn.Training
