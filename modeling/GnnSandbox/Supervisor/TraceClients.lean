import Mathlib.Data.Finset.Card
import Mathlib.Data.List.Infix
import GnnSandbox.Lib.Transition

/-!
# The clients of the trace listener

The handlers `get_traces` and `disconnect` tell the listener how many clients want traces, and its
first and last client start and stop it. They wait for its lock, and for its task when it is
stopped; the flag of a client changes before that, when its handler starts.

1. `step`: the handlers between their await points.
2. `step_inv`: the count and the queue agree with the flags.
3. `always_balanced`: when the listener runs exactly while somebody listens, in any run.
-/

namespace GnnSandbox.Supervisor.TraceClients

open Transition

variable {γ : Type} [DecidableEq γ]

/-! ## The listener and its callers -/

inductive Operation where
  | addClient
  | removeClient
deriving DecidableEq

/-- A handler that calls the listener. A `disconnect` deletes the state of its client afterwards. -/
structure Caller (γ : Type) where
  operation : Operation
  leaving : Option γ
deriving DecidableEq

structure State (γ : Type) where
  connected : Finset γ
  /-- Every id that a client has been given. -/
  seen : Finset γ
  /-- The entries of `clients_state`, with their traces' `enabled`. -/
  clientsState : γ → Option Bool
  clientCount : ℕ
  running : Bool
  /-- The caller in `_stop_internal`, which holds the lock while it awaits the task. -/
  stopping : Option (Caller γ)
  /-- The callers that wait for the lock, which is fair. -/
  waiting : List (Caller γ)

/-- `clients_state.get(sid, {}).get('traces', {}).get('enabled', False)` -/
def State.tracesEnabled (s : State γ) (sid : γ) : Bool := (s.clientsState sid).getD false

/-- What a caller does after the listener has returned. -/
def State.finish (s : State γ) (c : Caller γ) : State γ :=
  match c.leaving with
  | none => s
  | some sid => { s with clientsState := Function.update s.clientsState sid none }

/-- `add_client` and `remove_client` from the lock on, up to the next await point. -/
def State.perform (s : State γ) (c : Caller γ) : State γ :=
  match c.operation with
  | .addClient =>
    let s := { s with clientCount := s.clientCount + 1 }
    State.finish (if s.clientCount = 1 ∧ s.running = false then { s with running := true } else s) c
  | .removeClient =>
    let s := { s with clientCount := s.clientCount - 1 }
    if s.clientCount = 0 ∧ s.running = true then { s with running := false, stopping := some c }
    else s.finish c

/-- A free lock that nobody waits for is taken at once. -/
def State.enter (s : State γ) (c : Caller γ) : State γ :=
  if s.stopping = none ∧ s.waiting = [] then s.perform c
  else { s with waiting := s.waiting ++ [c] }

inductive Event (γ : Type) where
  | connect (sid : γ)
  /-- A `get_traces` starts. -/
  | getTraces (sid : γ) (enabled : Bool)
  /-- A client is gone, and its `disconnect` starts. -/
  | disconnect (sid : γ)
  /-- The first caller that waits gets the lock. -/
  | acquired
  /-- The listener's task has ended. -/
  | stopped

def State.getTraces (s : State γ) (sid : γ) (enabled : Bool) : State γ :=
  let oldEnabled := s.tracesEnabled sid
  let s := { s with clientsState := Function.update s.clientsState sid (some enabled) }
  if enabled = true ∧ oldEnabled = false then s.enter ⟨.addClient, none⟩
  else if enabled = false ∧ oldEnabled = true then s.enter ⟨.removeClient, none⟩
  else s

def State.disconnect (s : State γ) (sid : γ) : State γ :=
  let s := { s with connected := s.connected.erase sid }
  match s.clientsState sid with
  | none => s
  | some true => s.enter ⟨.removeClient, some sid⟩
  | some false => s.finish ⟨.removeClient, some sid⟩

def State.acquire (s : State γ) : Option (State γ) :=
  match s.stopping, s.waiting with
  | none, c :: waiting => some (State.perform { s with waiting := waiting } c)
  | _, _ => none

def step (s : State γ) : Event γ → Option (State γ)
  | .connect sid =>
    if sid ∈ s.seen then none
    else some { s with connected := insert sid s.connected, seen := insert sid s.seen }
  | .getTraces sid enabled => if sid ∈ s.seen then some (s.getTraces sid enabled) else none
  | .disconnect sid => if sid ∈ s.connected then some (s.disconnect sid) else none
  | .acquired => s.acquire
  | .stopped => s.stopping.map fun c => State.finish { s with stopping := none } c

def init : State γ :=
  { connected := ∅
    seen := ∅
    clientsState := fun _ => none
    clientCount := 0
    running := false
    stopping := none
    waiting := [] }

/-! ## What is asked of the listener -/

def State.enabledClients (s : State γ) : Finset γ :=
  s.connected.filter fun sid => s.tracesEnabled sid = true

/-- No handler is in progress. -/
structure Quiet (s : State γ) : Prop where
  stopping : s.stopping = none
  waiting : s.waiting = []

structure Balanced (s : State γ) : Prop where
  count : s.clientCount = s.enabledClients.card
  running : s.running = true ↔ 0 < s.clientCount

/-- A `get_traces` of a client that is gone does not change its traces. -/
def InTime (s : State γ) : Event γ → Prop
  | .getTraces sid enabled => sid ∈ s.connected ∨ s.tracesEnabled sid = enabled
  | _ => True

instance (s : State γ) (e : Event γ) : Decidable (InTime s e) :=
  match e with
  | .getTraces sid enabled =>
    inferInstanceAs (Decidable (sid ∈ s.connected ∨ s.tracesEnabled sid = enabled))
  | .connect _ | .disconnect _ | .acquired | .stopped => isTrue trivial

/-! ## The queue -/

def adds (callers : List (Caller γ)) : ℕ := callers.countP fun c => c.operation = .addClient

def removes (callers : List (Caller γ)) : ℕ := callers.countP fun c => c.operation = .removeClient

section Counts

omit [DecidableEq γ]

variable {c : Caller γ} {callers : List (Caller γ)}

@[simp] theorem adds_nil : adds ([] : List (Caller γ)) = 0 := rfl

@[simp] theorem removes_nil : removes ([] : List (Caller γ)) = 0 := rfl

theorem adds_cons : adds (c :: callers) = adds [c] + adds callers :=
  @List.countP_append _ _ [c] callers

theorem removes_cons : removes (c :: callers) = removes [c] + removes callers :=
  @List.countP_append _ _ [c] callers

theorem adds_append : adds (callers ++ [c]) = adds callers + adds [c] := List.countP_append ..

theorem removes_append : removes (callers ++ [c]) = removes callers + removes [c] :=
  List.countP_append ..

theorem counts_addClient (h : c.operation = .addClient) : adds [c] = 1 ∧ removes [c] = 0 := by
  unfold adds removes
  simp [h]

theorem counts_removeClient (h : c.operation = .removeClient) :
    adds [c] = 0 ∧ removes [c] = 1 := by
  unfold adds removes
  simp [h]

end Counts

/-! ## The invariant -/

/-- The callers in the queue make up for what the count is not yet; those up to any place in it do
not take more than there is. -/
structure Inv (s : State γ) : Prop where
  balance : s.clientCount + adds s.waiting = removes s.waiting + s.enabledClients.card
  covered : ∀ callers, callers <+: s.waiting → removes callers ≤ s.clientCount + adds callers
  free : s.stopping = none → (s.running = true ↔ 0 < s.clientCount)
  held : ∀ c ∈ s.stopping, s.clientCount = 0 ∧ s.running = false
  connected : s.connected ⊆ s.seen
  entries : ∀ sid ∉ s.seen, s.clientsState sid = none
  waiting : ∀ c ∈ s.waiting, ∀ sid ∈ c.leaving, sid ∈ s.seen ∧ sid ∉ s.connected
  stopping : ∀ c ∈ s.stopping, ∀ sid ∈ c.leaving, sid ∈ s.seen ∧ sid ∉ s.connected

variable {s s' : State γ} {c : Caller γ} {sid : γ}

omit [DecidableEq γ] in
theorem enabledClients_congr {clientsState : γ → Option Bool}
    (h : ∀ sid ∈ s.connected, (clientsState sid).getD false = s.tracesEnabled sid) :
    { s with clientsState := clientsState }.enabledClients = s.enabledClients :=
  Finset.filter_congr fun sid hsid => by
    unfold State.tracesEnabled
    exact iff_of_eq (congrArg (· = true) (h sid hsid))

/-- Deleting the state of a client that is gone keeps the invariant. -/
theorem Inv.finish (h : Inv s) (hleaving : ∀ sid ∈ c.leaving, sid ∉ s.connected) :
    Inv (s.finish c) := by
  unfold State.finish
  cases hsid : c.leaving with
  | none => exact h
  | some sid =>
    have henabled : State.enabledClients
        { s with clientsState := Function.update s.clientsState sid none } = s.enabledClients := by
      refine enabledClients_congr fun sid' hsid' => ?_
      have hne : sid' ≠ sid := fun heq => hleaving sid hsid (heq ▸ hsid')
      rw [Function.update_of_ne hne]
      rfl
    have hentries : ∀ sid' ∉ s.seen, Function.update s.clientsState sid none sid' = none := by
      intro sid' hsid'
      rw [Function.update_apply]
      split
      · rfl
      · exact h.entries sid' hsid'
    exact
      { balance := henabled.symm ▸ h.balance
        covered := h.covered
        free := h.free
        held := h.held
        connected := h.connected
        entries := hentries
        waiting := h.waiting
        stopping := h.stopping }

omit [DecidableEq γ] in
/-- The rest of the queue, when its first caller has been counted. -/
theorem Inv.counted {waiting : List (Caller γ)} (h : Inv s) (hwaiting : s.waiting = c :: waiting)
    {n : ℕ} {running : Bool} {stopping : Option (Caller γ)}
    (hn : n + removes [c] = s.clientCount + adds [c])
    (hfree : stopping = none → (running = true ↔ 0 < n))
    (hheld : ∀ c' ∈ stopping, c' = c ∧ n = 0 ∧ running = false) :
    Inv { s with
      clientCount := n, running := running, stopping := stopping, waiting := waiting } := by
  have hbalance := h.balance
  rw [hwaiting, adds_cons, removes_cons] at hbalance
  have hbalance' : n + adds waiting = removes waiting + s.enabledClients.card := by omega
  exact
    { balance := hbalance'
      covered := fun callers hprefix => by
        have hcons : c :: callers <+: s.waiting :=
          hwaiting ▸ List.cons_prefix_cons.mpr ⟨rfl, hprefix⟩
        have hcovered := h.covered _ hcons
        rw [adds_cons, removes_cons] at hcovered
        dsimp only
        omega
      free := hfree
      held := fun c' hc' => (hheld c' hc').2
      connected := h.connected
      entries := h.entries
      waiting := fun c' hc' => h.waiting c' (hwaiting ▸ List.mem_cons_of_mem _ hc')
      stopping := fun c' hc' =>
        h.waiting c' (hwaiting ▸ (hheld c' hc').1 ▸ List.mem_cons_self ..) }

/-- **A caller that gets the lock** keeps the invariant. -/
theorem Inv.perform {waiting : List (Caller γ)} (h : Inv s) (hfree : s.stopping = none)
    (hwaiting : s.waiting = c :: waiting) :
    Inv (State.perform { s with waiting := waiting } c) := by
  have hrunning := h.free hfree
  have hgone : ∀ sid ∈ c.leaving, sid ∉ s.connected :=
    fun sid hsid => (h.waiting c (hwaiting ▸ List.mem_cons_self ..) sid hsid).2
  have hnone : ∀ {p : Caller γ → Prop}, ∀ c' ∈ s.stopping, p c' := by
    intro p c' hc'
    rw [hfree] at hc'
    cases hc'
  unfold State.perform
  split
  · next hop =>
    obtain ⟨hadds, hremoves⟩ := counts_addClient hop
    have hn : s.clientCount + 1 + removes [c] = s.clientCount + adds [c] := by omega
    dsimp only
    split
    · exact (h.counted hwaiting hn (fun _ => iff_of_true rfl (Nat.succ_pos _)) hnone).finish hgone
    · next hstart =>
      have hrun : s.running = true := by
        by_contra hidle
        have hzero : ¬0 < s.clientCount := fun hpos => hidle (hrunning.mpr hpos)
        exact hstart ⟨by omega, Bool.not_eq_true _ ▸ hidle⟩
      exact (h.counted hwaiting hn (fun _ => iff_of_true hrun (Nat.succ_pos _)) hnone).finish hgone
  · next hop =>
    obtain ⟨hadds, hremoves⟩ := counts_removeClient hop
    have hone := h.covered [c] (hwaiting ▸ ⟨waiting, rfl⟩)
    have hn : s.clientCount - 1 + removes [c] = s.clientCount + adds [c] := by omega
    have hrun : s.running = true := hrunning.mpr (by omega)
    dsimp only
    split
    · next hstop =>
      refine h.counted hwaiting hn (fun hnone => by cases hnone) fun c' hc' => ?_
      exact ⟨(Option.some.inj hc').symm, hstop.1, rfl⟩
    · next hstop =>
      have hpos : 0 < s.clientCount - 1 := Nat.pos_of_ne_zero fun hzero => hstop ⟨hzero, hrun⟩
      exact (h.counted hwaiting hn (fun _ => iff_of_true hrun hpos) hnone).finish hgone

/-- **A caller that arrives** keeps the invariant when it makes up for a change of the flags. -/
theorem Inv.enter (h : Inv { s with waiting := s.waiting ++ [c] }) : Inv (s.enter c) := by
  unfold State.enter
  split
  · next hfree =>
    have hwaiting : ({ s with waiting := s.waiting ++ [c] } : State γ).waiting = [c] := by
      change s.waiting ++ [c] = [c]
      rw [hfree.2, List.nil_append]
    have hperform := h.perform hfree.1 hwaiting
    have hsame : ({ s with waiting := [] } : State γ) = s := by rw [← hfree.2]
    exact hsame ▸ hperform
  · exact h

/-- A caller arrives together with a change of the flags that it makes up for. -/
theorem Inv.queued (h : Inv s) {connected : Finset γ} {clientsState : γ → Option Bool}
    (hconnected : connected ⊆ s.connected)
    (hentries : ∀ sid ∉ s.seen, clientsState sid = none)
    (hleaving : ∀ sid ∈ c.leaving, sid ∈ s.seen ∧ sid ∉ connected)
    (hcard : adds [c] + s.enabledClients.card = removes [c] +
      (State.enabledClients { s with connected := connected, clientsState := clientsState }).card) :
    Inv (State.enter { s with connected := connected, clientsState := clientsState } c) := by
  have hold := h.balance
  have hbalance : s.clientCount + adds (s.waiting ++ [c]) = removes (s.waiting ++ [c]) +
      (State.enabledClients
        { s with connected := connected, clientsState := clientsState }).card := by
    rw [adds_append, removes_append]
    omega
  have hgone : ∀ c' : Caller γ, (∀ sid ∈ c'.leaving, sid ∈ s.seen ∧ sid ∉ s.connected) →
      ∀ sid ∈ c'.leaving, sid ∈ s.seen ∧ sid ∉ connected :=
    fun c' hc' sid hsid => ⟨(hc' sid hsid).1, fun hmem => (hc' sid hsid).2 (hconnected hmem)⟩
  refine Inv.enter
    { balance := hbalance
      covered := fun callers hprefix => ?_
      free := h.free
      held := h.held
      connected := hconnected.trans h.connected
      entries := hentries
      waiting := fun c' hc' => ?_
      stopping := fun c' hc' => hgone c' (h.stopping c' hc') }
  · rcases List.prefix_concat_iff.mp hprefix with rfl | hprefix
    · exact (Nat.le_add_right ..).trans hbalance.ge
    · exact h.covered callers hprefix
  · rcases List.mem_append.mp hc' with hc' | hc'
    · exact hgone c' (h.waiting c' hc')
    · obtain rfl := List.mem_singleton.mp hc'
      exact hleaving

/-! ## Flags -/

theorem enabledClients_enable (hsid : sid ∈ s.connected) : State.enabledClients
    { s with clientsState := Function.update s.clientsState sid (some true) } =
      insert sid s.enabledClients := by
  ext sid'
  unfold State.enabledClients State.tracesEnabled
  by_cases heq : sid' = sid
  · subst heq
    simp [hsid]
  · simp [heq]

theorem enabledClients_disable : State.enabledClients
    { s with clientsState := Function.update s.clientsState sid (some false) } =
      s.enabledClients.erase sid := by
  ext sid'
  unfold State.enabledClients State.tracesEnabled
  by_cases heq : sid' = sid
  · subst heq
    simp
  · simp [heq]

theorem enabledClients_erase : State.enabledClients
    { s with connected := s.connected.erase sid } = s.enabledClients.erase sid := by
  unfold State.enabledClients
  rw [Finset.filter_erase]
  rfl

/-! ## Steps and runs -/

omit [DecidableEq γ] in
theorem mem_enabledClients :
    sid ∈ s.enabledClients ↔ sid ∈ s.connected ∧ s.tracesEnabled sid = true :=
  Finset.mem_filter

theorem Inv.entries_update (h : Inv s) (hseen : sid ∈ s.seen) (entry : Option Bool) :
    ∀ sid' ∉ s.seen, Function.update s.clientsState sid entry sid' = none := by
  intro sid' hsid'
  have hne : sid' ≠ sid := fun heq => hsid' (heq ▸ hseen)
  rw [Function.update_of_ne hne]
  exact h.entries sid' hsid'

/-- A handler whose client's flag stays as it is. -/
theorem Inv.unchanged (h : Inv s) (hseen : sid ∈ s.seen) (enabled : Bool)
    (hflag : s.tracesEnabled sid = enabled) :
    Inv { s with clientsState := Function.update s.clientsState sid (some enabled) } := by
  have henabled : State.enabledClients
      { s with clientsState := Function.update s.clientsState sid (some enabled) } =
      s.enabledClients := by
    refine enabledClients_congr fun sid' _ => ?_
    by_cases heq : sid' = sid
    · subst heq
      rw [Function.update_self, hflag]
      rfl
    · rw [Function.update_of_ne heq]
      rfl
  exact
    { balance := henabled.symm ▸ h.balance
      covered := h.covered
      free := h.free
      held := h.held
      connected := h.connected
      entries := h.entries_update hseen _
      waiting := h.waiting
      stopping := h.stopping }

theorem Inv.getTraces (h : Inv s) (hseen : sid ∈ s.seen) {enabled : Bool}
    (hintime : sid ∈ s.connected ∨ s.tracesEnabled sid = enabled) :
    Inv (s.getTraces sid enabled) := by
  unfold State.getTraces
  dsimp only
  split
  · next hadd =>
    obtain ⟨rfl, hold⟩ := hadd
    have hsid := hintime.resolve_right (by rw [hold]; decide)
    refine h.queued (Finset.Subset.refl _) (h.entries_update hseen _) (fun _ hnone => ?_) ?_
    · cases hnone
    · rw [enabledClients_enable hsid, Finset.card_insert_of_notMem, (counts_addClient rfl).1,
        (counts_addClient rfl).2]
      · omega
      · rw [mem_enabledClients, hold]
        exact fun hmem => absurd hmem.2 (by decide)
  · split
    · next hremove =>
      obtain ⟨rfl, hold⟩ := hremove
      have hsid := hintime.resolve_right (by rw [hold]; decide)
      have hmem := mem_enabledClients.mpr ⟨hsid, hold⟩
      refine h.queued (Finset.Subset.refl _) (h.entries_update hseen _) (fun _ hnone => ?_) ?_
      · cases hnone
      · rw [enabledClients_disable, (counts_removeClient rfl).1, (counts_removeClient rfl).2,
          Nat.add_comm 1, Finset.card_erase_add_one hmem, Nat.zero_add]
    · next hadd hremove =>
      refine h.unchanged hseen enabled ?_
      cases enabled with
      | true => exact Bool.eq_true_of_not_eq_false fun hold => hadd ⟨rfl, hold⟩
      | false => exact Bool.eq_false_of_not_eq_true fun hold => hremove ⟨rfl, hold⟩

/-- A client without traces is gone. -/
theorem Inv.erased (h : Inv s) (hflag : s.tracesEnabled sid = false) :
    Inv { s with connected := s.connected.erase sid } := by
  have hmem : sid ∉ s.enabledClients := by
    rw [mem_enabledClients, hflag]
    exact fun hmem => absurd hmem.2 (by decide)
  have henabled : State.enabledClients { s with connected := s.connected.erase sid } =
      s.enabledClients := by
    rw [enabledClients_erase, Finset.erase_eq_of_notMem hmem]
  have hgone : ∀ c : Caller γ, (∀ sid' ∈ c.leaving, sid' ∈ s.seen ∧ sid' ∉ s.connected) →
      ∀ sid' ∈ c.leaving, sid' ∈ s.seen ∧ sid' ∉ s.connected.erase sid :=
    fun c hc sid' hsid' => ⟨(hc sid' hsid').1, fun hmem =>
      (hc sid' hsid').2 (Finset.mem_of_mem_erase hmem)⟩
  exact
    { balance := henabled.symm ▸ h.balance
      covered := h.covered
      free := h.free
      held := h.held
      connected := (Finset.erase_subset ..).trans h.connected
      entries := h.entries
      waiting := fun c hc => hgone c (h.waiting c hc)
      stopping := fun c hc => hgone c (h.stopping c hc) }

theorem Inv.disconnect (h : Inv s) (hsid : sid ∈ s.connected) : Inv (s.disconnect sid) := by
  have hgone : ∀ sid' ∈ some sid, sid' ∈ s.seen ∧ sid' ∉ s.connected.erase sid := by
    intro sid' hsid'
    obtain rfl := Option.some.inj hsid'
    exact ⟨h.connected hsid, Finset.notMem_erase sid _⟩
  unfold State.disconnect
  dsimp only
  split
  · next hentry => exact h.erased (congrArg (Option.getD · false) hentry)
  · next hentry =>
    have hmem : sid ∈ s.enabledClients :=
      mem_enabledClients.mpr ⟨hsid, congrArg (Option.getD · false) hentry⟩
    refine h.queued (Finset.erase_subset ..) h.entries hgone ?_
    rw [enabledClients_erase, (counts_removeClient rfl).1, (counts_removeClient rfl).2,
      Nat.add_comm 1, Finset.card_erase_add_one hmem, Nat.zero_add]
  · next hentry =>
    exact (h.erased (congrArg (Option.getD · false) hentry)).finish fun sid' hsid' =>
      (hgone sid' hsid').2

theorem Inv.connect (h : Inv s) (hsid : sid ∉ s.seen) :
    Inv { s with connected := insert sid s.connected, seen := insert sid s.seen } := by
  have hflag : ¬s.tracesEnabled sid = true := by
    rw [State.tracesEnabled, h.entries sid hsid]
    decide
  have henabled : State.enabledClients
      { s with connected := insert sid s.connected, seen := insert sid s.seen } =
      s.enabledClients := (Finset.filter_insert ..).trans (if_neg hflag)
  have hgone : ∀ c : Caller γ, (∀ sid' ∈ c.leaving, sid' ∈ s.seen ∧ sid' ∉ s.connected) →
      ∀ sid' ∈ c.leaving, sid' ∈ insert sid s.seen ∧ sid' ∉ insert sid s.connected := by
    intro c hc sid' hsid'
    obtain ⟨hseen, hgone⟩ := hc sid' hsid'
    refine ⟨Finset.mem_insert_of_mem hseen, fun hmem => ?_⟩
    rcases Finset.mem_insert.mp hmem with rfl | hmem
    · exact hsid hseen
    · exact hgone hmem
  exact
    { balance := henabled.symm ▸ h.balance
      covered := h.covered
      free := h.free
      held := h.held
      connected := Finset.insert_subset_insert sid h.connected
      entries := fun sid' hsid' =>
        h.entries sid' fun hseen => hsid' (Finset.mem_insert_of_mem hseen)
      waiting := fun c hc => hgone c (h.waiting c hc)
      stopping := fun c hc => hgone c (h.stopping c hc) }

/-- The listener's task has ended, and its lock is free. -/
theorem Inv.stopped (h : Inv s) (hstopping : s.stopping = some c) :
    Inv (State.finish { s with stopping := none } c) := by
  obtain ⟨hcount, hrunning⟩ := h.held c hstopping
  have hfree : Inv { s with stopping := none } :=
    { balance := h.balance
      covered := h.covered
      free := fun _ => iff_of_false (by simp [hrunning]) hcount.not_gt
      held := fun _ hnone => by cases hnone
      connected := h.connected
      entries := h.entries
      waiting := h.waiting
      stopping := fun _ hnone => by cases hnone }
  exact hfree.finish fun sid hsid => (h.stopping c hstopping sid hsid).2

/-- **Every step** of handlers in time keeps the invariant. -/
theorem step_inv {e : Event γ} (h : Inv s) (hintime : InTime s e) (hstep : step s e = some s') :
    Inv s' := by
  cases e with
  | connect sid =>
    obtain ⟨hseen, heq⟩ := Option.ite_none_left_eq_some.mp hstep
    obtain rfl := Option.some.inj heq
    exact h.connect hseen
  | getTraces sid enabled =>
    obtain ⟨hseen, heq⟩ := Option.ite_none_right_eq_some.mp hstep
    obtain rfl := Option.some.inj heq
    exact h.getTraces hseen hintime
  | disconnect sid =>
    obtain ⟨hsid, heq⟩ := Option.ite_none_right_eq_some.mp hstep
    obtain rfl := Option.some.inj heq
    exact h.disconnect hsid
  | acquired =>
    have hacquire : s.acquire = some s' := hstep
    unfold State.acquire at hacquire
    split at hacquire
    · next hfree hwaiting =>
      obtain rfl := Option.some.inj hacquire
      exact h.perform hfree hwaiting
    · cases hacquire
  | stopped =>
    obtain ⟨c, hc, rfl⟩ := Option.map_eq_some_iff.mp hstep
    exact h.stopped hc

omit [DecidableEq γ] in
theorem inv_init : Inv (init : State γ) where
  balance := rfl
  covered callers hprefix := by
    obtain rfl := List.prefix_nil.mp hprefix
    exact Nat.zero_le _
  free _ := iff_of_false Bool.false_ne_true (Nat.lt_irrefl 0)
  held _ hnone := by cases hnone
  connected := Finset.Subset.refl _
  entries _ _ := rfl
  waiting _ hmem := by cases hmem
  stopping _ hnone := by cases hnone

omit [DecidableEq γ] in
theorem Inv.balanced (h : Inv s) (hquiet : Quiet s) : Balanced s := by
  have hbalance := h.balance
  rw [hquiet.waiting, adds_nil, removes_nil, Nat.add_zero, Nat.zero_add] at hbalance
  exact ⟨hbalance, h.free hquiet.stopping⟩

/-- **The listener runs exactly while somebody listens**, in every quiet state of a run, when no
client's traces are switched after it is gone. -/
theorem always_balanced {es : List (Event γ)} (hintime : Throughout step InTime init es) :
    Always step (fun s => Quiet s → Balanced s) init es := by
  rintro before after s rfl hrun hquiet
  have hbefore := ((throughout_append hrun).mp hintime).1
  exact (run_invariant (fun _ _ _ => step_inv) inv_init hbefore hrun).balanced hquiet

/-- Two clients; the first one's traces are enabled again while the listener stops, and it
leaves. -/
def twoClients : List (Event ℕ) :=
  [.connect 0, .connect 1, .getTraces 0 true, .getTraces 0 false, .getTraces 0 true,
    .getTraces 1 true, .disconnect 0]

theorem always_balanced_twoClients :
    Always step (fun s : State ℕ => Quiet s → Balanced s) init
      (twoClients ++ [.stopped, .acquired, .acquired, .acquired]) :=
  always_balanced (by decide)

/-- The traces of the client that leaves are switched off while its `disconnect` waits: it is
removed twice, and the other client's stream stops. -/
theorem removed_twice : ¬ ∀ es : List (Event ℕ),
    Always step (fun s => Quiet s → Balanced s) init es := by
  intro h
  let es := twoClients ++ [.getTraces 0 false, .stopped, .acquired, .acquired, .acquired, .acquired,
    .stopped]
  have hlast : (run step init es).map (fun s => (s.stopping, s.waiting, s.clientCount,
      s.enabledClients)) = some (none, [], 0, {1}) := by decide
  obtain ⟨s, hrun, hs⟩ := Option.map_eq_some_iff.mp hlast
  obtain ⟨hstopping, hs⟩ := Prod.mk.inj hs
  obtain ⟨hwaiting, hs⟩ := Prod.mk.inj hs
  obtain ⟨hcount, henabled⟩ := Prod.mk.inj hs
  have hbalanced := h es es [] s (List.append_nil es).symm hrun ⟨hstopping, hwaiting⟩
  have hcard := hbalanced.count
  rw [hcount, henabled] at hcard
  exact absurd hcard (by decide)

end GnnSandbox.Supervisor.TraceClients
