import GnnSandbox.Agent.LiveRuns
import Mathlib.Data.Int.Notation

/-!
# Requests to the traffic agents

An agent as the operator sees it through `agent_request`: the flows that are registered under an
id, with their role and whether they are active, which is what decides between the answers. A
request may also stay without an answer, and then it has reached the agent or it has not; a refusal
counts as a request that has not reached the agent. Flows do not end by themselves here.
-/

namespace GnnSandbox.Operator.Traffic

/-! ## The registry of an agent -/

inductive Role where
  | source
  | destination
deriving DecidableEq, Repr

/-- A registered flow; it is active while its phase is running or starting. -/
structure AgentFlow where
  role : Role
  active : Bool
deriving DecidableEq

abbrev FlowRegistry := String → Option AgentFlow

/-- The role of the flow that is active under an id. -/
def FlowRegistry.runs (r : FlowRegistry) (flowId : String) : Option Role :=
  (r flowId).bind fun f => if f.active then some f.role else none

/-- `POST /v1/flows`, with the status code. -/
def postFlow (flowId : String) (role : Role) (port : ℤ) (r : FlowRegistry) : FlowRegistry × ℕ :=
  if port = 0 then (r, 400)
  else if (r.runs flowId).isSome then (r, 409)
  else (Function.update r flowId (some ⟨role, true⟩), 201)

/-- `DELETE /v1/flows/{id}`, with the status code; the flow stays registered. -/
def deleteFlow (flowId : String) (r : FlowRegistry) : FlowRegistry × ℕ :=
  match r flowId with
  | none => (r, 404)
  | some f => (Function.update r flowId (some { f with active := false }), 200)

/-! ## Requests -/

/-- The agents by their management addresses. -/
abbrev Agents := String → FlowRegistry

def Agents.runs (agents : Agents) (address flowId : String) : Option Role :=
  (agents address).runs flowId

/-- What becomes of a request. -/
inductive Delivery where
  | answered
  /-- The agent has handled the request, and the operator does not learn it. -/
  | unheard
  | unreached
deriving DecidableEq, Repr

structure Answer where
  success : Bool
  httpCode : Option ℕ
deriving DecidableEq

/-- `agent_request` -/
def agentRequest (delivery : Delivery) (address : String) (handle : FlowRegistry → FlowRegistry × ℕ)
    (agents : Agents) : Agents × Answer :=
  let handled := handle (agents address)
  match delivery with
  | .answered => (Function.update agents address handled.1,
      ⟨decide (200 ≤ handled.2 ∧ handled.2 < 300), some handled.2⟩)
  | .unheard => (Function.update agents address handled.1, ⟨false, none⟩)
  | .unreached => (agents, ⟨false, none⟩)

section Post

variable {delivery : Delivery} {address flowId : String} {role : Role} {port : ℤ} {agents : Agents}

/-- A request to start a flow. -/
def Agents.post (agents : Agents) (delivery : Delivery) (address flowId : String) (role : Role)
    (port : ℤ) : Agents × Answer :=
  agentRequest delivery address (postFlow flowId role port) agents

/-- A request that reaches the agent leaves a flow under the id, and changes nothing where there
is one. -/
theorem runs_post (a id : String) :
    (agents.post delivery address flowId role port).1.runs a id =
      if (a = address ∧ id = flowId) ∧ port ≠ 0 ∧ delivery ≠ .unreached then
        (agents.runs address flowId).or (some role)
      else agents.runs a id := by
  by_cases hreached : delivery = .unreached
  · subst hreached
    exact (if_neg fun h => h.2.2 rfl).symm
  have hafter : (agents.post delivery address flowId role port).1 =
      Function.update agents address (postFlow flowId role port (agents address)).1 := by
    cases delivery with
    | answered => rfl
    | unheard => rfl
    | unreached => exact absurd rfl hreached
  rw [hafter, postFlow]
  unfold Agents.runs
  by_cases hport : port = 0
  · rw [if_pos hport, if_neg fun h => h.2.1 hport, Function.update_eq_self]
  rw [if_neg hport]
  simp only [hport, hreached, ne_eq, not_false_eq_true, and_true]
  by_cases ha : a = address
  · subst ha
    rw [Function.update_self]
    cases hruns : (agents a).runs flowId with
    | some running =>
      by_cases hid : id = flowId
      · subst hid
        simp [hruns]
      · simp [hid]
    | none =>
      by_cases hid : id = flowId
      · subst hid
        simp [FlowRegistry.runs]
      · simp [hid, FlowRegistry.runs]
  · rw [Function.update_of_ne ha, if_neg fun h => ha h.1]

/-- The answer tells whether there was a flow. -/
theorem success_post : (agents.post delivery address flowId role port).2.success = true ↔
    delivery = .answered ∧ port ≠ 0 ∧ agents.runs address flowId = none := by
  cases delivery with
  | unheard => simp [Agents.post, agentRequest]
  | unreached => simp [Agents.post, agentRequest]
  | answered =>
    by_cases hport : port = 0
    · simp [Agents.post, agentRequest, postFlow, hport]
    · cases hruns : (agents address).runs flowId <;>
        simp [Agents.post, agentRequest, postFlow, hport, Agents.runs, hruns]

/-- A conflict counts as well. -/
theorem accepted_post : ((agents.post delivery address flowId role port).2.success ||
      (agents.post delivery address flowId role port).2.httpCode = some 409) = true ↔
    delivery = .answered ∧ port ≠ 0 := by
  cases delivery with
  | unheard => simp [Agents.post, agentRequest]
  | unreached => simp [Agents.post, agentRequest]
  | answered =>
    by_cases hport : port = 0
    · simp [Agents.post, agentRequest, postFlow, hport]
    · cases hruns : (agents address).runs flowId <;>
        simp [Agents.post, agentRequest, postFlow, hport, hruns]

end Post

/-! ## The flow manager behind it -/

section Manager

open Agent (Manager FlowRequest Flow)

/-- The roles that the API lets through. -/
def roleOf (role : String) : Role := if role = "source" then .source else .destination

def viewFlow (f : Flow) : AgentFlow :=
  ⟨roleOf f.req.role, decide (f.phase = .running ∨ f.phase = .starting)⟩

/-- The registry of a flow manager. -/
def view (m : Manager) : FlowRegistry := fun flowId => (m.registered flowId).map viewFlow

variable {m m' : Manager} {req : FlowRequest} {port : ℤ}

theorem runs_view (flowId : String) : (view m).runs flowId =
    ((m.registered flowId).filter fun f => decide (f.phase = .running ∨ f.phase = .starting)).map
      fun f => roleOf f.req.role := by
  unfold FlowRegistry.runs view
  cases m.registered flowId with
  | none => rfl
  | some f => by_cases h : f.phase = .running ∨ f.phase = .starting <;> simp [viewFlow, Option.filter, h]

/-- `StartFlow` does what the request does. -/
theorem postFlow_view (hnamed : m.Named) (hport : port ≠ 0) :
    postFlow req.flowID (roleOf req.role) port (view m) =
      match m.startFlow req with
      | .ok m' => (view m', 201)
      | .error _ => (view m, 409) := by
  have hold (id : String) : (m.flows id).bind (fun i => (m.objects ++
      [(⟨req, .starting, "", false, .spawned⟩ : Flow)])[i]?) = m.registered id := by
    unfold Manager.registered
    cases hflow : m.flows id with
    | none => rfl
    | some i =>
      obtain ⟨f, hf, -⟩ := hnamed id i hflow
      exact List.getElem?_append_left (List.getElem?_eq_some_iff.mp hf).1
  have hstarted : view { m with
        flows := Function.update m.flows req.flowID (some m.objects.length)
        objects := m.objects ++ [⟨req, .starting, "", false, .spawned⟩] } =
      Function.update (view m) req.flowID (some ⟨roleOf req.role, true⟩) := by
    funext id
    by_cases hid : id = req.flowID
    · subst hid
      simp [view, Manager.registered, viewFlow]
    · rw [Function.update_of_ne hid]
      unfold view
      rw [← hold id]
      simp [Manager.registered, hid]
  rw [postFlow, if_neg hport, runs_view]
  unfold Manager.startFlow
  cases hreg : m.registered req.flowID with
  | none => simp [hstarted]
  | some f =>
    by_cases hrunning : f.phase = .running
    · simp [hrunning]
    · by_cases hstarting : f.phase = .starting
      · simp [hstarting]
      · simp [hrunning, hstarting, hstarted]

theorem cancel_of_found {call i : ℕ} (h : m.stops call = some ⟨i, false⟩) : m.cancel call = some
    { m with
      objects := m.objects.modify i fun f => { f with cancelled := true }
      stops := Function.update m.stops call (some ⟨i, true⟩) } := by
  rw [Manager.cancel, h]

theorem markStopped_of_cancelled {call i : ℕ} (h : m.stops call = some ⟨i, true⟩) :
    m.markStopped call = some
      { m with
        objects := m.objects.modify i fun f => { f with phase := .stopped }
        stops := Function.update m.stops call none } := by
  rw [Manager.markStopped, h]

/-- The last section of `StopFlow` takes the activity from one flow. -/
theorem view_stopped (hnamed : m.Named) {flowId : String} {i : ℕ} {f : Flow}
    (hflow : m.flows flowId = some i) (hf : m.objects[i]? = some f) (stops : ℕ → Option _) :
    view { flows := m.flows
           objects := (m.objects.modify i fun f => { f with cancelled := true }).modify i
             fun f => { f with phase := .stopped }
           stops := stops } =
      Function.update (view m) flowId (some { viewFlow f with active := false }) := by
  obtain ⟨f', hf', hid⟩ := hnamed flowId i hflow
  obtain rfl := Option.some.inj (hf.symm.trans hf')
  funext id
  by_cases hsame : id = flowId
  · subst hsame
    simp [view, Manager.registered, hflow, hf, viewFlow, List.getElem?_modify]
  · have hother : ∀ j, m.flows id = some j → i ≠ j := by
      rintro j hj rfl
      obtain ⟨g, hg, hgid⟩ := hnamed id i hj
      obtain rfl := Option.some.inj (hf.symm.trans hg)
      exact hsame (hgid.symm.trans hid)
    rw [Function.update_of_ne hsame]
    unfold view Manager.registered
    cases hj : m.flows id with
    | none => rfl
    | some j =>
      have hkept : ((m.objects.modify i fun f => { f with cancelled := true }).modify i
          fun f => { f with phase := .stopped })[j]? = m.objects[j]? := by
        simp [hother j hj]
      exact congrArg (Option.map viewFlow) hkept

/-- `StopFlow`, undisturbed, does what the request does. -/
theorem deleteFlow_view (hnamed : m.Named) {call : ℕ} (hcall : m.stops call = none)
    (flowId : String) :
    (m.flows flowId = none ∧ deleteFlow flowId (view m) = (view m, 404)) ∨
      ∃ found cancelled stopped, m.findFlow call flowId = some found ∧
        found.cancel call = some cancelled ∧ cancelled.markStopped call = some stopped ∧
        deleteFlow flowId (view m) = (view stopped, 200) := by
  cases hflow : m.flows flowId with
  | none => exact .inl ⟨rfl, by simp [deleteFlow, view, Manager.registered, hflow]⟩
  | some i =>
    obtain ⟨f, hf, -⟩ := hnamed flowId i hflow
    refine .inr ⟨_, _, _, by rw [Manager.findFlow, hcall, hflow],
      cancel_of_found (Function.update_self ..), markStopped_of_cancelled (Function.update_self ..), ?_⟩
    have hview : view m flowId = some (viewFlow f) := by
      simp [view, Manager.registered, hflow, hf]
    rw [view_stopped hnamed hflow hf, deleteFlow, hview]

end Manager

end GnnSandbox.Operator.Traffic
