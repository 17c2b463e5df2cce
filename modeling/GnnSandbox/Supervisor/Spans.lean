import GnnSandbox.Lib.Effect
import GnnSandbox.Lib.Transition
import Mathlib.Data.List.AList

/-!
# The spans of the trace plugin

`TracePlugin` keeps the open spans on a stack of the tracing context and their parents in a
dictionary, and writes a row of AgentTrace for each start and each end. `handle_start` writes its
row after it has pushed the span, `handle_end` before it pops it.

1. `nested_iff`: when spans stay nested, along every nested sequence of starts and ends.
2. `shifted`: an end that is not written leaves its span to the end of the enclosing one.
-/

namespace GnnSandbox.Supervisor.Spans

open Transition

/-! ## The plugin -/

/-- `str(uuid.uuid4())` -/
structure Uuid where
  text : String
  length_eq : text.length = 36
deriving DecidableEq

/-- `_generate_span_id` -/
def Uuid.spanId (uuid : Uuid) : String := String.ofList (uuid.text.toList.take 16)

/-- An event of the plugin. -/
structure Event (Details : Type) where
  id : String
  eventType : String
  traceId : String
  spanId : Option String
  parentSpanId : Option String
  operationName : String
  details : Option Details
deriving DecidableEq

/-- A row of AgentTrace, with the details as text. -/
abbrev Row := Event String

/-- The variables of the tracing context, the parents of the plugin, and the table. -/
structure Tracer where
  traceId : Option String
  /-- The top is the last. -/
  spanStack : List String
  spanParents : AList fun _ : String => Option String
  agentTrace : List Row

abbrev Program := ExceptT String (StateM Tracer)

/-- How the transaction of a write ends. -/
inductive Commit where
  | committed
  | refused (message : String)
  | answerLost (message : String)
deriving DecidableEq

/-- The ids that a call draws, and how its write ends. -/
structure Answers where
  traceId : Uuid
  spanId : Uuid
  eventId : Uuid
  commit : Commit

/-- The arguments of `handle_start` and `handle_end`. -/
structure Call (Details : Type) where
  eventType : String
  name : String
  details : Option Details

namespace TracingContext

/-- `get_trace_id` -/
def getTraceId (uuid : Uuid) : Program String := do
  let val := (← get).traceId.getD ""
  if val = "" then
    modify fun s => { s with traceId := some uuid.text }
    return uuid.text
  else return val

/-- `push_span` -/
def pushSpan (newSpanId : String) : Program Unit :=
  modify fun s => { s with spanStack := s.spanStack ++ [newSpanId] }

/-- `pop_span` -/
def popSpan : Program Unit :=
  modify fun s => { s with spanStack := s.spanStack.dropLast }

/-- `get_current_parent_id` -/
def getCurrentParentId : Program (Option String) :=
  return (← get).spanStack.getLast?

/-- `get_current_span_id` -/
def getCurrentSpanId : Program (Option String) :=
  return (← get).spanStack.getLast?

end TracingContext

section

variable {Details : Type} (dumps : Details → Except String String)

/-- `_write_to_spanner` -/
def writeToSpanner (event : Event Details) (commit : Commit) : Program Unit := do
  let detailsJson ← ofExcept (event.details.mapM dumps)
  let insert : Program Unit := modify fun s =>
    { s with agentTrace := s.agentTrace ++ [{ event with details := detailsJson }] }
  match commit with
  | .committed => insert
  | .refused message => throw message
  | .answerLost message =>
    insert
    throw message

/-- `handle_start` -/
def handleStart (call : Call Details) (ans : Answers) : Program Unit := do
  let traceId ← TracingContext.getTraceId ans.traceId
  let parentSpanId ← TracingContext.getCurrentParentId
  let currentSpanId := ans.spanId.spanId
  modify fun s => { s with spanParents := s.spanParents.insert currentSpanId parentSpanId }
  TracingContext.pushSpan currentSpanId
  writeToSpanner dumps ⟨ans.eventId.text, call.eventType, traceId, some currentSpanId,
    parentSpanId, call.name, call.details⟩ ans.commit

/-- `handle_end` -/
def handleEnd (call : Call Details) (ans : Answers) : Program Unit := do
  let currentSpanId ← TracingContext.getCurrentSpanId
  let traceId ← TracingContext.getTraceId ans.traceId
  let spanParents := (← get).spanParents
  let parentSpanId := currentSpanId.bind fun id => (spanParents.lookup id).join
  writeToSpanner dumps ⟨ans.eventId.text, call.eventType, traceId, currentSpanId, parentSpanId,
    call.name, call.details⟩ ans.commit
  TracingContext.popSpan
  match currentSpanId with
  | some id => modify fun s => { s with spanParents := s.spanParents.erase id }
  | none => pure ()

end

/-! ## Nested spans -/

/-- A span, as the event of its start names it. -/
structure Span where
  traceId : String
  id : String
  parentId : Option String
deriving DecidableEq

def Event.Names {Details : Type} (event : Event Details) (span : Span) : Prop :=
  event.traceId = span.traceId ∧ event.spanId = some span.id ∧ event.parentSpanId = span.parentId

instance decidableNames {Details : Type} (event : Event Details) (span : Span) :
    Decidable (event.Names span) :=
  inferInstanceAs (Decidable (_ ∧ _ ∧ _))

inductive Callback (Details : Type) where
  | start (call : Call Details) (ans : Answers)
  | finish (call : Call Details) (ans : Answers)

/-- The plugin, the open spans with the innermost first, and the spans in the order of their starts
without those whose end came back without an exception. -/
structure Scene where
  tracer : Tracer
  opened : List Span
  unhandled : List Span

section

variable {Details : Type} (dumps : Details → Except String String)

/-- The span that `handle_start` begins. -/
def Tracer.begins (t : Tracer) (ans : Answers) : Span where
  traceId := if t.traceId.getD "" = "" then ans.traceId.text else t.traceId.getD ""
  id := ans.spanId.spanId
  parentId := t.spanStack.getLast?

/-- What a callback leaves; its exception is caught. -/
def Tracer.after (t : Tracer) : Callback Details → Tracer
  | .start call ans => Effect.after (handleStart dumps call ans).run t
  | .finish call ans => Effect.after (handleEnd dumps call ans).run t

/-- `_write_to_spanner` raises for these details and this end of the transaction. -/
def raises (details : Option Details) (commit : Commit) : Bool :=
  !(details.mapM dumps).isOk || commit ≠ .committed

/-- `_write_to_spanner` writes its row. -/
def writes (details : Option Details) (commit : Commit) : Bool :=
  (details.mapM dumps).isOk && match commit with
    | .refused _ => false
    | _ => true

/-- A `handle_end` raises. -/
def Callback.endRaises : Callback Details → Bool
  | .start _ _ => false
  | .finish call ans => raises dumps call.details ans.commit

/-- The span that a callback is about. -/
def Scene.subject (s : Scene) : Callback Details → Option Span
  | .start _ ans => some (s.tracer.begins ans)
  | .finish _ _ => s.opened.head?

/-- Spans are nested: only the innermost one ends. -/
def step (s : Scene) (e : Callback Details) : Option Scene :=
  match e with
  | .start _ ans =>
    let span := s.tracer.begins ans
    some ⟨s.tracer.after dumps e, span :: s.opened, s.unhandled ++ [span]⟩
  | .finish call ans =>
    match s.opened with
    | [] => none
    | span :: opened =>
      some ⟨s.tracer.after dumps e, opened,
        if raises dumps call.details ans.commit then s.unhandled else s.unhandled.erase span⟩

/-- The stack consists of the spans, and they are the keys of the dictionary. -/
structure Holds (spans : List Span) (t : Tracer) : Prop where
  stack : t.spanStack = spans.map Span.id
  parents : t.spanParents.keys.Perm (spans.map Span.id)

instance decidableHolds (spans : List Span) (t : Tracer) : Decidable (Holds spans t) :=
  decidable_of_iff (t.spanStack = spans.map Span.id ∧ t.spanParents.keys.Perm (spans.map Span.id))
    ⟨fun h => ⟨h.1, h.2⟩, fun h => ⟨h.stack, h.parents⟩⟩

/-- After the callback the plugin holds the spans, and what the callback has written names its
own span. -/
def Traced (spans : Scene → List Span) (s : Scene) (e : Callback Details) : Prop :=
  ∀ s' ∈ step dumps s e, Holds (spans s') s'.tracer ∧
    ∀ row ∈ s'.tracer.agentTrace.drop s.tracer.agentTrace.length, ∀ span ∈ s.subject e,
      row.Names span

instance decidableTraced (spans : Scene → List Span) (s : Scene) (e : Callback Details) :
    Decidable (Traced dumps spans s e) :=
  inferInstanceAs (Decidable (∀ s' ∈ step dumps s e, _ ∧ _))

/-- The drawn id is not the id of a span on the stack. -/
def Fresh (s : Scene) : Callback Details → Prop
  | .start _ ans => ans.spanId.spanId ∉ s.tracer.spanStack
  | .finish _ _ => True

instance decidableFresh (s : Scene) : ∀ e : Callback Details, Decidable (Fresh s e)
  | .start _ ans => inferInstanceAs (Decidable (ans.spanId.spanId ∉ s.tracer.spanStack))
  | .finish _ _ => .isTrue trivial

/-- No end is written after the end of a span inside it has raised. -/
def InnermostEnds (s : Scene) : Callback Details → Prop
  | .start _ _ => True
  | .finish call ans =>
    writes dumps call.details ans.commit = true → s.unhandled.getLast? = s.opened.head?

/-- A plugin and a context without spans. -/
def idle (traceId : Option String) (agentTrace : List Row) : Scene :=
  ⟨⟨traceId, [], ∅, agentTrace⟩, [], []⟩

/-! ## What a callback leaves -/

theorem run_getTraceId (t : Tracer) (ans : Answers) :
    (TracingContext.getTraceId ans.traceId).run t =
      (.ok (t.begins ans).traceId, { t with traceId := some (t.begins ans).traceId }) := by
  unfold TracingContext.getTraceId Tracer.begins
  refine (Attempt.run_bind_of_ok (m := get) (a := t) rfl).trans ?_
  dsimp only
  split_ifs with h
  · rfl
  · obtain ⟨val, hval⟩ : ∃ val, t.traceId = some val :=
      Option.ne_none_iff_exists'.mp fun hnone => h (by rw [hnone]; rfl)
    obtain ⟨traceId, spanStack, spanParents, agentTrace⟩ := t
    obtain rfl : traceId = some val := hval
    rfl

/-- **A write** leaves its row or not, and nothing else. -/
theorem run_writeToSpanner (event : Event Details) (commit : Commit) (t : Tracer) :
    ∃ result rows, (writeToSpanner dumps event commit).run t =
        (result, { t with agentTrace := t.agentTrace ++ rows }) ∧
      raises dumps event.details commit = !result.isOk ∧
      (writes dumps event.details commit = true ↔ rows ≠ []) ∧
      ∀ span, event.Names span → ∀ row ∈ rows, row.Names span := by
  unfold writeToSpanner raises writes
  cases hdumps : event.details.mapM dumps with
  | error message =>
    exact ⟨.error message, [], by rw [List.append_nil]; rfl, rfl,
      ⟨fun h => (by cases h), fun h => absurd rfl h⟩, by simp⟩
  | ok detailsJson =>
    have hwrites : true = true ↔ [{ event with details := detailsJson }] ≠ [] := by simp
    have hnames : ∀ span, event.Names span → ∀ row ∈ [{ event with details := detailsJson }],
        Event.Names row span := by
      intro span hspan row hrow
      obtain rfl := List.mem_singleton.mp hrow
      exact hspan
    cases commit with
    | committed => exact ⟨.ok (), _, rfl, rfl, hwrites, hnames⟩
    | refused message =>
      exact ⟨.error message, [], by rw [List.append_nil]; rfl, rfl,
        ⟨fun h => (by cases h), fun h => absurd rfl h⟩, by simp⟩
    | answerLost message => exact ⟨.error message, _, rfl, rfl, hwrites, hnames⟩

/-- **What a start leaves**, however its write ends. -/
theorem after_start (t : Tracer) (call : Call Details) (ans : Answers) :
    ∃ rows, t.after dumps (.start call ans) =
        { traceId := some (t.begins ans).traceId
          spanStack := t.spanStack ++ [(t.begins ans).id]
          spanParents := t.spanParents.insert (t.begins ans).id (t.begins ans).parentId
          agentTrace := t.agentTrace ++ rows } ∧
      ∀ row ∈ rows, row.Names (t.begins ans) := by
  obtain ⟨result, rows, hrun, -, -, hnames⟩ := run_writeToSpanner dumps
    ⟨ans.eventId.text, call.eventType, (t.begins ans).traceId, some (t.begins ans).id,
      (t.begins ans).parentId, call.name, call.details⟩ ans.commit
    ⟨some (t.begins ans).traceId, t.spanStack ++ [(t.begins ans).id],
      t.spanParents.insert (t.begins ans).id (t.begins ans).parentId, t.agentTrace⟩
  refine ⟨rows, ?_, hnames _ ⟨rfl, rfl, rfl⟩⟩
  have hstart : (handleStart dumps call ans).run t = (result, _) :=
    (Attempt.run_bind_of_ok (run_getTraceId t ans)).trans hrun
  exact congrArg Prod.snd hstart

/-- The event of an end. -/
def Tracer.ending (t : Tracer) (call : Call Details) (ans : Answers) : Event Details where
  id := ans.eventId.text
  eventType := call.eventType
  traceId := (t.begins ans).traceId
  spanId := t.spanStack.getLast?
  parentSpanId := t.spanStack.getLast?.bind fun id => (t.spanParents.lookup id).join
  operationName := call.name
  details := call.details

/-- **What an end leaves**: a span less, unless its write raises. -/
theorem after_finish (t : Tracer) (call : Call Details) (ans : Answers) :
    ∃ rows, t.after dumps (.finish call ans) =
        (if raises dumps call.details ans.commit then
          { t with
            traceId := some (t.begins ans).traceId
            agentTrace := t.agentTrace ++ rows }
        else
          { traceId := some (t.begins ans).traceId
            spanStack := t.spanStack.dropLast
            spanParents := t.spanStack.getLast?.elim t.spanParents t.spanParents.erase
            agentTrace := t.agentTrace ++ rows }) ∧
      (writes dumps call.details ans.commit = true ↔ rows ≠ []) ∧
      ∀ span, (t.ending call ans).Names span → ∀ row ∈ rows, row.Names span := by
  obtain ⟨result, rows, hrun, hresult, hwrites, hnames⟩ :=
    run_writeToSpanner dumps (t.ending call ans) ans.commit
      { t with traceId := some (t.begins ans).traceId }
  refine ⟨rows, ?_, hwrites, hnames⟩
  cases result with
  | error message =>
    have hraises : raises dumps call.details ans.commit = true := hresult
    rw [if_pos hraises]
    have hend : (handleEnd dumps call ans).run t = (.error message, _) :=
      (Attempt.run_bind_of_ok (run_getTraceId t ans)).trans
        ((Attempt.run_bind_of_ok (m := get) rfl).trans (Attempt.run_bind_of_error hrun))
    exact congrArg Prod.snd hend
  | ok done =>
    have hraises : raises dumps call.details ans.commit = false := hresult
    rw [if_neg (Bool.eq_false_iff.mp hraises)]
    have hend : (handleEnd dumps call ans).run t = _ :=
      (Attempt.run_bind_of_ok (run_getTraceId t ans)).trans
        ((Attempt.run_bind_of_ok (m := get) rfl).trans (Attempt.run_bind_of_ok hrun))
    refine (congrArg Prod.snd hend).trans ?_
    cases t.spanStack.getLast? with
    | none => rfl
    | some id => rfl

/-! ## The spans on the stack -/

variable {dumps} {t : Tracer} {call : Call Details} {ans : Answers}

/-- What the plugin knows of the spans it holds. -/
structure Inv (spans : List Span) (t : Tracer) : Prop extends Holds spans t where
  parent : ∀ span ∈ spans, t.spanParents.lookup span.id = some span.parentId
  trace : ∀ span ∈ spans, span.traceId ≠ "" ∧ t.traceId = some span.traceId

theorem begins_traceId_ne (t : Tracer) (ans : Answers) : (t.begins ans).traceId ≠ "" := by
  unfold Tracer.begins
  dsimp only
  split_ifs with h
  · intro hempty
    have hlength := ans.traceId.length_eq
    rw [hempty] at hlength
    cases hlength
  · exact h

variable {spans : List Span} {span : Span}

theorem begins_traceId (h : Inv spans t) (hspan : span ∈ spans) (ans : Answers) :
    (t.begins ans).traceId = span.traceId := by
  obtain ⟨hne, htrace⟩ := h.trace span hspan
  unfold Tracer.begins
  rw [htrace]
  exact if_neg hne

theorem Inv.nodup (h : Inv spans t) : (spans.map Span.id).Nodup :=
  h.parents.nodup_iff.mp t.spanParents.nodupKeys

/-- A start adds its span. -/
theorem Inv.start (h : Inv spans t) (hfresh : ans.spanId.spanId ∉ t.spanStack) :
    Inv (spans ++ [t.begins ans]) (t.after dumps (.start call ans)) := by
  obtain ⟨rows, hafter, -⟩ := after_start dumps t call ans
  have hnew : (t.begins ans).id ∉ spans.map Span.id := by
    rw [← h.stack]
    exact hfresh
  rw [hafter]
  refine ⟨⟨?_, ?_⟩, fun span hspan => ?_, fun span hspan => ?_⟩
  · rw [List.map_append, h.stack]
    rfl
  · have hkeys : (t.begins ans).id ∉ t.spanParents.keys := fun hmem =>
      hnew (h.parents.mem_iff.mp hmem)
    rw [AList.keys_insert, List.erase_of_not_mem hkeys, List.map_append]
    exact (h.parents.cons _).trans (List.perm_append_singleton _ _).symm
  · rcases List.mem_append.mp hspan with hspan | hspan
    · have hne : span.id ≠ (t.begins ans).id := fun heq =>
        hnew (heq ▸ List.mem_map_of_mem hspan)
      dsimp only
      rw [AList.lookup_insert_ne hne]
      exact h.parent span hspan
    · obtain rfl := List.mem_singleton.mp hspan
      exact AList.lookup_insert _
  · rcases List.mem_append.mp hspan with hspan | hspan
    · exact ⟨(h.trace span hspan).1, congrArg some (begins_traceId h hspan ans)⟩
    · obtain rfl := List.mem_singleton.mp hspan
      exact ⟨begins_traceId_ne t ans, rfl⟩

/-- The event of an end names the span on top. -/
theorem Inv.ending_names (h : Inv (spans ++ [span]) t) (call : Call Details) (ans : Answers) :
    (t.ending call ans).Names span := by
  have hmem : span ∈ spans ++ [span] := by simp
  have htop : t.spanStack.getLast? = some span.id := by
    rw [h.stack, List.map_append]
    exact List.getLast?_concat
  refine ⟨begins_traceId h hmem ans, htop, ?_⟩
  unfold Tracer.ending
  rw [htop, Option.bind_some, h.parent span hmem]
  rfl

/-- An end removes the span on top. -/
theorem Inv.finish (h : Inv (spans ++ [span]) t)
    (hok : raises dumps call.details ans.commit = false) :
    Inv spans (t.after dumps (.finish call ans)) := by
  obtain ⟨rows, hafter, -⟩ := after_finish dumps t call ans
  rw [if_neg (Bool.eq_false_iff.mp hok)] at hafter
  rw [hafter]
  have htop : t.spanStack = spans.map Span.id ++ [span.id] := by
    rw [h.stack, List.map_append]
    rfl
  have hnodup := h.nodup
  rw [List.map_append] at hnodup
  have hne : ∀ other ∈ spans, other.id ≠ span.id := fun other hother heq =>
    List.disjoint_of_nodup_append hnodup (List.mem_map_of_mem hother) (by simp [heq])
  refine ⟨⟨?_, ?_⟩, fun other hother => ?_, fun other hother => ?_⟩
  · dsimp only
    rw [htop, List.dropLast_concat]
  · dsimp only
    rw [htop, List.getLast?_concat, Option.elim_some, AList.keys_erase]
    have hkeys := h.parents
    rw [List.map_append] at hkeys
    have hcons := hkeys.trans (List.perm_append_singleton _ _)
    exact ((List.cons_perm_iff_perm_erase.mp hcons.symm).2).symm
  · dsimp only
    rw [htop, List.getLast?_concat, Option.elim_some, AList.lookup_erase_ne (hne other hother)]
    exact h.parent other (by simp [hother])
  · have hmem : other ∈ spans ++ [span] := by simp [hother]
    exact ⟨(h.trace other hmem).1, congrArg some (begins_traceId h hmem ans)⟩

/-- An end that raises removes none. -/
theorem Inv.raised (h : Inv spans t) (hraises : raises dumps call.details ans.commit = true) :
    Inv spans (t.after dumps (.finish call ans)) := by
  obtain ⟨rows, hafter, -⟩ := after_finish dumps t call ans
  rw [if_pos hraises] at hafter
  rw [hafter]
  exact ⟨⟨h.stack, h.parents⟩, h.parent, fun span hspan =>
    ⟨(h.trace span hspan).1, congrArg some (begins_traceId h hspan ans)⟩⟩

/-! ## What is written -/

variable (dumps) in
theorem start_names (t : Tracer) (call : Call Details) (ans : Answers) :
    ∀ row ∈ (t.after dumps (.start call ans)).agentTrace.drop t.agentTrace.length,
      row.Names (t.begins ans) := by
  obtain ⟨rows, hafter, hnames⟩ := after_start dumps t call ans
  rw [hafter, List.drop_left]
  exact hnames

variable (dumps) in
theorem finish_writes (h : Inv (spans ++ [span]) t) (call : Call Details) (ans : Answers) :
    let rows := (t.after dumps (.finish call ans)).agentTrace.drop t.agentTrace.length
    (writes dumps call.details ans.commit = true ↔ rows ≠ []) ∧ ∀ row ∈ rows, row.Names span := by
  obtain ⟨rows, hafter, hwrites, hnames⟩ := after_finish dumps t call ans
  have htrace : (t.after dumps (.finish call ans)).agentTrace = t.agentTrace ++ rows := by
    rw [hafter]
    split_ifs <;> rfl
  dsimp only
  rw [htrace, List.drop_left]
  exact ⟨hwrites, hnames span (h.ending_names call ans)⟩

/-! ## Along a run -/

variable {s s' : Scene} {e : Callback Details} {es : List (Callback Details)}

theorem inv_opened (hI : Inv s.opened.reverse s.tracer) (hfresh : Fresh s e)
    (hok : e.endRaises dumps = false) (hstep : step dumps s e = some s') :
    Inv s'.opened.reverse s'.tracer := by
  cases e with
  | start call ans =>
    obtain rfl := Option.some.inj hstep
    dsimp only
    rw [List.reverse_cons]
    exact hI.start hfresh
  | finish call ans =>
    obtain ⟨tracer, opened, unhandled⟩ := s
    cases opened with
    | nil => cases hstep
    | cons span opened =>
      obtain rfl := Option.some.inj hstep
      dsimp only at hI
      rw [List.reverse_cons] at hI
      exact hI.finish hok

/-- The open spans are on the stack after a callback, unless it is an end that raises. -/
theorem traced_opened_iff (hI : Inv s.opened.reverse s.tracer) (hfresh : Fresh s e)
    (hstep : step dumps s e = some s') :
    Traced dumps (fun s => s.opened.reverse) s e ↔ e.endRaises dumps = false := by
  constructor
  · intro h
    obtain ⟨hholds, -⟩ := h s' hstep
    cases e with
    | start call ans => rfl
    | finish call ans =>
      by_contra hraises
      obtain ⟨tracer, opened, unhandled⟩ := s
      cases opened with
      | nil => cases hstep
      | cons span opened =>
        obtain rfl := Option.some.inj hstep
        have hstays := (hI.raised (Bool.of_not_eq_false hraises)).stack.symm.trans
          hholds.stack
        simpa using congrArg List.length hstays
  · intro hok t ht
    obtain rfl := Option.some.inj (hstep.symm.trans ht)
    refine ⟨(inv_opened hI hfresh hok hstep).toHolds, ?_⟩
    cases e with
    | start call ans =>
      obtain rfl := Option.some.inj hstep
      rintro row hrow span ⟨⟩
      exact start_names dumps s.tracer call ans row hrow
    | finish call ans =>
      obtain ⟨tracer, opened, unhandled⟩ := s
      cases opened with
      | nil => cases hstep
      | cons span opened =>
        obtain rfl := Option.some.inj hstep
        dsimp only at hI
        rw [List.reverse_cons] at hI
        rintro row hrow span ⟨⟩
        exact (finish_writes dumps hI call ans).2 row hrow

/-- What the plugin holds in a run in which ends raise. -/
structure Pending (s : Scene) : Prop where
  inv : Inv s.unhandled s.tracer
  nested : s.opened.reverse.Sublist s.unhandled

theorem Pending.sublist {tracer : Tracer} {opened unhandled : List Span}
    (h : Pending ⟨tracer, span :: opened, unhandled⟩) :
    (opened.reverse ++ [span]).Sublist unhandled := by
  rw [← List.reverse_cons]
  exact h.nested

/-- There is a span on top when a span ends. -/
theorem Pending.exists_last {tracer : Tracer} {opened unhandled : List Span}
    (h : Pending ⟨tracer, span :: opened, unhandled⟩) :
    ∃ spans last, unhandled = spans ++ [last] := by
  rcases List.eq_nil_or_concat' unhandled with rfl | hlast
  · have hmem : span ∈ [] := h.sublist.subset (by simp)
    cases hmem
  · exact hlast

theorem erase_last (h : Inv (spans ++ [span]) t) : (spans ++ [span]).erase span = spans := by
  have hnodup : (spans ++ [span]).Nodup := h.nodup.of_map
  have hnot : span ∉ spans := fun hmem =>
    List.disjoint_of_nodup_append hnodup hmem (List.mem_singleton_self _)
  rw [List.erase_append_right _ hnot, List.erase_cons_head, List.append_nil]

theorem writes_of_raises_eq_false {details : Option Details} {commit : Commit}
    (h : raises dumps details commit = false) : writes dumps details commit = true := by
  obtain ⟨hdumps, hcommit⟩ := Bool.or_eq_false_iff.mp h
  obtain rfl : commit = .committed := by simpa using hcommit
  exact Bool.and_eq_true_iff.mpr ⟨by simpa using hdumps, rfl⟩

theorem eq_of_innermostEnds {tracer : Tracer} {opened : List Span} {last : Span}
    (hok : InnermostEnds dumps ⟨tracer, span :: opened, spans ++ [last]⟩ (.finish call ans))
    (hwrites : writes dumps call.details ans.commit = true) : last = span := by
  have heq := hok hwrites
  dsimp only at heq
  rw [List.getLast?_concat] at heq
  exact Option.some.inj heq

theorem Pending.step (h : Pending s) (hfresh : Fresh s e) (hok : InnermostEnds dumps s e)
    (hstep : Spans.step dumps s e = some s') : Pending s' := by
  cases e with
  | start call ans =>
    obtain rfl := Option.some.inj hstep
    refine ⟨h.inv.start hfresh, ?_⟩
    dsimp only
    rw [List.reverse_cons]
    exact h.nested.append (List.Sublist.refl _)
  | finish call ans =>
    obtain ⟨tracer, opened, unhandled⟩ := s
    cases opened with
    | nil => cases hstep
    | cons span opened =>
      obtain ⟨spans, last, rfl⟩ := h.exists_last
      obtain rfl := Option.some.inj hstep
      cases hraises : raises dumps call.details ans.commit with
      | true =>
        rw [if_pos rfl]
        exact ⟨h.inv.raised hraises, (List.sublist_append_left _ _).trans h.sublist⟩
      | false =>
        obtain rfl := eq_of_innermostEnds hok (writes_of_raises_eq_false hraises)
        rw [if_neg Bool.false_ne_true, erase_last h.inv]
        exact ⟨h.inv.finish hraises, (List.append_sublist_append_right _).mp h.sublist⟩

/-- The spans whose end has not come back are on the stack after a callback, and its row names its
own span, unless the row is that of an end after an end inside its span has raised. -/
theorem traced_unhandled_iff (h : Pending s) (hfresh : Fresh s e)
    (hstep : Spans.step dumps s e = some s') :
    Traced dumps Scene.unhandled s e ↔ InnermostEnds dumps s e := by
  constructor
  · intro htraced
    obtain ⟨-, hrows⟩ := htraced s' hstep
    cases e with
    | start call ans => trivial
    | finish call ans =>
      intro hwrites
      obtain ⟨tracer, opened, unhandled⟩ := s
      cases opened with
      | nil => cases hstep
      | cons span opened =>
        obtain ⟨spans, last, rfl⟩ := h.exists_last
        obtain rfl := Option.some.inj hstep
        obtain ⟨hne, hlast⟩ := finish_writes dumps h.inv call ans
        obtain ⟨row, hrow⟩ := List.exists_mem_of_ne_nil _ (hne.mp hwrites)
        -- the row names the span on top, so that this is the span that ends
        have hid : last.id = span.id :=
          Option.some.inj ((hlast row hrow).2.1.symm.trans (hrows row hrow span rfl).2.1)
        have hmem : span ∈ spans ++ [last] := h.sublist.subset (by simp)
        obtain rfl := List.inj_on_of_nodup_map h.inv.nodup (by simp) hmem hid
        exact List.getLast?_concat
  · intro hok t ht
    obtain rfl := Option.some.inj (hstep.symm.trans ht)
    refine ⟨(h.step hfresh hok hstep).inv.toHolds, ?_⟩
    cases e with
    | start call ans =>
      obtain rfl := Option.some.inj hstep
      rintro row hrow span ⟨⟩
      exact start_names dumps s.tracer call ans row hrow
    | finish call ans =>
      obtain ⟨tracer, opened, unhandled⟩ := s
      cases opened with
      | nil => cases hstep
      | cons span opened =>
        obtain ⟨spans, last, rfl⟩ := h.exists_last
        obtain rfl := Option.some.inj hstep
        obtain ⟨hne, hlast⟩ := finish_writes dumps h.inv call ans
        rintro row hrow span ⟨⟩
        obtain rfl := eq_of_innermostEnds hok (hne.mpr (List.ne_nil_of_mem hrow))
        exact hlast row hrow

end

/-- **Spans stay nested.** Along every nested sequence of starts and ends in one context, whichever
writes raise, the stack and the keys are the spans that are open, and every row names the span of
its callback, exactly when no end raises. If a span whose end raised counts as one whose end has
not been handled, this holds exactly when no end is written after the end of a span inside it has
raised. -/
theorem nested_iff {Details : Type} (dumps : Details → Except String String)
    (traceId : Option String) (agentTrace : List Row) (es : List (Callback Details)) (s : Scene)
    (hrun : run (step dumps) (idle traceId agentTrace) es = some s)
    (hfresh : Throughout (step dumps) Fresh (idle traceId agentTrace) es) :
    (Throughout (step dumps) (Traced dumps fun s => s.opened.reverse) (idle traceId agentTrace) es ↔
      Throughout (step dumps) (fun _ e => e.endRaises dumps = false) (idle traceId agentTrace) es) ∧
    (Throughout (step dumps) (Traced dumps Scene.unhandled) (idle traceId agentTrace) es ↔
      Throughout (step dumps) (InnermostEnds dumps) (idle traceId agentTrace) es) := by
  have hidle : Inv [] (idle traceId agentTrace).tracer :=
    ⟨⟨rfl, List.Perm.refl _⟩, by simp, by simp⟩
  constructor
  · exact throughout_congr_of_run (I := fun s => Inv s.opened.reverse s.tracer)
      (fun _ _ _ hI hfresh hstep => traced_opened_iff hI hfresh hstep)
      (fun _ _ _ hI hfresh hok hstep => inv_opened hI hfresh hok hstep) hidle hfresh hrun
  · exact throughout_congr_of_run
      (fun _ _ _ hI hfresh hstep => traced_unhandled_iff hI hfresh hstep)
      (fun _ _ _ hI hfresh hok hstep => hI.step hfresh hok hstep)
      ⟨hidle, List.Sublist.refl _⟩ hfresh hrun

/-! ## An agent that calls its model -/

def agentUuid : Uuid := ⟨"0b1f6d3e-52a1-4c58-9a53-1f1d2b6a7c90", by decide⟩

def modelUuid : Uuid := ⟨"7c9d84a2-1e0b-4f7a-8d6e-42c3a9b1f5d8", by decide⟩

/-- The callbacks around an agent and its model, by how the writes of the model's events end. -/
def agentRun (modelStart modelEnd : Commit) : List (Callback Unit) :=
  [.start ⟨"BEFORE_AGENT", "designer", some ()⟩ ⟨agentUuid, agentUuid, agentUuid, .committed⟩,
    .start ⟨"BEFORE_MODEL", "designer", some ()⟩ ⟨modelUuid, modelUuid, modelUuid, modelStart⟩,
    .finish ⟨"AFTER_MODEL", "designer", some ()⟩ ⟨modelUuid, modelUuid, modelUuid, modelEnd⟩,
    .finish ⟨"AFTER_AGENT", "designer", some ()⟩ ⟨agentUuid, agentUuid, agentUuid, .committed⟩]

/-- `json.dumps` of an empty dictionary. -/
def dumpsEmpty (_ : Unit) : Except String String := .ok "{}"

/-- A start that is not written does not matter. -/
theorem nested_agentRun :
    Throughout (step dumpsEmpty) (Traced dumpsEmpty fun s => s.opened.reverse) (idle none [])
      (agentRun (.refused "503") .committed) :=
  (nested_iff dumpsEmpty none [] _ _ rfl (by decide +kernel)).1.mpr (by decide +kernel)

/-- **The end of the agent is written under the span of its model** when the model's is not. -/
theorem shifted :
    ¬Throughout (step dumpsEmpty) (Traced dumpsEmpty fun s => s.opened.reverse) (idle none [])
      (agentRun .committed (.refused "503")) ∧
    ¬Throughout (step dumpsEmpty) (Traced dumpsEmpty Scene.unhandled) (idle none [])
      (agentRun .committed (.refused "503")) := by
  decide +kernel

end GnnSandbox.Supervisor.Spans
