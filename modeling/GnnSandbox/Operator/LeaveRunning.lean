import GnnSandbox.Lib.Transition
import Mathlib.Data.List.Infix

/-!
# Waiting for routers to leave Running

`_wait_for_routers_leave_running` polls a list of routers in rounds. What a round puts into the next
list is polled in the next one, and after an error that is not the name of the router any more. The
handlers of the VPNs and of the underlay each have the function, with their own word in its message.

1. `watch_loop`: the entries of the list, each with the router it stands for, follow the loop.
2. `honest_iff`: no router is dropped without having left exactly as long as no read fails.
-/

namespace GnnSandbox.Operator.LeaveRunning

open Transition

/-! ## The loop -/

/-- What a read of a VyOSRouter gives: its phase, or an exception. -/
inductive Reply where
  | found (phase : String)
  | notFound (rest : String)
  | failed (text : String)
deriving DecidableEq

/-- `str(e)`, which begins with the status when the router is not found. -/
def Reply.text : Reply → String
  | .found _ => ""
  | .notFound rest => "404\nReason: " ++ rest
  | .failed text => text

/-- `needle in text` -/
def occurs (needle text : String) : Bool := needle.toList <:+: text.toList

/-- `"404" in e_str or "Not Found" in e_str` -/
def Reply.looksAbsent (reply : Reply) : Bool :=
  occurs "404" reply.text || occurs "Not Found" reply.text

/-- The message when a router has failed, while `what` is applied. -/
def failedMessage (what rname : String) : String :=
  "Router " ++ rname ++ " entered Failed state while applying " ++ what ++ " configuration; " ++
    "will retry after router is recovered"

/-- The entry of the next list for a name that is polled, if it has one. -/
def poll (what rname : String) (reply : Reply) : Except String (Option String) :=
  match reply with
  | .found phase =>
    if phase = "Failed" then .error (failedMessage what rname)
    else .ok (if phase = "Running" then some rname else none)
  | _ =>
    .ok (if reply.looksAbsent then none else some (rname ++ "(error:" ++ reply.text ++ ")"))

/-- `next_still_running`, from the replies to the polls of a round. -/
def nextStillRunning (what : String) : List String → List Reply → Except String (List String)
  | rname :: names, reply :: replies =>
    match poll what rname reply with
    | .error message => .error message
    | .ok entry => (nextStillRunning what names replies).map (entry.toList ++ ·)
  | _, _ => .ok []

/-- `still_running` and `elapsed`, at the head of the loop. -/
structure Loop where
  stillRunning : List String
  elapsed : ℕ := 0
deriving DecidableEq

/-- `timeout` and `poll_interval` -/
structure Pace where
  timeout : ℕ := 30
  pollInterval : ℕ := 3

/-- The loop goes on. -/
def Loop.Goes (pace : Pace) (s : Loop) : Prop := s.elapsed < pace.timeout ∧ s.stillRunning ≠ []

instance (pace : Pace) (s : Loop) : Decidable (s.Goes pace) := by
  unfold Loop.Goes; infer_instance

/-- The time at the end of a round, which does not count when no router is left. -/
def Loop.after (pace : Pace) (s : Loop) (next : List String) : Loop :=
  ⟨next, if next = [] then s.elapsed else s.elapsed + pace.pollInterval⟩

/-- A round of the loop, which gets a reply to each of its polls. -/
def loopStep (what : String) (pace : Pace) (s : Loop) (replies : List Reply) : Option Loop :=
  if s.Goes pace ∧ replies.length = s.stillRunning.length then
    (nextStillRunning what s.stillRunning replies).toOption.map (s.after pace)
  else none

/-! ## The routers behind the entries -/

/-- An entry of the list: the router it was put there for, and the name that is polled. -/
structure Entry where
  router : String
  polled : String
deriving DecidableEq

/-- The entries of the list and what was dropped from it, each with the last reply. -/
structure Watch where
  entries : List Entry
  drops : List (Entry × Reply) := []
  elapsed : ℕ := 0
deriving DecidableEq

/-- The state of the loop. -/
def Watch.loop (w : Watch) : Loop := ⟨w.entries.map Entry.polled, w.elapsed⟩

/-- What becomes of an entry. -/
def Entry.next (what : String) (e : Entry) (reply : Reply) : Except String (Option Entry) :=
  (poll what e.polled reply).map (Option.map fun polled => { e with polled })

/-- The entries that stay and those that are dropped in a round. -/
def nextEntries (what : String) :
    List Entry → List Reply → Except String (List Entry × List (Entry × Reply))
  | e :: es, reply :: replies =>
    match e.next what reply with
    | .error message => .error message
    | .ok none => (nextEntries what es replies).map fun p => (p.1, (e, reply) :: p.2)
    | .ok (some e') => (nextEntries what es replies).map fun p => (e' :: p.1, p.2)
  | _, _ => .ok ([], [])

/-- A round of the loop, by its entries. -/
def watchStep (what : String) (pace : Pace) (w : Watch) (replies : List Reply) : Option Watch :=
  if w.loop.Goes pace ∧ replies.length = w.entries.length then
    (nextEntries what w.entries replies).toOption.map fun p =>
      ⟨p.1, w.drops ++ p.2, (w.loop.after pace (p.1.map Entry.polled)).elapsed⟩
  else none

/-- `still_running = list(router_names)` -/
def start (names : List String) : Watch := ⟨names.map fun name => ⟨name, name⟩, [], 0⟩

section

variable {what : String} {pace : Pace} {w w' : Watch} {e : Entry} {reply : Reply}
  {replies : List Reply}

theorem nextEntries_polled (es : List Entry) (replies : List Reply) :
    (nextEntries what es replies).map (fun p => p.1.map Entry.polled) =
      nextStillRunning what (es.map Entry.polled) replies := by
  induction es generalizing replies with
  | nil => rfl
  | cons e es ih =>
    cases replies with
    | nil => rfl
    | cons reply replies =>
      rw [List.map_cons, nextStillRunning, ← ih, nextEntries, Entry.next]
      cases poll what e.polled reply with
      | error message => rfl
      | ok entry =>
        cases entry <;> cases nextEntries what es replies <;> rfl

/-- The entries follow the loop, round by round. -/
theorem watchStep_loop : (watchStep what pace w replies).map Watch.loop =
    loopStep what pace w.loop replies := by
  unfold watchStep loopStep
  have hlength : w.loop.stillRunning.length = w.entries.length := List.length_map ..
  rw [hlength]
  split
  · change _ = ((nextStillRunning what (w.entries.map Entry.polled) replies).toOption).map _
    rw [← nextEntries_polled]
    cases nextEntries what w.entries replies <;> rfl
  · rfl

/-- **The entries follow the loop** over all rounds. -/
theorem watch_loop (rounds : List (List Reply)) :
    (run (watchStep what pace) w rounds).map Watch.loop =
      run (loopStep what pace) w.loop rounds := by
  induction rounds generalizing w with
  | nil => rfl
  | cons replies rounds ih =>
    rw [run_cons, run_cons, ← watchStep_loop]
    cases watchStep what pace w replies with
    | none => rfl
    | some w' => exact ih

end

/-! ## What becomes of an entry -/

/-- The router has left Running. -/
inductive Reply.Left : Reply → Prop
  | phase {phase : String} (h : phase ≠ "Running") : Left (.found phase)
  | absent (rest : String) : Left (.notFound rest)

/-- The read failed. -/
inductive Reply.Fails : Reply → Prop
  | failed (text : String) : Fails (.failed text)

/-- A router that is not found looks absent. -/
theorem looksAbsent_notFound (rest : String) : (Reply.notFound rest).looksAbsent = true := by
  have hprefix : "404".toList <:+: ("404\nReason: " ++ rest).toList := by
    rw [String.toList_append]
    exact List.IsInfix.trans (by decide) (List.prefix_append _ _).isInfix
  exact Bool.or_eq_true_iff.mpr (.inl (decide_eq_true hprefix))

theorem length_lt_append (name text : String) :
    name.length < (name ++ "(error:" ++ text ++ ")").length := by
  simp only [String.length_append]
  have herror : "(error:".length = 7 := rfl
  omega

section

variable {what : String} {pace : Pace} {w w' : Watch} {e e' : Entry} {reply : Reply}
  {es : List Entry} {replies : List Reply} {p : List Entry × List (Entry × Reply)}

/-- An entry is dropped when the router has left, or when a read fails with a text that looks like
one of an absent router. -/
theorem next_eq_none (h : e.next what reply = .ok none) : reply.Left ∨ reply.Fails := by
  cases reply with
  | found phase =>
    refine .inl (.phase fun hrunning => ?_)
    subst hrunning
    cases h
  | notFound rest => exact .inl (.absent rest)
  | failed text => exact .inr (.failed text)

/-- An entry stays as it is, or a read fails and its name becomes longer. -/
theorem next_eq_some (h : e.next what reply = .ok (some e')) :
    ¬reply.Fails ∧ e' = e ∨
      reply.Fails ∧ e'.router = e.router ∧ e.polled.length < e'.polled.length := by
  cases reply with
  | found phase =>
    by_cases hfailed : phase = "Failed"
    · subst hfailed
      cases h
    · by_cases hrunning : phase = "Running"
      · subst hrunning
        exact .inl ⟨nofun, (Option.some.inj (Except.ok.inj h)).symm⟩
      · simp [Entry.next, poll, hfailed, hrunning, Except.map] at h
  | notFound rest => simp [Entry.next, poll, looksAbsent_notFound, Except.map] at h
  | failed text =>
    cases habsent : (Reply.failed text).looksAbsent with
    | true => simp [Entry.next, poll, habsent, Except.map] at h
    | false =>
      simp only [Entry.next, poll, habsent, Bool.false_eq_true, if_false, Except.map,
        Option.map_some, Except.ok.injEq, Option.some.injEq] at h
      subst h
      exact .inr ⟨.failed text, rfl, length_lt_append e.polled text⟩

/-- What becomes of the entries in a round. -/
theorem nextEntries_cons {e : Entry} {replies : List Reply}
    (h : nextEntries what (e :: es) (reply :: replies) = .ok p) :
    ∃ rest, nextEntries what es replies = .ok rest ∧
      (e.next what reply = .ok none ∧ p = (rest.1, (e, reply) :: rest.2) ∨
        ∃ e', e.next what reply = .ok (some e') ∧ p = (e' :: rest.1, rest.2)) := by
  unfold nextEntries at h
  cases hnext : e.next what reply with
  | error message =>
    rw [hnext] at h
    cases h
  | ok entry =>
    rw [hnext] at h
    cases hrest : nextEntries what es replies with
    | error message =>
      rw [hrest] at h
      cases entry <;> cases h
    | ok rest =>
      rw [hrest] at h
      refine ⟨rest, rfl, ?_⟩
      cases entry with
      | none => exact .inl ⟨rfl, (Except.ok.inj h).symm⟩
      | some e' => exact .inr ⟨e', rfl, (Except.ok.inj h).symm⟩

/-- Where the entries and drops of a round come from. -/
theorem nextEntries_from (h : nextEntries what es replies = .ok p) :
    (∀ e' ∈ p.1, ∃ q ∈ es.zip replies, q.1.next what q.2 = .ok (some e')) ∧
      ∀ q ∈ p.2, q ∈ es.zip replies ∧ q.1.next what q.2 = .ok none := by
  induction es generalizing replies p with
  | nil =>
    obtain rfl := Except.ok.inj h
    simp
  | cons e es ih =>
    cases replies with
    | nil =>
      obtain rfl := Except.ok.inj h
      simp
    | cons reply replies =>
      obtain ⟨rest, hrest, hcase⟩ := nextEntries_cons h
      obtain ⟨hstay, hdrop⟩ := ih hrest
      rcases hcase with ⟨hnext, rfl⟩ | ⟨e', hnext, rfl⟩
      · refine ⟨fun e' he' => ?_, fun q hq => ?_⟩
        · obtain ⟨q, hq, hq'⟩ := hstay e' he'
          exact ⟨q, List.mem_cons_of_mem _ hq, hq'⟩
        · rcases List.mem_cons.mp hq with rfl | hq
          · exact ⟨List.mem_cons_self, hnext⟩
          · exact ⟨List.mem_cons_of_mem _ (hdrop q hq).1, (hdrop q hq).2⟩
      · refine ⟨fun e'' he'' => ?_, fun q hq => ?_⟩
        · rcases List.mem_cons.mp he'' with rfl | he''
          · exact ⟨(e, reply), List.mem_cons_self, hnext⟩
          · obtain ⟨q, hq, hq'⟩ := hstay e'' he''
            exact ⟨q, List.mem_cons_of_mem _ hq, hq'⟩
        · exact ⟨List.mem_cons_of_mem _ (hdrop q hq).1, (hdrop q hq).2⟩

/-- Every entry stays or is dropped. -/
theorem nextEntries_to (h : nextEntries what es replies = .ok p) :
    ∀ q ∈ es.zip replies, (∃ e' ∈ p.1, q.1.next what q.2 = .ok (some e')) ∨ q ∈ p.2 := by
  induction es generalizing replies p with
  | nil => simp
  | cons e es ih =>
    cases replies with
    | nil => simp
    | cons reply replies =>
      obtain ⟨rest, hrest, hcase⟩ := nextEntries_cons h
      intro q hq
      rw [List.zip_cons_cons, List.mem_cons] at hq
      rcases hcase with ⟨hnext, rfl⟩ | ⟨e', hnext, rfl⟩
      · rcases hq with rfl | hq
        · exact .inr List.mem_cons_self
        · exact (ih hrest q hq).imp_right (List.mem_cons_of_mem _)
      · rcases hq with rfl | hq
        · exact .inl ⟨e', List.mem_cons_self, hnext⟩
        · refine (ih hrest q hq).imp_left ?_
          rintro ⟨e'', he'', hnext''⟩
          exact ⟨e'', List.mem_cons_of_mem _ he'', hnext''⟩

end

/-! ## Main result -/

/-- Every entry polls its own router, and every router that was dropped had left when it was
polled. -/
structure Honest (w : Watch) : Prop where
  own : ∀ e ∈ w.entries, e.polled = e.router
  left : ∀ d ∈ w.drops, d.1.polled = d.1.router ∧ d.2.Left

/-- An entry polls its own router or a longer name. -/
def Grown (w : Watch) : Prop :=
  ∀ e ∈ w.entries, e.polled = e.router ∨ e.router.length < e.polled.length

section

variable {what : String} {pace : Pace} {w w' : Watch} {replies : List Reply}
  {rounds : List (List Reply)}

theorem watchStep_eq_some (h : watchStep what pace w replies = some w') :
    replies.length = w.entries.length ∧ ∃ p, nextEntries what w.entries replies = .ok p ∧
      w'.entries = p.1 ∧ w'.drops = w.drops ++ p.2 := by
  unfold watchStep at h
  split at h
  · rename_i hgoes
    obtain ⟨p, hp, rfl⟩ := Option.map_eq_some_iff.mp h
    refine ⟨hgoes.2, p, ?_, rfl, rfl⟩
    cases hnext : nextEntries what w.entries replies with
    | error message =>
      rw [hnext] at hp
      cases hp
    | ok p' =>
      rw [hnext] at hp
      exact congrArg Except.ok (Option.some.inj hp)
  · cases h

theorem grown_step (hgrown : Grown w) (h : watchStep what pace w replies = some w') :
    Grown w' := by
  obtain ⟨-, p, hp, hentries, -⟩ := watchStep_eq_some h
  intro e' he'
  rw [hentries] at he'
  obtain ⟨q, hq, hnext⟩ := (nextEntries_from hp).1 e' he'
  have hq1 := hgrown q.1 (List.of_mem_zip hq).1
  rcases next_eq_some hnext with ⟨-, rfl⟩ | ⟨-, hrouter, hlonger⟩
  · exact hq1
  · right
    rw [hrouter]
    rcases hq1 with heq | hlt
    · rwa [← heq]
    · exact hlt.trans hlonger

/-- A round keeps the watch honest exactly when none of its reads fails. -/
theorem honest_step_iff (hhonest : Honest w) (h : watchStep what pace w replies = some w') :
    Honest w' ↔ ∀ reply ∈ replies, ¬reply.Fails := by
  obtain ⟨hlength, p, hp, hentries, hdrops⟩ := watchStep_eq_some h
  constructor
  · intro hhonest' reply hreply hfails
    obtain ⟨e, hzip⟩ : ∃ e, (e, reply) ∈ w.entries.zip replies := by
      obtain ⟨i, hi, rfl⟩ := List.mem_iff_getElem.mp hreply
      exact ⟨w.entries[i], List.mem_iff_getElem.mpr ⟨i, by simp; omega, List.getElem_zip⟩⟩
    rcases nextEntries_to hp _ hzip with ⟨e', he', hnext⟩ | hdrop
    · rcases next_eq_some hnext with ⟨hnot, -⟩ | ⟨-, hrouter, hlonger⟩
      · exact hnot hfails
      · have hown := hhonest'.own e' (hentries ▸ he')
        rw [hown, hrouter, hhonest.own e (List.of_mem_zip hzip).1] at hlonger
        exact lt_irrefl _ hlonger
    · have hleft := (hhonest'.left _ (hdrops ▸ List.mem_append_right _ hdrop)).2
      cases hfails
      cases hleft
  · intro hreads
    refine ⟨fun e' he' => ?_, fun d hd => ?_⟩
    · rw [hentries] at he'
      obtain ⟨q, hq, hnext⟩ := (nextEntries_from hp).1 e' he'
      obtain ⟨hq1, hq2⟩ := List.of_mem_zip hq
      rcases next_eq_some hnext with ⟨-, rfl⟩ | ⟨hfails, -⟩
      · exact hhonest.own _ hq1
      · exact absurd hfails (hreads _ hq2)
    · rw [hdrops, List.mem_append] at hd
      rcases hd with hd | hd
      · exact hhonest.left d hd
      · obtain ⟨hq, hnext⟩ := (nextEntries_from hp).2 d hd
        obtain ⟨hq1, hq2⟩ := List.of_mem_zip hq
        exact ⟨hhonest.own _ hq1, (next_eq_none hnext).resolve_right (hreads _ hq2)⟩

/-- Once it is not honest, the watch never is again. -/
theorem not_honest_step (hgrown : Grown w) (hnot : ¬Honest w)
    (h : watchStep what pace w replies = some w') : ¬Honest w' := by
  obtain ⟨hlength, p, hp, hentries, hdrops⟩ := watchStep_eq_some h
  intro hhonest'
  refine hnot ⟨fun e he => ?_, fun d hd => hhonest'.left d (hdrops ▸ List.mem_append_left _ hd)⟩
  by_contra hpolled
  have hlt := (hgrown e he).resolve_left hpolled
  obtain ⟨reply, hzip⟩ : ∃ reply, (e, reply) ∈ w.entries.zip replies := by
    obtain ⟨i, hi, rfl⟩ := List.mem_iff_getElem.mp he
    exact ⟨replies[i], List.mem_iff_getElem.mpr ⟨i, by simp; omega, List.getElem_zip⟩⟩
  rcases nextEntries_to hp _ hzip with ⟨e', he', hnext⟩ | hdrop
  · have hown := hhonest'.own e' (hentries ▸ he')
    rcases next_eq_some hnext with ⟨-, rfl⟩ | ⟨-, hrouter, hlonger⟩
    · exact hpolled hown
    · rw [hown, hrouter] at hlonger
      exact lt_asymm hlt hlonger
  · exact hpolled (hhonest'.left _ (hdrops ▸ List.mem_append_right _ hdrop)).1

/-- An honest watch stays so over a run exactly as long as no read fails. -/
theorem honest_run_iff (hgrown : Grown w) (h : run (watchStep what pace) w rounds = some w') :
    Honest w' ↔ Honest w ∧ ∀ replies ∈ rounds, ∀ reply ∈ replies, ¬reply.Fails := by
  induction rounds generalizing w with
  | nil =>
    obtain rfl := Option.some.inj h
    simp
  | cons replies rounds ih =>
    obtain ⟨t, ht, hrun⟩ := run_cons_eq_some.mp h
    rw [ih (grown_step hgrown ht) hrun, List.forall_mem_cons, ← and_assoc]
    refine and_congr_left fun _ => ?_
    by_cases hhonest : Honest w
    · rw [honest_step_iff hhonest ht]
      exact (and_iff_right hhonest).symm
    · exact iff_of_false (not_honest_step hgrown hhonest ht) fun h => hhonest h.1

/-- The routers of the entries that stay. -/
theorem nextEntries_routers {es : List Entry} {p : List Entry × List (Entry × Reply)}
    (h : nextEntries what es replies = .ok p) :
    (p.1.map Entry.router).Sublist (es.map Entry.router) := by
  induction es generalizing replies p with
  | nil =>
    obtain rfl := Except.ok.inj h
    exact List.Sublist.refl _
  | cons e es ih =>
    cases replies with
    | nil =>
      obtain rfl := Except.ok.inj h
      exact List.nil_sublist _
    | cons reply replies =>
      obtain ⟨rest, hrest, ⟨-, rfl⟩ | ⟨e', hnext, rfl⟩⟩ := nextEntries_cons h
      · exact (ih hrest).cons _
      · have hrouter : e'.router = e.router := by
          rcases next_eq_some hnext with ⟨-, rfl⟩ | ⟨-, hrouter, -⟩
          · rfl
          · exact hrouter
        rw [List.map_cons, List.map_cons, hrouter]
        exact (ih hrest).cons_cons _

theorem routers_run (h : run (watchStep what pace) w rounds = some w') :
    (w'.entries.map Entry.router).Sublist (w.entries.map Entry.router) := by
  induction rounds generalizing w with
  | nil =>
    obtain rfl := Option.some.inj h
    exact List.Sublist.refl _
  | cons replies rounds ih =>
    obtain ⟨t, ht, hrun⟩ := run_cons_eq_some.mp h
    obtain ⟨-, p, hp, hentries, -⟩ := watchStep_eq_some ht
    exact (ih hrun).trans (hentries ▸ nextEntries_routers hp)

/-- The list of an honest watch has the names of its routers. -/
theorem Honest.stillRunning (h : Honest w) :
    w.loop.stillRunning = w.entries.map Entry.router :=
  List.map_congr_left h.own

end

section

variable {what : String} {pace : Pace} {names : List String} {rounds : List (List Reply)} {s : Loop}

/-- **Leaving Running is imagined as soon as a read fails**, and only then. In every run of the loop
over any names the entries of the list poll the routers they were put there for, and every router
that was dropped had left, exactly as long as no read has failed; the list is a sublist of the names
then. -/
theorem leaving_honest_iff (h : run (loopStep what pace) ⟨names, 0⟩ rounds = some s) :
    ∃ w, run (watchStep what pace) (start names) rounds = some w ∧ w.loop = s ∧
      (Honest w ↔ ∀ replies ∈ rounds, ∀ reply ∈ replies, ¬reply.Fails) ∧
      (Honest w → s.stillRunning.Sublist names) := by
  have hstart : (start names).loop = ⟨names, 0⟩ := by
    simp [start, Watch.loop, Function.comp_def]
  have hloop := @watch_loop what pace (start names) rounds
  rw [hstart, h] at hloop
  obtain ⟨w, hw, rfl⟩ := Option.map_eq_some_iff.mp hloop
  have hown : ∀ e ∈ (start names).entries, e.polled = e.router := by
    simp [start]
  have hhonest : Honest (start names) := ⟨hown, nofun⟩
  refine ⟨w, hw, rfl, ?_, fun hw' => ?_⟩
  · rw [honest_run_iff (fun e he => .inl (hown e he)) hw]
    exact and_iff_right hhonest
  · rw [hw'.stillRunning]
    have hrouters := routers_run hw
    simpa [start, Function.comp_def] using hrouters

/-- The router is updating when it is read again. -/
theorem leaving_honest_updating : ∃ w,
    run (watchStep "VPN" {}) (start ["pe1"]) [[.found "Running"], [.found "Updating"]] = some w ∧
      w.loop = ⟨[], 3⟩ ∧ Honest w := by
  obtain ⟨w, hw, hloop, hiff, -⟩ := leaving_honest_iff (s := ⟨[], 3⟩)
    (show run (loopStep "VPN" {}) ⟨["pe1"], 0⟩ [[.found "Running"], [.found "Updating"]] =
      some ⟨[], 3⟩ by decide +kernel)
  refine ⟨w, hw, hloop, hiff.mpr ?_⟩
  rintro replies hreplies reply hreply hfails
  cases hfails
  simp at hreplies
  rcases hreplies with rfl | rfl <;> simp at hreply

/-- A read of the router fails once. The next round asks for a router that does not exist, and the
wait is over. -/
theorem failed_read_imagined : ∃ w,
    run (watchStep "VPN" {}) (start ["pe1"])
        [[.failed "Connection refused"], [.notFound "Not Found"]] = some w ∧
      w.loop = ⟨[], 3⟩ ∧
      w.drops = [(⟨"pe1", "pe1(error:Connection refused)"⟩, .notFound "Not Found")] ∧ ¬Honest w := by
  refine ⟨_, rfl, rfl, rfl, fun hhonest => ?_⟩
  exact absurd (hhonest.left _ List.mem_cons_self).1 (by decide)

end

end GnnSandbox.Operator.LeaveRunning
