import GnnSandbox.Operator.DependentsFirst
import Mathlib.Data.List.MinMax

/-!
# The queue of VPN deletions

The delete handler of a VPN waits as long as another VPN of its namespace exists whose deletion was
requested earlier, by the times that Kubernetes stores. `queue_iff` says when at most one VPN is
past this check: when they are all of one namespace, and no two of them have the same time. The
queue never blocks itself.
-/

namespace GnnSandbox.Operator.Deletion

open Transition

/-! ## At most one, and never none -/

/-- Delete handlers of VPNs, with their retries, that list the VPNs and can write the status of a
VPN in the queue. -/
def Queues (_ : State) : Event → Prop
  | .startL3vpn _ ans => ans.listing = .listed ∧ ∀ message, ans.queued ≠ .raises message
  | .finishL3vpn _ => True
  | .restart => True
  | _ => False

/-- At most one VPN is past the check and not yet removed. -/
def Exclusive (s : State) : Prop :=
  ∀ a b, s.underway (.l3vpn, a) = true → s.underway (.l3vpn, b) = true → a = b

/-- At most one VPN of the namespace is past the check and not yet removed. -/
def ExclusiveIn (namespace_ : String) (s : State) : Prop :=
  ∀ a b, s.underway (.l3vpn, namespace_, a) = true →
    s.underway (.l3vpn, namespace_, b) = true → a = b

/-- The check lets a VPN pass that is being deleted, or there is nothing to do for it. -/
def Passes (s : State) (ref : Ref) : Prop :=
  ∃ vpn ∈ s.deleting (.l3vpn, ref), ∀ ans : QueueAnswers, ans.listing = .listed →
    (∀ message, ans.deleting ≠ .raises message) →
      ∀ raised, queueL3vpn ref vpn s.resources ans ≠ .raised raised

/-- When VPNs of a namespace are being deleted and none is past the check, it lets one pass. -/
def Unblocked (s : State) : Prop :=
  ∀ namespace_, (∃ name, (s.deleting (.l3vpn, namespace_, name)).isSome = true) →
    (∀ name, s.underway (.l3vpn, namespace_, name) = false) → ∃ name, Passes s (namespace_, name)

/-- A VPN that lists routers and is deleted since a time. -/
def Leaving (resources : Resources) (ref : Ref) (time : ℕ) : Prop :=
  ∃ vpn, resources.lookup (.l3vpn, ref) = some vpn ∧ vpn.routers ≠ [] ∧
    vpn.deletionTimestamp = some time

/-- VPNs that list routers are deleted in one namespace, and at different times. -/
def Distinct (resources : Resources) : Prop :=
  ∀ a b time time', a ≠ b → Leaving resources a time → Leaving resources b time' →
    a.1 = b.1 ∧ time ≠ time'

/-- VPNs of the namespace that list routers are deleted at different times. -/
def DistinctIn (namespace_ : String) (resources : Resources) : Prop :=
  ∀ a b time, Leaving resources (namespace_, a) time → Leaving resources (namespace_, b) time →
    a = b

/-- Resources of which no handler is running. -/
def idle (resources : Resources) : State := ⟨resources, fun _ => false, [], 0⟩

section Proofs

variable {s s' : State} {resources : Resources} {namespace_ name : String} {vpn : Resource}
  {time : ℕ} {ans : QueueAnswers} {ref : Ref} {key key' : Key}

/-! ## The check -/

/-- No VPN of the namespace is deleted before a time. -/
def First (resources : Resources) (namespace_ : String) (time : ℕ) : Prop :=
  ∀ name vpn time', resources.lookup (.l3vpn, namespace_, name) = some vpn →
    vpn.deletionTimestamp = some time' → time ≤ time'

theorem deletedEarlier_eq_none_iff (htime : vpn.deletionTimestamp = some time)
    (hvpn : resources.lookup (.l3vpn, namespace_, name) = some vpn) :
    deletedEarlier name vpn.deletionTimestamp (items resources .l3vpn namespace_) = none ↔
      First resources namespace_ time := by
  unfold deletedEarlier
  rw [Option.map_eq_none_iff, List.find?_eq_none, htime]
  constructor
  · intro h other vpn' time' hother htime'
    by_contra hlt
    refine h (other, vpn') (mem_items.mpr hother) ?_
    have hne : other ≠ name := by
      rintro rfl
      obtain rfl := Option.some.inj (hvpn.symm.trans hother)
      rw [htime] at htime'
      exact hlt (Option.some.inj htime').le
    simp only [htime', ne_eq, hne, not_false_eq_true, decide_true, Bool.true_and, Option.any_some,
      decide_eq_true_eq]
    omega
  · rintro h ⟨other, vpn'⟩ hother hearlier
    simp only [Bool.and_eq_true, Option.any_eq_true, Option.any_some, decide_eq_true_eq] at hearlier
    obtain ⟨-, time', htime', hlt⟩ := hearlier
    exact absurd (h other vpn' time' (mem_items.mp hother) htime') (by omega)

theorem deleting_eq_some_iff : s.deleting key = some vpn ↔
    s.resources.lookup key = some vpn ∧ vpn.deletionTimestamp.isSome = true ∧
      s.underway key = false := by
  unfold State.deleting
  rw [Option.filter_eq_some_iff, Bool.and_eq_true, Bool.not_eq_true']

/-- **A VPN at the check** raises, has nothing to do, or is the first and passes. -/
theorem startL3vpn_cases (hok : Queues s (.startL3vpn ref ans))
    (hstep : s.startL3vpn ref ans = some s') :
    s' = s ∨ s' = s.remove (.l3vpn, ref) ∨ ∃ vpn time, s.resources.lookup (.l3vpn, ref) = some vpn ∧
      vpn.routers ≠ [] ∧ vpn.deletionTimestamp = some time ∧ First s.resources ref.1 time ∧
        s' = { s with underway := Function.update s.underway (.l3vpn, ref) true } := by
  obtain ⟨vpn, hvpn, rfl⟩ := Option.map_eq_some_iff.mp hstep
  obtain ⟨hlookup, htime, -⟩ := deleting_eq_some_iff.mp hvpn
  obtain ⟨time, htime⟩ := Option.isSome_iff_exists.mp htime
  cases hend : queueL3vpn ref vpn s.resources ans with
  | raised raised => exact Or.inl rfl
  | nothingToDo => exact Or.inr (Or.inl rfl)
  | past =>
    refine Or.inr (Or.inr ⟨vpn, time, hlookup, ?_, htime, ?_, rfl⟩)
    · intro hrouters
      unfold queueL3vpn at hend
      dsimp only at hend
      rw [if_pos hrouters] at hend
      cases hend
    · unfold queueL3vpn at hend
      dsimp only at hend
      split_ifs at hend
      rw [hok.1] at hend
      rw [← deletedEarlier_eq_none_iff htime hlookup]
      cases hearlier : deletedEarlier ref.2 vpn.deletionTimestamp
          (items s.resources .l3vpn ref.1) with
      | none => rfl
      | some other =>
        rw [hearlier] at hend
        dsimp only at hend
        cases hqueued : ans.queued with
        | raises message => exact absurd hqueued (hok.2 message)
        | done now =>
          rw [hqueued] at hend
          cases hend
        | lost =>
          rw [hqueued] at hend
          cases hend

/-- The first VPN passes. -/
theorem passes_of_first (hvpn : s.deleting (.l3vpn, ref) = some vpn)
    (htime : vpn.deletionTimestamp = some time) (hfirst : First s.resources ref.1 time) :
    Passes s ref := by
  refine ⟨vpn, hvpn, fun ans hlisting hdeleting raised hend => ?_⟩
  have hnone := (deletedEarlier_eq_none_iff htime (deleting_eq_some_iff.mp hvpn).1).mpr hfirst
  unfold queueL3vpn at hend
  dsimp only at hend
  split_ifs at hend
  rw [hlisting, hnone] at hend
  dsimp only at hend
  cases hwrite : ans.deleting with
  | raises message => exact hdeleting message hwrite
  | done now =>
    rw [hwrite] at hend
    cases hend
  | lost =>
    rw [hwrite] at hend
    cases hend

/-- Among VPNs that are being deleted there is a first one. -/
theorem exists_first (hpending : ∃ vpn, s.resources.lookup (.l3vpn, namespace_, name) = some vpn ∧
      vpn.deletionTimestamp.isSome = true) :
    ∃ name vpn time, s.resources.lookup (.l3vpn, namespace_, name) = some vpn ∧
      vpn.deletionTimestamp = some time ∧ First s.resources namespace_ time := by
  obtain ⟨vpn, hvpn, hsome⟩ := hpending
  let pending := (items s.resources .l3vpn namespace_).filter fun cr =>
    cr.2.deletionTimestamp.isSome
  have hmem : (name, vpn) ∈ pending := List.mem_filter.mpr ⟨mem_items.mpr hvpn, hsome⟩
  obtain ⟨first, hfirst⟩ := Option.ne_none_iff_exists'.mp fun hnone =>
    List.ne_nil_of_mem hmem (List.argmin_eq_none
      (f := fun cr : String × Resource => cr.2.deletionTimestamp.getD 0).mp hnone)
  obtain ⟨hitem, htime⟩ := List.mem_filter.mp (List.argmin_mem hfirst)
  obtain ⟨time, htime⟩ := Option.isSome_iff_exists.mp htime
  refine ⟨first.1, first.2, time, mem_items.mp hitem, htime,
    fun other vpn' time' hother htime' => ?_⟩
  have hother' : (other, vpn') ∈ pending :=
    List.mem_filter.mpr ⟨mem_items.mpr hother, by rw [htime']; rfl⟩
  have hle := List.le_of_mem_argmin hother' hfirst
  simpa [htime, htime'] using hle

/-- **The queue never blocks itself.** -/
theorem unblocked (s : State) : Unblocked s := by
  intro namespace_ hpending hunderway
  obtain ⟨name, hname⟩ := hpending
  obtain ⟨vpn, hvpn⟩ := Option.isSome_iff_exists.mp hname
  obtain ⟨hlookup, hsome, -⟩ := deleting_eq_some_iff.mp hvpn
  obtain ⟨first, vpn', time, hfirst, htime, hmin⟩ := exists_first ⟨vpn, hlookup, hsome⟩
  refine ⟨first, passes_of_first ?_ htime hmin⟩
  exact deleting_eq_some_iff.mpr ⟨hfirst, by rw [htime]; rfl, hunderway first⟩

/-! ## At most one -/

/-- Nothing is new, and what is past the check is the first of its namespace. -/
structure InOrder (resources : Resources) (s : State) : Prop where
  old : ∀ key vpn, s.resources.lookup key = some vpn → resources.lookup key = some vpn
  first : ∀ ref, s.underway (.l3vpn, ref) = true →
    ∃ time, Leaving s.resources ref time ∧ First s.resources ref.1 time

theorem First.le {time' : ℕ} (h : First resources namespace_ time)
    (hleaving : Leaving resources (namespace_, name) time') : time ≤ time' := by
  obtain ⟨vpn, hvpn, -, htime'⟩ := hleaving
  exact h name vpn time' hvpn htime'

theorem InOrder.leaving (h : InOrder resources s) (hleaving : Leaving s.resources ref time) :
    Leaving resources ref time := by
  obtain ⟨vpn, hvpn, hrest⟩ := hleaving
  exact ⟨vpn, h.old _ _ hvpn, hrest⟩

/-- Past the check of one namespace are only VPNs with one time. -/
theorem InOrder.same_time (h : InOrder resources s) {a b : String}
    (ha : s.underway (.l3vpn, namespace_, a) = true)
    (hb : s.underway (.l3vpn, namespace_, b) = true) :
    ∃ time, Leaving resources (namespace_, a) time ∧ Leaving resources (namespace_, b) time := by
  obtain ⟨time, hleaving, hfirst⟩ := h.first (namespace_, a) ha
  obtain ⟨time', hleaving', hfirst'⟩ := h.first (namespace_, b) hb
  obtain rfl : time = time' := le_antisymm (hfirst.le hleaving') (hfirst'.le hleaving)
  exact ⟨time, h.leaving hleaving, h.leaving hleaving'⟩

theorem InOrder.exclusiveIn (h : InOrder resources s)
    (hdistinct : DistinctIn namespace_ resources) : ExclusiveIn namespace_ s := by
  intro a b ha hb
  obtain ⟨time, hleaving, hleaving'⟩ := h.same_time ha hb
  exact hdistinct a b time hleaving hleaving'

theorem InOrder.exclusive (h : InOrder resources s) (hdistinct : Distinct resources) :
    Exclusive s := by
  rintro ⟨namespace_, a⟩ ⟨namespace', b⟩ ha hb
  by_contra hne
  obtain ⟨time, hleaving, -⟩ := h.first _ ha
  obtain ⟨time', hleaving', -⟩ := h.first _ hb
  obtain ⟨hsame, -⟩ := hdistinct _ _ time time' hne (h.leaving hleaving) (h.leaving hleaving')
  obtain rfl : namespace_ = namespace' := hsame
  obtain ⟨time, hleaving, hleaving'⟩ := h.same_time ha hb
  exact (hdistinct _ _ time time hne hleaving hleaving').2 rfl

theorem lookup_of_remove (hkey : (s.remove key).resources.lookup key' = some vpn) :
    key' ≠ key ∧ s.resources.lookup key' = some vpn := by
  by_cases heq : key' = key
  · subst heq
    rw [State.remove, AList.lookup_erase] at hkey
    cases hkey
  · rw [State.remove, AList.lookup_erase_ne heq] at hkey
    exact ⟨heq, hkey⟩

theorem underway_remove (s : State) (key : Key) :
    (s.remove key).underway = Function.update s.underway key false := rfl

theorem First.remove (h : First s.resources namespace_ time) :
    First (s.remove key).resources namespace_ time :=
  fun name vpn time' hname => h name vpn time' (lookup_of_remove hname).2

theorem InOrder.remove (h : InOrder resources s) : InOrder resources (s.remove key) where
  old key' vpn hkey := h.old key' vpn (lookup_of_remove hkey).2
  first ref hunderway := by
    have hne : (Kind.l3vpn, ref) ≠ key := by
      rintro rfl
      rw [underway_remove, Function.update_self] at hunderway
      cases hunderway
    rw [underway_remove, Function.update_of_ne hne] at hunderway
    obtain ⟨time, ⟨vpn, hvpn, hrest⟩, hfirst⟩ := h.first ref hunderway
    refine ⟨time, ⟨vpn, ?_, hrest⟩, hfirst.remove⟩
    rw [State.remove, AList.lookup_erase_ne hne]
    exact hvpn

/-- What a step of the delete handlers does keeps the order. -/
theorem InOrder.step {e : Event} (h : InOrder resources s) (hok : Queues s e)
    (hstep : Deletion.step s e = some s') : InOrder resources s' := by
  cases e with
  | startL3vpn ref ans =>
    rcases startL3vpn_cases hok hstep with rfl | rfl | ⟨vpn, time, hvpn, hrouters, htime, hmin, rfl⟩
    · exact h
    · exact h.remove
    · refine ⟨h.old, fun other hunderway => ?_⟩
      by_cases heq : (Kind.l3vpn, other) = (.l3vpn, ref)
      · obtain rfl : other = ref := (Prod.mk.inj heq).2
        exact ⟨time, ⟨vpn, hvpn, hrouters, htime⟩, hmin⟩
      · dsimp only at hunderway
        rw [Function.update_of_ne heq] at hunderway
        exact h.first other hunderway
  | finishL3vpn ref =>
    change s.finishL3vpn ref = some s' at hstep
    unfold State.finishL3vpn at hstep
    split_ifs at hstep
    obtain rfl := Option.some.inj hstep
    exact h.remove
  | restart =>
    obtain rfl := Option.some.inj hstep
    exact ⟨h.old, fun other hunderway => by cases hunderway⟩
  | _ => cases hok

/-! ## Two with the same time -/

/-- An answer with which the first VPN passes. -/
def letsPass : QueueAnswers := ⟨.listed, .lost, .lost⟩

theorem queues_letsPass : Queues s (.startL3vpn ref letsPass) :=
  ⟨rfl, fun _ heq => by cases heq⟩

/-- The first VPN passes or has nothing to do. -/
theorem step_letsPass (hvpn : s.resources.lookup (.l3vpn, ref) = some vpn)
    (htime : vpn.deletionTimestamp = some time) (hfirst : First s.resources ref.1 time)
    (hunderway : s.underway (.l3vpn, ref) = false) :
    step s (.startL3vpn ref letsPass) = some
      (if vpn.routers = [] then s.remove (.l3vpn, ref)
      else { s with underway := Function.update s.underway (.l3vpn, ref) true }) := by
  have hdeleting : s.deleting (.l3vpn, ref) = some vpn :=
    deleting_eq_some_iff.mpr ⟨hvpn, by rw [htime]; rfl, hunderway⟩
  have hnone := (deletedEarlier_eq_none_iff htime hvpn).mpr hfirst
  change s.startL3vpn ref letsPass = _
  unfold State.startL3vpn queueL3vpn
  rw [hdeleting, Option.map_some]
  dsimp only [letsPass]
  rw [hnone]
  split_ifs <;> rfl

theorem step_passes (hleaving : Leaving s.resources ref time)
    (hfirst : First s.resources ref.1 time) (hunderway : s.underway (.l3vpn, ref) = false) :
    ∃ t, step s (.startL3vpn ref letsPass) = some t ∧ t.resources = s.resources ∧
      t.underway = Function.update s.underway (.l3vpn, ref) true := by
  obtain ⟨vpn, hvpn, hrouters, htime⟩ := hleaving
  have hstep := step_letsPass hvpn htime hfirst hunderway
  rw [if_neg hrouters] at hstep
  exact ⟨_, hstep, rfl, rfl⟩

/-- The first VPN comes to be removed. -/
theorem run_removes (hvpn : s.resources.lookup (.l3vpn, ref) = some vpn)
    (htime : vpn.deletionTimestamp = some time) (hfirst : First s.resources ref.1 time)
    (hunderway : s.underway (.l3vpn, ref) = false) :
    ∃ es, run step s es = some (s.remove (.l3vpn, ref)) ∧ Throughout step Queues s es := by
  have hstep := step_letsPass hvpn htime hfirst hunderway
  by_cases hrouters : vpn.routers = []
  · rw [if_pos hrouters] at hstep
    refine ⟨[.startL3vpn ref letsPass], ?_, .of_step queues_letsPass hstep throughout_nil⟩
    rw [run_cons, hstep]
    rfl
  · rw [if_neg hrouters] at hstep
    have hfinish : step { s with underway := Function.update s.underway (.l3vpn, ref) true }
        (.finishL3vpn ref) = some (s.remove (.l3vpn, ref)) := by
      change State.finishL3vpn _ ref = _
      unfold State.finishL3vpn
      rw [if_pos (Function.update_self ..)]
      simp only [State.remove, Function.update_idem]
    refine ⟨[.startL3vpn ref letsPass, .finishL3vpn ref], ?_,
      .of_step queues_letsPass hstep (.of_step trivial hfinish throughout_nil)⟩
    rw [run_cons, hstep, Option.bind_some, run_cons, hfinish]
    rfl

/-- **A VPN comes to be past the check**, when none of its namespace is, and nothing changes for
other namespaces and for VPNs with the same time. -/
theorem exists_run_past (hleaving : Leaving s.resources (namespace_, name) time)
    (hunderway : ∀ name, s.underway (.l3vpn, namespace_, name) = false) :
    ∃ es t, run step s es = some t ∧ Throughout step Queues s es ∧
      t.underway = Function.update s.underway (.l3vpn, namespace_, name) true ∧
      First t.resources namespace_ time ∧ ∀ ref time', ref.1 ≠ namespace_ ∨ time' = time →
        Leaving s.resources ref time' → Leaving t.resources ref time' := by
  -- by the number of resources: VPNs that were deleted earlier are removed first
  induction hn : s.resources.keys.length using Nat.strong_induction_on generalizing s with
  | _ n ih =>
    obtain ⟨vpn, hvpn, hrouters, htime⟩ := hleaving
    obtain ⟨first, vpn₀, time₀, hfirst, htime₀, hmin⟩ :=
      exists_first ⟨vpn, hvpn, by rw [htime]; rfl⟩
    by_cases heq : time₀ = time
    · subst heq
      obtain ⟨t, hstep, hsame, ht⟩ : ∃ t,
          step s (.startL3vpn (namespace_, name) letsPass) = some t ∧ t.resources = s.resources ∧
            t.underway = Function.update s.underway (.l3vpn, namespace_, name) true :=
        step_passes ⟨vpn, hvpn, hrouters, htime⟩ hmin (hunderway name)
      refine ⟨[.startL3vpn (namespace_, name) letsPass], t, ?_,
        .of_step queues_letsPass hstep throughout_nil, ht, by rw [hsame]; exact hmin,
        fun _ _ _ h => by rw [hsame]; exact h⟩
      rw [run_cons, hstep]
      rfl
    · have hlt : time₀ < time := lt_of_le_of_ne (hmin name vpn time hvpn htime) heq
      have hkeep : ∀ ref time', ref.1 ≠ namespace_ ∨ time' = time → Leaving s.resources ref time' →
          Leaving (s.remove (.l3vpn, namespace_, first)).resources ref time' := by
        rintro ref time' hother ⟨r, hr, hrest, hr'⟩
        have hne : ref ≠ (namespace_, first) := by
          rintro rfl
          rcases hother with hother | rfl
          · exact hother rfl
          · obtain rfl := Option.some.inj (hr.symm.trans hfirst)
            exact hlt.ne (Option.some.inj (htime₀.symm.trans hr'))
        refine ⟨r, ?_, hrest, hr'⟩
        rw [State.remove, AList.lookup_erase_ne (by simp [hne])]
        exact hr
      obtain ⟨es, hrun, hok⟩ : ∃ es, run step s es =
          some (s.remove (.l3vpn, namespace_, first)) ∧ Throughout step Queues s es :=
        run_removes hfirst htime₀ hmin (hunderway first)
      have hless : (s.remove (.l3vpn, namespace_, first)).resources.keys.length < n := by
        have hmem : (Kind.l3vpn, namespace_, first) ∈ s.resources.keys :=
          AList.mem_keys.mpr (AList.lookup_isSome.mp (by rw [hfirst]; rfl))
        have hlength : (s.remove (.l3vpn, namespace_, first)).resources.keys.length =
            s.resources.keys.length - 1 := by
          rw [State.remove, AList.keys_erase]
          exact @List.length_erase_of_mem _ instBEqOfDecidableEq inferInstance _ _ hmem
        have hpos := List.length_pos_of_mem hmem
        omega
      have hsame : (s.remove (.l3vpn, namespace_, first)).underway = s.underway := by
        rw [underway_remove, ← hunderway first, Function.update_eq_self]
      obtain ⟨es', t, hrun', hok', ht, hmin', hkeep'⟩ := ih _ hless
        (hkeep (namespace_, name) time (Or.inr rfl) ⟨vpn, hvpn, hrouters, htime⟩)
        (fun name => by rw [hsame]; exact hunderway name) rfl
      refine ⟨es ++ es', t, ?_, (throughout_append hrun).mpr ⟨hok, hok'⟩, by rw [ht, hsame], hmin',
        fun ref time' hother h => hkeep' ref time' hother (hkeep ref time' hother h)⟩
      rw [run_append, hrun]
      exact hrun'

/-- **Two VPNs with the same time** both come to be past the check. -/
theorem exists_run_of_tie {a b : String} (hne : a ≠ b)
    (ha : Leaving s.resources (namespace_, a) time) (hb : Leaving s.resources (namespace_, b) time)
    (hunderway : ∀ name, s.underway (.l3vpn, namespace_, name) = false) :
    ∃ es t, run step s es = some t ∧ Throughout step Queues s es ∧
      t.underway (.l3vpn, namespace_, a) = true ∧ t.underway (.l3vpn, namespace_, b) = true := by
  obtain ⟨es, t, hrun, hok, ht, hmin, hkeep⟩ := exists_run_past ha hunderway
  have hkey : (Kind.l3vpn, namespace_, b) ≠ (.l3vpn, namespace_, a) := by
    simp [hne.symm]
  have hfree : t.underway (.l3vpn, namespace_, b) = false := by
    rw [ht, Function.update_of_ne hkey]
    exact hunderway b
  obtain ⟨t', hstep, -, ht'⟩ := step_passes (hkeep (namespace_, b) time (Or.inr rfl) hb) hmin hfree
  refine ⟨es ++ [.startL3vpn (namespace_, b) letsPass], t', ?_,
    (throughout_append hrun).mpr ⟨hok, .of_step queues_letsPass hstep throughout_nil⟩, ?_, ?_⟩
  · rw [run_append, hrun, Option.bind_some, run_cons, hstep]
    rfl
  · rw [ht', Function.update_of_ne hkey.symm, ht, Function.update_self]
  · rw [ht', Function.update_self]

/-- **Two VPNs of different namespaces** both come to be past the check. -/
theorem exists_run_of_namespaces {namespace' a b : String} {time' : ℕ}
    (hne : namespace_ ≠ namespace') (ha : Leaving s.resources (namespace_, a) time)
    (hb : Leaving s.resources (namespace', b) time') (hunderway : ∀ key, s.underway key = false) :
    ∃ es t, run step s es = some t ∧ Throughout step Queues s es ∧
      t.underway (.l3vpn, namespace_, a) = true ∧ t.underway (.l3vpn, namespace', b) = true := by
  obtain ⟨es, t, hrun, hok, ht, -, hkeep⟩ := exists_run_past ha fun _ => hunderway _
  have hkey : ∀ name, (Kind.l3vpn, namespace', name) ≠ (.l3vpn, namespace_, a) := by
    simp [hne.symm]
  have hfree : ∀ name, t.underway (.l3vpn, namespace', name) = false := by
    intro name
    rw [ht, Function.update_of_ne (hkey name)]
    exact hunderway _
  obtain ⟨es', t', hrun', hok', ht', -⟩ :=
    exists_run_past (hkeep (namespace', b) time' (Or.inl hne.symm) hb) hfree
  refine ⟨es ++ es', t', ?_, (throughout_append hrun).mpr ⟨hok, hok'⟩, ?_, ?_⟩
  · rw [run_append, hrun]
    exact hrun'
  · rw [ht', Function.update_of_ne (hkey b).symm, ht, Function.update_self]
  · rw [ht', Function.update_self]

end Proofs

/-- What every run of the delete handlers leads to, from resources of which no handler is
running. -/
def Leads (resources : Resources) (P : State → Prop) : Prop :=
  ∀ es s, run step (idle resources) es = some s → Throughout step Queues (idle resources) es → P s

theorem leads_inOrder (resources : Resources) : Leads resources (InOrder resources) :=
  fun _ _ hrun hok => run_invariant (fun _ _ _ h hok hstep => InOrder.step h hok hstep)
    ⟨fun _ _ h => h, fun _ h => by cases h⟩ hok hrun

/-- **The queue of VPN deletions.** For every set of VPNs that are being deleted, every run of
their delete handlers keeps at most one VPN past the check and never blocks itself, exactly when
the VPNs are deleted in one namespace and at different times. Of one namespace, at most one VPN is
past the check exactly when those of this namespace are deleted at different times. -/
theorem queue_iff (resources : Resources) :
    (Leads resources (fun s => Exclusive s ∧ Unblocked s) ↔ Distinct resources) ∧
    ∀ namespace_, Leads resources (fun s => ExclusiveIn namespace_ s ∧ Unblocked s) ↔
      DistinctIn namespace_ resources := by
  refine ⟨⟨fun h a b time time' hne ha hb => ?_, fun hdistinct es s hrun hok => ?_⟩,
    fun namespace_ => ⟨fun h a b time ha hb => ?_, fun hdistinct es s hrun hok => ?_⟩⟩
  · obtain ⟨namespace_, a⟩ := a
    obtain ⟨namespace', b⟩ := b
    by_cases hsame : namespace_ = namespace'
    · subst hsame
      refine ⟨rfl, ?_⟩
      rintro rfl
      obtain ⟨es, t, hrun, hok, ha, hb⟩ := exists_run_of_tie (s := idle resources)
        (fun heq => hne (congrArg _ heq)) ha hb fun _ => rfl
      exact hne ((h es t hrun hok).1 _ _ ha hb)
    · obtain ⟨es, t, hrun, hok, ha, hb⟩ := exists_run_of_namespaces (s := idle resources) hsame
        ha hb fun _ => rfl
      exact absurd ((h es t hrun hok).1 _ _ ha hb) hne
  · exact ⟨(leads_inOrder resources es s hrun hok).exclusive hdistinct, unblocked s⟩
  · by_contra hne
    obtain ⟨es, t, hrun, hok, ha, hb⟩ :=
      exists_run_of_tie (s := idle resources) hne ha hb fun _ => rfl
    exact hne ((h es t hrun hok).1 a b ha hb)
  · exact ⟨(leads_inOrder resources es s hrun hok).exclusiveIn hdistinct, unblocked s⟩

/-- Two VPNs that are deleted in the same second. -/
def sameSecond : Resources :=
  ((∅ : Resources).insert (.l3vpn, "default", "blue")
    { uid := 1, routers := ["pe1"], deletionTimestamp := some 1735689600 }).insert
    (.l3vpn, "default", "red")
    { uid := 2, routers := ["pe1"], deletionTimestamp := some 1735689600 }

/-- Both pass the check. -/
theorem both_pass :
    ∃ s, run step (idle sameSecond)
        [.startL3vpn ("default", "blue") letsPass, .startL3vpn ("default", "red") letsPass] =
          some s ∧
      Throughout step Queues (idle sameSecond)
        [.startL3vpn ("default", "blue") letsPass, .startL3vpn ("default", "red") letsPass] ∧
      ¬Exclusive s :=
  ⟨_, rfl, .of_step queues_letsPass rfl (.of_step queues_letsPass rfl throughout_nil),
    fun h => absurd (h ("default", "blue") ("default", "red") rfl rfl) (by decide)⟩

end GnnSandbox.Operator.Deletion
