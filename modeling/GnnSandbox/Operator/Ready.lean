import GnnSandbox.Lib.Transition
import GnnSandbox.Operator.Creation

/-!
# Ready infrastructures

The check of the parent looks at the children that exist. It tells the truth as long as no router
or device is missing when the phase stops holding it back: each of them was created, and the phase
was Validating or Processing meanwhile.

1. `checkParent_ready`: when the check writes Ready.
2. `steady_step`: a careful event keeps the invariant `Steady`.
3. `ready_means_ready`: in a careful run Ready is only written when all is ready.
-/

namespace GnnSandbox.Operator.Creation

open Transition
open Deletion (ChildKind)

variable {p : Infrastructure} {s s' : State} {e : Event} {kind : ChildKind} {name : String}

/-- The children of the spec, by kind. -/
def Spec.names (spec : Spec) : ChildKind → List String
  | .router => spec.routers
  | .device => spec.devices
  | .network => []

/-- The phase of a child that is ready. -/
def readyPhase : ChildKind → String
  | .router => "Running"
  | _ => "Ready"

/-- A child of this name exists. -/
def Has (p : Infrastructure) (s : State) (kind : ChildKind) (name : String) : Prop :=
  ∃ child ∈ s.children.lookup (kind, name), p.Owns child

/-- Every router and every device of the spec exists as a child. -/
def Complete (p : Infrastructure) (s : State) : Prop :=
  ∀ kind, ∀ name ∈ p.spec.names kind, Has p s kind name

/-- Every router of the spec exists as a child and is Running, and every device is Ready. -/
def AllReady (p : Infrastructure) (s : State) : Prop :=
  ∀ kind, ∀ name ∈ p.spec.names kind, ∃ child ∈ s.children.lookup (kind, name),
    p.Owns child ∧ child.phase = some (readyPhase kind)

/-- The check does nothing in this phase. -/
def Skipped (phase : Option Phase) : Prop := ∃ x ∈ phase, x ∈ skippedPhases

/-- No router or device names the infrastructure as an owner. -/
def Childless (p : Infrastructure) (s : State) : Prop :=
  ∀ kind name, ∀ child ∈ s.children.lookup (kind, name), kind ≠ .network → p.claims child = false

/-! ## The check -/

theorem claims_of_owns {child : Child} (h : p.Owns child) : p.claims child = true :=
  List.any_eq_true.mpr ⟨_, h, by simp [Infrastructure.reference]⟩

theorem mem_childrenOf {children : Children} {child : Child} :
    child ∈ childrenOf p kind children ↔
      ∃ name, children.lookup (kind, name) = some child ∧ p.claims child = true := by
  unfold childrenOf
  rw [List.mem_filterMap]
  constructor
  · rintro ⟨⟨key, other⟩, hmem, hchild⟩
    dsimp only at hchild
    split_ifs at hchild with hkey
    obtain rfl := Option.some.inj hchild
    obtain ⟨rfl, hclaims⟩ := hkey
    exact ⟨key.2, AList.mem_lookup_iff.mpr hmem, hclaims⟩
  · rintro ⟨name, hlookup, hclaims⟩
    exact ⟨_, AList.mem_lookup_iff.mp hlookup, if_pos ⟨rfl, hclaims⟩⟩

theorem childrenOf_eq_nil (h : Childless p s) (hkind : kind ≠ .network) :
    childrenOf p kind s.children = [] := by
  refine List.eq_nil_iff_forall_not_mem.mpr fun child hmem => ?_
  obtain ⟨name, hlookup, hclaims⟩ := mem_childrenOf.mp hmem
  exact Bool.false_ne_true ((h kind name child hlookup hkind).symm.trans hclaims)

/-- When the check writes a phase, and what it has seen if it writes Ready. -/
theorem checkParent_spec {ans : CheckAnswers} {phase : Phase}
    (h : checkParent p s ans = some phase) :
    ¬Skipped s.phase ∧ ∃ devices, ans.devices.read (childrenOf p .device s.children) = .ok devices ∧
      ¬(childrenOf p .router s.children = [] ∧ devices = []) ∧
      (phase = .ready →
        (∀ child ∈ childrenOf p .router s.children, child.phase = some "Running") ∧
          ∀ child ∈ devices, child.phase = some "Ready") := by
  unfold checkParent at h
  split at h
  · rename_i hphase
    split at h
    · rename_i devices hrouters hread
      refine ⟨fun ⟨x, hx, hskip⟩ => hphase.2 x hx hskip, devices, hread, ?_⟩
      dsimp only at h
      split at h
      · cases h
      · rename_i hsome
        refine ⟨hsome, ?_⟩
        rintro rfl
        split at h
        · assumption
        · split at h <;> cases h
    · cases h
  · cases h

/-- The check does nothing without children. -/
theorem not_childless_of_checkParent {ans : CheckAnswers} {phase : Phase}
    (h : checkParent p s ans = some phase) : ¬Childless p s := by
  intro hchildless
  obtain ⟨-, devices, hread, hsome, -⟩ := checkParent_spec h
  have hrouters : childrenOf p .router s.children = [] :=
    childrenOf_eq_nil hchildless (by decide)
  have hdevices : childrenOf p .device s.children = [] :=
    childrenOf_eq_nil hchildless (by decide)
  rw [hdevices] at hread
  cases hans : ans.devices <;> rw [hans] at hread <;> cases hread <;> exact hsome ⟨hrouters, rfl⟩

/-- If the check writes Ready and no child is missing, all is ready. -/
theorem allReady_of_checkParent {ans : CheckAnswers} (h : checkParent p s ans = some .ready)
    (hcomplete : Complete p s) (hdevices : ans.devices = .notFound → p.spec.devices = []) :
    AllReady p s := by
  obtain ⟨-, devices, hread, -, hready⟩ := checkParent_spec h
  obtain ⟨hrouters, hlisted⟩ := hready rfl
  intro kind name hname
  obtain ⟨child, hlookup, howns⟩ := hcomplete kind name hname
  have hmem : child ∈ childrenOf p kind s.children :=
    mem_childrenOf.mpr ⟨name, hlookup, claims_of_owns howns⟩
  refine ⟨child, hlookup, howns, ?_⟩
  cases kind with
  | router => exact hrouters child hmem
  | network => cases hname
  | device =>
    cases hans : ans.devices with
    | listed =>
      rw [hans] at hread
      obtain rfl := Except.ok.inj hread
      exact hlisted child hmem
    | notFound =>
      have hnil : p.spec.names .device = [] := hdevices hans
      rw [hnil] at hname
      cases hname
    | raises message =>
      rw [hans] at hread
      cases hread

/-! ## Careful runs -/

/-- The update goes through. -/
def GoesThrough (w : Write) : Prop := ∃ now, w = .done now

/-- The API server creates the child, or finds it created. -/
def Creates (p : Infrastructure) (s : State) (kind : ChildKind) (name : String) (ans : Answers) :
    Prop :=
  ans.create = .performed ∧ ∀ child ∈ s.children.lookup (kind, name), p.Owns child

/-- No router or device is missing when the phase stops holding back the check. -/
def Careful (p : Infrastructure) (s : State) : Event → Prop
  | .begin ans => GoesThrough (ans.write 0) ∨ GoesThrough (ans.write 1) ∨ Skipped s.phase ∨
      Complete p s
  | .call ans =>
    match s.handler with
    | some (.routers (name :: _)) => Creates p s .router name ans
    | some (.devices (name :: _)) => Creates p s .device name ans
    | _ => True
  | .check ans => ans.devices = .notFound → p.spec.devices = []
  | .createOther _ _ child => p.claims child = false
  | .remove kind name => name ∈ p.spec.names kind → ¬Has p s kind name
  | .setPhase .. | .terminate .. | .restart => True

/-- The check is held back, or nothing is missing. -/
def Guarded (p : Infrastructure) (s : State) : Prop := Skipped s.phase ∨ Complete p s

/-- How far the creation is. -/
def Progress (p : Infrastructure) (s : State) : Stage → Prop
  | .networks _ _ => Guarded p s
  | .routers todo => Guarded p s ∧ ∀ name ∈ p.spec.routers, name ∈ todo ∨ Has p s .router name
  | .devices todo => Guarded p s ∧ (∀ name ∈ p.spec.routers, Has p s .router name) ∧
      ∀ name ∈ p.spec.devices, name ∈ todo ∨ Has p s .device name
  | .opsAgent => Complete p s

structure Steady (p : Infrastructure) (s : State) : Prop where
  guarded : Guarded p s ∨ Childless p s
  progress : ∀ stage ∈ s.handler, Progress p s stage

theorem steady_initial (p : Infrastructure) : Steady p .initial where
  guarded := .inr fun _ _ _ h => nomatch h
  progress _ h := nomatch h

/-- No child of the spec is lost, and the phase holds back the check if it did before. -/
structure Kept (p : Infrastructure) (s s' : State) : Prop where
  has : ∀ kind, ∀ name ∈ p.spec.names kind, Has p s kind name → Has p s' kind name
  skipped : Skipped s.phase → Skipped s'.phase

theorem Kept.complete (h : Kept p s s') (hcomplete : Complete p s) : Complete p s' :=
  fun kind name hname => h.has kind name hname (hcomplete kind name hname)

theorem Kept.guarded (h : Kept p s s') : Guarded p s → Guarded p s' :=
  Or.imp h.skipped h.complete

theorem Kept.progress (h : Kept p s s') {stage : Stage} (hprogress : Progress p s stage) :
    Progress p s' stage := by
  cases stage with
  | networks todo terminating => exact h.guarded hprogress
  | routers todo =>
    refine ⟨h.guarded hprogress.1, fun name hname => ?_⟩
    exact (hprogress.2 name hname).imp_right (h.has .router name hname)
  | devices todo =>
    obtain ⟨hguarded, hrouters, hdevices⟩ := hprogress
    refine ⟨h.guarded hguarded, fun name hname => h.has .router name hname (hrouters name hname),
      fun name hname => ?_⟩
    exact (hdevices name hname).imp_right (h.has .device name hname)
  | opsAgent => exact h.complete hprogress

/-- What others do keeps the invariant if it keeps the children. -/
theorem Steady.kept (hs : Steady p s) (h : Kept p s s') (hchildless : Childless p s → Childless p s')
    (hhandler : s'.handler = s.handler) : Steady p s' where
  guarded := hs.guarded.imp h.guarded hchildless
  progress stage hstage := h.progress (hs.progress stage (hhandler ▸ hstage))

theorem kept_of_phase {phase : Option Phase} {handler : Option Stage}
    (h : Skipped s.phase → Skipped phase) : Kept p s { s with phase, handler } :=
  ⟨fun _ _ _ hhas => hhas, h⟩

/-! ## The create handler -/

theorem updateStatus_ok {phase : Phase} {w : Write} {old new : Option Phase}
    (h : updateStatus phase w old = .ok new) :
    (GoesThrough w ∧ new = some phase) ∨ (¬GoesThrough w ∧ new = old) := by
  rcases Write.apply_ok h with ⟨now, rfl, rfl⟩ | ⟨rfl, rfl⟩
  · exact .inl ⟨⟨now, rfl⟩, rfl⟩
  · exact .inr ⟨nofun, rfl⟩

/-- An update to a phase in which the check does nothing. -/
theorem skipped_updateStatus {phase : Phase} {w : Write} {old new : Option Phase}
    (h : updateStatus phase w old = .ok new) (hphase : phase ∈ skippedPhases)
    (hold : GoesThrough w ∨ Skipped old) : Skipped new := by
  rcases updateStatus_ok h with ⟨-, rfl⟩ | ⟨hlost, rfl⟩
  · exact ⟨phase, rfl, hphase⟩
  · exact hold.resolve_left hlost

theorem kept_abort (p : Infrastructure) (s : State) (w : Write) : Kept p s (s.abort w) := by
  refine kept_of_phase fun hskipped => ?_
  cases hupdate : updateStatus .error w s.phase with
  | error message => exact hskipped
  | ok phase => exact skipped_updateStatus hupdate (by decide) (.inr hskipped)

theorem steady_abort (h : Guarded p s ∨ Childless p s) (w : Write) : Steady p (s.abort w) where
  guarded := h.imp (kept_abort p s w).guarded id
  progress _ hstage := nomatch hstage

/-- The handler ends with a status that it could write. -/
theorem steady_idle (h : Guarded p s ∨ Childless p s) : Steady p { s with handler := none } where
  guarded := h
  progress _ hstage := nomatch hstage

theorem steady_withGenerated {generated : Except String (List String)}
    {stage : List String → Stage} {ans : Answers} (h : Guarded p s)
    (hprogress : ∀ names, generated = .ok names → Progress p s (stage names)) :
    Steady p (s.withGenerated generated stage ans) := by
  unfold State.withGenerated
  cases generated with
  | error message => exact steady_abort (.inl h) _
  | ok names =>
    refine ⟨.inl h, fun x hx => ?_⟩
    obtain rfl := Option.some.inj hx
    exact (kept_of_phase id).progress (hprogress names rfl)

theorem generate_ok {names names' : List String} (h : generate p kind names = .ok names') :
    names' = names := by
  unfold generate at h
  split at h
  · cases h
  · exact (Except.ok.inj h).symm

theorem steady_begin {ans : Answers} (hs : Steady p s) (hidle : s.handler = none)
    (hok : Careful p s (.begin ans)) : Steady p (s.begin p ans) := by
  unfold State.begin
  cases hvalidating : updateStatus .validating (ans.write 0) s.phase with
  | error message => exact steady_abort hs.guarded _
  | ok phase₁ =>
    have hkept₁ : Kept p s { s with phase := phase₁ } :=
      kept_of_phase fun h => skipped_updateStatus hvalidating (by decide) (.inr h)
    have hguarded₁ := hs.guarded.imp hkept₁.guarded id
    dsimp only
    cases p.spec.validation with
    | some error =>
      dsimp only
      cases herror : updateStatus .error (ans.write 1) phase₁ with
      | error message => exact steady_abort hguarded₁ _
      | ok phase₂ =>
        have hkept₂ : Kept p { s with phase := phase₁ } { s with phase := phase₂ } :=
          kept_of_phase fun h => skipped_updateStatus herror (by decide) (.inr h)
        refine ⟨hguarded₁.imp hkept₂.guarded id, fun stage hstage => ?_⟩
        cases hidle.symm.trans hstage
    | none =>
      dsimp only
      cases hprocessing : updateStatus .processing (ans.write 1) phase₁ with
      | error message => exact steady_abort hguarded₁ _
      | ok phase₂ =>
        have hkept₂ : Kept p { s with phase := phase₁ } { s with phase := phase₂ } :=
          kept_of_phase fun h => skipped_updateStatus hprocessing (by decide) (.inr h)
        dsimp only
        cases generateLinuxNetworks p with
        | error message => exact steady_abort (hguarded₁.imp hkept₂.guarded id) _
        | ok names =>
          have hguarded : Guarded p { s with phase := phase₂ } := by
            rcases hok with hwrite | hwrite | hskipped | hcomplete
            · exact .inl (hkept₂.skipped (skipped_updateStatus hvalidating (by decide) (.inl hwrite)))
            · exact .inl (skipped_updateStatus hprocessing (by decide) (.inl hwrite))
            · exact .inl (hkept₂.skipped (hkept₁.skipped hskipped))
            · exact .inr hcomplete
          refine ⟨.inl hguarded, fun stage hstage => ?_⟩
          obtain rfl := Option.some.inj hstage
          exact hguarded

/-! ### The creation of one resource -/

theorem lookup_createChild {children : Children} {key : ChildKind × String} {child : Child} :
    (createChild p kind name children).lookup key = some child ↔
      children.lookup key = some child ∨
        (key = (kind, name) ∧ (kind, name) ∉ children ∧ child = p.child) := by
  unfold createChild
  split_ifs with hmem
  · simp [hmem]
  · rcases eq_or_ne key (kind, name) with rfl | hne
    · rw [AList.lookup_insert, AList.lookup_eq_none.mpr hmem]
      simp [hmem, eq_comm]
    · rw [AList.lookup_insert_ne hne]
      simp [hne]

theorem owns_child (p : Infrastructure) : p.Owns p.child := List.mem_singleton_self _

/-- Creating a resource keeps the others. -/
theorem kept_createChild (s : State) (kind : ChildKind) (name : String) (handler : Option Stage) :
    Kept p s { s with children := createChild p kind name s.children, handler } where
  has _ _ _ := fun ⟨child, hlookup, howns⟩ =>
    ⟨child, lookup_createChild.mpr (.inl hlookup), howns⟩
  skipped := id

theorem kept_createOrKeep (s : State) (kind : ChildKind) (name : String) (ans : Answers)
    (handler : Option Stage) :
    Kept p s { s with children := createOrKeep p kind name ans s.children, handler } := by
  unfold createOrKeep
  cases ans.create with
  | performed => exact kept_createChild s kind name handler
  | raises message => exact kept_of_phase id

theorem has_of_creates {ans : Answers} (h : Creates p s kind name ans) (handler : Option Stage) :
    Has p { s with children := createOrKeep p kind name ans s.children, handler } kind name := by
  unfold createOrKeep
  rw [h.1]
  cases hlookup : s.children.lookup (kind, name) with
  | none =>
    exact ⟨p.child, lookup_createChild.mpr (.inr ⟨rfl, AList.lookup_eq_none.mp hlookup, rfl⟩),
      owns_child p⟩
  | some child => exact ⟨child, lookup_createChild.mpr (.inl hlookup), h.2 child hlookup⟩

theorem createLinuxNetwork_children (name : String) (ans : Answers) (children : Children) :
    (createLinuxNetwork p name ans children).1 = children ∨
      (createLinuxNetwork p name ans children).1 = createChild p .network name children := by
  unfold createLinuxNetwork
  split
  · exact .inl rfl
  · split
    · exact .inl rfl
    · exact .inr rfl

/-- One more of the resources to create exists. -/
theorem next_created (kind : ChildKind) {todo : List String}
    (h : ∀ x ∈ p.spec.names kind, x ∈ name :: todo ∨ Has p s kind x) (hkept : Kept p s s')
    (hnew : Has p s' kind name) : ∀ x ∈ p.spec.names kind, x ∈ todo ∨ Has p s' kind x := by
  intro x hx
  rcases h x hx with hmem | hhas
  · rcases List.mem_cons.mp hmem with rfl | hmem
    · exact .inr hnew
    · exact .inl hmem
  · exact .inr (hkept.has kind x hx hhas)

theorem steady_call {ans : Answers} {stage : Stage} (hs : Steady p s)
    (hstage : s.handler = some stage) (hok : Careful p s (.call ans)) :
    Steady p (s.call p ans stage) := by
  have hprogress := hs.progress stage hstage
  cases stage with
  | networks todo terminating =>
    cases todo with
    | nil =>
      unfold State.call
      dsimp only
      split_ifs
      · exact steady_idle (.inl hprogress)
      · exact steady_withGenerated hprogress fun names hnames =>
          ⟨hprogress, fun name hname => .inl (generate_ok hnames ▸ hname)⟩
    | cons name todo =>
      have hkept : Kept p s { s with
          children := (createLinuxNetwork p name ans s.children).1,
          handler := (s.call p ans (.networks (name :: todo) terminating)).handler } := by
        rcases createLinuxNetwork_children (p := p) name ans s.children with h | h
        · rw [h]
          exact kept_of_phase id
        · rw [h]
          exact kept_createChild s .network name _
      exact ⟨.inl (hkept.guarded hprogress), fun stage hstage => by
        obtain rfl := Option.some.inj hstage
        exact hkept.guarded hprogress⟩
  | routers todo =>
    obtain ⟨hguarded, hrouters⟩ := hprogress
    cases todo with
    | nil =>
      have hall : ∀ name ∈ p.spec.routers, Has p s .router name := fun name hname =>
        (hrouters name hname).resolve_left List.not_mem_nil
      exact steady_withGenerated hguarded fun names hnames =>
        ⟨hguarded, hall, fun name hname => .inl (generate_ok hnames ▸ hname)⟩
    | cons name todo =>
      have hcreates : Creates p s .router name ans := by
        unfold Careful at hok
        rw [hstage] at hok
        exact hok
      have hkept := kept_createOrKeep (p := p) s .router name ans (some (.routers todo))
      refine ⟨.inl (hkept.guarded hguarded), fun stage hstage => ?_⟩
      obtain rfl := Option.some.inj hstage
      exact ⟨hkept.guarded hguarded,
        next_created .router hrouters hkept (has_of_creates hcreates _)⟩
  | devices todo =>
    obtain ⟨hguarded, hrouters, hdevices⟩ := hprogress
    cases todo with
    | nil =>
      have hcomplete : Complete p s := by
        intro kind name hname
        cases kind with
        | router => exact hrouters name hname
        | network => cases hname
        | device => exact (hdevices name hname).resolve_left List.not_mem_nil
      unfold State.call
      dsimp only
      cases updateStatus .creating (ans.write 0) s.phase with
      | error message => exact steady_abort (.inl (.inr hcomplete)) _
      | ok phase =>
        refine ⟨.inl (.inr hcomplete), fun stage hstage => ?_⟩
        obtain rfl := Option.some.inj hstage
        exact hcomplete
    | cons name todo =>
      have hcreates : Creates p s .device name ans := by
        unfold Careful at hok
        rw [hstage] at hok
        exact hok
      have hkept := kept_createOrKeep (p := p) s .device name ans (some (.devices todo))
      refine ⟨.inl (hkept.guarded hguarded), fun stage hstage => ?_⟩
      obtain rfl := Option.some.inj hstage
      exact ⟨hkept.guarded hguarded, fun router hrouter =>
        hkept.has .router router hrouter (hrouters router hrouter),
        next_created .device hdevices hkept (has_of_creates hcreates _)⟩
  | opsAgent =>
    unfold State.call
    dsimp only
    split
    · exact steady_abort (.inl (.inr hprogress)) _
    · exact steady_idle (.inl (.inr hprogress))

/-! ## Runs -/

/-- A child that changes keeps its owners. -/
theorem steady_insert {child child' : Child} (hs : Steady p s)
    (hlookup : s.children.lookup (kind, name) = some child) (howners : child'.owners = child.owners) :
    Steady p { s with children := s.children.insert (kind, name) child' } := by
  have howns : p.Owns child' = p.Owns child := by
    unfold Infrastructure.Owns
    rw [howners]
  have hclaims : p.claims child' = p.claims child := by
    unfold Infrastructure.claims
    rw [howners]
  refine hs.kept ⟨fun kind' name' _ hhas => ?_, id⟩ (fun hchildless kind' name' c hc hkind => ?_) rfl
  · rcases eq_or_ne (kind', name') (kind, name) with heq | hne
    · obtain ⟨c, hc, hcowns⟩ := hhas
      cases heq
      obtain rfl := Option.some.inj (hlookup.symm.trans hc)
      exact ⟨child', AList.lookup_insert _, howns ▸ hcowns⟩
    · obtain ⟨c, hc, hcowns⟩ := hhas
      exact ⟨c, (AList.lookup_insert_ne hne).trans hc, hcowns⟩
  · rcases eq_or_ne (kind', name') (kind, name) with heq | hne
    · cases heq
      obtain rfl := Option.some.inj ((AList.lookup_insert _).symm.trans hc)
      exact hclaims.trans (hchildless kind name child hlookup hkind)
    · exact hchildless kind' name' c ((AList.lookup_insert_ne hne).symm.trans hc) hkind

theorem steady_createOther {child : Child} (hs : Steady p s) (hnew : (kind, name) ∉ s.children)
    (hclaims : p.claims child = false) :
    Steady p { s with children := s.children.insert (kind, name) child } := by
  refine hs.kept ⟨fun kind' name' _ hhas => ?_, id⟩ (fun hchildless kind' name' c hc hkind => ?_) rfl
  · obtain ⟨c, hc, hcowns⟩ := hhas
    have hne : (kind', name') ≠ (kind, name) := by
      rintro heq
      exact hnew (heq ▸ AList.lookup_isSome.mp (Option.isSome_of_mem hc))
    exact ⟨c, (AList.lookup_insert_ne hne).trans hc, hcowns⟩
  · rcases eq_or_ne (kind', name') (kind, name) with heq | hne
    · cases heq
      obtain rfl := Option.some.inj ((AList.lookup_insert _).symm.trans hc)
      exact hclaims
    · exact hchildless kind' name' c ((AList.lookup_insert_ne hne).symm.trans hc) hkind

theorem steady_remove (hs : Steady p s) (hok : name ∈ p.spec.names kind → ¬Has p s kind name) :
    Steady p { s with children := s.children.erase (kind, name) } := by
  refine hs.kept ⟨fun kind' name' hname hhas => ?_, id⟩
    (fun hchildless kind' name' c hc hkind => ?_) rfl
  · have hne : (kind', name') ≠ (kind, name) := by
      rintro heq
      cases heq
      exact hok hname hhas
    obtain ⟨c, hc, hcowns⟩ := hhas
    exact ⟨c, (AList.lookup_erase_ne hne).trans hc, hcowns⟩
  · rcases eq_or_ne (kind', name') (kind, name) with heq | hne
    · cases heq
      cases (AList.lookup_erase ..).symm.trans hc
    · exact hchildless kind' name' c ((AList.lookup_erase_ne hne).symm.trans hc) hkind

/-- The check writes only if all children of the spec exist. -/
theorem complete_of_checkParent {ans : CheckAnswers} {phase : Phase} (hs : Steady p s)
    (h : checkParent p s ans = some phase) : Complete p s := by
  rcases hs.guarded with (hskipped | hcomplete) | hchildless
  · exact absurd hskipped (checkParent_spec h).1
  · exact hcomplete
  · exact absurd hchildless (not_childless_of_checkParent h)

theorem steady_check (hs : Steady p s) (ans : CheckAnswers) : Steady p (s.check p ans) := by
  unfold State.check
  split
  · exact hs
  · rename_i phase hphase
    have hcomplete := complete_of_checkParent hs hphase
    refine ⟨.inl (.inr hcomplete), fun stage hstage => ?_⟩
    have hprogress := hs.progress stage hstage
    cases stage with
    | networks todo terminating => exact .inr hcomplete
    | routers todo => exact ⟨.inr hcomplete, hprogress.2⟩
    | devices todo => exact ⟨.inr hcomplete, hprogress.2⟩
    | opsAgent => exact hcomplete

/-- A careful event keeps the invariant. -/
theorem steady_step (hs : Steady p s) (hok : Careful p s e) (hstep : step p s e = some s') :
    Steady p s' := by
  cases e with
  | begin ans =>
    change (if s.handler = none then some (s.begin p ans) else none) = some s' at hstep
    split_ifs at hstep with hidle
    obtain rfl := Option.some.inj hstep
    exact steady_begin hs hidle hok
  | call ans =>
    obtain ⟨stage, hstage, rfl⟩ := Option.map_eq_some_iff.mp hstep
    exact steady_call hs hstage hok
  | check ans =>
    obtain rfl := Option.some.inj hstep
    exact steady_check hs ans
  | setPhase kind name phase =>
    obtain ⟨child, hlookup, rfl⟩ := Option.map_eq_some_iff.mp hstep
    exact steady_insert hs hlookup rfl
  | createOther kind name child =>
    change (if (kind, name) ∈ s.children then none
      else some { s with children := s.children.insert (kind, name) child }) = some s' at hstep
    split_ifs at hstep with hmem
    obtain rfl := Option.some.inj hstep
    exact steady_createOther hs hmem hok
  | terminate kind name =>
    obtain ⟨child, hlookup, rfl⟩ := Option.map_eq_some_iff.mp hstep
    exact steady_insert hs hlookup rfl
  | remove kind name =>
    obtain rfl := Option.some.inj hstep
    exact steady_remove hs hok
  | restart =>
    obtain rfl := Option.some.inj hstep
    exact steady_idle hs.guarded

/-! ### Ready -/

/-- The event writes phase Ready. -/
def WritesReady (p : Infrastructure) (s : State) (e : Event) : Prop :=
  ∃ ans, e = .check ans ∧ checkParent p s ans = some .ready

theorem ready_of_updateStatus {phase : Phase} {w : Write} {old new : Option Phase}
    (h : updateStatus phase w old = .ok new) (hphase : phase ≠ .ready)
    (hready : new = some .ready) : old = some .ready := by
  rcases updateStatus_ok h with ⟨-, rfl⟩ | ⟨-, rfl⟩
  · exact absurd (Option.some.inj hready) hphase
  · exact hready

theorem ready_of_abort {w : Write} (h : (s.abort w).phase = some .ready) :
    s.phase = some .ready := by
  unfold State.abort at h
  dsimp only at h
  cases hupdate : updateStatus .error w s.phase with
  | error message =>
    rw [hupdate] at h
    exact h
  | ok phase =>
    rw [hupdate] at h
    exact ready_of_updateStatus hupdate (by decide) h

theorem ready_of_begin {ans : Answers} (h : (s.begin p ans).phase = some .ready) :
    s.phase = some .ready := by
  unfold State.begin at h
  cases hvalidating : updateStatus .validating (ans.write 0) s.phase with
  | error message =>
    rw [hvalidating] at h
    exact ready_of_abort h
  | ok phase₁ =>
    refine ready_of_updateStatus hvalidating (by decide) ?_
    rw [hvalidating] at h
    dsimp only at h
    split at h
    · split at h
      · exact ready_of_abort h
      · rename_i herror
        exact ready_of_updateStatus herror (by decide) h
    · split at h
      · exact ready_of_abort h
      · rename_i hprocessing
        refine ready_of_updateStatus hprocessing (by decide) ?_
        split at h
        · exact ready_of_abort h
        · exact h

theorem ready_of_withGenerated {generated : Except String (List String)}
    {stage : List String → Stage} {ans : Answers}
    (h : (s.withGenerated generated stage ans).phase = some .ready) : s.phase = some .ready := by
  unfold State.withGenerated at h
  split at h
  · exact ready_of_abort h
  · exact h

theorem ready_of_call {ans : Answers} {stage : Stage}
    (h : (s.call p ans stage).phase = some .ready) : s.phase = some .ready := by
  unfold State.call at h
  split at h
  · exact h
  · split_ifs at h
    · exact h
    · exact ready_of_withGenerated h
  · exact h
  · exact ready_of_withGenerated h
  · exact h
  · split at h
    · exact ready_of_abort h
    · rename_i hcreating
      exact ready_of_updateStatus hcreating (by decide) h
  · split at h
    · exact ready_of_abort h
    · exact h

/-- Only the check makes the phase Ready. -/
theorem writesReady_of_step (hstep : step p s e = some s') (hready : s'.phase = some .ready) :
    s.phase = some .ready ∨ WritesReady p s e := by
  cases e with
  | begin ans =>
    change (if s.handler = none then some (s.begin p ans) else none) = some s' at hstep
    split_ifs at hstep
    obtain rfl := Option.some.inj hstep
    exact .inl (ready_of_begin hready)
  | call ans =>
    obtain ⟨stage, -, rfl⟩ := Option.map_eq_some_iff.mp hstep
    exact .inl (ready_of_call hready)
  | check ans =>
    obtain rfl := Option.some.inj hstep
    unfold State.check at hready
    split at hready
    · exact .inl hready
    · rename_i phase hphase
      cases hupdate : updateStatus phase ans.write s.phase with
      | error message =>
        rw [hupdate] at hready
        exact .inl hready
      | ok new =>
        rw [hupdate] at hready
        by_cases hne : phase = .ready
        · exact .inr ⟨ans, rfl, hne ▸ hphase⟩
        · exact .inl (ready_of_updateStatus hupdate hne hready)
  | setPhase kind name phase =>
    obtain ⟨child, -, rfl⟩ := Option.map_eq_some_iff.mp hstep
    exact .inl hready
  | createOther kind name child =>
    change (if (kind, name) ∈ s.children then none
      else some { s with children := s.children.insert (kind, name) child }) = some s' at hstep
    split_ifs at hstep
    obtain rfl := Option.some.inj hstep
    exact .inl hready
  | terminate kind name =>
    obtain ⟨child, -, rfl⟩ := Option.map_eq_some_iff.mp hstep
    exact .inl hready
  | remove kind name =>
    obtain rfl := Option.some.inj hstep
    exact .inl hready
  | restart =>
    obtain rfl := Option.some.inj hstep
    exact .inl hready

/-- The event writes Ready, or makes the phase Ready, only when all is ready. -/
def Honest (p : Infrastructure) (s : State) (e : Event) : Prop :=
  (WritesReady p s e ∨
      ∃ s' ∈ step p s e, s'.phase = some .ready ∧ s.phase ≠ some .ready) → AllReady p s

/-- **Ready means ready.** In a run whose events are all careful, the phase is set to Ready only
when every router of the spec exists and is Running and every device exists and is Ready. -/
theorem ready_means_ready (p : Infrastructure) {events : List Event}
    (hok : Throughout (step p) (Careful p) .initial events) :
    Throughout (step p) (Honest p) .initial events := by
  refine hok.imp (I := Steady p) (fun s e hs hok hready => ?_)
    (fun s e s' hs hok hstep => steady_step hs hok hstep) (steady_initial p)
  have hwrites : WritesReady p s e := by
    rcases hready with hwrites | ⟨s', hstep, hready, hne⟩
    · exact hwrites
    · exact (writesReady_of_step hstep hready).resolve_left hne
  obtain ⟨ans, rfl, hcheck⟩ := hwrites
  exact allReady_of_checkParent hcheck (complete_of_checkParent hs hcheck) hok

/-! ### Two routers -/

def sampleInfrastructure : Infrastructure where
  name := "lab-infra"
  uid := 7
  spec :=
    { validation := none
      networks := []
      routers := ["pe1", "pe2"]
      devices := []
      generation := fun _ => none }

def sampleAnswers (create : CreateAnswer) : Answers :=
  ⟨create, .listed, fun _ => .done "2025-01-01T00:00:00Z", none⟩

def sampleCheck : CheckAnswers := ⟨.listed, .listed, .listed, .done "2025-01-01T00:00:00Z"⟩

/-- The handler runs, with these answers for the two routers. -/
def sampleHandler (first second : CreateAnswer) : List Event :=
  [.begin (sampleAnswers .performed), .call (sampleAnswers .performed),
    .call (sampleAnswers first), .call (sampleAnswers second),
    .call (sampleAnswers .performed), .call (sampleAnswers .performed)]

theorem ready_means_ready_sample : Throughout (step sampleInfrastructure)
    (Honest sampleInfrastructure) .initial
    (sampleHandler .performed .performed ++ [.setPhase .router "pe1" (some "Running"),
      .setPhase .router "pe2" (some "Running"), .check sampleCheck]) := by
  refine ready_means_ready sampleInfrastructure ?_
  refine .of_step (.inl ⟨_, rfl⟩) rfl (.of_step trivial rfl ?_)
  refine .of_step ⟨rfl, nofun⟩ rfl (.of_step ⟨rfl, nofun⟩ rfl ?_)
  refine .of_step trivial rfl (.of_step trivial rfl ?_)
  exact .of_step trivial rfl (.of_step trivial rfl (.of_step nofun rfl throughout_nil))

/-- The creation of a router fails, and the infrastructure becomes Ready without it. -/
theorem ready_without_router : ¬∀ (p : Infrastructure) (events : List Event),
    Throughout (step p) (Honest p) .initial events := by
  intro h
  have hrun : run (step sampleInfrastructure) .initial
      (sampleHandler .performed (.raises "500") ++ [.setPhase .router "pe1" (some "Running")]) =
        some _ := rfl
  have hcheck := ((throughout_append hrun).mp
    (h sampleInfrastructure (_ ++ [.check sampleCheck]))).2.1 (.inl ⟨sampleCheck, rfl, by decide⟩)
  obtain ⟨child, hlookup, -⟩ := hcheck .router "pe2" (by decide)
  cases hlookup

end GnnSandbox.Operator.Creation
