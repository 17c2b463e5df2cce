import GnnSandbox.Bench.Selection

/-!
# Independent specs commute

A spec that finishes is one computation on the projections with a footprint, started from
the generator of its own id. What it writes to the ledger, apart from number and date,
depends on that computation only.
-/

namespace GnnSandbox.Bench

open Raise

variable {env : Env}

namespace DefectSpec

/-- The tables that a spec reads: those of its candidates and those that its class looks at. -/
def reads (spec : DefectSpec) : Set Loc :=
  match resolve spec.className with
  | .ok c =>
    own (c.pool spec.targetProjection) (c.table spec.targetEntityType) ∪
      c.applyReads spec.targetProjection spec.parameters (c.table spec.targetEntityType)
  | .error _ => ∅

/-- The tables that a spec writes. -/
def writes (spec : DefectSpec) : Set Loc :=
  match resolve spec.className with
  | .ok c => c.applyWrites spec.targetProjection spec.parameters (c.table spec.targetEntityType)
  | .error _ => ∅

theorem writes_subset_reads (spec : DefectSpec) : spec.writes ⊆ spec.reads := by
  unfold writes reads
  cases resolve spec.className with
  | ok c => exact (c.applyWrites_subset _ _ _).trans Set.subset_union_right
  | error e => exact subset_rfl

end DefectSpec

/-! ## A spec as one computation -/

/-- The entities of a spec and what it does to each of them. -/
def applyAll (spec : DefectSpec) (c : DefectClass) :
    List EntityRef → Inject env (List (EntityRef × Mutation))
  | [] => return []
  | entity :: entities => do
    let mutation ← c.apply spec.targetProjection entity spec.parameters
    let rest ← applyAll spec c entities
    return (entity, mutation) :: rest

def specProgram (spec : DefectSpec) : Inject env (List (EntityRef × Mutation)) := do
  let c ← liftM (resolve spec.className)
  let entities ← selected env spec c
  applyAll spec c entities

theorem footprint_applyAll {R W : Set Loc} {spec : DefectSpec} {c : DefectClass}
    {entities : List EntityRef}
    (h : ∀ e ∈ entities, Footprint R W
      (c.apply spec.targetProjection e spec.parameters : Inject env _)) :
    Footprint R W (applyAll spec c entities : Inject env _) := by
  induction entities with
  | nil => exact .pure _
  | cons e l ih =>
    exact .bind (h e (List.mem_cons_self ..)) fun m =>
      .bind (ih fun e' he' => h e' (List.mem_cons_of_mem _ he')) fun rest => .pure _

/-- **The footprint of a spec**: what it reads and what it writes. -/
theorem footprint_specProgram (spec : DefectSpec) :
    Footprint spec.reads spec.writes (specProgram spec : Inject env _) := by
  refine .liftExcept_bind fun c hc => ?_
  unfold DefectSpec.reads DefectSpec.writes
  rw [hc]
  refine (footprint_selected spec c Set.subset_union_left).bind_of
    (fun _ _ _ hrun => Runs.selected_table hrun) fun entities htable => ?_
  refine footprint_applyAll fun e he => ?_
  have hfoot := @DefectClass.footprint_apply env c spec.targetProjection e spec.parameters
  rw [htable e he] at hfoot
  exact hfoot.mono_read (c.applyWrites_subset _ _ _) Set.subset_union_right

/-! ## Records without number and date -/

/-- A record without `defect_id` and `applied_at`. -/
def DefectRecord.anonymous (r : DefectRecord) : DefectRecord :=
  { r with defectId := "", appliedAt := "" }

/-- The record of a mutation, without number and date. -/
def anonymousRecord (sc : Scenario) (spec : DefectSpec) (c : DefectClass) (entity : EntityRef)
    (mutation : Mutation) : DefectRecord :=
  { defectId := ""
    scenario := sc.name
    seed := sc.seed
    defectClass := spec.className
    isoDimension := c.isoDimension
    sidEntityType :=
      ((Graph.truthy spec.targetEntityType).or (Graph.truthy (some c.defaultSidEntityType))).getD
        entity.table
    targetProjection := spec.targetProjection
    targetEntity := entity
    mutation
    appliedAt := "" }

/-- The records of a spec, without number and date. -/
def anonymousRecords (sc : Scenario) (spec : DefectSpec) (l : List (EntityRef × Mutation)) :
    List DefectRecord :=
  match resolve spec.className with
  | .ok c => (l.filter fun p => p.2.kind ≠ "noop").map fun p => anonymousRecord sc spec c p.1 p.2
  | .error _ => []

/-- The ledger without numbers and dates. -/
def RunState.anonymousLedger (st : RunState env) : List DefectRecord :=
  st.ledger.map DefectRecord.anonymous

section Connect

variable {sc : Scenario} {capturedAt : String}

theorem anonymous_makeRecord {spec : DefectSpec} {c : DefectClass} {entity : EntityRef}
    {mutation : Mutation} {counter : ℕ} {r : DefectRecord}
    (h : makeRecord env sc capturedAt spec c entity mutation counter = some r) :
    r.anonymous = anonymousRecord sc spec c entity mutation := by
  obtain ⟨appliedAt, -, rfl⟩ := Option.map_eq_some_iff.mp h
  rfl

/-- The loop over the entities, when it finishes, runs the computation of the spec. -/
theorem applyEntities_ok {spec : DefectSpec} {c : DefectClass} (hc : resolve spec.className = .ok c)
    {entities : List EntityRef} {g : env.rng.State} {st st' : RunState env}
    (h : applyEntities env sc capturedAt spec c entities g st = (.ok (), st')) :
    ∃ l g', Runs (applyAll spec c entities) (g, st.views) l (g', st'.views) ∧
      st'.anonymousLedger = st.anonymousLedger ++ anonymousRecords sc spec l := by
  induction entities generalizing g st with
  | nil =>
    cases h
    refine ⟨[], g, runs_pure.mpr ⟨rfl, rfl⟩, ?_⟩
    unfold anonymousRecords
    rw [hc]
    exact (List.append_nil _).symm
  | cons e entities ih =>
    unfold applyEntities at h
    split at h
    · cases h
    · next m g₁ views hrun =>
      have hstep : ∀ {l g'}, Runs (applyAll spec c entities) (g₁, views) l (g', st'.views) →
          Runs (applyAll spec c (e :: entities)) (g, st.views) ((e, m) :: l) (g', st'.views) :=
        fun hl => runs_bind.mpr ⟨m, _, hrun, runs_bind.mpr ⟨_, _, hl, runs_pure.mpr ⟨rfl, rfl⟩⟩⟩
      split at h
      · next hkind =>
        obtain ⟨l, g', hl, hledger⟩ := ih h
        refine ⟨(e, m) :: l, g', hstep hl, ?_⟩
        rw [hledger]
        unfold anonymousRecords RunState.anonymousLedger RunState.ledger
        simp [hc, hkind]
      · next hkind =>
        split at h
        · cases h
        · next r hr =>
          obtain ⟨l, g', hl, hledger⟩ := ih h
          refine ⟨(e, m) :: l, g', hstep hl, ?_⟩
          rw [hledger]
          unfold anonymousRecords RunState.anonymousLedger RunState.ledger
          simp [hc, hkind, anonymous_makeRecord hr]

/-- `_apply_defect`, when it finishes, runs the computation of the spec. -/
theorem applyDefect_ok {spec : DefectSpec} {st st' : RunState env}
    (h : applyDefect env sc capturedAt spec st = (.ok (), st')) :
    ∃ l g', Runs (specProgram spec) (env.rng.seeded sc.seed spec.id, st.views) l (g', st'.views) ∧
      st'.anonymousLedger = st.anonymousLedger ++ anonymousRecords sc spec l := by
  unfold applyDefect at h
  split at h
  · cases h
  · next c hc =>
    split at h
    · cases h
    · next entities g views hsel =>
      obtain ⟨l, g', hl, hledger⟩ := applyEntities_ok hc h
      exact ⟨l, g', runs_liftExcept_bind.mpr ⟨c, hc, runs_bind.mpr ⟨_, _, hsel, hl⟩⟩, hledger⟩

/-- The projections and the anonymous ledger that a run of specs ends with are determined by
the projections that it starts from. -/
theorem runDefects_ok_unique {specs : List DefectSpec} {st st' u u' : RunState env}
    (h : runDefects env sc capturedAt specs st = (.ok (), st'))
    (h' : runDefects env sc capturedAt specs u = (.ok (), u')) (hviews : u.views = st.views) :
    u'.views = st'.views ∧ ∃ l, st'.anonymousLedger = st.anonymousLedger ++ l ∧
      u'.anonymousLedger = u.anonymousLedger ++ l := by
  induction specs generalizing st u with
  | nil =>
    cases h
    cases h'
    exact ⟨hviews, [], (List.append_nil _).symm, (List.append_nil _).symm⟩
  | cons spec specs ih =>
    unfold runDefects at h h'
    split at h
    · cases h
    · next st₁ hst =>
      split at h'
      · cases h'
      · next u₁ hu =>
        obtain ⟨l, g, hl, hledger⟩ := applyDefect_ok hst
        obtain ⟨k, g', hk, hledger'⟩ := applyDefect_ok hu
        rw [hviews] at hk
        obtain ⟨rfl, heq⟩ := hl.unique hk
        obtain ⟨hend, l', hrest, hrest'⟩ := ih h h' (Prod.mk.inj heq).2
        refine ⟨hend, anonymousRecords sc spec k ++ l', ?_, ?_⟩
        · rw [hrest, hledger, List.append_assoc]
        · rw [hrest', hledger', List.append_assoc]

/-- A run of specs splits. -/
theorem runDefects_append {specs specs' : List DefectSpec} {st st' : RunState env}
    (h : runDefects env sc capturedAt (specs ++ specs') st = (.ok (), st')) :
    ∃ u, runDefects env sc capturedAt specs st = (.ok (), u) ∧
      runDefects env sc capturedAt specs' u = (.ok (), st') := by
  induction specs generalizing st with
  | nil => exact ⟨st, rfl, h⟩
  | cons spec specs ih =>
    rw [List.cons_append] at h
    unfold runDefects at h
    rw [runDefects]
    split at h
    · cases h
    · exact ih h

/-- A run of specs begins with its first spec. -/
theorem runDefects_cons {spec : DefectSpec} {specs : List DefectSpec} {st st' : RunState env}
    (h : runDefects env sc capturedAt (spec :: specs) st = (.ok (), st')) :
    ∃ u, applyDefect env sc capturedAt spec st = (.ok (), u) ∧
      runDefects env sc capturedAt specs u = (.ok (), st') := by
  unfold runDefects at h
  split at h
  · cases h
  · next u hu => exact ⟨u, hu, h⟩

/-- Two independent specs end in the same projections in both orders, with the same records. -/
theorem applyDefect_swap {a b : DefectSpec} (hab : Disjoint a.writes b.reads)
    (hba : Disjoint b.writes a.reads) {st st₁ st₂ u₁ u₂ : RunState env}
    (h₁ : applyDefect env sc capturedAt a st = (.ok (), st₁))
    (h₂ : applyDefect env sc capturedAt b st₁ = (.ok (), st₂)) {v : RunState env}
    (hviews : v.views = st.views)
    (k₁ : applyDefect env sc capturedAt b v = (.ok (), u₁))
    (k₂ : applyDefect env sc capturedAt a u₁ = (.ok (), u₂)) :
    u₂.views = st₂.views ∧ ∃ l l', st₂.anonymousLedger = st.anonymousLedger ++ (l ++ l') ∧
      u₂.anonymousLedger = v.anonymousLedger ++ (l' ++ l) := by
  obtain ⟨l, ga, hl, hst₁⟩ := applyDefect_ok h₁
  obtain ⟨l', gb, hl', hst₂⟩ := applyDefect_ok h₂
  obtain ⟨m', gb', hm', hu₁⟩ := applyDefect_ok k₁
  obtain ⟨m, ga', hm, hu₂⟩ := applyDefect_ok k₂
  obtain ⟨w, hw, hw'⟩ := (footprint_specProgram a).commute (footprint_specProgram b)
    a.writes_subset_reads b.writes_subset_reads hab hba hl hl'
  rw [hviews] at hm'
  obtain ⟨rfl, heq⟩ := hw.unique hm'
  rw [← (Prod.mk.inj heq).2] at hw'
  obtain ⟨rfl, heq'⟩ := hw'.unique hm
  refine ⟨(Prod.mk.inj heq').2, anonymousRecords sc a m, anonymousRecords sc b m', ?_, ?_⟩
  · rw [hst₂, hst₁, List.append_assoc]
  · rw [hu₂, hu₁, List.append_assoc]

/-- The list of defects is only run through, never looked at. -/
theorem applyEntities_defects {ds : List DefectSpec} {spec : DefectSpec} {c : DefectClass}
    {entities : List EntityRef} {g : env.rng.State} {st : RunState env} :
    applyEntities env { sc with defects := ds } capturedAt spec c entities g st =
      applyEntities env sc capturedAt spec c entities g st := by
  induction entities generalizing g st with
  | nil => rfl
  | cons e entities ih =>
    unfold applyEntities
    simp only [ih]
    rfl

theorem runDefects_defects {ds specs : List DefectSpec} {st : RunState env} :
    runDefects env { sc with defects := ds } capturedAt specs st =
      runDefects env sc capturedAt specs st := by
  induction specs generalizing st with
  | nil => rfl
  | cons spec specs ih =>
    have hdefect : applyDefect env { sc with defects := ds } capturedAt spec st =
        applyDefect env sc capturedAt spec st := by
      unfold applyDefect
      simp only [applyEntities_defects]
    unfold runDefects
    rw [hdefect]
    simp only [ih]

end Connect

/-- **Order independence of independent defects**: exchanging two adjacent specs of which
neither writes a table that the other reads or writes gives the same projections and the
same records, apart from their numbers and dates. -/
theorem swap_independent (env : Env) (sc : Scenario) (twin : GoldenTwin)
    (before after : List DefectSpec) (a b : DefectSpec)
    (hab : Disjoint a.writes (b.reads ∪ b.writes)) (hba : Disjoint b.writes (a.reads ∪ a.writes))
    (st u : RunState env)
    (h : runOn env { sc with defects := before ++ a :: b :: after } twin = (.ok (), st))
    (h' : runOn env { sc with defects := before ++ b :: a :: after } twin = (.ok (), u)) :
    u.views = st.views ∧ u.anonymousLedger.Perm st.anonymousLedger := by
  unfold runOn at h h'
  rw [runDefects_defects] at h h'
  obtain ⟨s, hs, hrest⟩ := runDefects_append h
  obtain ⟨s', hs', hrest'⟩ := runDefects_append h'
  obtain rfl : s = s' := (Prod.mk.inj (hs.symm.trans hs')).2
  obtain ⟨st₁, ha, hrest⟩ := runDefects_cons hrest
  obtain ⟨st₂, hb, hrest⟩ := runDefects_cons hrest
  obtain ⟨u₁, hb', hrest'⟩ := runDefects_cons hrest'
  obtain ⟨u₂, ha', hrest'⟩ := runDefects_cons hrest'
  have hreads : Disjoint a.writes b.reads := hab.mono_right Set.subset_union_left
  have hreads' : Disjoint b.writes a.reads := hba.mono_right Set.subset_union_left
  obtain ⟨hviews, l, l', hl, hl'⟩ := applyDefect_swap hreads hreads' ha hb rfl hb' ha'
  obtain ⟨hend, k, hk, hk'⟩ := runDefects_ok_unique hrest hrest' hviews
  refine ⟨hend, ?_⟩
  rw [hk, hk', hl, hl']
  exact ((List.perm_append_comm).append_left _).append_right _

theorem swap_independent_sample :
    let a := DefectSpec.sample "a" MissingAttribute.name .catalog "PhysicalRouter"
      [("attribute", .str "vendor")]
    let b := DefectSpec.sample "b" MissingAttribute.name .telemetry "Device"
      [("attribute", .str "status")]
    (runOn .plain (.sample [b, a]) .sample).2.views = (runOn .plain (.sample [a, b]) .sample).2.views ∧
      (runOn .plain (.sample [b, a]) .sample).2.anonymousLedger.Perm
        (runOn .plain (.sample [a, b]) .sample).2.anonymousLedger := by
  intro a b
  have hwrites : a.writes = own .catalog "PhysicalRouter" := rfl
  have hreads : a.reads = own .catalog "PhysicalRouter" ∪ own .catalog "PhysicalRouter" := rfl
  have hwrites' : b.writes = own .telemetry "Device" := rfl
  have hreads' : b.reads = own .telemetry "Device" ∪ own .telemetry "Device" := rfl
  have hdisj : Disjoint (own .catalog "PhysicalRouter") (own .telemetry "Device") := by
    rw [Set.disjoint_left]
    rintro loc ⟨hside, -⟩ ⟨hside', -⟩
    rw [hside] at hside'
    cases hside'
  refine swap_independent .plain (.sample []) .sample [] [] a b ?_ ?_ _ _
    (Prod.ext (by decide +kernel) rfl) (Prod.ext (by decide +kernel) rfl)
  · rw [hwrites, hreads', hwrites', Set.union_self, Set.union_self]
    exact hdisj
  · rw [hwrites', hreads, hwrites, Set.union_self, Set.union_self]
    exact hdisj.symm

end GnnSandbox.Bench
