import GnnSandbox.Bench.Defects.Registry
import GnnSandbox.Bench.Loader
import GnnSandbox.Bench.Env

/-!
# Running the defects of a scenario

`_apply_defect` selects entities and applies the class of a spec to one after the other.
Every call that changes something leaves a record in the ledger. A run that raises has
written the records up to there.
-/

namespace GnnSandbox.Bench

open Raise

structure Scenario where
  name : String
  seed : ℤ
  goldenTwin : String
  catalogDir : String
  telemetryPath : String
  ledgerPath : String
  defects : List DefectSpec
deriving DecidableEq

structure DefectRecord where
  defectId : String
  scenario : String
  seed : ℤ
  defectClass : String
  isoDimension : String
  sidEntityType : String
  targetProjection : TargetProjection
  targetEntity : EntityRef
  mutation : Mutation
  appliedAt : String
deriving DecidableEq

/-- A call of `apply` that returned: the state before and after it, and the record that was
written about it. -/
structure Application (env : Env) where
  spec : DefectSpec
  cls : DefectClass
  entity : EntityRef
  rng : env.rng.State
  before : Views
  mutation : Mutation
  after : Views
  record : Option DefectRecord

/-- Where a run is: the projections, the counter, and the calls that have returned. -/
structure RunState (env : Env) where
  views : Views
  counter : ℕ
  applied : List (Application env)

/-- The lines of the ledger. -/
def RunState.ledger {env : Env} (st : RunState env) : List DefectRecord :=
  st.applied.filterMap Application.record

/-- The defect classes start from a copy of the twin on both sides. -/
def RunState.start (env : Env) (twin : GoldenTwin) : RunState env := ⟨buildProjections twin, 0, []⟩

variable (env : Env) (sc : Scenario) (capturedAt : String)

/-- The record of the mutation with the number `counter`; `none` when its date is out of range. -/
def makeRecord (spec : DefectSpec) (cls : DefectClass) (entity : EntityRef) (mutation : Mutation)
    (counter : ℕ) : Option DefectRecord :=
  (env.secondsLater capturedAt counter).map fun appliedAt =>
    { defectId := "d-" ++ pad4 counter
      scenario := sc.name
      seed := sc.seed
      defectClass := spec.className
      isoDimension := cls.isoDimension
      sidEntityType :=
        ((Graph.truthy spec.targetEntityType).or (Graph.truthy (some cls.defaultSidEntityType))).getD
          entity.table
      targetProjection := spec.targetProjection
      targetEntity := entity
      mutation
      appliedAt }

/-- The entities to which a spec is applied. -/
def selected (spec : DefectSpec) (cls : DefectClass) : Inject env (List EntityRef) := do
  let candidates ←
    cls.applicableEntities spec.targetProjection spec.parameters spec.targetEntityType
  selectEntities candidates spec.selection (cls.filterSide spec.targetProjection)

/-- The loop of `_apply_defect`. -/
def applyEntities (spec : DefectSpec) (cls : DefectClass) :
    List EntityRef → env.rng.State → RunState env → Except Error Unit × RunState env
  | [], _, st => (.ok (), st)
  | entity :: entities, g, st =>
    match (cls.apply spec.targetProjection entity spec.parameters).run (g, st.views) with
    | .error e => (.error e, st)
    | .ok (mutation, g', views) =>
      if mutation.kind = "noop" then
        applyEntities spec cls entities g'
          { st with
            views
            applied := st.applied ++ [⟨spec, cls, entity, g, st.views, mutation, views, none⟩] }
      else
        match makeRecord env sc capturedAt spec cls entity mutation (st.counter + 1) with
        | none => (.error (.valueError "date value out of range"), st)
        | some record =>
          applyEntities spec cls entities g'
            { views
              counter := st.counter + 1
              applied := st.applied ++
                [⟨spec, cls, entity, g, st.views, mutation, views, some record⟩] }

/-- `_apply_defect` -/
def applyDefect (spec : DefectSpec) (st : RunState env) : Except Error Unit × RunState env :=
  match resolve spec.className with
  | .error e => (.error e, st)
  | .ok cls =>
    match (selected env spec cls).run (env.rng.seeded sc.seed spec.id, st.views) with
    | .error e => (.error e, st)
    | .ok (entities, g, views) =>
      applyEntities env sc capturedAt spec cls entities g { st with views }

/-- The defects of a scenario, one after the other. -/
def runDefects : List DefectSpec → RunState env → Except Error Unit × RunState env
  | [], st => (.ok (), st)
  | spec :: specs, st =>
    match applyDefect env sc capturedAt spec st with
    | (.error e, st') => (.error e, st')
    | (.ok (), st') => runDefects specs st'

/-- The run of a scenario on a twin, up to the rendering. -/
def runOn (twin : GoldenTwin) : Except Error Unit × RunState env :=
  runDefects env sc twin.capturedAt sc.defects (.start env twin)

/-- A scenario with these defects. -/
def Scenario.sample (defects : List DefectSpec) : Scenario :=
  ⟨"sample", 1, "twin.json", "catalog", "telemetry.json", "ledger.jsonl", defects⟩

/-- A spec that applies a class to all its candidates of a table. -/
def DefectSpec.sample (id className : String) (target : TargetProjection) (table : String)
    (parameters : Params) : DefectSpec :=
  ⟨id, className, target, some table, ⟨.fixedCount, none, some 100, none, none⟩, parameters⟩

end GnnSandbox.Bench
