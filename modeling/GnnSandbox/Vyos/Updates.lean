import GnnSandbox.Vyos.Refresh

/-!
# Routers after many updates

A router is configured once and updated whenever its spec changes. An update that is reported as
failed is retried, whether the router has committed it or not. What the router holds is determined
by the specs alone: each setting goes back to the last spec that gave it and that no later update
touched.
-/

namespace GnnSandbox.Vyos

open ConfigTree (Edit)

/-- The update to a spec. -/
def Vars.update (s : Vars) : Edit String := ⟨s.deletes, s.sets⟩

/-- The update deletes the setting, or gives its node a value. -/
def Spec.Touches (spec : Spec) (q : Path) : Prop := spec.extravars.update.Touches singleValued q

/-- A spec to which a router was updated, with the number of attempts that the router committed
but that were reported as failed. -/
structure Applied where
  spec : Spec
  retries : ℕ

/-- `update_vyosrouter`: the router after the attempts; `none` when a variable is not defined. -/
def Applied.apply (c : ConfigTree.Config String) (a : Applied) : Option (ConfigTree.Config String) :=
  (a.spec.script .update).map fun script => (execute script)^[a.retries + 1] c

/-- `create_vyosrouter` and the updates that follow it. -/
def configuredAndUpdated (spec : Spec) (updates : List Applied) :
    Option (ConfigTree.Config String) := do
  let script ← spec.script .configure
  updates.foldlM Applied.apply (execute script [])

section

variable {spec : Spec} {script : List Command} {c c' : ConfigTree.Config String} {q : Path}

theorem script_update (h : spec.script .update = some script) :
    script = spec.extravars.update.script := by
  unfold Spec.script at h
  exact (Option.some.inj (Option.ite_none_right_eq_some.mp h).2).symm

theorem script_configure (h : spec.script .configure = some script) :
    execute script [] = spec.extravars.update.fresh singleValued := by
  unfold Spec.script at h
  rw [← Option.some.inj (Option.ite_none_right_eq_some.mp h).2]
  rfl

/-- A spec with an update has a script to configure it. -/
theorem exists_configure (h : spec.script .update = some script) :
    ∃ fresh, spec.script .configure = some fresh := by
  unfold Spec.script at h ⊢
  exact ⟨_, if_pos (Option.ite_none_right_eq_some.mp h).1⟩

theorem iterate_eq_runAll (e : Edit String) (n : ℕ) (c : ConfigTree.Config String) :
    (execute e.script)^[n] c = Edit.runAll singleValued (List.replicate n e) c := by
  induction n generalizing c with
  | zero => rfl
  | succ n ih => exact ih _

/-- Attempts that were reported as failed do not show. -/
theorem mem_apply {a : Applied} (h : a.apply c = some c') :
    q ∈ c' ↔ q ∈ Edit.runAll singleValued [a.spec.extravars.update] c := by
  unfold Applied.apply at h
  obtain ⟨script, hscript, rfl⟩ := Option.map_eq_some_iff.mp h
  rw [script_update hscript, iterate_eq_runAll]
  exact Edit.mem_runAll_replicate a.retries

theorem mem_foldlM_apply {updates : List Applied} (h : updates.foldlM Applied.apply c = some c') :
    q ∈ c' ↔ q ∈ Edit.runAll singleValued (updates.map fun a => a.spec.extravars.update) c := by
  induction updates generalizing c with
  | nil =>
    obtain rfl := Option.some.inj h
    rfl
  | cons a updates ih =>
    rw [List.foldlM_cons] at h
    obtain ⟨c₁, hstep, hrest⟩ := Option.bind_eq_some_iff.mp h
    rw [ih hrest]
    show q ∈ Edit.runAll singleValued (updates.map fun a => a.spec.extravars.update) c₁ ↔ _
    exact Edit.mem_runAll_congr fun q => mem_apply hstep

/-- Every spec that was applied can be configured. -/
theorem configurable_of_foldlM {updates : List Applied}
    (h : updates.foldlM Applied.apply c = some c') :
    ∀ a ∈ updates, ∃ fresh, a.spec.script .configure = some fresh := by
  induction updates generalizing c with
  | nil => simp
  | cons a updates ih =>
    rw [List.foldlM_cons] at h
    obtain ⟨c₁, hstep, hrest⟩ := Option.bind_eq_some_iff.mp h
    obtain ⟨script, hscript, -⟩ := Option.map_eq_some_iff.mp hstep
    exact List.forall_mem_cons.mpr ⟨exists_configure hscript, ih hrest⟩

end

/-- Configuring the spec afresh gives the setting. -/
def Spec.Gives (spec : Spec) (q : Path) : Prop :=
  ∃ fresh, spec.script .configure = some fresh ∧ q ∈ execute fresh []

theorem gives_iff {spec : Spec} {fresh : List Command} {q : Path}
    (h : spec.script .configure = some fresh) :
    spec.Gives q ↔ q ∈ spec.extravars.update.fresh singleValued := by
  rw [← script_configure h]
  constructor
  · rintro ⟨fresh', hfresh', hq⟩
    obtain rfl := Option.some.inj (h.symm.trans hfresh')
    exact hq
  · exact fun hq => ⟨fresh, h, hq⟩

end GnnSandbox.Vyos
