import GnnSandbox.Bench.Effects

/-!
# Candidates and selected entities

The candidates of a class all lie in one table, those of the default and of the link classes
stand for rows of it, and a selection only drops candidates.
-/

namespace GnnSandbox.Bench

open Raise

variable {env : Env}

namespace DefectClass

/-- The projection from which the candidates are taken. -/
def pool (c : DefectClass) (target : TargetProjection) : Side :=
  match c with
  | single _ => target.side
  | cross .shadowEntity => .telemetry
  | cross _ => .catalog

/-- The table of the candidates. -/
def table (c : DefectClass) (entityType : Option String) : String :=
  match c with
  | single .asymmetricLink | cross .structuralConflict => "PhysicalLink"
  | cross .phantomEntity | cross .shadowEntity =>
    (Graph.truthy entityType).getD "PhysicalRouter"
  | _ => entityType.getD ""

end DefectClass

/-! ## Candidates -/

section Candidates

variable {s s' : env.rng.State × Views} {entities : List EntityRef} {side : Side}
  {entityType : Option String}

/-- Default candidates are made from the rows of the table. -/
theorem Runs.defaultEntities {className : String} {rowRef : Table → Row → Except Error EntityRef}
    (h : Runs (defaultEntities className side entityType rowRef : Inject env _) s entities s') :
    ∀ e ∈ entities, ∃ t, Table.ofName (entityType.getD "") = some t ∧
      ∃ row ∈ s.2 (side, t), rowRef t row = .ok e := by
  unfold Bench.defaultEntities at h
  split at h
  · exact (runs_throw.mp h).elim
  · next table htable =>
    obtain ⟨htype, -⟩ := Graph.truthy_eq_some.mp htable
    rw [htype, Option.getD_some]
    intro e he
    split at h
    · rw [(runs_pure.mp h).1] at he
      cases he
    · next t ht =>
      rw [runs_rowsAt_bind] at h
      obtain ⟨hcollect, -⟩ := runs_liftExcept.mp h
      obtain ⟨row, hrow, href⟩ := mem_of_collect hcollect he
      exact ⟨t, ht, row, hrow, href⟩

/-- The candidates of the link classes are the ids of the links. -/
theorem Runs.linkEntities (h : Runs (linkEntities side : Inject env _) s entities s') :
    ∀ e ∈ entities, e.table = "PhysicalLink" ∧
      ∃ row ∈ s.2 (side, .physicalLink), row.get "id" = .str e.id := by
  intro e he
  unfold Bench.linkEntities at h
  rw [runs_rowsAt_bind] at h
  obtain ⟨hcollect, -⟩ := runs_liftExcept.mp h
  obtain ⟨row, hrow, href⟩ := mem_of_collect hcollect he
  obtain ⟨htable, hid⟩ := EntityRef.make_eq_ok.mp href
  exact ⟨htable, row, hrow, hid⟩

/-- Slots lie in the table of the class. -/
theorem Runs.slotEntities {slot key : String} {params : Params}
    (h : Runs (slotEntities side slot key params entityType : Inject env _) s entities s') :
    ∀ e ∈ entities, e.table = (Graph.truthy entityType).getD "PhysicalRouter" ∧
      ∃ n : ℕ, e.id = slot ++ toString n := by
  intro e he
  unfold Bench.slotEntities at h
  obtain ⟨rows, t, -, h⟩ := runs_bind.mp h
  obtain ⟨n, -, h⟩ := runs_liftExcept_bind.mp h
  rw [(runs_pure.mp h).1] at he
  obtain ⟨i, -, rfl⟩ := List.mem_map.mp he
  exact ⟨rfl, i, rfl⟩

/-- A natural key tells the table. -/
theorem edgeNaturalKey_map {t : Table} {row : Row} {e : EntityRef}
    (h : (edgeNaturalKey env t row).map (fun key => (⟨t.name, key⟩ : EntityRef)) = .ok e) :
    e.table = t.name ∧ edgeNaturalKey env t row = .ok e.id := by
  cases hkey : edgeNaturalKey env t row with
  | error err =>
    rw [hkey] at h
    cases h
  | ok key =>
    rw [hkey] at h
    cases h
    exact ⟨rfl, rfl⟩

theorem singleRef_eq_ok {t : Table} {row : Row} {e : EntityRef}
    (h : singleRef env t row = .ok e) : e.table = t.name ∧
      (row.get "id" = .str e.id ∨ row.get "id" = .none ∧ edgeNaturalKey env t row = .ok e.id) := by
  unfold singleRef at h
  split at h
  · next hid =>
    obtain ⟨htable, hkey⟩ := edgeNaturalKey_map h
    exact ⟨htable, .inr ⟨hid, hkey⟩⟩
  · obtain ⟨htable, hid⟩ := EntityRef.make_eq_ok.mp h
    exact ⟨htable, .inl hid⟩

theorem crossRef_eq_ok {t : Table} {row : Row} {e : EntityRef}
    (h : crossRef env t row = .ok e) : e.table = t.name ∧
      (row.get "id" = .str e.id ∨ edgeNaturalKey env t row = .ok e.id) := by
  unfold crossRef at h
  split at h
  · obtain ⟨htable, hid⟩ := EntityRef.make_eq_ok.mp h
    exact ⟨htable, .inl hid⟩
  · obtain ⟨htable, hkey⟩ := edgeNaturalKey_map h
    exact ⟨htable, .inr hkey⟩

/-- All candidates of a class lie in its table. -/
theorem Runs.candidates_table {c : DefectClass} {target : TargetProjection} {params : Params}
    (h : Runs (c.applicableEntities target params entityType : Inject env _) s entities s') :
    ∀ e ∈ entities, e.table = c.table entityType := by
  intro e he
  have hsingle : ∀ {className : String} {side : Side},
      Runs (Bench.defaultEntities className side entityType (singleRef env)) s entities s' →
        e.table = entityType.getD "" := by
    intro className side hrun
    obtain ⟨t, ht, row, -, href⟩ := Runs.defaultEntities hrun e he
    rw [(singleRef_eq_ok href).1]
    exact Table.name_of_ofName ht
  have hcross : ∀ {className : String} {side : Side},
      Runs (Bench.defaultEntities className side entityType (crossRef env)) s entities s' →
        e.table = entityType.getD "" := by
    intro className side hrun
    obtain ⟨t, ht, row, -, href⟩ := Runs.defaultEntities hrun e he
    rw [(crossRef_eq_ok href).1]
    exact Table.name_of_ofName ht
  cases c with
  | single c =>
    cases c with
    | asymmetricLink => exact (Runs.linkEntities h e he).1
    | _ => exact hsingle h
  | cross c =>
    cases c with
    | structuralConflict => exact (Runs.linkEntities h e he).1
    | phantomEntity => exact (Runs.slotEntities h e he).1
    | shadowEntity => exact (Runs.slotEntities h e he).1
    | _ => exact hcross h

end Candidates

/-! ## Selected entities -/

section Selected

variable {s s' : env.rng.State × Views} {entities chosen : List EntityRef}

theorem mem_of_kept {a : EntityRef} {l kept : List EntityRef} {p : Prop} [Decidable p]
    (hkept : ∀ e ∈ kept, e ∈ l) : ∀ e ∈ if p then a :: kept else kept, e ∈ a :: l := by
  intro e he
  split at he
  · rcases List.mem_cons.mp he with rfl | he
    · exact List.mem_cons_self ..
    · exact List.mem_cons_of_mem _ (hkept e he)
  · exact List.mem_cons_of_mem _ (hkept e he)

theorem Runs.filterEntities {side : Side} {flt : List (String × List Value)}
    (h : Runs (filterEntities side flt entities : Inject env _) s chosen s') :
    ∀ e ∈ chosen, e ∈ entities := by
  induction entities generalizing s chosen s' with
  | nil =>
    rw [(runs_pure.mp h).1]
    exact fun e he => he
  | cons a l ih =>
    unfold Bench.filterEntities at h
    obtain ⟨found, t, -, h⟩ := runs_bind.mp h
    obtain ⟨rest, u, hrest, h⟩ := runs_bind.mp h
    rw [(runs_pure.mp h).1]
    exact mem_of_kept (ih hrest)

theorem Runs.drawEntities {rate : Graph.Float64}
    (h : Runs (drawEntities rate entities : Inject env _) s chosen s') :
    ∀ e ∈ chosen, e ∈ entities := by
  induction entities generalizing s chosen s' with
  | nil =>
    rw [(runs_pure.mp h).1]
    exact fun e he => he
  | cons a l ih =>
    unfold Bench.drawEntities at h
    obtain ⟨found, t, -, h⟩ := runs_bind.mp h
    obtain ⟨rest, u, hrest, h⟩ := runs_bind.mp h
    rw [(runs_pure.mp h).1]
    exact mem_of_kept (ih hrest)

/-- A selection only drops candidates. -/
theorem Runs.selectEntities {selection : SelectionSpec} {side : Option Side}
    (h : Runs (selectEntities entities selection side : Inject env _) s chosen s') :
    ∀ e ∈ chosen, e ∈ entities := by
  unfold Bench.selectEntities at h
  obtain ⟨kept, t, hkept, h⟩ := runs_bind.mp h
  have hsub : ∀ e ∈ kept, e ∈ entities := by
    unfold keptEntities at hkept
    split at hkept
    · exact Runs.filterEntities hkept
    · rw [(runs_pure.mp hkept).1]
      exact fun e he => he
  intro e he
  refine hsub e ?_
  split at h
  · rw [(runs_pure.mp h).1] at he
    exact List.mem_of_mem_filter he
  · exact Runs.drawEntities h e he
  · split at h
    · rwa [(runs_pure.mp h).1] at he
    · exact Runs.mem_of_sample h e he

end Selected

/-! ## Footprints -/

section Footprints

variable {R W : Set Loc}

theorem footprint_defaultEntities {className : String} {side : Side} {entityType : Option String}
    {rowRef : Table → Row → Except Error EntityRef} (h : own side (entityType.getD "") ⊆ R) :
    Footprint R W (defaultEntities className side entityType rowRef : Inject env _) := by
  unfold defaultEntities
  split
  · exact .throw _
  · next table htable =>
    obtain ⟨htype, -⟩ := Graph.truthy_eq_some.mp htable
    rw [htype, Option.getD_some] at h
    split
    · exact .pure _
    · next t ht => exact .bind (footprint_rowsAt (h (mem_own ht))) fun rows => .liftExcept _

theorem footprint_linkEntities {side : Side} (h : own side "PhysicalLink" ⊆ R) :
    Footprint R W (linkEntities side : Inject env _) :=
  .bind (footprint_rowsAt (h (mem_own (t := .physicalLink) rfl))) fun _ => .liftExcept _

theorem footprint_slotEntities {side : Side} {slot key : String} {params : Params}
    {entityType : Option String}
    (h : own side ((Graph.truthy entityType).getD "PhysicalRouter") ⊆ R) :
    Footprint R W (slotEntities side slot key params entityType : Inject env _) := by
  refine .bind ?_ fun rows => .bind (.liftExcept _) fun n => .pure _
  unfold tableRows
  split
  · next t ht => exact footprint_rowsAt (h (mem_own ht))
  · exact .pure _

/-- The candidates are read from one table. -/
theorem DefectClass.footprint_applicableEntities (c : DefectClass) (target : TargetProjection)
    (params : Params) (entityType : Option String)
    (h : own (c.pool target) (c.table entityType) ⊆ R) :
    Footprint R W (c.applicableEntities target params entityType : Inject env _) := by
  cases c with
  | single c =>
    cases c with
    | asymmetricLink => exact footprint_linkEntities h
    | _ => exact footprint_defaultEntities h
  | cross c =>
    cases c with
    | structuralConflict => exact footprint_linkEntities h
    | phantomEntity => exact footprint_slotEntities h
    | shadowEntity => exact footprint_slotEntities h
    | _ => exact footprint_defaultEntities h

theorem footprint_filterEntities {side : Side} {flt : List (String × List Value)}
    {entities : List EntityRef} (h : ∀ e ∈ entities, own side e.table ⊆ R) :
    Footprint R W (filterEntities side flt entities : Inject env _) := by
  induction entities with
  | nil => exact .pure _
  | cons e l ih =>
    exact .bind (footprint_find (h e (List.mem_cons_self ..)) _) fun found =>
      .bind (ih fun e' he' => h e' (List.mem_cons_of_mem _ he')) fun rest => .pure _

theorem footprint_drawEntities {rate : Graph.Float64} {entities : List EntityRef} :
    Footprint R W (drawEntities rate entities : Inject env _) := by
  induction entities with
  | nil => exact .pure _
  | cons e l ih => exact .bind (footprint_draw _) fun chosen => .bind ih fun rest => .pure _

theorem footprint_selectEntities {entities : List EntityRef} {selection : SelectionSpec}
    {side : Option Side} (h : ∀ a, side = some a → ∀ e ∈ entities, own a e.table ⊆ R) :
    Footprint R W (selectEntities entities selection side : Inject env _) := by
  refine .bind ?_ fun kept => ?_
  · unfold keptEntities
    split
    · exact footprint_filterEntities (h _ rfl)
    · exact .pure _
  · split
    · exact .pure _
    · exact footprint_drawEntities
    · split
      · exact .pure _
      · exact footprint_sample _ _

/-- A selection reads the table of its candidates and writes nothing. -/
theorem footprint_selected (spec : DefectSpec) (c : DefectClass)
    (h : own (c.pool spec.targetProjection) (c.table spec.targetEntityType) ⊆ R) :
    Footprint R W (selected env spec c) := by
  refine (c.footprint_applicableEntities _ _ _ h).bind_of
    (fun _ _ _ hrun => Runs.candidates_table hrun) fun candidates hcandidates => ?_
  refine footprint_selectEntities fun a ha e he => ?_
  rw [hcandidates e he]
  cases c with
  | single c =>
    cases ha
    exact h
  | cross c => cases ha

/-- A selection changes no row. -/
theorem Runs.selected_views {spec : DefectSpec} {c : DefectClass}
    {s s' : env.rng.State × Views} {entities : List EntityRef}
    (h : Runs (selected env spec c) s entities s') : s'.2 = s.2 :=
  (footprint_selected spec c subset_rfl).eq_of_reads h

/-- Selected entities lie in the table of the class. -/
theorem Runs.selected_table {spec : DefectSpec} {c : DefectClass}
    {s s' : env.rng.State × Views} {entities : List EntityRef}
    (h : Runs (selected env spec c) s entities s') :
    ∀ e ∈ entities, e.table = c.table spec.targetEntityType := by
  intro e he
  obtain ⟨candidates, t, hcandidates, hselect⟩ := runs_bind.mp h
  exact Runs.candidates_table hcandidates e (Runs.selectEntities hselect e he)

end Footprints

end GnnSandbox.Bench
