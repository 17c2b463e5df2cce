import GnnSandbox.Bench.Selection

/-!
# Runs of defects

The kinds of change that a call makes, the shape that the projections keep, the projections
that can be reached, and the rule for what holds along a run of a scenario.
-/

namespace GnnSandbox.Bench

open Raise

variable {env : Env}

/-! ## Cascades -/

/-- Rows are dropped, and devices lose their gateway. -/
def Cascaded (v v' : Views) : Prop :=
  ∀ loc, (v' loc).Sublist (v loc) ∨
    loc.2 = .device ∧ ∃ f : Row → Row,
      (∀ row, f row = row ∨ f row = row.set "interface_id" .none) ∧ v' loc = (v loc).map f

/-- Rows are dropped, but no device. -/
def Thinned (v v' : Views) : Prop :=
  ∀ loc, (v' loc).Sublist (v loc) ∧ (loc.2 = .device → v' loc = v loc)

theorem Cascaded.refl (v : Views) : Cascaded v v := fun _ => .inl (List.Sublist.refl _)

theorem Thinned.refl (v : Views) : Thinned v v := fun _ => ⟨List.Sublist.refl _, fun _ => rfl⟩

theorem Thinned.trans {v v' v'' : Views} (h : Thinned v v') (h' : Thinned v' v'') :
    Thinned v v'' := fun loc =>
  ⟨(h' loc).1.trans (h loc).1, fun hd => ((h' loc).2 hd).trans ((h loc).2 hd)⟩

/-- A table other than the devices is thinned. -/
theorem Thinned.update {v : Views} {loc : Loc} {rows : List Row} (hloc : loc.2 ≠ .device)
    (h : rows.Sublist (v loc)) : Thinned v (Function.update v loc rows) := by
  intro loc'
  by_cases heq : loc' = loc
  · rw [heq, Function.update_self]
    exact ⟨h, fun hd => absurd hd hloc⟩
  · rw [Function.update_of_ne heq]
    exact ⟨List.Sublist.refl _, fun _ => rfl⟩

theorem Thinned.cascaded {v v' : Views} (h : Thinned v v') : Cascaded v v' :=
  fun loc => .inl (h loc).1

namespace MissingNode

variable {s s' : env.rng.State × Views} {side : Side} {a : Unit}

theorem Runs.strip {t : Table} {attr : String} {value : Value}
    (h : Runs (strip side t attr value : Inject env _) s a s') :
    s' = (s.1, s.2.keep (side, t) fun row => !(row.get attr).eq value) := runs_keepRows.mp h

theorem thinned_strip {t : Table} (ht : t ≠ .device) {attr : String} {value : Value}
    (h : Runs (MissingNode.strip side t attr value : Inject env _) s a s') : Thinned s.2 s'.2 := by
  rw [Runs.strip h]
  exact .update ht List.filter_sublist

theorem thinned_remove {table : String} (htable : table ≠ "Device") {id : Value}
    {removed : Option Row} (h : Raise.Runs (remove side table id : Inject env _) s removed s') :
    Thinned s.2 s'.2 := by
  obtain ⟨t, ht, ⟨-, -, hs⟩ | ⟨ref, hfind, -, hs⟩⟩ := Bench.Runs.remove h
  · rw [hs]
    exact .refl _
  · rw [hs]
    have hloc := (findRow_eq_some hfind).1
    refine .update ?_ (List.eraseIdx_sublist ..)
    intro hd
    rw [hloc] at hd
    have hdevice : t = .device := hd
    rw [hdevice] at ht
    exact htable (Table.name_of_ofName ht).symm

theorem thinned_removeInterface {id : Value}
    (h : Raise.Runs (removeInterface side id : Inject env _) s a s') : Thinned s.2 s'.2 := by
  obtain ⟨_, t, hremove, h⟩ := runs_bind.mp h
  obtain ⟨_, u, hstrip, h⟩ := runs_bind.mp h
  exact (thinned_remove (by decide) hremove).trans
    ((thinned_strip (by decide) hstrip).trans (thinned_strip (by decide) h))

theorem thinned_removeVrf {id : Value}
    (h : Raise.Runs (removeVrf side id : Inject env _) s a s') : Thinned s.2 s'.2 := by
  obtain ⟨_, t, hremove, h⟩ := runs_bind.mp h
  exact (thinned_remove (by decide) hremove).trans (thinned_strip (by decide) h)

theorem clearGateway_eq_ok {id : String} {dev row : Row} (h : clearGateway id dev = .ok row) :
    row = dev ∨ row = dev.set "interface_id" .none := by
  unfold clearGateway at h
  split at h
  · cases h
    split
    · exact .inr rfl
    · exact .inl rfl
  · cases h

/-- Clearing the gateways of all devices maps them. -/
theorem collect_clearGateway {id : String} {devices rows : List Row}
    (h : collect (clearGateway id) devices = .ok rows) :
    ∃ f : Row → Row, (∀ row, f row = row ∨ f row = row.set "interface_id" .none) ∧
      rows = devices.map f := by
  refine ⟨fun row => match clearGateway id row with
    | .ok row' => row'
    | .error _ => row, fun row => ?_, ?_⟩
  · dsimp only
    split
    · next row' heq => exact clearGateway_eq_ok heq
    · exact .inl rfl
  · have hall := collect_eq_ok.mp h
    clear h
    induction hall with
    | nil => rfl
    | @cons row row' l l' hrow _ ih =>
      rw [List.map_cons, hrow, ← ih]

theorem cascaded_cascadeRouter {id : String}
    (h : Raise.Runs (cascadeRouter side id : Inject env _) s a s') : Cascaded s.2 s'.2 := by
  unfold cascadeRouter at h
  rw [runs_rowsAt_bind] at h
  obtain ⟨_, t, hinterfaces, h⟩ := runs_bind.mp h
  rw [runs_rowsAt_bind] at h
  obtain ⟨_, u, hvrfs, h⟩ := runs_bind.mp h
  rw [runs_rowsAt_bind] at h
  obtain ⟨rows, hrows, h⟩ := runs_liftExcept_bind.mp h
  have ht : Thinned s.2 t.2 :=
    hinterfaces.loop (I := fun t => Thinned s.2 t.2)
      (fun _ _ _ _ hI hrun => hI.trans (thinned_removeInterface hrun)) (.refl _)
  have hu : Thinned s.2 u.2 :=
    hvrfs.loop (I := fun t => Thinned s.2 t.2)
      (fun _ _ _ _ hI hrun => hI.trans (thinned_removeVrf hrun)) ht
  obtain ⟨f, hf, hmap⟩ := collect_clearGateway hrows
  rw [runs_setRows.mp h]
  intro loc
  dsimp only
  by_cases hloc : loc = (side, .device)
  · rw [hloc, Function.update_self, hmap, (hu (side, .device)).2 rfl]
    exact .inr ⟨rfl, f, hf, rfl⟩
  · rw [Function.update_of_ne hloc]
    exact .inl (hu loc).1

theorem cascaded_cascadeInterface {id : String}
    (h : Raise.Runs (cascadeInterface side id : Inject env _) s a s') : Cascaded s.2 s'.2 := by
  obtain ⟨_, t, hstrip, h⟩ := runs_bind.mp h
  obtain ⟨_, u, hstrip', h⟩ := runs_bind.mp h
  have hu : Thinned s.2 u.2 :=
    (thinned_strip (by decide) hstrip).trans (thinned_strip (by decide) hstrip')
  rw [runs_alter.mp h]
  intro loc
  dsimp only
  by_cases hloc : loc = (side, .device)
  · rw [hloc, Function.update_self, (hu (side, .device)).2 rfl]
    refine .inr ⟨rfl, _, fun row => ?_, rfl⟩
    split
    · exact .inr rfl
    · exact .inl rfl
  · rw [Function.update_of_ne hloc]
    exact .inl (hu loc).1

/-- A cascade drops rows and clears gateways, and does nothing else. -/
theorem cascaded_cascade {entity : EntityRef}
    (h : Raise.Runs (cascade side entity : Inject env _) s a s') : Cascaded s.2 s'.2 := by
  unfold cascade at h
  split at h
  · exact cascaded_cascadeRouter h
  · split at h
    · exact cascaded_cascadeInterface h
    · split at h
      · exact (thinned_strip (by decide) h).cascaded
      · rw [(runs_pure.mp h).2]
        exact .refl _

end MissingNode

/-! ## Effects -/

/-- The kinds of change that a call makes, with what its mutation says about them. What comes
after the removal of a row is described by `C`. -/
inductive Effect (C : Views → Views → Prop) (v : Views) : Mutation → Views → Prop where
  | noop : Effect C v .noop v
  | write {kind : String} {ref : Ref} {column : String} {value : Value} (hkind : kind ≠ "noop")
      (hin : ref.In v) (hcolumn : column ∈ ref.row.columns) :
      Effect C v (.write kind ref column value) (v.assign ref (ref.row.set column value))
  | remove {kind : String} {ref : Ref} {v' : Views} (hkind : kind ≠ "noop") (hin : ref.In v)
      (hcascade : C (v.erase ref) v') : Effect C v (.remove kind ref) v'
  | add {kind : String} {loc : Loc} {row : Row} (hkind : kind ≠ "noop")
      (hcolumns : row.columns = loc.2.columns) : Effect C v (.add kind row) (v.append loc row)
  | conflict {cat tel : Ref} {column : String} {catNew telNew : Value} (hcat : cat.In v)
      (htel : tel.In v) (hloc : cat.loc.1 = .catalog) (hloc' : tel.loc.1 = .telemetry)
      (htable : tel.loc.2 = cat.loc.2) (hcolumn : column ∈ cat.row.columns) :
      Effect C v (AttributeConflict.mutation cat tel column catNew telNew)
        ((v.assign cat (cat.row.set column catNew)).assign tel (tel.row.set column telNew))
  | merge {env : Env} {target victim : Ref} (htarget : target.In v)
      (hvictim : victim ∈ refs target.loc (v target.loc))
      (hid : (victim.row.get "id").eq (target.row.get "id") = false)
      (hname : "name" ∈ target.row.columns) :
      Effect C v (MergedIdentity.mutation env target victim)
        ((v.assign target
          (target.row.set "name" (MergedIdentity.mergedName env target.row victim.row))).keep
            target.loc fun row => !(row.get "id").eq (victim.row.get "id"))

/-- A call whose mutation is a `noop` changes nothing. -/
theorem Effect.eq_of_noop {C : Views → Views → Prop} {v v' : Views} {m : Mutation}
    (h : Effect C v m v') (hm : m.kind = "noop") : v' = v := by
  cases h with
  | noop => rfl
  | write hkind => exact absurd hm hkind
  | remove hkind => exact absurd hm hkind
  | add hkind => exact absurd hm hkind
  | conflict => exact absurd hm (by simp [AttributeConflict.mutation])
  | merge => exact absurd hm (by simp [MergedIdentity.mutation])

section Effect

variable {s s' : env.rng.State × Views} {m : Mutation} {entity : EntityRef} {params : Params}

/-- A call that writes a cell has this effect. -/
theorem Writes.effect {C : Views → Views → Prop} {v v' : Views} {side : Side} {kind : String}
    {P : Ref → String → Value → Prop} (hkind : kind ≠ "noop")
    (h : Writes v side entity kind P m v') : Effect C v m v' := by
  obtain ⟨rfl, rfl⟩ | ⟨ref, column, value, href, hcolumn, -, rfl, rfl⟩ := h
  · exact .noop
  · exact .write hkind (findIn_eq_some href).2.2.2.1 hcolumn

/-- A text that is continued is not the text of another start. -/
theorem append_ne {a t b : String} (h : a.toList.isPrefixOf b.toList = false) : a ++ t ≠ b := by
  intro heq
  have hprefix : a.toList.isPrefixOf b.toList = true := by
    rw [← heq, String.toList_append, List.isPrefixOf_iff_prefix]
    exact List.prefix_append _ _
  rw [h] at hprefix
  cases hprefix

/-- A cascade leaves the table of its entity alone. -/
theorem MissingNode.cascade_self {side : Side} {t : Table} {a : Unit} (ht : t.name = entity.table)
    (h : Runs (cascade side entity : Inject env _) s a s') : s'.2 (side, t) = s.2 (side, t) := by
  have hfoot : Footprint Set.univ {loc | loc.1 = side ∧ loc.2 ∈ dependents entity.table}
      (cascade side entity : Inject env _) :=
    footprint_cascade (fun _ _ => Set.mem_univ _) fun t ht => ⟨rfl, ht⟩
  refine hfoot.frame h (side, t) fun hmem => ?_
  rw [← ht] at hmem
  exact not_mem_dependents _ hmem.2

/-- A row that is fabricated. -/
theorem fabricate_effect' {C : Views → Views → Prop} {side : Side} {sideName letter table : String}
    (h : Runs (fabricate side sideName letter table : Inject env _) s m s') :
    Effect C s.2 m s'.2 := by
  obtain ⟨rfl, hs⟩ | ⟨t, row, hrow, rfl, hs⟩ := fabricate_effect h
  · rw [hs]
    exact .noop
  · rw [hs]
    refine .add (append_ne (by decide)) ?_
    obtain ⟨-, rfl, rfl⟩ | ⟨-, rfl, rfl⟩ := hrow <;> rfl

/-- **Every call has an effect of one of these kinds**, when `C` describes the cascade of
`MissingNode`. -/
theorem DefectClass.effect_of {C : Views → Views → Prop} {c : DefectClass}
    {target : TargetProjection} (hrefl : ∀ v, C v v)
    (hcascade : c = .single .missingNode → ∀ ref, ref.In s.2 → ref.loc.1 = target.side →
      ref.row.get "id" = .str entity.id →
      Runs (MissingNode.cascade target.side entity : Inject env _) (s.1, s.2.erase ref) () s' →
        m = .remove "delete_row" ref → C (s.2.erase ref) s'.2) (hv : Shaped s.2)
    (h : Runs (c.apply target entity params : Inject env _) s m s') : Effect C s.2 m s'.2 := by
  cases c with
  | single c =>
    cases c with
    | missingNode =>
      obtain ⟨rfl, hs⟩ | ⟨ref, hside, -, hin, hid, rfl, hrun⟩ := MissingNode.effect params h
      · rw [hs]
        exact .noop
      · exact .remove (by decide) hin (hcascade rfl ref hin hside hid hrun rfl)
    | missingEdge =>
      obtain ⟨rfl, hs⟩ | ⟨ref, -, -, hin, -, rfl, rfl⟩ := MissingEdge.effect params h
      · rw [hs]
        exact .noop
      · exact .remove (by decide) hin (hrefl _)
    | missingAttribute => exact (MissingAttribute.effect h).effect (by decide)
    | attributeDrift => exact (AttributeDrift.effect h).effect (by decide)
    | endpointShift =>
      obtain ⟨rfl, hs⟩ | ⟨ref, value, href, -, -, rfl, hs⟩ := EndpointShift.effect params h
      · rw [hs]
        exact .noop
      · obtain ⟨hloc, hin⟩ := mem_refs.mp (List.mem_of_find?_eq_some href)
        rw [hs]
        refine .write (by decide) hin ?_
        rw [hv.columns hin, hloc]
        exact Table.interface_id_mem_columns
    | asymmetricLink =>
      obtain ⟨rfl, hs⟩ | ⟨ref, href, rfl, hs⟩ := AsymmetricLink.effect params h
      · rw [hs]
        exact .noop
      · rw [hs]
        exact .remove (by decide) (mem_refs.mp (List.mem_of_mem_filter href)).2 (hrefl _)
    | orphanEntity => exact (OrphanEntity.effect params hv h).effect (by decide)
    | splitIdentity =>
      obtain ⟨rfl, hs⟩ | ⟨ref, original, kind, -, href, -, -, rfl, rfl⟩ := SplitIdentity.effect params h
      · rw [hs]
        exact .noop
      · refine .add (by decide) ?_
        unfold SplitIdentity.clone
        rw [Row.columns_set, Row.columns_set]
        exact hv.columns (findIn_eq_some href).2.2.2.1
    | mergedIdentity =>
      obtain ⟨rfl, hs⟩ | ⟨target, victim, -, href, hvictim, hname, rfl, hs⟩ :=
        MergedIdentity.effect params h
      · rw [hs]
        exact .noop
      · obtain ⟨-, -, -, hin, hid⟩ := findIn_eq_some href
        obtain ⟨hmem, hne⟩ := List.mem_filter.mp hvictim
        rw [hs]
        refine .merge hin hmem ?_ hname
        rw [hid]
        simp only [Bool.and_eq_true, Bool.not_eq_true'] at hne
        exact hne.2
    | malformedId => exact (MalformedId.effect params hv h).effect (by decide)
    | outOfRange => exact (OutOfRange.effect h).effect (by decide)
    | invalidEnum => exact (InvalidEnum.effect h).effect (by decide)
  | cross c =>
    cases c with
    | attributeConflict =>
      obtain ⟨rfl, hs⟩ | ⟨cat, tel, column, catNew, telNew, hcat, htel, hcolumn, -, -, -, rfl, hs⟩ :=
        AttributeConflict.effect h
      · rw [hs]
        exact .noop
      · obtain ⟨hloc, htable, -, hin, -⟩ := findIn_eq_some hcat
        obtain ⟨hloc', htable', -, hin', -⟩ := findIn_eq_some htel
        rw [hs]
        exact .conflict hin hin' hloc hloc'
          (Table.name_injective (htable'.trans htable.symm)) hcolumn
    | structuralConflict =>
      obtain ⟨rfl, hs⟩ | ⟨ref, value, hloc, hin, -, -, -, rfl, hs⟩ := StructuralConflict.effect params h
      · rw [hs]
        exact .noop
      · rw [hs]
        refine .write (by decide) hin ?_
        rw [hv.columns hin, hloc]
        exact Table.interface_id_mem_columns
    | existenceConflict =>
      obtain ⟨rfl, hs⟩ | ⟨ref, -, -, hin, -, rfl, rfl⟩ := ExistenceConflict.effect h
      · rw [hs]
        exact .noop
      · exact .remove (append_ne (by decide)) hin (hrefl _)
    | phantomEntity => exact fabricate_effect' h
    | shadowEntity => exact fabricate_effect' h

/-- A cascade drops rows and clears gateways. -/
theorem DefectClass.effect {c : DefectClass} {target : TargetProjection} (hv : Shaped s.2)
    (h : Runs (c.apply target entity params : Inject env _) s m s') : Effect Cascaded s.2 m s'.2 :=
  effect_of Cascaded.refl (fun _ _ _ _ _ hrun _ => MissingNode.cascaded_cascade hrun) hv h

end Effect

/-! ## The shape of the projections -/

theorem shaped_buildProjections (twin : GoldenTwin) : Shaped (buildProjections twin) :=
  fun _ _ hrow => twin.entities.columns_of_mem_rows hrow

section Shape

variable {v v' : Views}

theorem Shaped.assign (hv : Shaped v) {ref : Ref} {row : Row} (hrow : row.columns = ref.loc.2.columns) :
    Shaped (v.assign ref row) := by
  intro loc r hr
  by_cases hloc : loc = ref.loc
  · rw [hloc, Views.assign_self] at hr
    rw [hloc]
    rcases List.mem_or_eq_of_mem_set hr with hr | rfl
    · exact hv ref.loc r hr
    · exact hrow
  · rw [Views.assign_of_ne hloc] at hr
    exact hv loc r hr

theorem Shaped.write (hv : Shaped v) {ref : Ref} (hin : ref.In v) (column : String) (value : Value) :
    Shaped (v.assign ref (ref.row.set column value)) :=
  hv.assign ((Row.columns_set ..).trans (hv.columns hin))

/-- Dropping rows and clearing gateways keeps the columns. -/
theorem Shaped.cascaded (hv : Shaped v) (h : Cascaded v v') : Shaped v' := by
  intro loc row hrow
  rcases h loc with hsub | ⟨-, f, hf, hmap⟩
  · exact hv loc row (hsub.subset hrow)
  · rw [hmap] at hrow
    obtain ⟨r, hr, rfl⟩ := List.mem_map.mp hrow
    rcases hf r with heq | heq
    · rw [heq]
      exact hv loc r hr
    · rw [heq, Row.columns_set]
      exact hv loc r hr

theorem Shaped.erase (hv : Shaped v) (ref : Ref) : Shaped (v.erase ref) := by
  intro loc row hrow
  by_cases hloc : loc = ref.loc
  · rw [hloc, Views.erase_self] at hrow
    rw [hloc]
    exact hv ref.loc row (List.mem_of_mem_eraseIdx hrow)
  · rw [Views.erase_of_ne hloc] at hrow
    exact hv loc row hrow

theorem Shaped.append (hv : Shaped v) {loc : Loc} {row : Row} (hrow : row.columns = loc.2.columns) :
    Shaped (v.append loc row) := by
  intro loc' r hr
  by_cases hloc : loc' = loc
  · rw [hloc, Views.append_self] at hr
    rw [hloc]
    rcases List.mem_append.mp hr with hr | hr
    · exact hv loc r hr
    · rw [List.mem_singleton.mp hr]
      exact hrow
  · rw [Views.append_of_ne hloc] at hr
    exact hv loc' r hr

theorem Shaped.keep (hv : Shaped v) (loc : Loc) (p : Row → Bool) : Shaped (v.keep loc p) := by
  intro loc' row hrow
  by_cases hloc : loc' = loc
  · rw [hloc, Views.keep_self] at hrow
    rw [hloc]
    exact hv loc row (List.mem_of_mem_filter hrow)
  · rw [Views.keep_of_ne hloc] at hrow
    exact hv loc' row hrow

/-- A write on the other side leaves the row of a reference in its place. -/
theorem Ref.In.assign {ref ref' : Ref} {row : Row} (h : ref.In v) (hne : ref.loc ≠ ref'.loc) :
    ref.In (v.assign ref' row) := by
  unfold Ref.In
  rw [Views.assign_of_ne hne]
  exact h

/-- Every effect keeps the columns of the rows. -/
theorem Shaped.effect (hv : Shaped v) {m : Mutation} (h : Effect Cascaded v m v') : Shaped v' := by
  cases h with
  | noop => exact hv
  | write _ hin _ => exact hv.write hin _ _
  | remove _ _ hcascade => exact (hv.erase _).cascaded hcascade
  | add _ hcolumns => exact hv.append hcolumns
  | conflict hcat htel hloc hloc' _ _ =>
    refine (hv.write hcat _ _).write (htel.assign fun heq => ?_) _ _
    rw [heq, hloc] at hloc'
    cases hloc'
  | merge htarget _ _ _ => exact (hv.write htarget _ _).keep _ _

end Shape

/-! ## Reachable projections -/

/-- The projections that calls of `apply` can reach from a twin. -/
inductive Reachable (env : Env) (twin : GoldenTwin) : Views → Prop where
  | start : Reachable env twin (buildProjections twin)
  | step {v v' : Views} {g g' : env.rng.State} {c : DefectClass} {target : TargetProjection}
      {entity : EntityRef} {params : Params} {m : Mutation} (hv : Reachable env twin v)
      (h : Runs (c.apply target entity params) (g, v) m (g', v')) : Reachable env twin v'

/-- In reachable projections the rows have the columns of their table. -/
theorem Reachable.shaped {twin : GoldenTwin} {v : Views} (h : Reachable env twin v) : Shaped v := by
  induction h with
  | start => exact shaped_buildProjections twin
  | step _ hrun ih => exact ih.effect (DefectClass.effect ih hrun)

/-! ## Runs of a scenario -/

/-- Calls of one spec lead from `v` to the projections. -/
inductive Since (env : Env) (spec : DefectSpec) (c : DefectClass) (v : Views) : Views → Prop where
  | refl : Since env spec c v v
  | step {w w' : Views} {g g' : env.rng.State} {entity : EntityRef} {m : Mutation}
      (h : Since env spec c v w)
      (hrun : Runs (c.apply spec.targetProjection entity spec.parameters) (g, w) m (g', w')) :
      Since env spec c v w'

/-- A call that occurs in a run of the scenario on the twin, from the state `st`. -/
structure Application.Occurs (sc : Scenario) (twin : GoldenTwin) (st : RunState env)
    (app : Application env) : Prop where
  reachable : Reachable env twin app.before
  before : app.before = st.views
  mem : app.spec ∈ sc.defects
  resolved : resolve app.spec.className = .ok app.cls
  runs : ∃ g, Runs (app.cls.apply app.spec.targetProjection app.entity app.spec.parameters)
    (app.rng, app.before) app.mutation (g, app.after)
  /-- The entity was selected when its spec began, and only its spec has acted since. -/
  selected : ∃ s entities s', Reachable env twin s.2 ∧
    Runs (selected env app.spec app.cls) s entities s' ∧ app.entity ∈ entities ∧
    Since env app.spec app.cls s.2 app.before
  record : app.mutation.kind = "noop" ∧ app.record = none ∨
    app.mutation.kind ≠ "noop" ∧ ∃ r, app.record = some r ∧
      makeRecord env sc twin.capturedAt app.spec app.cls app.entity app.mutation
        (st.counter + 1) = some r

/-- The state after a call. -/
def RunState.next (st : RunState env) (app : Application env) : RunState env where
  views := app.after
  counter := st.counter + if app.record.isSome then 1 else 0
  applied := st.applied ++ [app]

theorem RunState.ledger_next (st : RunState env) (app : Application env) :
    (st.next app).ledger = st.ledger ++ app.record.toList := by
  unfold ledger next
  rw [List.filterMap_append]
  cases h : app.record <;> simp [h]

section Induction

variable {sc : Scenario} {twin : GoldenTwin} {I : RunState env → Prop}

theorem applyEntities_induction {spec : DefectSpec} {c : DefectClass} (hspec : spec ∈ sc.defects)
    (hc : resolve spec.className = .ok c)
    (hstep : ∀ st app, I st → app.Occurs sc twin st → I (st.next app))
    {s s' : env.rng.State × Views} {chosen : List EntityRef} (hs : Reachable env twin s.2)
    (hchosen : Runs (selected env spec c) s chosen s') {entities : List EntityRef}
    (hsub : ∀ e ∈ entities, e ∈ chosen) {g : env.rng.State} {st : RunState env}
    (hsince : Since env spec c s.2 st.views) (hst : Reachable env twin st.views) (hI : I st) :
    Reachable env twin (applyEntities env sc twin.capturedAt spec c entities g st).2.views ∧
      I (applyEntities env sc twin.capturedAt spec c entities g st).2 := by
  induction entities generalizing g st with
  | nil => exact ⟨hst, hI⟩
  | cons e entities ih =>
    have hrest : ∀ e' ∈ entities, e' ∈ chosen := fun e' he' => hsub e' (List.mem_cons_of_mem _ he')
    unfold applyEntities
    split
    · exact ⟨hst, hI⟩
    · next m g' views hrun =>
      have hselected : ∃ s entities s', Reachable env twin s.2 ∧
          Runs (selected env spec c) s entities s' ∧ e ∈ entities ∧
          Since env spec c s.2 st.views :=
        ⟨s, chosen, s', hs, hchosen, hsub e (List.mem_cons_self ..), hsince⟩
      split
      · next hkind =>
        have hoccurs : Application.Occurs sc twin st ⟨spec, c, e, g, st.views, m, views, none⟩ :=
          ⟨hst, rfl, hspec, hc, ⟨g', hrun⟩, hselected, .inl ⟨hkind, rfl⟩⟩
        exact ih hrest (hsince.step hrun) (hst.step hrun) (hstep st _ hI hoccurs)
      · next hkind =>
        split
        · exact ⟨hst, hI⟩
        · next r hr =>
          have hoccurs : Application.Occurs sc twin st
              ⟨spec, c, e, g, st.views, m, views, some r⟩ :=
            ⟨hst, rfl, hspec, hc, ⟨g', hrun⟩, hselected, .inr ⟨hkind, r, rfl, hr⟩⟩
          exact ih hrest (hsince.step hrun) (hst.step hrun) (hstep st _ hI hoccurs)

theorem runDefects_induction {specs : List DefectSpec} (hspecs : ∀ spec ∈ specs, spec ∈ sc.defects)
    (hstep : ∀ st app, I st → app.Occurs sc twin st → I (st.next app)) {st : RunState env}
    (hst : Reachable env twin st.views) (hI : I st) :
    Reachable env twin (runDefects env sc twin.capturedAt specs st).2.views ∧
      I (runDefects env sc twin.capturedAt specs st).2 := by
  induction specs generalizing st with
  | nil => exact ⟨hst, hI⟩
  | cons spec specs ih =>
    have hone : Reachable env twin (applyDefect env sc twin.capturedAt spec st).2.views ∧
        I (applyDefect env sc twin.capturedAt spec st).2 := by
      unfold applyDefect
      split
      · exact ⟨hst, hI⟩
      · next c hc =>
        split
        · exact ⟨hst, hI⟩
        · next entities g views hsel =>
          obtain rfl : views = st.views := Runs.selected_views hsel
          exact applyEntities_induction (hspecs spec (List.mem_cons_self ..)) hc hstep hst hsel
            (fun e he => he) .refl hst hI
    have hrest : ∀ spec' ∈ specs, spec' ∈ sc.defects :=
      fun spec' hspec' => hspecs spec' (List.mem_cons_of_mem _ hspec')
    unfold runDefects
    split
    · next e st' heq =>
      rw [heq] at hone
      exact hone
    · next st' heq =>
      rw [heq] at hone
      exact ih hrest hone.1 hone.2

/-- **What a run keeps**: a property of the start that every call keeps holds where a run
ends, whether it finishes or raises. -/
theorem runOn_induction (hstart : I (.start env twin))
    (hstep : ∀ st app, I st → app.Occurs sc twin st → I (st.next app)) :
    I (runOn env sc twin).2 :=
  (runDefects_induction (fun _ h => h) hstep .start hstart).2

/-- What holds of every call that can occur holds of all calls of a run. -/
theorem runOn_applied {P : Application env → Prop}
    (hP : ∀ st app, app.Occurs sc twin st → P app) :
    ∀ app ∈ (runOn env sc twin).2.applied, P app := by
  refine runOn_induction (I := fun st => ∀ app ∈ st.applied, P app) (fun app happ => (nomatch happ))
    fun st app hI hoccurs => ?_
  intro app' happ'
  rcases List.mem_append.mp happ' with happ' | happ'
  · exact hI app' happ'
  · rw [List.mem_singleton.mp happ']
    exact hP st app hoccurs

end Induction

/-- **Runs stay within the reachable projections.** -/
theorem runOn_reachable (sc : Scenario) (twin : GoldenTwin) :
    Reachable env twin (runOn env sc twin).2.views :=
  (runDefects_induction (I := fun _ => True) (fun _ h => h) (fun _ _ _ _ => trivial) .start
    trivial).1

end GnnSandbox.Bench
