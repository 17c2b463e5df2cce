import GnnSandbox.Bench.Renderable
import GnnSandbox.Bench.UniqueIds

/-!
# Rendering after defects

Rows meet what the renderers ask from them as long as the defects write into their cells what the
cells may hold. The classes that write a fixed value do; those whose attribute or values come from
the parameters of a spec can damage a cell so that the rendering raises.
-/

namespace GnnSandbox.Bench

open Raise

variable {env : Env} {v v' : Views}

/-! ## Rows under the changes of a call -/

/-- A text is good for every cell. -/
theorem fits_str (loc : Loc) (column s : String) : Fits loc column (.str s) := by
  intro need _
  cases need with
  | text | key => rfl
  | textOrFalsy =>
    show (Value.str s).orEmpty.isText = true
    rw [Value.orEmpty_str]
    rfl
  | keyOrFalsy => exact Bool.or_true _

/-- Texts, and nothing where a falsy cell will do, are what a row may hold. -/
theorem rowFits_of_cells {loc : Loc} {row : Row}
    (h : ∀ p ∈ needs loc.1 loc.2, (row.get p.1).isText = true ∨
      row.get p.1 = .none ∧ (p.2 = .textOrFalsy ∨ p.2 = .keyOrFalsy)) : RowFits loc row := by
  intro column need hneed
  rcases h (column, need) hneed with htext | ⟨hnone, rfl | rfl⟩
  · obtain ⟨s, hs⟩ := Value.isText_iff.mp htext
    rw [hs]
    exact fits_str loc column s need hneed
  · rw [hnone]
    rfl
  · rw [hnone]
    rfl

theorem RowFits.set {loc : Loc} {row : Row} {column : String} {value : Value} (h : RowFits loc row)
    (hcolumn : column ∈ row.columns) (hfits : Fits loc column value) :
    RowFits loc (row.set column value) := by
  intro column'
  by_cases heq : column' = column
  · rw [heq, Row.get_set_self hcolumn]
    exact hfits
  · rw [Row.get_set_of_ne heq]
    exact h column'

/-- The gateway of a device can be cleared. -/
theorem fits_gateway (side : Side) : Fits (side, .device) "interface_id" .none := by
  intro need hneed
  cases side with
  | catalog =>
    obtain rfl : need = .keyOrFalsy := by simpa [needs] using hneed
    rfl
  | telemetry => exact absurd hneed (by simp [needs])

namespace Renderable

theorem update (h : Renderable v) {loc : Loc} {rows : List Row}
    (hrows : ∀ row ∈ rows, RowFits loc row) : Renderable (Function.update v loc rows) := by
  intro loc'
  by_cases heq : loc' = loc
  · rw [heq, Function.update_self]
    exact hrows
  · rw [Function.update_of_ne heq]
    exact h loc'

theorem erase (h : Renderable v) (ref : Ref) : Renderable (v.erase ref) :=
  h.update fun row hrow => h ref.loc row (List.mem_of_mem_eraseIdx hrow)

theorem keep (h : Renderable v) (loc : Loc) (p : Row → Bool) : Renderable (v.keep loc p) :=
  h.update fun row hrow => h loc row (List.mem_of_mem_filter hrow)

theorem append (h : Renderable v) {loc : Loc} {row : Row} (hrow : RowFits loc row) :
    Renderable (v.append loc row) := by
  refine h.update fun row' hrow' => ?_
  rcases List.mem_append.mp hrow' with hrow' | hrow'
  · exact h loc row' hrow'
  · rw [List.mem_singleton.mp hrow']
    exact hrow

/-- A value that fits is written into a cell. -/
theorem write (h : Renderable v) {ref : Ref} (hin : ref.In v) {column : String} {value : Value}
    (hcolumn : column ∈ ref.row.columns) (hfits : Fits ref.loc column value) :
    Renderable (v.assign ref (ref.row.set column value)) := by
  refine h.update fun row hrow => ?_
  rcases List.mem_or_eq_of_mem_set hrow with hrow | rfl
  · exact h ref.loc row hrow
  · exact (h ref.loc ref.row (List.mem_of_getElem? hin)).set hcolumn hfits

/-- A cascade drops rows and clears gateways. -/
theorem cascaded (h : Renderable v) (hshaped : Shaped v) (hcascade : Cascaded v v') :
    Renderable v' := by
  intro loc
  rcases hcascade loc with hsub | ⟨hdevice, f, hf, hmap⟩
  · exact fun row hrow => h loc row (hsub.subset hrow)
  · intro row hrow
    rw [hmap] at hrow
    obtain ⟨r, hr, rfl⟩ := List.mem_map.mp hrow
    rcases hf r with heq | heq
    · rw [heq]
      exact h loc r hr
    · rw [heq]
      have hcolumns := hshaped loc r hr
      rw [hdevice] at hcolumns
      refine (h loc r hr).set ?_ ?_
      · rw [hcolumns]
        decide
      · obtain ⟨side, t⟩ := loc
        obtain rfl : t = .device := hdevice
        exact fits_gateway side

end Renderable

theorem isText_ofStr? (s : Option String) :
    (Value.ofStr? s).isText = true ∨ Value.ofStr? s = .none := by
  cases s with
  | none => exact .inr rfl
  | some s => exact .inl rfl

/-- The rows of a twin can be rendered. -/
theorem Renderable.start (twin : GoldenTwin) : Renderable (buildProjections twin) := by
  rintro ⟨side, t⟩ row hrow
  refine rowFits_of_cells fun p hp => ?_
  -- every needed cell of a dumped row is a text or an optional one
  cases side <;> cases t <;> obtain ⟨a, -, rfl⟩ := List.mem_map.mp hrow <;>
    rcases hp with _ | ⟨_, _ | ⟨_, _ | ⟨_, ⟨⟩⟩⟩⟩ <;>
    first
    | exact .inl rfl
    | exact (isText_ofStr? _).imp_right fun h => ⟨h, .inr rfl⟩

/-- A fabricated row can be rendered. -/
theorem Fabricated.rowFits {letter table : String} {g : env.rng.State} {t : Table} {row : Row}
    (h : Fabricated env letter table g t row) (side : Side) : RowFits (side, t) row := by
  refine rowFits_of_cells fun p hp => ?_
  obtain ⟨-, rfl, rfl⟩ | ⟨-, rfl, rfl⟩ := h
  · cases side <;> rcases hp with _ | ⟨_, _ | ⟨_, ⟨⟩⟩⟩ <;> exact .inl rfl
  · cases side with
    | catalog =>
      rcases hp with _ | ⟨_, _ | ⟨_, ⟨⟩⟩⟩
      · exact .inl rfl
      · exact .inr ⟨rfl, .inr rfl⟩
    | telemetry =>
      rcases hp with _ | ⟨_, ⟨⟩⟩
      exact .inl rfl

/-! ## The condition -/

/-- What the call writes into a cell, the cell may hold: `None` for a missing attribute, the values
that are drawn from a drift table, a value out of its range or its enumeration, and the id of an
interface to which the end of a link is moved. -/
def WritesFit (env : Env) (c : DefectClass) (target : TargetProjection) (entity : EntityRef)
    (params : Params) (g : env.rng.State) (v : Views) : Prop :=
  match c with
  | .single .missingAttribute => ∀ ref column, findIn v target.side entity = some ref →
      params.get "attribute" .none = .str column → Fits ref.loc column .none
  | .single .attributeDrift => ∀ ref column value, findIn v target.side entity = some ref →
      params.get "attribute" .none = .str column →
        AttributeDrift.Drawn env params ref column g value → Fits ref.loc column value
  | .single .endpointShift => target.side = .telemetry →
      ∀ row ∈ v (.telemetry, .physicalInterface), (row.get "id").isText = true
  | .single .outOfRange => ∀ ref column, findIn v target.side entity = some ref →
      OutOfRange.attr entity params = .str column →
        Fits ref.loc column (OutOfRange.value column params)
  | .single .invalidEnum => ∀ ref column, findIn v target.side entity = some ref →
      InvalidEnum.attr entity params = .str column →
        Fits ref.loc column (InvalidEnum.value column params)
  | .cross .attributeConflict => ∀ cat tel column catNew telNew,
      findIn v .catalog entity = some cat → findIn v .telemetry entity = some tel →
        params.get "attribute" .none = .str column →
          AttributeConflict.Drawn env params cat column g catNew telNew →
            Fits cat.loc column catNew ∧ Fits tel.loc column telNew
  | .cross .structuralConflict =>
      ∀ row ∈ v (.telemetry, .physicalInterface), (row.get "id").isText = true
  | _ => True

section Call

variable {s s' : env.rng.State × Views} {m : Mutation} {entity : EntityRef} {params : Params}

/-- A call that writes a cell of the row of its entity. -/
theorem Writes.renderable {side : Side} {kind : String} {P : Ref → String → Value → Prop}
    (h : Writes v side entity kind P m v') (hv : Renderable v)
    (hP : ∀ ref column value, findIn v side entity = some ref → P ref column value →
      Fits ref.loc column value) : Renderable v' := by
  obtain ⟨-, rfl⟩ | ⟨ref, column, value, href, hcolumn, hwritten, -, rfl⟩ := h
  · exact hv
  · exact hv.write (findIn_eq_some href).2.2.2.1 hcolumn (hP ref column value href hwritten)

/-- A fabricated row. -/
theorem renderable_fabricate {side : Side} {sideName letter : String} (hv : Renderable s.2)
    (h : Runs (fabricate side sideName letter entity.table : Inject env _) s m s') :
    Renderable s'.2 := by
  obtain ⟨-, hs⟩ | ⟨t, row, hrow, -, hs⟩ := fabricate_effect h
  · rw [hs]
    exact hv
  · rw [hs]
    exact hv.append (hrow.rowFits side)

/-- The end of a link is moved to an interface whose id is a text. -/
theorem Renderable.shift (hv : Renderable v) (hshaped : Shaped v) {ref : Ref} {side : Side}
    (hloc : ref.loc = (side, .interfaceLink)) (hin : ref.In v) {value : Value}
    (hvalue : value.isText = true) :
    Renderable (v.assign ref (ref.row.set "interface_id" value)) := by
  obtain ⟨id, rfl⟩ := Value.isText_iff.mp hvalue
  refine hv.write hin ?_ (fits_str _ _ _)
  rw [hshaped.columns hin, hloc]
  exact Table.interface_id_mem_columns

/-- **Under the condition, a call keeps the rows renderable.** -/
theorem DefectClass.renderable {c : DefectClass} {target : TargetProjection} (hshaped : Shaped s.2)
    (hv : Renderable s.2) (h : Runs (c.apply target entity params : Inject env _) s m s')
    (hfit : WritesFit env c target entity params s.1 s.2) : Renderable s'.2 := by
  cases c with
  | single c =>
    cases c with
    | missingNode =>
      obtain ⟨-, hs⟩ | ⟨ref, -, -, -, -, -, hrun⟩ := MissingNode.effect params h
      · rw [hs]
        exact hv
      · exact (hv.erase ref).cascaded (hshaped.erase ref) (MissingNode.cascaded_cascade hrun)
    | missingEdge =>
      obtain ⟨-, hs⟩ | ⟨ref, -, -, -, -, -, rfl⟩ := MissingEdge.effect params h
      · rw [hs]
        exact hv
      · exact hv.erase ref
    | missingAttribute =>
      refine (MissingAttribute.effect h).renderable hv ?_
      rintro ref column value href ⟨hattr, -, rfl⟩
      exact hfit ref column href hattr
    | attributeDrift =>
      refine (AttributeDrift.effect h).renderable hv ?_
      rintro ref column value href ⟨hattr, -, hdrawn⟩
      exact hfit ref column value href hattr hdrawn
    | endpointShift =>
      obtain ⟨-, hs⟩ | ⟨ref, value, href, ⟨row, hrow, hid⟩, -, -, hs⟩ :=
        EndpointShift.effect params h
      · rw [hs]
        exact hv
      · obtain ⟨hloc, hin⟩ := mem_refs.mp (List.mem_of_find?_eq_some href)
        rw [hs]
        refine hv.shift hshaped hloc hin ?_
        rw [← hid]
        cases hside : target.side with
        | catalog =>
          rw [hside] at hrow
          exact (hv _ row hrow).met _ .text (by decide)
        | telemetry =>
          rw [hside] at hrow
          exact hfit hside row hrow
    | asymmetricLink =>
      obtain ⟨-, hs⟩ | ⟨ref, -, -, hs⟩ := AsymmetricLink.effect params h
      · rw [hs]
        exact hv
      · rw [hs]
        exact hv.erase ref
    | orphanEntity =>
      refine (OrphanEntity.effect params hshaped h).renderable hv ?_
      rintro ref column value - (⟨-, -, rfl⟩ | ⟨-, -, rfl⟩)
      · exact fits_str _ _ _
      · exact fits_str _ _ _
    | splitIdentity =>
      obtain ⟨-, hs⟩ | ⟨ref, original, kind, -, href, -, hprefix, -, rfl⟩ :=
        SplitIdentity.effect params h
      · rw [hs]
        exact hv
      · obtain ⟨-, htable, hedge, hin, -⟩ := findIn_eq_some href
        have hid : "id" ∈ ref.row.columns := by
          rw [hshaped.columns hin]
          exact Table.id_mem_columns hedge
        have hname : "name" ∈ ref.row.columns := by
          rw [hshaped.columns hin]
          rcases hprefix with ⟨hrouter, -⟩ | ⟨hdevice, -⟩
          · have ht : ref.loc.2 = .physicalRouter := Table.name_injective (htable.trans hrouter)
            rw [ht]
            decide
          · have ht : ref.loc.2 = .device := Table.name_injective (htable.trans hdevice)
            rw [ht]
            decide
        refine hv.append (((hv ref.loc ref.row (List.mem_of_getElem? hin)).set hid
          (fits_str _ _ _)).set ?_ (fits_str _ _ _))
        rwa [Row.columns_set]
    | mergedIdentity =>
      obtain ⟨-, hs⟩ | ⟨target', victim, -, href, -, hname, -, hs⟩ := MergedIdentity.effect params h
      · rw [hs]
        exact hv
      · rw [hs]
        exact (hv.write (findIn_eq_some href).2.2.2.1 hname (fits_str _ _ _)).keep _ _
    | malformedId =>
      refine (MalformedId.effect params hshaped h).renderable hv ?_
      rintro ref column value - ⟨rfl, rfl⟩
      exact fits_str _ _ _
    | outOfRange =>
      refine (OutOfRange.effect h).renderable hv ?_
      rintro ref column value href ⟨hattr, rfl⟩
      exact hfit ref column href hattr
    | invalidEnum =>
      refine (InvalidEnum.effect h).renderable hv ?_
      rintro ref column value href ⟨hattr, rfl⟩
      exact hfit ref column href hattr
  | cross c =>
    cases c with
    | attributeConflict =>
      obtain ⟨-, hs⟩ | ⟨cat, tel, column, catNew, telNew, hcat, htel, hcolumn, hattr, -, hdrawn, -,
        hs⟩ := AttributeConflict.effect h
      · rw [hs]
        exact hv
      · obtain ⟨hin, hin', hne, hcolumns⟩ := hshaped.findIn_both hcat htel
        have hcolumn' : column ∈ tel.row.columns := hcolumns ▸ hcolumn
        obtain ⟨hfitCat, hfitTel⟩ := hfit cat tel column catNew telNew hcat htel hattr hdrawn
        rw [hs]
        exact (hv.write hin hcolumn hfitCat).write (hin'.assign hne) hcolumn' hfitTel
    | structuralConflict =>
      obtain ⟨-, hs⟩ | ⟨ref, value, hloc, hin, -, ⟨row, hrow, hid⟩, -, -, hs⟩ :=
        StructuralConflict.effect params h
      · rw [hs]
        exact hv
      · rw [hs]
        refine hv.shift hshaped hloc hin ?_
        rw [← hid]
        exact hfit row hrow
    | existenceConflict =>
      obtain ⟨-, hs⟩ | ⟨ref, -, -, -, -, -, rfl⟩ := ExistenceConflict.effect h
      · rw [hs]
        exact hv
      · exact hv.erase ref
    | phantomEntity => exact renderable_fabricate hv h
    | shadowEntity => exact renderable_fabricate hv h

end Call

/-! ## Runs -/

/-- The projections that calls under the condition can reach from a twin. -/
inductive Undamaged (env : Env) (twin : GoldenTwin) : Views → Prop where
  | start : Undamaged env twin (buildProjections twin)
  | step {v v' : Views} {g g' : env.rng.State} {c : DefectClass} {target : TargetProjection}
      {entity : EntityRef} {params : Params} {m : Mutation} (hv : Undamaged env twin v)
      (hfit : WritesFit env c target entity params g v)
      (h : Runs (c.apply target entity params) (g, v) m (g', v')) : Undamaged env twin v'

theorem Undamaged.reachable {twin : GoldenTwin} (h : Undamaged env twin v) :
    Reachable env twin v := by
  induction h with
  | start => exact .start
  | step _ _ hrun ih => exact ih.step hrun

theorem Undamaged.renderable {twin : GoldenTwin} (h : Undamaged env twin v) : Renderable v := by
  induction h with
  | start => exact .start twin
  | step hv hfit hrun ih => exact DefectClass.renderable hv.reachable.shaped ih hrun hfit

/-- A run whose calls meet the condition. -/
theorem undamaged_runOn {sc : Scenario} {twin : GoldenTwin}
    (h : ∀ app ∈ (runOn env sc twin).2.applied, WritesFit env app.cls app.spec.targetProjection
      app.entity app.spec.parameters app.rng app.before) :
    Undamaged env twin (runOn env sc twin).2.views := by
  refine runOn_induction (I := fun st => (∀ app ∈ st.applied, WritesFit env app.cls
    app.spec.targetProjection app.entity app.spec.parameters app.rng app.before) →
      Undamaged env twin st.views) (fun _ => .start) ?_ h
  intro st app hI hoccurs hfit
  have hviews := hI fun a ha => hfit a (List.mem_append_left _ ha)
  rw [← hoccurs.before] at hviews
  obtain ⟨g, hrun⟩ := hoccurs.runs
  exact hviews.step (hfit app (List.mem_append_right _ (List.mem_singleton_self _))) hrun

/-- Removal of an attribute of the routers of the catalog. -/
def missingOf (attr : String) : DefectSpec :=
  .sample "m" MissingAttribute.name .catalog "PhysicalRouter" [("attribute", .str attr)]

end GnnSandbox.Bench
