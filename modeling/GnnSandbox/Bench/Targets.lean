import GnnSandbox.Bench.Trace

/-!
# What a record names

Whether the entity of a record is a row of the projections that the record claims to be
affected, and whether these are the projections that the call has changed.
-/

namespace GnnSandbox.Bench

open Raise

variable {env : Env}

/-- A row with the table and the id of the entity, or its natural key, is there. -/
def Present (env : Env) (v : Views) (side : Side) (entity : EntityRef) : Prop :=
  ∃ t, t.name = entity.table ∧ ∃ row ∈ v (side, t), keyOf env t row = .str entity.id

/-- The projections that `target_projection` claims to be affected. -/
def TargetProjection.Claims : TargetProjection → Side → Prop
  | catalog, side => side = .catalog
  | telemetry, side => side = .telemetry
  | both, _ => True

/-- The record names a real entity: the row that was inserted, or else one that was there
before the call in every projection that is claimed. -/
def Application.NamesEntity (app : Application env) : Prop :=
  if app.mutation.kind = "insert_catalog" ∨ app.mutation.kind = "insert_telemetry" then
    ∃ row, app.mutation.after = some (.row row) ∧ row.get "id" = .str app.entity.id
  else
    ∀ side, app.spec.targetProjection.Claims side → Present env app.before side app.entity

/-- The projections in which a class looks its entity up: as a row of it, or as the candidate
of which it works on the edges. -/
def DefectClass.Sees (c : DefectClass) (target : TargetProjection) (params : Params)
    (side : Side) : Prop :=
  match c with
  | single _ => side = target.side
  | cross .attributeConflict => True
  | cross .structuralConflict => side = .catalog
  | cross .existenceConflict => side = ExistenceConflict.side params
  | cross _ => False

/-! ## Rows that are there -/

section Present

variable {v : Views} {side : Side} {entity : EntityRef}

/-- A column that a row has not. -/
theorem Row.get_of_notMem {row : Row} {column : String} (h : column ∉ row.columns) :
    row.get column = .none := by
  unfold Row.get
  rw [List.lookup_eq_none_iff.mpr]
  · rfl
  · intro cell hcell
    have hne : column ≠ cell.1 := fun heq => h (heq ▸ List.mem_map_of_mem hcell)
    simpa using hne

/-- A row that has an id is none of an edge table. -/
theorem Shaped.isEdge_of_id (hv : Shaped v) {loc : Loc} {row : Row} (hrow : row ∈ v loc)
    {id : String} (hid : row.get "id" = .str id) : loc.2.isEdge = false := by
  by_contra hedge
  have hnone : "id" ∉ row.columns := by
    rw [hv loc row hrow]
    exact Table.id_notMem_columns (Bool.not_eq_false _ ▸ hedge)
  rw [Row.get_of_notMem hnone] at hid
  cases hid

/-- A row with the id of the entity is there. -/
theorem Present.of_id (hv : Shaped v) {l : Loc} {row : Row} (hside : l.1 = side)
    (htable : l.2.name = entity.table) (hrow : row ∈ v l)
    (hid : row.get "id" = .str entity.id) : Present env v side entity := by
  refine ⟨l.2, htable, row, ?_, ?_⟩
  · rw [← hside]
    exact hrow
  · rw [keyOf_entity (hv.isEdge_of_id hrow hid)]
    exact hid

/-- A row with the natural key of the entity is there. -/
theorem Present.of_key {l : Loc} {row : Row} (hside : l.1 = side)
    (htable : l.2.name = entity.table) (hrow : row ∈ v l)
    (hkey : edgeNaturalKey env l.2 row = .ok entity.id) : Present env v side entity := by
  refine ⟨l.2, htable, row, ?_, keyOf_edge hkey⟩
  rw [← hside]
  exact hrow

theorem Present.of_findIn (hv : Shaped v) {ref : Ref} (h : findIn v side entity = some ref) :
    Present env v side entity := by
  obtain ⟨hside, htable, -, hin, hid⟩ := findIn_eq_some h
  exact .of_id hv hside htable (List.mem_of_getElem? hin) hid

/-- What is there stays there while its table is unchanged. -/
theorem Present.frame {v' : Views} (h : Present env v side entity)
    (hframe : ∀ t, t.name = entity.table → v' (side, t) = v (side, t)) :
    Present env v' side entity := by
  obtain ⟨t, ht, row, hrow, hkey⟩ := h
  exact ⟨t, ht, row, hframe t ht ▸ hrow, hkey⟩

/-- A default candidate is there. -/
theorem Present.of_candidate {s s' : env.rng.State × Views} {entities : List EntityRef}
    {className : String} {entityType : Option String} (hv : Shaped s.2)
    (h : Runs (defaultEntities className side entityType (singleRef env)) s entities s')
    (hentity : entity ∈ entities) : Present env s.2 side entity := by
  obtain ⟨t, ht, row, hrow, href⟩ := Runs.defaultEntities h entity hentity
  obtain ⟨htable, hid | ⟨-, hkey⟩⟩ := singleRef_eq_ok href
  · exact .of_id (l := (side, t)) hv rfl htable.symm hrow hid
  · exact .of_key (l := (side, t)) rfl htable.symm hrow hkey

/-- A link that is a candidate is there. -/
theorem Present.of_link {s s' : env.rng.State × Views} {entities : List EntityRef}
    (hv : Shaped s.2) (h : Runs (linkEntities side) s entities s') (hentity : entity ∈ entities) :
    Present env s.2 side entity := by
  obtain ⟨htable, row, hrow, hid⟩ := Runs.linkEntities h entity hentity
  exact .of_id (l := (side, .physicalLink)) hv rfl htable.symm hrow hid

end Present

/-! ## While a spec acts -/

/-- The calls of a spec leave a table alone that its class never writes. -/
theorem Since.frame {spec : DefectSpec} {c : DefectClass} {v w : Views} {loc : Loc}
    (h : Since env spec c v w)
    (hloc : ∀ table, loc ∉ c.applyWrites spec.targetProjection spec.parameters table) :
    w loc = v loc := by
  induction h with
  | refl => rfl
  | step _ hrun ih =>
    exact ((c.footprint_apply _ _ _).frame hrun loc (hloc _)).trans ih

/-- An entity of another table stays there while a class acts that only writes edges. -/
theorem Present.since {spec : DefectSpec} {c : DefectClass} {v w : Views} {side side' : Side}
    {entity : EntityRef} (h : Present env v side entity) (hsince : Since env spec c v w)
    (hc : ∀ table, c.applyWrites spec.targetProjection spec.parameters table =
      {(side', .interfaceLink)}) (htable : entity.table ≠ "Interface_Link") :
    Present env w side entity := by
  refine h.frame fun t ht => hsince.frame fun table hmem => htable ?_
  rw [hc] at hmem
  have heq : t = .interfaceLink := congrArg Prod.snd (Set.mem_singleton_iff.mp hmem)
  rw [← ht, heq]
  rfl

/-! ## The entity of a record -/

section Entity

variable {s s' : env.rng.State × Views} {m : Mutation} {entity : EntityRef} {params : Params}
  {side : Side}

theorem Writes.present {v v' : Views} {kind : String} {P : Ref → String → Value → Prop}
    (hv : Shaped v) (h : Writes v side entity kind P m v') (hm : m.kind ≠ "noop") :
    Present env v side entity := by
  obtain ⟨rfl, -⟩ | ⟨ref, -, -, href, -⟩ := h
  · exact absurd rfl hm
  · exact .of_findIn hv href

/-- A class that looks its entity up has found it where it changes something. -/
theorem SingleClass.present_of_find {c : SingleClass} (hv : Shaped s.2)
    (hc : c ≠ .endpointShift ∧ c ≠ .asymmetricLink)
    (h : Runs (c.apply side entity params : Inject env _) s m s') (hm : m.kind ≠ "noop") :
    Present env s.2 side entity := by
  cases c with
  | missingNode =>
    obtain ⟨rfl, -⟩ | ⟨ref, hside, htable, hin, hid, -⟩ := MissingNode.effect params h
    · exact absurd rfl hm
    · exact .of_id hv hside htable (List.mem_of_getElem? hin) hid
  | missingEdge =>
    obtain ⟨rfl, -⟩ | ⟨ref, hside, htable, hin, hkey, -⟩ := MissingEdge.effect params h
    · exact absurd rfl hm
    · exact .of_key hside htable (List.mem_of_getElem? hin) (MissingEdge.edgeNaturalKey_of_edgeId hkey)
  | missingAttribute => exact (MissingAttribute.effect h).present hv hm
  | attributeDrift => exact (AttributeDrift.effect h).present hv hm
  | endpointShift => exact absurd rfl hc.1
  | asymmetricLink => exact absurd rfl hc.2
  | orphanEntity => exact (OrphanEntity.effect params hv h).present hv hm
  | splitIdentity =>
    obtain ⟨rfl, -⟩ | ⟨ref, original, kind, rfl, href, -⟩ := SplitIdentity.effect params h
    · exact absurd rfl hm
    · exact .of_findIn hv href
  | mergedIdentity =>
    obtain ⟨rfl, -⟩ | ⟨target, victim, rfl, href, -⟩ := MergedIdentity.effect params h
    · exact absurd rfl hm
    · exact .of_findIn hv href
  | malformedId => exact (MalformedId.effect params hv h).present hv hm
  | outOfRange => exact (OutOfRange.effect h).present hv hm
  | invalidEnum => exact (InvalidEnum.effect h).present hv hm

theorem Writes.kind_eq {v v' : Views} {kind : String} {P : Ref → String → Value → Prop}
    (h : Writes v side entity kind P m v') : m.kind = "noop" ∨ m.kind = kind := by
  obtain ⟨rfl, -⟩ | ⟨_, _, _, _, _, _, rfl, _⟩ := h
  · exact .inl rfl
  · exact .inr rfl

end Entity

/-- The kind of the mutations of a class. -/
def DefectClass.kind (env : Env) (c : DefectClass) (params : Params) : String :=
  match c with
  | .single .missingNode | .single .missingEdge | .single .asymmetricLink => "delete_row"
  | .single .missingAttribute => "null_attribute"
  | .single .splitIdentity => "duplicate_row"
  | .single .mergedIdentity => "merge_rows"
  | .single .malformedId => "rename_id"
  | .single _ => "set_attribute"
  | .cross .attributeConflict => "set_attribute_both"
  | .cross .structuralConflict => "endpoint_shift_telemetry"
  | .cross .existenceConflict => "delete_from_" ++ (ExistenceConflict.dropFrom params).format env
  | .cross .phantomEntity => "insert_catalog"
  | .cross .shadowEntity => "insert_telemetry"

section Kind

variable {s s' : env.rng.State × Views} {m : Mutation} {entity : EntityRef} {params : Params}

theorem fabricate_kind {side : Side} {sideName letter table : String}
    (h : Runs (fabricate side sideName letter table : Inject env _) s m s') :
    m.kind = "noop" ∨ m.kind = "insert_" ++ sideName := by
  obtain ⟨rfl, -⟩ | ⟨t, row, -, rfl, -⟩ := fabricate_effect h
  · exact .inl rfl
  · exact .inr rfl

/-- A class has mutations of one kind. -/
theorem DefectClass.kind_eq {c : DefectClass} {target : TargetProjection} (hv : Shaped s.2)
    (h : Runs (c.apply target entity params : Inject env _) s m s') :
    m.kind = "noop" ∨ m.kind = c.kind env params := by
  cases c with
  | single c =>
    cases c with
    | missingNode =>
      obtain ⟨rfl, -⟩ | ⟨_, -, -, -, -, rfl, -⟩ := MissingNode.effect params h
      · exact .inl rfl
      · exact .inr rfl
    | missingEdge =>
      obtain ⟨rfl, -⟩ | ⟨_, -, -, -, -, rfl, -⟩ := MissingEdge.effect params h
      · exact .inl rfl
      · exact .inr rfl
    | missingAttribute => exact (MissingAttribute.effect h).kind_eq
    | attributeDrift => exact (AttributeDrift.effect h).kind_eq
    | endpointShift =>
      obtain ⟨rfl, -⟩ | ⟨_, _, -, -, -, rfl, -⟩ := EndpointShift.effect params h
      · exact .inl rfl
      · exact .inr rfl
    | asymmetricLink =>
      obtain ⟨rfl, -⟩ | ⟨_, -, rfl, -⟩ := AsymmetricLink.effect params h
      · exact .inl rfl
      · exact .inr rfl
    | orphanEntity => exact (OrphanEntity.effect params hv h).kind_eq
    | splitIdentity =>
      obtain ⟨rfl, -⟩ | ⟨_, _, _, -, -, -, -, rfl, -⟩ := SplitIdentity.effect params h
      · exact .inl rfl
      · exact .inr rfl
    | mergedIdentity =>
      obtain ⟨rfl, -⟩ | ⟨_, _, -, -, -, -, rfl, -⟩ := MergedIdentity.effect params h
      · exact .inl rfl
      · exact .inr rfl
    | malformedId => exact (MalformedId.effect params hv h).kind_eq
    | outOfRange => exact (OutOfRange.effect h).kind_eq
    | invalidEnum => exact (InvalidEnum.effect h).kind_eq
  | cross c =>
    cases c with
    | attributeConflict =>
      obtain ⟨rfl, -⟩ | ⟨_, _, _, _, _, -, -, -, -, -, -, rfl, -⟩ := AttributeConflict.effect h
      · exact .inl rfl
      · exact .inr rfl
    | structuralConflict =>
      obtain ⟨rfl, -⟩ | ⟨_, _, -, -, -, -, -, rfl, -⟩ := StructuralConflict.effect params h
      · exact .inl rfl
      · exact .inr rfl
    | existenceConflict =>
      obtain ⟨rfl, -⟩ | ⟨_, -, -, -, -, rfl, -⟩ := ExistenceConflict.effect h
      · exact .inl rfl
      · exact .inr rfl
    | phantomEntity => exact fabricate_kind h
    | shadowEntity => exact fabricate_kind h

/-- Only the classes that fabricate have insertions. -/
theorem DefectClass.kind_insertion (c : DefectClass) (params : Params) :
    (c.kind env params = "insert_catalog" ∨ c.kind env params = "insert_telemetry") ↔
      c = .cross .phantomEntity ∨ c = .cross .shadowEntity := by
  cases c with
  | single c => cases c <;> exact iff_of_false (by simp [kind]) (by decide)
  | cross c =>
    cases c with
    | existenceConflict =>
      refine iff_of_false ?_ (by decide)
      rintro (h | h)
      · exact append_ne (by decide) h
      · exact append_ne (by decide) h
    | phantomEntity => exact iff_of_true (.inl rfl) (.inl rfl)
    | shadowEntity => exact iff_of_true (.inr rfl) (.inr rfl)
    | _ => exact iff_of_false (by simp [kind]) (by decide)

end Kind

/-! ## Records that name real entities -/

section Occurs

variable {sc : Scenario} {twin : GoldenTwin} {st : RunState env} {app : Application env}
  {side : Side}

/-- An entity was a candidate when its spec began. -/
theorem Application.Occurs.candidate (h : app.Occurs sc twin st) :
    ∃ s candidates s', Shaped s.2 ∧
      Runs (app.cls.applicableEntities app.spec.targetProjection app.spec.parameters
        app.spec.targetEntityType : Inject env _) s candidates s' ∧
      app.entity ∈ candidates ∧ Since env app.spec app.cls s.2 app.before := by
  obtain ⟨s, entities, s', hs, hselected, hentity, hsince⟩ := h.selected
  obtain ⟨candidates, t, hcandidates, hselect⟩ := runs_bind.mp hselected
  exact ⟨s, candidates, t, hs.shaped, hcandidates, Runs.selectEntities hselect _ hentity, hsince⟩

/-- Where a class looks its entity up, the entity is there when something is recorded. -/
theorem Application.Occurs.present_of_sees (h : app.Occurs sc twin st)
    (hm : app.mutation.kind ≠ "noop")
    (hsees : app.cls.Sees app.spec.targetProjection app.spec.parameters side) :
    Present env app.before side app.entity := by
  have hv := h.reachable.shaped
  obtain ⟨g, hrun⟩ := h.runs
  obtain ⟨s, candidates, s', hs, hcandidates, hentity, hsince⟩ := h.candidate
  obtain ⟨spec, c, entity, rng, before, m, after, record⟩ := app
  dsimp only at *
  cases c with
  | single c =>
    obtain rfl : side = spec.targetProjection.side := hsees
    have hrun : Runs (c.apply spec.targetProjection.side entity spec.parameters : Inject env _)
      (rng, before) m (g, after) := hrun
    by_cases hshift : c = .endpointShift
    · subst hshift
      obtain ⟨rfl, -⟩ | ⟨ref, _, href, -⟩ := EndpointShift.effect spec.parameters hrun
      · exact absurd rfl hm
      · by_cases htable : entity.table = "Interface_Link"
        · have hkey : pairKey env "interface_id" "link_id" ref.row = entity.id := by
            simpa using List.find?_some href
          obtain ⟨hloc, hin⟩ := mem_refs.mp (List.mem_of_find?_eq_some href)
          refine .of_key (l := (spec.targetProjection.side, .interfaceLink)) rfl htable.symm
            (hloc ▸ List.mem_of_getElem? hin) ?_
          rw [← hkey]
          rfl
        · exact (Present.of_candidate hs hcandidates hentity).since hsince (fun _ => rfl) htable
    · by_cases hlink : c = .asymmetricLink
      · subst hlink
        have htable := (Runs.linkEntities hcandidates entity hentity).1
        refine (Present.of_link hs hcandidates hentity).since hsince (fun _ => rfl) ?_
        rw [htable]
        decide
      · exact SingleClass.present_of_find hv ⟨hshift, hlink⟩ hrun hm
  | cross c =>
    cases c with
    | attributeConflict =>
      obtain ⟨rfl, -⟩ | ⟨cat, tel, _, _, _, hcat, htel, -⟩ := AttributeConflict.effect hrun
      · exact absurd rfl hm
      · cases side with
        | catalog => exact .of_findIn hv hcat
        | telemetry => exact .of_findIn hv htel
    | structuralConflict =>
      obtain rfl : side = .catalog := hsees
      have htable := (Runs.linkEntities hcandidates entity hentity).1
      refine (Present.of_link hs hcandidates hentity).since hsince (fun _ => rfl) ?_
      rw [htable]
      decide
    | existenceConflict =>
      obtain ⟨rfl, -⟩ | ⟨ref, hside, htable, hin, hid, -⟩ := ExistenceConflict.effect hrun
      · exact absurd rfl hm
      · exact .of_id hv (hside.trans hsees.symm) htable (List.mem_of_getElem? hin) hid
    | phantomEntity => exact hsees.elim
    | shadowEntity => exact hsees.elim

/-- Two texts with different first characters differ. -/
theorem append_ne_append {a b t u : String} (ha : a.toList ≠ []) (hb : b.toList ≠ [])
    (h : a.toList.head? ≠ b.toList.head?) : a ++ t ≠ b ++ u := by
  intro heq
  have hhead := congrArg (fun s : String => s.toList.head?) heq
  simp only [String.toList_append] at hhead
  rw [List.head?_append_of_ne_nil _ ha, List.head?_append_of_ne_nil _ hb] at hhead
  exact h hhead

/-- The id of a fabricated row is not that of a slot. -/
theorem Fabricated.ne_slot {letter table slot : String} {g : env.rng.State} {t : Table} {row : Row}
    (h : Fabricated env letter table g t row) (hslot : slot.toList.head? = some '_') (n : ℕ) :
    row.get "id" ≠ .str (slot ++ toString n) := by
  have hne : slot.toList ≠ [] := by
    rintro heq
    rw [heq] at hslot
    cases hslot
  obtain ⟨-, -, rfl⟩ | ⟨-, -, rfl⟩ := h
  · intro heq
    refine append_ne_append (a := "router:phantom-") (by decide) hne ?_ (Value.str.inj heq)
    rw [hslot]
    decide
  · intro heq
    refine append_ne_append (a := "device:phantom-") (by decide) hne ?_ (Value.str.inj heq)
    rw [hslot]
    decide

/-- The record of a fabricated row names the slot, not the row. -/
theorem Application.Occurs.not_names_of_fabricated (h : app.Occurs sc twin st)
    (hm : app.mutation.kind ≠ "noop")
    (hc : app.cls = .cross .phantomEntity ∨ app.cls = .cross .shadowEntity) :
    ¬app.NamesEntity := by
  have hv := h.reachable.shaped
  obtain ⟨g, hrun⟩ := h.runs
  obtain ⟨s, candidates, s', -, hcandidates, hentity, -⟩ := h.candidate
  have hkind := (DefectClass.kind_eq hv hrun).resolve_left hm
  have hinsertion := (@DefectClass.kind_insertion env app.cls app.spec.parameters).mpr hc
  rw [← hkind] at hinsertion
  unfold NamesEntity
  rw [if_pos hinsertion]
  rintro ⟨row, hafter, hid⟩
  obtain ⟨spec, c, entity, rng, before, m, after, record⟩ := app
  dsimp only at *
  obtain rfl | rfl := hc
  · obtain ⟨-, n, hslot⟩ := Runs.slotEntities hcandidates entity hentity
    obtain ⟨rfl, -⟩ | ⟨t, row', hrow, rfl, -⟩ := fabricate_effect hrun
    · exact hm rfl
    · cases hafter
      rw [hslot] at hid
      exact hrow.ne_slot rfl n hid
  · obtain ⟨-, n, hslot⟩ := Runs.slotEntities hcandidates entity hentity
    obtain ⟨rfl, -⟩ | ⟨t, row', hrow, rfl, -⟩ := fabricate_effect hrun
    · exact hm rfl
    · cases hafter
      rw [hslot] at hid
      exact hrow.ne_slot rfl n hid

end Occurs

/-- **Which records name a real entity**: those of the classes that do not fabricate, as long
as the entity is also there in the claimed projections in which the class does not look. -/
theorem namesEntity_iff (env : Env) (sc : Scenario) (twin : GoldenTwin) :
    ∀ app ∈ (runOn env sc twin).2.applied, app.record.isSome →
      (app.NamesEntity ↔
        (app.cls ≠ .cross .phantomEntity ∧ app.cls ≠ .cross .shadowEntity) ∧
        ∀ side, app.spec.targetProjection.Claims side →
          ¬app.cls.Sees app.spec.targetProjection app.spec.parameters side →
            Present env app.before side app.entity) := by
  refine runOn_applied fun st app hoccurs hrecord => ?_
  have hm : app.mutation.kind ≠ "noop" := by
    obtain ⟨-, hnone⟩ | ⟨hm, -⟩ := hoccurs.record
    · rw [hnone] at hrecord
      cases hrecord
    · exact hm
  by_cases hc : app.cls = .cross .phantomEntity ∨ app.cls = .cross .shadowEntity
  · refine iff_of_false (hoccurs.not_names_of_fabricated hm hc) ?_
    rintro ⟨⟨hphantom, hshadow⟩, -⟩
    exact hc.elim hphantom hshadow
  · obtain ⟨g, hrun⟩ := hoccurs.runs
    have hkind := (DefectClass.kind_eq hoccurs.reachable.shaped hrun).resolve_left hm
    have hinsertion := mt (@DefectClass.kind_insertion env app.cls app.spec.parameters).mp hc
    rw [← hkind] at hinsertion
    unfold Application.NamesEntity
    rw [if_neg hinsertion]
    constructor
    · intro h
      exact ⟨not_or.mp hc, fun side hclaims _ => h side hclaims⟩
    · rintro ⟨-, h⟩ side hclaims
      by_cases hsees : app.cls.Sees app.spec.targetProjection app.spec.parameters side
      · exact hoccurs.present_of_sees hm hsees
      · exact h side hclaims hsees

/-- The scenario that invents a router in the catalog. -/
def phantomRouter : Scenario :=
  .sample [.sample "p" PhantomEntity.name .catalog "PhysicalRouter" []]

theorem phantomRouter_run :
    (runOn .plain phantomRouter .sample).1 = .ok () ∧
      ∃ app ∈ (runOn .plain phantomRouter .sample).2.applied,
        app.record.isSome ∧ app.mutation.kind = "insert_catalog" ∧
          ∀ row ∈ app.mutation.rows, row.get "id" ≠ .str app.entity.id := by
  decide +kernel

theorem phantomRouter_record_named :
    ∃ app ∈ (runOn .plain phantomRouter .sample).2.applied,
      (app.NamesEntity ↔
        (app.cls ≠ .cross .phantomEntity ∧ app.cls ≠ .cross .shadowEntity) ∧
        ∀ side, app.spec.targetProjection.Claims side →
          ¬app.cls.Sees app.spec.targetProjection app.spec.parameters side →
            Present .plain app.before side app.entity) := by
  obtain ⟨-, app, happ, hsome, -⟩ := phantomRouter_run
  exact ⟨app, happ, namesEntity_iff .plain phantomRouter .sample app happ hsome⟩

/-- The record of the invented router names its slot. -/
theorem phantomRouter_not_named :
    GoldenTwin.sample.Valid .plain ∧ (runOn .plain phantomRouter .sample).1 = .ok () ∧
      ¬∀ app ∈ (runOn .plain phantomRouter .sample).2.applied, app.record.isSome →
        app.NamesEntity := by
  obtain ⟨hok, app, happ, hrecord, hkind, hid⟩ := phantomRouter_run
  refine ⟨GoldenTwin.sample_valid, hok, fun h => ?_⟩
  have hnames := h app happ hrecord
  unfold Application.NamesEntity at hnames
  rw [if_pos (.inl hkind)] at hnames
  obtain ⟨row, hafter, hrow⟩ := hnames
  refine hid row ?_ hrow
  unfold Mutation.rows
  rw [hafter]
  exact List.mem_append_right _ (List.mem_singleton_self _)

/-! ## The projections that are changed -/

/-- The projections on which a class acts. -/
def DefectClass.Acts (c : DefectClass) (target : TargetProjection) (params : Params)
    (side : Side) : Prop :=
  match c with
  | single _ => side = target.side
  | cross .attributeConflict => True
  | cross .phantomEntity => side = .catalog
  | cross .existenceConflict => side = ExistenceConflict.side params
  | cross _ => side = .telemetry

/-- What a class writes lies where it acts. -/
theorem DefectClass.acts_of_mem_writes {c : DefectClass} {target : TargetProjection}
    {params : Params} {table : String} {loc : Loc} (h : loc ∈ c.applyWrites target params table) :
    c.Acts target params loc.1 := by
  cases c with
  | single c =>
    cases c with
    | missingNode => exact h.elim And.left And.left
    | endpointShift => exact congrArg Prod.fst (Set.mem_singleton_iff.mp h)
    | asymmetricLink => exact congrArg Prod.fst (Set.mem_singleton_iff.mp h)
    | splitIdentity =>
      have h : loc ∈ SingleClass.writes .splitIdentity target.side table := h
      unfold Acts
      cases hside : target.side with
      | catalog =>
        rw [hside] at h
        exact h.1
      | telemetry =>
        rw [hside] at h
        exact h.elim
    | mergedIdentity =>
      have h : loc ∈ SingleClass.writes .mergedIdentity target.side table := h
      unfold Acts
      cases hside : target.side with
      | catalog =>
        rw [hside] at h
        exact h.1
      | telemetry =>
        rw [hside] at h
        exact h.elim
    | _ => exact h.1
  | cross c =>
    cases c with
    | attributeConflict => exact trivial
    | structuralConflict => exact congrArg Prod.fst (Set.mem_singleton_iff.mp h)
    | existenceConflict => exact h.1
    | phantomEntity => exact h.1.1
    | shadowEntity => exact h.1.1

/-- **What a record says about the projections**: its target is that of the spec, while the
class decides where it acts. The tables of the other projection are unchanged, and only
`AttributeConflict` writes a row on both sides. -/
theorem changes_where_class_acts (env : Env) (sc : Scenario) (twin : GoldenTwin) :
    ∀ app ∈ (runOn env sc twin).2.applied, ∀ r, app.record = some r →
      r.targetProjection = app.spec.targetProjection ∧
      (∀ side, ¬app.cls.Acts r.targetProjection app.spec.parameters side →
        ∀ t, app.after (side, t) = app.before (side, t)) ∧
      (app.cls = .cross .attributeConflict → ∃ cat tel column catNew telNew,
        cat.loc.1 = .catalog ∧ tel.loc.1 = .telemetry ∧ cat.In app.before ∧ tel.In app.before ∧
        app.after = (app.before.assign cat (cat.row.set column catNew)).assign tel
          (tel.row.set column telNew)) := by
  refine runOn_applied fun st app hoccurs r hrecord => ?_
  obtain ⟨g, hrun⟩ := hoccurs.runs
  obtain ⟨-, hnone⟩ | ⟨hkind, r', hrecord', hmake⟩ := hoccurs.record
  · rw [hnone] at hrecord
    cases hrecord
  · obtain rfl : r' = r := Option.some.inj (hrecord'.symm.trans hrecord)
    obtain ⟨_, -, rfl⟩ := Option.map_eq_some_iff.mp hmake
    refine ⟨rfl, fun side hside t => ?_, fun hc => ?_⟩
    · exact (app.cls.footprint_apply _ _ _).frame hrun (side, t) fun hmem =>
        hside (DefectClass.acts_of_mem_writes hmem)
    · rw [hc] at hrun
      obtain ⟨hm, -⟩ | ⟨cat, tel, column, catNew, telNew, hcat, htel, -, -, -, -, -, hafter⟩ :=
        AttributeConflict.effect hrun
      · rw [hm] at hkind
        exact absurd rfl hkind
      · obtain ⟨hloc, -, -, hin, -⟩ := findIn_eq_some hcat
        obtain ⟨hloc', -, -, hin', -⟩ := findIn_eq_some htel
        exact ⟨cat, tel, column, catNew, telNew, hloc, hloc', hin, hin', hafter⟩

/-- The scenario that sets the projections against each other about all devices. -/
def droppedDevices : Scenario :=
  .sample [.sample "e" ExistenceConflict.name .both "Device" [("drop_from", .str "telemetry")]]

theorem droppedDevices_run :
    (runOn .plain droppedDevices .sample).1 = .ok () ∧
      ∃ app ∈ (runOn .plain droppedDevices .sample).2.applied,
        app.record.map DefectRecord.targetProjection = some .both ∧ ∀ t ∈ Table.all,
          app.after (.catalog, t) = app.before (.catalog, t) := by
  decide +kernel

theorem droppedDevices_changes :
    ∃ app ∈ (runOn .plain droppedDevices .sample).2.applied, ∃ r, app.record = some r ∧
      ∀ side, ¬app.cls.Acts r.targetProjection app.spec.parameters side →
        ∀ t, app.after (side, t) = app.before (side, t) := by
  obtain ⟨-, app, happ, hboth, -⟩ := droppedDevices_run
  obtain ⟨r, hr, -⟩ := Option.map_eq_some_iff.mp hboth
  exact ⟨app, happ, r, hr,
    (changes_where_class_acts .plain droppedDevices .sample app happ r hr).2.1⟩

/-- A record for both projections, of a call that leaves the catalog as it is. -/
theorem droppedDevices_catalog_unchanged :
    GoldenTwin.sample.Valid .plain ∧ (runOn .plain droppedDevices .sample).1 = .ok () ∧
      ∃ app ∈ (runOn .plain droppedDevices .sample).2.applied,
        (∃ r ∈ app.record, r.targetProjection = .both) ∧
          ∀ t, app.after (.catalog, t) = app.before (.catalog, t) := by
  obtain ⟨hok, app, happ, hboth, hsame⟩ := droppedDevices_run
  obtain ⟨r, hr, hboth⟩ := Option.map_eq_some_iff.mp hboth
  exact ⟨GoldenTwin.sample_valid, hok, app, happ, ⟨r, hr, hboth⟩,
    fun t => hsame t t.mem_all⟩

end GnnSandbox.Bench
