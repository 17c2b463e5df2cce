import GnnSandbox.Bench.Trace

/-!
# Records and real changes

A call that returns `noop` has changed nothing. A call that returns something else has
changed a row, unless the value that it writes is the one that the cell has.
-/

namespace GnnSandbox.Bench

open Raise

variable {env : Env}

/-! ## Changes that are none -/

namespace Views

variable {v : Views} {ref : Ref}

/-- A write that changes nothing writes the value that the cell has. -/
theorem eq_of_assign_eq {column : String} {value : Value} (hin : ref.In v)
    (hcolumn : column ∈ ref.row.columns)
    (h : v.assign ref (ref.row.set column value) = v) : ref.row.get column = value := by
  have hrows := congrFun h ref.loc
  rw [assign_self] at hrows
  have hlt : ref.index < (v ref.loc).length := (List.getElem?_eq_some_iff.mp hin).1
  have hget : some (ref.row.set column value) = some ref.row := by
    rw [← List.getElem?_set_self hlt, hrows]
    exact hin
  have hrow : ref.row.set column value = ref.row := Option.some.inj hget
  calc ref.row.get column = (ref.row.set column value).get column := by rw [hrow]
    _ = value := Row.get_set_self hcolumn value

/-- A row that is removed is missed. -/
theorem erase_ne (hin : ref.In v) : v.erase ref ref.loc ≠ v ref.loc := by
  intro h
  have hlt : ref.index < (v ref.loc).length := (List.getElem?_eq_some_iff.mp hin).1
  have hlength := congrArg List.length h
  rw [erase_self, List.length_eraseIdx_of_lt hlt] at hlength
  omega

/-- A row that is added is one more. -/
theorem append_ne {loc : Loc} {row : Row} : v.append loc row ≠ v := by
  intro h
  have hlength := congrArg List.length (congrFun h loc)
  rw [append_self, List.length_append, List.length_singleton] at hlength
  omega

end Views

/-- The name that stands for two rows is not the name of the first. -/
theorem MergedIdentity.mergedName_ne (target victim : Row) :
    target.get "name" ≠ mergedName env target victim := by
  unfold mergedName
  intro h
  have htext : (target.get "name").format env =
      (target.get "name").format env ++ "+" ++ (victim.get "name").format env := by
    conv_lhs => rw [h]
    rfl
  have hlength := congrArg String.length htext
  rw [String.length_append, String.length_append] at hlength
  have hplus : "+".length = 1 := rfl
  omega

section Changes

variable {v v' : Views} {m : Mutation} {entity : EntityRef} {side : Side} {kind : String}
  {ref : Ref} {column : String} {value : Value}

theorem noop_iff_of_noop (hm : m = .noop) (hv : v' = v) : m.kind = "noop" ↔ v' = v := by
  rw [hm]
  exact ⟨fun _ => hv, fun _ => rfl⟩

theorem noop_iff_of_write (hkind : kind ≠ "noop") (hin : ref.In v)
    (hcolumn : column ∈ ref.row.columns) (hne : ref.row.get column ≠ value) :
    (Mutation.write kind ref column value).kind = "noop" ↔
      v.assign ref (ref.row.set column value) = v :=
  ⟨fun h => absurd h hkind, fun h => absurd (Views.eq_of_assign_eq hin hcolumn h) hne⟩

theorem noop_iff_of_remove (hkind : kind ≠ "noop") (hin : ref.In v)
    (hself : v' ref.loc = v.erase ref ref.loc) :
    (Mutation.remove kind ref).kind = "noop" ↔ v' = v := by
  refine ⟨fun h => absurd h hkind, fun h => ?_⟩
  rw [h] at hself
  exact absurd hself.symm (Views.erase_ne hin)

theorem noop_iff_of_add {loc : Loc} {row : Row} (hkind : kind ≠ "noop") :
    (Mutation.add kind row).kind = "noop" ↔ v.append loc row = v :=
  ⟨fun h => absurd h hkind, fun h => absurd h Views.append_ne⟩

/-- A write on one side is not undone by one on the other. -/
theorem noop_iff_of_conflict {cat tel : Ref} {row : Row} (hkind : m.kind ≠ "noop")
    (hcat : cat.In v) (hloc : tel.loc ≠ cat.loc) (hcolumn : column ∈ cat.row.columns)
    (hne : cat.row.get column ≠ value) :
    m.kind = "noop" ↔ (v.assign cat (cat.row.set column value)).assign tel row = v := by
  refine ⟨fun h => absurd h hkind, fun h => absurd ?_ hne⟩
  refine Views.eq_of_assign_eq hcat hcolumn (funext fun loc => ?_)
  by_cases heq : loc = cat.loc
  · rw [heq]
    have hrows := congrFun h cat.loc
    rwa [Views.assign_of_ne (Ne.symm hloc)] at hrows
  · exact Views.assign_of_ne heq

/-- A filter that keeps as many keeps all. -/
theorem eq_of_filter_eq {α : Type} {p : α → Bool} {l l' : List α} (hlength : l'.length = l.length)
    (h : l'.filter p = l) : l' = l := by
  have hkept : l'.filter p = l' := List.filter_sublist.eq_of_length (by rw [h, hlength])
  exact hkept.symm.trans h

/-- A row that takes another's name differs, also after other rows have been dropped. -/
theorem noop_iff_of_merge {target victim : Ref} {p : Row → Bool} (htarget : target.In v)
    (hname : "name" ∈ target.row.columns) :
    (MergedIdentity.mutation env target victim).kind = "noop" ↔
      (v.assign target (target.row.set "name"
        (MergedIdentity.mergedName env target.row victim.row))).keep target.loc p = v := by
  refine ⟨fun h => absurd (show "merge_rows" = "noop" from h) (by decide), fun h => ?_⟩
  have hrows := congrFun h target.loc
  rw [Views.keep_self, Views.assign_self] at hrows
  have hrows := eq_of_filter_eq List.length_set hrows
  refine absurd (Views.eq_of_assign_eq htarget hname (funext fun loc => ?_))
    (@MergedIdentity.mergedName_ne env target.row victim.row)
  by_cases heq : loc = target.loc
  · rw [heq, Views.assign_self]
    exact hrows
  · exact Views.assign_of_ne heq

/-- Either nothing happens, or the value that is written differs from the one before. -/
theorem Writes.noop_iff {P : Ref → String → Value → Prop} (hkind : kind ≠ "noop")
    (h : Writes v side entity kind P m v')
    (hP : ∀ ref column value, findIn v side entity = some ref → P ref column value →
      ref.row.get column ≠ value) : m.kind = "noop" ↔ v' = v := by
  obtain ⟨hm, hv⟩ | ⟨ref, column, value, href, hcolumn, hwritten, rfl, rfl⟩ := h
  · exact noop_iff_of_noop hm hv
  · exact noop_iff_of_write hkind (findIn_eq_some href).2.2.2.1 hcolumn (hP _ _ _ href hwritten)

end Changes

/-- A value that is compared as different is different, unless it is or holds `nan`. -/
theorem Value.ne_of_eq {a b : Value} (hnan : b.hasNan = false) (h : a.eq b = false) : b ≠ a := by
  rintro rfl
  rw [Value.eq_self hnan] at h
  cases h

/-! ## The condition -/

/-- The call writes no value that its cell has already: a constant or a parameter of `OutOfRange`
and `InvalidEnum`, the ghost that `OrphanEntity` draws, and the id without colons of
`MalformedId` may be there before. The classes that look for another value find one, unless
the value before is `nan`, which differs from itself. -/
def WritesAnew (env : Env) (c : DefectClass) (target : TargetProjection) (entity : EntityRef)
    (params : Params) (g : env.rng.State) (v : Views) : Prop :=
  match c with
  | .single .outOfRange => ∀ ref column, findIn v target.side entity = some ref →
      OutOfRange.attr entity params = .str column → ref.row.get column ≠ OutOfRange.value column params
  | .single .invalidEnum => ∀ ref column, findIn v target.side entity = some ref →
      InvalidEnum.attr entity params = .str column →
        ref.row.get column ≠ InvalidEnum.value column params
  | .single .orphanEntity => ∀ ref column value, findIn v target.side entity = some ref →
      OrphanEntity.Ghost env entity g column value → ref.row.get column ≠ value
  | .single .malformedId => ':' ∈ entity.id.toList
  | .single .attributeDrift => ∀ ref column, findIn v target.side entity = some ref →
      params.get "attribute" .none = .str column → (ref.row.get column).hasNan = false
  | .single .endpointShift => ∀ row ∈ v (target.side, .interfaceLink),
      (row.get "interface_id").hasNan = false ∧ (row.get "link_id").hasNan = false
  | .cross .attributeConflict => ∀ ref column, findIn v .catalog entity = some ref →
      params.get "attribute" .none = .str column → (ref.row.get column).hasNan = false
  | .cross .structuralConflict => ∀ row ∈ v (.telemetry, .interfaceLink),
      (row.get "interface_id").hasNan = false
  | _ => True

/-- An id without colons is not the same with its colons replaced. -/
theorem MalformedId.ne_badId {id : String} (h : ':' ∈ id.toList) : id ≠ badId id := by
  intro heq
  rw [heq] at h
  unfold badId at h
  rw [String.toList_ofList] at h
  obtain ⟨c, -, hc⟩ := List.mem_map.mp h
  split at hc
  · exact absurd hc (by decide)
  · next hne => exact hne hc

section Call

variable {s s' : env.rng.State × Views} {m : Mutation} {entity : EntityRef} {params : Params}

theorem noop_iff_fabricate {side : Side} {sideName letter table : String}
    (h : Runs (fabricate side sideName letter table : Inject env _) s m s') :
    m.kind = "noop" ↔ s'.2 = s.2 := by
  obtain ⟨hm, hs⟩ | ⟨t, row, -, rfl, hs⟩ := fabricate_effect h
  · exact noop_iff_of_noop hm hs
  · rw [hs]
    exact noop_iff_of_add (append_ne (by decide))

/-- Under the condition, a call returns `noop` exactly when it changes nothing. -/
theorem DefectClass.noop_iff {c : DefectClass} {target : TargetProjection} (hv : Shaped s.2)
    (h : Runs (c.apply target entity params : Inject env _) s m s')
    (hnew : WritesAnew env c target entity params s.1 s.2) : m.kind = "noop" ↔ s'.2 = s.2 := by
  cases c with
  | single c =>
    cases c with
    | missingNode =>
      obtain ⟨hm, hs⟩ | ⟨ref, hside, htable, hin, -, rfl, hcascade⟩ := MissingNode.effect params h
      · exact noop_iff_of_noop hm hs
      · rw [← hside] at hcascade
        exact noop_iff_of_remove (by decide) hin (MissingNode.cascade_self htable hcascade)
    | missingEdge =>
      obtain ⟨hm, hs⟩ | ⟨ref, -, -, hin, -, rfl, rfl⟩ := MissingEdge.effect params h
      · exact noop_iff_of_noop hm hs
      · exact noop_iff_of_remove (by decide) hin rfl
    | missingAttribute =>
      refine (MissingAttribute.effect h).noop_iff (by decide) ?_
      rintro ref column value - ⟨-, hne, rfl⟩
      exact hne
    | attributeDrift =>
      refine (AttributeDrift.effect h).noop_iff (by decide) ?_
      rintro ref column value href ⟨hattr, -, hne⟩
      exact Value.ne_of_eq (hnew ref column href hattr) hne.eq_false
    | endpointShift =>
      obtain ⟨hm, hs⟩ | ⟨ref, value, href, -, htaken, rfl, hs⟩ := EndpointShift.effect params h
      · exact noop_iff_of_noop hm hs
      · obtain ⟨hloc, hin⟩ := mem_refs.mp (List.mem_of_find?_eq_some href)
        have hrow : ref.row ∈ s.2 (target.side, .interfaceLink) := hloc ▸ List.mem_of_getElem? hin
        obtain ⟨hinterface, hlink⟩ := hnew ref.row hrow
        have htaken := htaken ref.row hrow (Value.eq_self hlink)
        rw [hs]
        refine noop_iff_of_write (by decide) hin ?_ fun heq => ?_
        · rw [hv.columns hin, hloc]
          exact Table.interface_id_mem_columns
        · rw [← heq, Value.eq_self hinterface] at htaken
          cases htaken
    | asymmetricLink =>
      obtain ⟨hm, hs⟩ | ⟨ref, href, rfl, hs⟩ := AsymmetricLink.effect params h
      · exact noop_iff_of_noop hm hs
      · rw [hs]
        exact noop_iff_of_remove (by decide) (mem_refs.mp (List.mem_of_mem_filter href)).2 rfl
    | orphanEntity => exact (OrphanEntity.effect params hv h).noop_iff (by decide) hnew
    | splitIdentity =>
      obtain ⟨hm, hs⟩ | ⟨ref, original, kind, -, -, -, -, rfl, rfl⟩ := SplitIdentity.effect params h
      · exact noop_iff_of_noop hm hs
      · exact noop_iff_of_add (by decide)
    | mergedIdentity =>
      obtain ⟨hm, hs⟩ | ⟨target, victim, -, href, -, hname, rfl, hs⟩ :=
        MergedIdentity.effect params h
      · exact noop_iff_of_noop hm hs
      · rw [hs]
        exact noop_iff_of_merge (findIn_eq_some href).2.2.2.1 hname
    | malformedId =>
      refine (MalformedId.effect params hv h).noop_iff (by decide) ?_
      rintro ref column value href ⟨rfl, rfl⟩
      rw [(findIn_eq_some href).2.2.2.2]
      intro heq
      exact MalformedId.ne_badId hnew (Value.str.inj heq)
    | outOfRange =>
      refine (OutOfRange.effect h).noop_iff (by decide) ?_
      rintro ref column value href ⟨hattr, rfl⟩
      exact hnew ref column href hattr
    | invalidEnum =>
      refine (InvalidEnum.effect h).noop_iff (by decide) ?_
      rintro ref column value href ⟨hattr, rfl⟩
      exact hnew ref column href hattr
  | cross c =>
    cases c with
    | attributeConflict =>
      obtain ⟨hm, hs⟩ | ⟨cat, tel, column, catNew, telNew, hcat, htel, hcolumn, hattr, -, hne, rfl,
        hs⟩ := AttributeConflict.effect h
      · exact noop_iff_of_noop hm hs
      · obtain ⟨hin, -, hloc, -⟩ := hv.findIn_both hcat htel
        rw [hs]
        exact noop_iff_of_conflict (show "set_attribute_both" ≠ "noop" by decide) hin hloc hcolumn
          (Value.ne_of_eq (hnew cat column hcat hattr) hne.eq_false)
    | structuralConflict =>
      obtain ⟨hm, hs⟩ | ⟨ref, value, hloc, hin, hlink, -, htaken, rfl, hs⟩ :=
        StructuralConflict.effect params h
      · exact noop_iff_of_noop hm hs
      · have hrow : ref.row ∈ s.2 (.telemetry, .interfaceLink) := hloc ▸ List.mem_of_getElem? hin
        have htaken := htaken ref.row hrow hlink
        rw [hs]
        refine noop_iff_of_write (by decide) hin ?_ fun heq => ?_
        · rw [hv.columns hin, hloc]
          exact Table.interface_id_mem_columns
        · rw [← heq, Value.eq_self (hnew ref.row hrow)] at htaken
          cases htaken
    | existenceConflict =>
      obtain ⟨hm, hs⟩ | ⟨ref, -, -, hin, -, rfl, rfl⟩ := ExistenceConflict.effect h
      · exact noop_iff_of_noop hm hs
      · exact noop_iff_of_remove (append_ne (by decide)) hin rfl
    | phantomEntity => exact noop_iff_fabricate h
    | shadowEntity => exact noop_iff_fabricate h

end Call

/-- The scenario that sets the status of all routers to the one that they have. -/
def sameStatus : Scenario :=
  .sample [.sample "s" InvalidEnum.name .catalog "PhysicalRouter"
    [("attribute", .str "status"), ("value", .str "Running")]]

end GnnSandbox.Bench
