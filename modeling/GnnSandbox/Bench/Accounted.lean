import GnnSandbox.Bench.Targets

/-!
# Ledger completeness

Whether every row that differs from the twin is named by a record. Each call changes rows of
the keys that its mutation tells, except that `MissingNode` also changes the dependents of the
row that it removes.
-/

namespace GnnSandbox.Bench

open Raise

variable {env : Env}

/-! ## Rows by key -/

/-- Two keys that are the same or compare as equal. -/
def SameKey (a b : Value) : Prop := a = b ∨ a.eq b = true

instance (a b : Value) : Decidable (SameKey a b) := inferInstanceAs (Decidable (_ ∨ _))

theorem SameKey.trans {a b c : Value} (h : SameKey a b) (h' : SameKey b c) : SameKey a c := by
  rcases h with rfl | h
  · exact h'
  · rcases h' with rfl | h'
    · exact .inr h
    · exact .inr (Value.eq_trans h h')

/-- The rows of a table that are known by a key. -/
def rowsWith (env : Env) (v : Views) (loc : Loc) (key : Value) : List Row :=
  (v loc).filter fun row => SameKey (keyOf env loc.2 row) key

/-- The mutation keeps a row of the table with the key. -/
def Mutation.Names (env : Env) (m : Mutation) (t : Table) (key : Value) : Prop :=
  ∃ row ∈ m.rows, row.columns = t.columns ∧ SameKey (keyOf env t row) key

/-- The record names the key of the table: as its target, or by a row of its mutation. -/
def DefectRecord.Names (env : Env) (r : DefectRecord) (t : Table) (key : Value) : Prop :=
  r.targetEntity.table = t.name ∧ SameKey (.str r.targetEntity.id) key ∨
    r.mutation.Names env t key

instance (env : Env) (m : Mutation) (t : Table) (key : Value) : Decidable (m.Names env t key) :=
  inferInstanceAs (Decidable (∃ row ∈ m.rows, _))

instance (env : Env) (r : DefectRecord) (t : Table) (key : Value) : Decidable (r.Names env t key) :=
  inferInstanceAs (Decidable (_ ∨ _))

/-- Every key whose rows differ between the projections is named by a record. -/
def Accounted (env : Env) (ledger : List DefectRecord) (golden final : Views) : Prop :=
  ∀ loc key, (∀ r ∈ ledger, ¬r.Names env loc.2 key) →
    rowsWith env final loc key = rowsWith env golden loc key

/-! ## Lists -/

section Lists

variable {α : Type} {p : α → Bool} {l : List α} {i : ℕ} {a b : α}

theorem filter_set_of_false (ha : l[i]? = some a) (hpa : p a = false) (hpb : p b = false) :
    (l.set i b).filter p = l.filter p := by
  induction l generalizing i with
  | nil => rfl
  | cons c l ih =>
    cases i with
    | zero =>
      obtain rfl : c = a := Option.some.inj ha
      simp [hpa, hpb]
    | succ i =>
      rw [List.set_cons_succ, List.filter_cons, List.filter_cons, ih ha]

theorem filter_eraseIdx_of_false (ha : l[i]? = some a) (hpa : p a = false) :
    (l.eraseIdx i).filter p = l.filter p := by
  induction l generalizing i with
  | nil => rfl
  | cons c l ih =>
    cases i with
    | zero =>
      obtain rfl : c = a := Option.some.inj ha
      simp [hpa]
    | succ i =>
      rw [List.eraseIdx_cons_succ, List.filter_cons, List.filter_cons, ih ha]

/-- A filter after another that keeps all that it would keep. -/
theorem filter_filter_of_imp {q : α → Bool} (h : ∀ a ∈ l, p a = true → q a = true) :
    (l.filter q).filter p = l.filter p := by
  rw [List.filter_filter]
  refine List.filter_congr fun a ha => ?_
  cases hp : p a with
  | false => rfl
  | true => rw [h a ha hp]; rfl

end Lists

/-! ## Changes of unnamed keys -/

section Changes

variable {v : Views} {loc : Loc} {key : Value} {ref : Ref}

theorem rowsWith_assign (hin : ref.In v) {row : Row}
    (hold : ref.loc = loc → ¬SameKey (keyOf env loc.2 ref.row) key)
    (hnew : ref.loc = loc → ¬SameKey (keyOf env loc.2 row) key) :
    rowsWith env (v.assign ref row) loc key = rowsWith env v loc key := by
  unfold rowsWith
  by_cases hloc : ref.loc = loc
  · subst hloc
    rw [Views.assign_self]
    exact filter_set_of_false hin (decide_eq_false (hold rfl)) (decide_eq_false (hnew rfl))
  · rw [Views.assign_of_ne (Ne.symm hloc)]

theorem rowsWith_erase (hin : ref.In v)
    (hold : ref.loc = loc → ¬SameKey (keyOf env loc.2 ref.row) key) :
    rowsWith env (v.erase ref) loc key = rowsWith env v loc key := by
  unfold rowsWith
  by_cases hloc : ref.loc = loc
  · subst hloc
    rw [Views.erase_self]
    exact filter_eraseIdx_of_false hin (decide_eq_false (hold rfl))
  · rw [Views.erase_of_ne (Ne.symm hloc)]

theorem rowsWith_append {loc' : Loc} {row : Row}
    (hnew : loc' = loc → ¬SameKey (keyOf env loc.2 row) key) :
    rowsWith env (v.append loc' row) loc key = rowsWith env v loc key := by
  unfold rowsWith
  by_cases hloc : loc' = loc
  · subst hloc
    rw [Views.append_self, List.filter_append,
      List.filter_cons_of_neg (by simpa using hnew rfl), List.filter_nil, List.append_nil]
  · rw [Views.append_of_ne (Ne.symm hloc)]

theorem rowsWith_keep {loc' : Loc} {p : Row → Bool}
    (hkeep : loc' = loc → ∀ row ∈ v loc, SameKey (keyOf env loc.2 row) key → p row = true) :
    rowsWith env (v.keep loc' p) loc key = rowsWith env v loc key := by
  unfold rowsWith
  by_cases hloc : loc' = loc
  · subst hloc
    rw [Views.keep_self]
    exact filter_filter_of_imp fun row hrow hkey => hkeep rfl row hrow (of_decide_eq_true hkey)
  · rw [Views.keep_of_ne (Ne.symm hloc)]

/-- **An effect without cascade changes rows of the keys only that its mutation names.** -/
theorem Effect.rowsWith_eq {v' : Views} {m : Mutation} (hv : Shaped v) (h : Effect Eq v m v')
    (hkey : ¬m.Names env loc.2 key) : rowsWith env v' loc key = rowsWith env v loc key := by
  have hnot : ∀ {row : Row}, row ∈ m.rows → row.columns = loc.2.columns →
      ¬SameKey (keyOf env loc.2 row) key := fun hrow hcolumns hsame =>
    hkey ⟨_, hrow, hcolumns, hsame⟩
  cases h with
  | noop => rfl
  | @write kind ref column value _ hin _ =>
    have hcolumns := hv.columns hin
    refine rowsWith_assign hin (fun hloc => hnot ?_ (hloc ▸ hcolumns)) fun hloc => hnot ?_ ?_
    · exact List.mem_cons_self ..
    · exact List.mem_cons_of_mem _ (List.mem_cons_self ..)
    · rw [Row.columns_set]
      exact hloc ▸ hcolumns
  | @remove kind ref _ _ hin hcascade =>
    rw [← hcascade]
    exact rowsWith_erase hin fun hloc => hnot (List.mem_cons_self ..) (hloc ▸ hv.columns hin)
  | add _ hcolumns =>
    exact rowsWith_append fun hloc => hnot (List.mem_cons_self ..) (hloc ▸ hcolumns)
  | @conflict cat tel column catNew telNew hcat htel hcatLoc htelLoc htable hcolumn =>
    have hne : tel.loc ≠ cat.loc := by
      intro heq
      rw [heq, hcatLoc] at htelLoc
      cases htelLoc
    have hmem : ∀ row ∈ [cat.row, tel.row, cat.row.set column catNew, tel.row.set column telNew],
        row ∈ (AttributeConflict.mutation cat tel column catNew telNew).rows := fun _ h => h
    rw [rowsWith_assign (htel.assign hne), rowsWith_assign hcat]
    · exact fun hloc => hnot (hmem _ (by simp)) (hloc ▸ hv.columns hcat)
    · intro hloc
      refine hnot (hmem _ (by simp)) ?_
      rw [Row.columns_set]
      exact hloc ▸ hv.columns hcat
    · exact fun hloc => hnot (hmem _ (by simp)) (hloc ▸ hv.columns htel)
    · intro hloc
      refine hnot (hmem _ (by simp)) ?_
      rw [Row.columns_set]
      exact hloc ▸ hv.columns htel
  | @merge env' target victim htarget hvictim hid hname =>
    obtain ⟨hvictimLoc, hvictimIn⟩ := mem_refs.mp hvictim
    have hmem : ∀ row ∈ [target.row, victim.row, target.row.set "name"
        (MergedIdentity.mergedName env' target.row victim.row)],
        row ∈ (MergedIdentity.mutation env' target victim).rows := fun _ h => h
    have hvictimColumns := hv.columns hvictimIn
    rw [rowsWith_keep, rowsWith_assign htarget]
    · exact fun hloc => hnot (hmem _ (by simp)) (hloc ▸ hv.columns htarget)
    · intro hloc
      refine hnot (hmem _ (by simp)) ?_
      rw [Row.columns_set]
      exact hloc ▸ hv.columns htarget
    · intro hloc row hrow hsame
      subst hloc
      have hedge : target.loc.2.isEdge = false := by
        refine Table.isEdge_of_name ?_
        rw [← hv.columns htarget]
        exact hname
      have hvictim := hnot (hmem victim.row (by simp)) (hvictimLoc ▸ hvictimColumns)
      rw [keyOf_entity hedge] at hsame hvictim
      cases heq : (row.get "id").eq (victim.row.get "id") with
      | false => rfl
      | true => exact absurd (SameKey.trans (.inr (Value.eq_symm heq)) hsame) hvictim

end Changes

/-! ## Missing nodes without dependents -/

namespace MissingNode

/-- No row refers to the entity, so that nothing is left for the cascade. -/
def NoDependents (v : Views) (side : Side) (entity : EntityRef) : Prop :=
  (entity.table = "PhysicalRouter" →
    (∀ row ∈ v (side, .physicalInterface), (row.get "router_id").eq (.str entity.id) = false) ∧
    (∀ row ∈ v (side, .vrf), (row.get "router_id").eq (.str entity.id) = false) ∧
    ∀ row ∈ v (side, .device), ∀ s, row.get "interface_id" = .str s →
      Graph.startsWith s (entity.id ++ ":interface:") = false) ∧
  (entity.table = "PhysicalInterface" →
    (∀ row ∈ v (side, .interfaceLink), (row.get "interface_id").eq (.str entity.id) = false) ∧
    (∀ row ∈ v (side, .subnetAssociation), (row.get "entity_id").eq (.str entity.id) = false) ∧
    ∀ row ∈ v (side, .device), (row.get "interface_id").eq (.str entity.id) = false) ∧
  (entity.table = "PhysicalLink" →
    ∀ row ∈ v (side, .interfaceLink), (row.get "link_id").eq (.str entity.id) = false)

section Cascade

variable {s s' : env.rng.State × Views} {side : Side} {a : Unit} {entity : EntityRef}

theorem owned_eq_nil {rows : List Row} {id : String}
    (h : ∀ row ∈ rows, (row.get "router_id").eq (.str id) = false) : owned rows id = [] := by
  unfold owned
  rw [List.filter_eq_nil_iff.mpr fun row hrow => Bool.eq_false_iff.mp (h row hrow), List.map_nil]

theorem strip_eq {t : Table} {attr : String} {value : Value}
    (h : Raise.Runs (strip side t attr value : Inject env _) s a s')
    (hnone : ∀ row ∈ s.2 (side, t), (row.get attr).eq value = false) : s' = s := by
  rw [Runs.strip h]
  have hkeep : (s.2 (side, t)).filter (fun row => !(row.get attr).eq value) = s.2 (side, t) :=
    List.filter_eq_self.mpr fun row hrow => by rw [hnone row hrow]; rfl
  unfold Views.keep
  rw [hkeep, Function.update_eq_self]

/-- Devices whose gateway lives elsewhere keep it. -/
theorem collect_clearGateway_eq {id : String} {devices rows : List Row}
    (h : collect (clearGateway id) devices = .ok rows)
    (hnone : ∀ row ∈ devices, ∀ s, row.get "interface_id" = .str s →
      Graph.startsWith s (id ++ ":interface:") = false) : rows = devices := by
  have hall := collect_eq_ok.mp h
  clear h
  induction hall with
  | nil => rfl
  | @cons dev row l l' hrow _ ih =>
    have hdev : row = dev := by
      unfold clearGateway at hrow
      split at hrow
      · next s hs =>
        rw [hnone dev (List.mem_cons_self ..) s hs] at hrow
        cases hrow
        rfl
      · cases hrow
    rw [hdev, ih fun r hr => hnone r (List.mem_cons_of_mem _ hr)]

/-- Without dependents, the cascade changes nothing. -/
theorem cascade_eq (h : Raise.Runs (cascade side entity : Inject env _) s a s')
    (hnone : NoDependents s.2 side entity) : s'.2 = s.2 := by
  obtain ⟨hrouter, hinterface, hlink⟩ := hnone
  unfold cascade at h
  split at h
  · next htable =>
    obtain ⟨hinterfaces, hvrfs, hdevices⟩ := hrouter htable
    unfold cascadeRouter at h
    rw [runs_rowsAt_bind, owned_eq_nil hinterfaces] at h
    obtain ⟨_, t, hloop, h⟩ := runs_bind.mp h
    rw [runs_forM_nil.mp hloop, runs_rowsAt_bind, owned_eq_nil hvrfs] at h
    obtain ⟨_, u, hloop', h⟩ := runs_bind.mp h
    rw [runs_forM_nil.mp hloop', runs_rowsAt_bind] at h
    obtain ⟨rows, hrows, h⟩ := runs_liftExcept_bind.mp h
    rw [collect_clearGateway_eq hrows hdevices] at h
    rw [runs_setRows.mp h]
    exact Function.update_eq_self ..
  · split at h
    · next htable =>
      obtain ⟨hedges, hsubnets, hdevices⟩ := hinterface htable
      obtain ⟨_, t, hstrip, h⟩ := runs_bind.mp h
      rw [strip_eq hstrip hedges] at h
      obtain ⟨_, u, hstrip', h⟩ := runs_bind.mp h
      rw [strip_eq hstrip' hsubnets] at h
      rw [runs_alter.mp h]
      dsimp only
      have hmap : ((s.2 (side, .device)).map fun dev =>
          if (dev.get "interface_id").eq (.str entity.id) then dev.set "interface_id" .none
          else dev) = s.2 (side, .device) := by
        refine (List.map_congr_left fun dev hdev => ?_).trans (List.map_id _)
        rw [hdevices dev hdev]
        rfl
      rw [hmap, Function.update_eq_self]
    · split at h
      · next htable => rw [strip_eq h (hlink htable)]
      · rw [(runs_pure.mp h).2]

end Cascade

/-- A row that goes leaves no dependents where there were none. -/
theorem NoDependents.erase {v : Views} {side : Side} {entity : EntityRef}
    (h : NoDependents v side entity) (ref : Ref) : NoDependents (v.erase ref) side entity := by
  have hsub : ∀ {loc : Loc} {row : Row}, row ∈ v.erase ref loc → row ∈ v loc := by
    intro loc row hrow
    by_cases hloc : loc = ref.loc
    · subst hloc
      rw [Views.erase_self] at hrow
      exact List.mem_of_mem_eraseIdx hrow
    · rwa [Views.erase_of_ne hloc] at hrow
  obtain ⟨hrouter, hinterface, hlink⟩ := h
  refine ⟨fun ht => ?_, fun ht => ?_, fun ht row hrow => hlink ht row (hsub hrow)⟩
  · obtain ⟨h₁, h₂, h₃⟩ := hrouter ht
    exact ⟨fun row hrow => h₁ row (hsub hrow), fun row hrow => h₂ row (hsub hrow),
      fun row hrow => h₃ row (hsub hrow)⟩
  · obtain ⟨h₁, h₂, h₃⟩ := hinterface ht
    exact ⟨fun row hrow => h₁ row (hsub hrow), fun row hrow => h₂ row (hsub hrow),
      fun row hrow => h₃ row (hsub hrow)⟩

end MissingNode

/-! ## Ledger completeness -/

/-- No call that is recorded cascades: `MissingNode` only removes rows without dependents. -/
def Application.NoCascade (app : Application env) : Prop :=
  app.cls = .single .missingNode → app.record.isSome →
    MissingNode.NoDependents app.before app.spec.targetProjection.side app.entity

section Occurs

variable {sc : Scenario} {twin : GoldenTwin} {st : RunState env} {app : Application env}

/-- What a call changes is named by its record. -/
theorem Application.Occurs.rowsWith_eq (h : app.Occurs sc twin st) (hcascade : app.NoCascade)
    {loc : Loc} {key : Value} (hkey : ∀ r, app.record = some r → ¬r.Names env loc.2 key) :
    rowsWith env app.after loc key = rowsWith env app.before loc key := by
  obtain ⟨g, hrun⟩ := h.runs
  have hv := h.reachable.shaped
  obtain ⟨hkind, -⟩ | ⟨-, r, hrecord, hmake⟩ := h.record
  · have hsame : app.after = app.before := (DefectClass.effect hv hrun).eq_of_noop hkind
    rw [hsame]
  · have heffect : Effect Eq app.before app.mutation app.after := by
      refine DefectClass.effect_of (fun _ => rfl) ?_ hv hrun
      intro hc ref _ _ _ hrun' _
      have hnone := (hcascade hc (by rw [hrecord]; rfl)).erase ref
      exact (MissingNode.cascade_eq hrun' hnone).symm
    refine heffect.rowsWith_eq hv fun hnames => hkey r hrecord (.inr ?_)
    obtain ⟨_, -, rfl⟩ := Option.map_eq_some_iff.mp hmake
    exact hnames

end Occurs

/-- **Ledger completeness**: in a run whose `MissingNode` calls remove rows without dependents
only, every key whose rows differ from those of the twin, in either projection, is named by a
record of the ledger. -/
theorem ledger_accounts (env : Env) (sc : Scenario) (twin : GoldenTwin)
    (h : ∀ app ∈ (runOn env sc twin).2.applied, app.NoCascade) :
    Accounted env (runOn env sc twin).2.ledger (buildProjections twin) (runOn env sc twin).2.views := by
  have hall : (∀ app ∈ (runOn env sc twin).2.applied, app.NoCascade) →
      Accounted env (runOn env sc twin).2.ledger (buildProjections twin)
        (runOn env sc twin).2.views := by
    refine runOn_induction (I := fun st => (∀ app ∈ st.applied, app.NoCascade) →
      Accounted env st.ledger (buildProjections twin) st.views) (fun _ _ _ _ => rfl) ?_
    intro st app hI hoccurs hcascade loc key hkey
    rw [RunState.ledger_next] at hkey
    have hbefore := hI (fun a ha => hcascade a (List.mem_append_left _ ha)) loc key
      fun r hr => hkey r (List.mem_append_left _ hr)
    rw [← hoccurs.before] at hbefore
    rw [← hbefore]
    refine hoccurs.rowsWith_eq (hcascade app (List.mem_append_right _ (List.mem_singleton_self _)))
      fun r hr => hkey r (List.mem_append_right _ ?_)
    rw [hr]
    exact List.mem_singleton_self _
  exact hall h

theorem ledger_accounts_sample :
    let sc := Scenario.sample [.sample "a" MissingAttribute.name .catalog "PhysicalRouter"
      [("attribute", .str "vendor")]]
    Accounted .plain (runOn .plain sc .sample).2.ledger (buildProjections .sample)
      (runOn .plain sc .sample).2.views := by
  intro sc
  refine ledger_accounts .plain sc .sample fun app happ hc => ?_
  have hne : ∀ app ∈ (runOn .plain sc .sample).2.applied, app.cls ≠ .single .missingNode := by
    decide +kernel
  exact absurd hc (hne app happ)

/-- The scenario that removes all routers from the catalog. -/
def missingRouters : Scenario :=
  .sample [.sample "m" MissingNode.name .catalog "PhysicalRouter" []]

/-- The interface that goes with a removed router is named by no record. -/
theorem missingRouters_not_accounted :
    GoldenTwin.sample.Valid .plain ∧ (runOn .plain missingRouters .sample).1 = .ok () ∧
      ¬Accounted .plain (runOn .plain missingRouters .sample).2.ledger
        (buildProjections .sample) (runOn .plain missingRouters .sample).2.views := by
  refine ⟨GoldenTwin.sample_valid, by decide +kernel, fun h => ?_⟩
  have hkey := h (.catalog, .physicalInterface) (.str "router:pe1:interface:eth0") (by decide +kernel)
  exact absurd hkey (by decide +kernel)

end GnnSandbox.Bench
