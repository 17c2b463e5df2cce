import GnnSandbox.Bench.Accounted
import GnnSandbox.Lib.Exchange

/-!
# Replaying the ledger

A record keeps the rows that a defect took out of a table and those that it put in. The class, the
target and the kind of the mutation say which table it was. So the ledger alone leads from the twin
to the damaged projections, and back.

1. `DefectRecord.exchange`: the rows that a record takes and puts, by table.
2. `DefectClass.turns`: one call.
3. `ledger_replays`: a run.
-/

namespace GnnSandbox.Bench

open Raise

variable {env : Env}

/-! ## What a record says -/

/-- The rows of the tables, whatever their order. -/
def Views.contents (v : Views) : Loc → Multiset Row := fun loc => (v loc : Multiset Row)

/-- The table of a named row of a payload: the name may be that of a projection. -/
def Payload.place (base : Loc) (name : String) : Loc :=
  if name = "catalog" then (.catalog, base.2)
  else if name = "telemetry" then (.telemetry, base.2)
  else base

/-- The rows of a payload that belong to a table. -/
def Payload.contents (base : Loc) : Payload → Loc → Multiset Row
  | .row r, loc => if loc = base then {r} else 0
  | .rows named, loc => ((named.filter fun p => place base p.1 = loc).map Prod.snd : List Row)

/-- The rows that a mutation of a table takes, and those that it puts. -/
def Mutation.exchange (m : Mutation) (base : Loc) : Exchange Loc Row where
  removed := fun loc => (m.before.map fun p => p.contents base loc).getD 0
  added := fun loc => (m.after.map fun p => p.contents base loc).getD 0

/-- The table that a class mutates. -/
def DefectClass.place (c : DefectClass) (target : TargetProjection) (kind table : String) :
    Option Loc :=
  match c with
  | .single .endpointShift | .single .asymmetricLink => some (target.side, .interfaceLink)
  | .cross .structuralConflict => some (.telemetry, .interfaceLink)
  | .single _ => (Table.ofName table).map (Prod.mk target.side)
  | .cross .existenceConflict =>
    (Table.ofName table).map
      (Prod.mk (if kind = "delete_from_telemetry" then .telemetry else .catalog))
  | .cross .shadowEntity => (Table.ofName table).map (Prod.mk .telemetry)
  | .cross _ => (Table.ofName table).map (Prod.mk .catalog)

/-- What a record says about the rows. -/
def DefectRecord.exchange (r : DefectRecord) : Exchange Loc Row :=
  match resolve r.defectClass with
  | .error _ => ⟨0, 0⟩
  | .ok c =>
    match c.place r.targetProjection r.mutation.kind r.targetEntity.table with
    | none => ⟨0, 0⟩
    | some base => r.mutation.exchange base

/-! ## Rows in a list -/

section Rows

variable {α : Type} {l : List α} {i : ℕ} {a b : α} {p : α → Bool}

theorem coe_of_getElem? (h : l[i]? = some a) : (l : Multiset α) = ↑(l.eraseIdx i) + {a} := by
  obtain ⟨hi, rfl⟩ := List.getElem?_eq_some_iff.mp h
  rw [add_comm, Multiset.singleton_add, Multiset.cons_coe, Multiset.coe_eq_coe]
  exact (List.getElem_cons_eraseIdx_perm hi).symm

theorem coe_set (h : l[i]? = some a) (b : α) :
    (l.set i b : Multiset α) = ↑(l.eraseIdx i) + {b} := by
  obtain ⟨hi, -⟩ := List.getElem?_eq_some_iff.mp h
  rw [coe_of_getElem? (List.getElem?_set_self hi), List.eraseIdx_set_eq]

/-- A row that is kept. -/
theorem coe_filter (h : l[i]? = some a) (ha : p a = true) :
    (l.filter p : Multiset α) = ↑((l.eraseIdx i).filter p) + {a} := by
  obtain ⟨hi, rfl⟩ := List.getElem?_eq_some_iff.mp h
  have hperm := (List.getElem_cons_eraseIdx_perm hi).filter p
  rw [List.filter_cons_of_pos ha] at hperm
  rw [add_comm, Multiset.singleton_add, Multiset.cons_coe, Multiset.coe_eq_coe]
  exact hperm.symm

/-- A row is replaced, and the only row that is not kept goes. -/
theorem coe_filter_set (h : l[i]? = some a) (ha : p a = true) (hb : p b = true) {v : α} (hv : v ∈ l)
    (hpv : p v = false) (hone : l.countP (fun x => !p x) = 1) :
    ∃ rest : Multiset α, (l : Multiset α) = rest + ↑[a, v] ∧
      ((l.set i b).filter p : Multiset α) = rest + {b} := by
  have hdropped : l.filter (fun x => !p x) = [v] := by
    have hlength : (l.filter fun x => !p x).length = 1 := by rw [← List.countP_eq_length_filter, hone]
    obtain ⟨x, hx⟩ := List.length_eq_one_iff.mp hlength
    have hmem : v ∈ l.filter fun x => !p x := List.mem_filter.mpr ⟨hv, by simp [hpv]⟩
    rw [hx] at hmem ⊢
    rw [List.mem_singleton.mp hmem]
  have hsplit : (l : Multiset α) = ↑(l.filter p) + {v} := by
    have hperm := (List.filter_append_perm p l).symm
    rw [hdropped] at hperm
    exact (Multiset.coe_eq_coe.mpr hperm).trans (Multiset.coe_add _ _).symm
  obtain ⟨hi, -⟩ := List.getElem?_eq_some_iff.mp h
  refine ⟨↑((l.eraseIdx i).filter p), ?_, ?_⟩
  · rw [hsplit, coe_filter h ha, add_assoc]
    rfl
  · rw [coe_filter (List.getElem?_set_self hi) hb, List.eraseIdx_set_eq]

end Rows

/-! ## Changes of rows -/

section Turns

variable {v : Views} {ref : Ref} {kind : String}

theorem turns_write (hin : ref.In v) (column : String) (value : Value) :
    ((Mutation.write kind ref column value).exchange ref.loc).Turns v.contents
      (v.assign ref (ref.row.set column value)).contents := by
  intro loc
  by_cases hloc : loc = ref.loc
  · subst hloc
    refine ⟨↑((v ref.loc).eraseIdx ref.index), ?_, ?_⟩
    · simpa [Mutation.exchange, Mutation.write, Payload.contents, Views.contents] using
        coe_of_getElem? hin
    · simpa [Mutation.exchange, Mutation.write, Payload.contents, Views.contents] using
        coe_set hin (ref.row.set column value)
  · refine ⟨v.contents loc, ?_, ?_⟩
    · simp [Mutation.exchange, Mutation.write, Payload.contents, hloc]
    · simp [Mutation.exchange, Mutation.write, Payload.contents, Views.contents, hloc,
        Views.assign_of_ne hloc]

theorem turns_remove (hin : ref.In v) :
    ((Mutation.remove kind ref).exchange ref.loc).Turns v.contents (v.erase ref).contents := by
  intro loc
  by_cases hloc : loc = ref.loc
  · subst hloc
    refine ⟨↑((v ref.loc).eraseIdx ref.index), ?_, ?_⟩
    · simpa [Mutation.exchange, Mutation.remove, Payload.contents, Views.contents] using
        coe_of_getElem? hin
    · simp [Mutation.exchange, Mutation.remove, Views.contents]
  · refine ⟨v.contents loc, ?_, ?_⟩
    · simp [Mutation.exchange, Mutation.remove, Payload.contents, hloc]
    · simp [Mutation.exchange, Mutation.remove, Views.contents, Views.erase_of_ne hloc]

theorem turns_add (loc : Loc) (row : Row) :
    ((Mutation.add kind row).exchange loc).Turns v.contents (v.append loc row).contents := by
  intro loc'
  refine ⟨v.contents loc', by simp [Mutation.exchange, Mutation.add], ?_⟩
  by_cases hloc : loc' = loc
  · subst hloc
    simp [Mutation.exchange, Mutation.add, Payload.contents, Views.contents, ← Multiset.coe_add]
  · simp [Mutation.exchange, Mutation.add, Payload.contents, Views.contents, hloc,
      Views.append_of_ne hloc]

/-- Both projections are written. -/
theorem turns_conflict {cat tel : Ref} {t : Table} {column : String} {catNew telNew : Value}
    (hcat : cat.In v) (htel : tel.In v) (hloc : cat.loc = (.catalog, t))
    (hloc' : tel.loc = (.telemetry, t)) :
    ((AttributeConflict.mutation cat tel column catNew telNew).exchange (.catalog, t)).Turns
      v.contents ((v.assign cat (cat.row.set column catNew)).assign tel
        (tel.row.set column telNew)).contents := by
  have hne : (Side.catalog, t) ≠ (Side.telemetry, t) := by simp
  intro loc
  by_cases hc : loc = (.catalog, t)
  · subst hc
    refine ⟨↑((v (.catalog, t)).eraseIdx cat.index), ?_, ?_⟩
    · have hrows := coe_of_getElem? hcat
      rw [hloc] at hrows
      simpa [Mutation.exchange, AttributeConflict.mutation, Payload.contents, Payload.place,
        Views.contents] using hrows
    · have hrows := coe_set hcat (cat.row.set column catNew)
      rw [hloc] at hrows
      simp only [Views.contents]
      rw [Views.assign_of_ne (hloc' ▸ hne), ← hloc, Views.assign_self, hloc, hrows]
      simp [Mutation.exchange, AttributeConflict.mutation, Payload.contents, Payload.place]
  · by_cases ht : loc = (.telemetry, t)
    · subst ht
      have hwritten : v.assign cat (cat.row.set column catNew) (.telemetry, t) = v (.telemetry, t) :=
        Views.assign_of_ne (hloc ▸ hne.symm)
      refine ⟨↑((v (.telemetry, t)).eraseIdx tel.index), ?_, ?_⟩
      · have hrows := coe_of_getElem? htel
        rw [hloc'] at hrows
        simpa [Mutation.exchange, AttributeConflict.mutation, Payload.contents, Payload.place,
          Views.contents] using hrows
      · have hrows := coe_set htel (tel.row.set column telNew)
        rw [hloc'] at hrows
        simp only [Views.contents]
        rw [← hloc', Views.assign_self, hloc', hwritten, hrows]
        simp [Mutation.exchange, AttributeConflict.mutation, Payload.contents, Payload.place]
    · refine ⟨v.contents loc, ?_, ?_⟩
      · simp [Mutation.exchange, AttributeConflict.mutation, Payload.contents, Payload.place,
          Ne.symm hc, Ne.symm ht]
      · simp only [Views.contents]
        rw [Views.assign_of_ne (hloc' ▸ ht), Views.assign_of_ne (hloc ▸ hc)]
        simp [Mutation.exchange, AttributeConflict.mutation, Payload.contents, Payload.place,
          Ne.symm hc, Ne.symm ht]

/-- Every id of a row is that of this row only. -/
def OnceEach (rows : List Row) : Prop :=
  ∀ row ∈ rows, rows.countP (fun r => (r.get "id").eq (row.get "id")) = 1

instance (rows : List Row) : Decidable (OnceEach rows) := List.decidableBAll ..

/-- A row takes the name of another, which goes. -/
theorem turns_merge {entity : EntityRef} {target victim : Ref} (hin : target.In v)
    (hid : target.row.get "id" = .str entity.id)
    (hvictim : victim ∈ MergedIdentity.victims entity target (v target.loc))
    (honce : OnceEach (v target.loc)) :
    ((MergedIdentity.mutation env target victim).exchange target.loc).Turns v.contents
      ((v.assign target (target.row.set "name"
        (MergedIdentity.mergedName env target.row victim.row))).keep target.loc
          fun row => !(row.get "id").eq (victim.row.get "id")).contents := by
  obtain ⟨hmem, hother⟩ := List.mem_filter.mp hvictim
  obtain ⟨hvloc, hvin⟩ := mem_refs.mp hmem
  have hrow : victim.row ∈ v target.loc := by
    rw [← hvloc]
    exact List.mem_of_getElem? hvin
  have hcount := honce victim.row hrow
  have hself : (victim.row.get "id").eq (victim.row.get "id") = true := by
    obtain ⟨r, -, hr⟩ := List.countP_pos_iff.mp (hcount ▸ Nat.one_pos)
    exact Value.eq_trans (Value.eq_symm hr) hr
  have hne : (target.row.get "id").eq (victim.row.get "id") = false := by
    rw [Bool.and_eq_true, Bool.not_eq_true', ← hid] at hother
    rw [← Bool.not_eq_true]
    intro heq
    rw [Value.eq_symm heq] at hother
    exact absurd hother.2 (by simp)
  have hkept : ((target.row.set "name" (MergedIdentity.mergedName env target.row victim.row)).get
      "id") = target.row.get "id" := Row.get_set_of_ne (by decide) _
  intro loc
  by_cases hloc : loc = target.loc
  · subst hloc
    obtain ⟨rest, hbefore, hafter⟩ := coe_filter_set (p := fun row => !(row.get "id").eq
      (victim.row.get "id")) (b := target.row.set "name"
        (MergedIdentity.mergedName env target.row victim.row)) hin (by simp [hne])
      (by simp [hkept, hne]) hrow (by simp [hself]) (by simpa using hcount)
    refine ⟨rest, ?_, ?_⟩
    · simpa [Mutation.exchange, MergedIdentity.mutation, Payload.contents, Payload.place,
        Views.contents] using hbefore
    · simpa [Mutation.exchange, MergedIdentity.mutation, Payload.contents, Views.contents]
        using hafter
  · refine ⟨v.contents loc, ?_, ?_⟩
    · simp [Mutation.exchange, MergedIdentity.mutation, Payload.contents, Payload.place, Ne.symm hloc]
    · simp [Mutation.exchange, MergedIdentity.mutation, Payload.contents, Views.contents, hloc,
        Views.keep_of_ne hloc, Views.assign_of_ne hloc]

end Turns

/-! ## Calls -/

/-- A call whose record tells all of it: nothing cascades, rows are merged where every id is that
of one row, and the projection to drop from is a text. -/
structure Application.Reversible (app : Application env) : Prop where
  noCascade : app.NoCascade
  merged : app.cls = .single .mergedIdentity → ∀ t : Table, t.name = app.entity.table →
    OnceEach (app.before (.catalog, t))
  dropped : app.cls = .cross .existenceConflict →
    ∃ s, ExistenceConflict.dropFrom app.spec.parameters = .str s

section Calls

variable {s s' : env.rng.State × Views} {m : Mutation} {entity : EntityRef} {params : Params}

/-- Nothing happens, or rows of one table are exchanged, or of the two tables of a kind. -/
def Exchanged (c : DefectClass) (target : TargetProjection) (entity : EntityRef) (v : Views)
    (m : Mutation) (v' : Views) : Prop :=
  m = .noop ∧ v' = v ∨
    ∃ base, c.place target m.kind entity.table = some base ∧
      (m.exchange base).Turns v.contents v'.contents

theorem ofName_map {α : Type} {t : Table} {table : String} (h : t.name = table) (f : Table → α) :
    (Table.ofName table).map f = some (f t) := by
  rw [← h, Table.ofName_name]
  rfl

theorem Writes.exchanged {c : DefectClass} {target : TargetProjection} {v v' : Views} {kind : String}
    {P : Ref → String → Value → Prop} (hplace : ∀ table, c.place target kind table =
      (Table.ofName table).map (Prod.mk target.side))
    (h : Writes v target.side entity kind P m v') : Exchanged c target entity v m v' := by
  obtain h | ⟨ref, column, value, href, -, -, rfl, rfl⟩ := h
  · exact .inl h
  · obtain ⟨hside, htable, -, hin, -⟩ := findIn_eq_some href
    refine .inr ⟨ref.loc, ?_, turns_write hin column value⟩
    exact (hplace _).trans ((ofName_map htable _).trans (by rw [← hside]))

theorem fabricate_exchanged {c : DefectClass} {target : TargetProjection} {side : Side}
    {sideName letter : String} (hplace : ∀ kind table, c.place target kind table =
      (Table.ofName table).map (Prod.mk side))
    (h : Runs (fabricate side sideName letter entity.table : Inject env _) s m s') :
    Exchanged c target entity s.2 m s'.2 := by
  obtain h | ⟨t, row, hrow, rfl, hs⟩ := fabricate_effect h
  · exact .inl h
  · rw [hs]
    refine .inr ⟨(side, t), ?_, turns_add (side, t) row⟩
    have htable : t.name = entity.table := by
      obtain ⟨h, rfl, -⟩ | ⟨h, rfl, -⟩ := hrow <;> exact h.symm
    exact (hplace _ _).trans (ofName_map htable _)

/-- **One call** exchanges the rows that its mutation keeps, in the table of its class. -/
theorem DefectClass.exchanged {c : DefectClass} {target : TargetProjection} (hv : Shaped s.2)
    (hcascade : c = .single .missingNode → m.kind ≠ "noop" →
      MissingNode.NoDependents s.2 target.side entity)
    (hmerged : c = .single .mergedIdentity → ∀ t : Table, t.name = entity.table →
      OnceEach (s.2 (.catalog, t)))
    (hdropped : c = .cross .existenceConflict → ∃ text,
      ExistenceConflict.dropFrom params = .str text)
    (h : Runs (c.apply target entity params : Inject env _) s m s') :
    Exchanged c target entity s.2 m s'.2 := by
  cases c with
  | single c =>
    cases c with
    | missingNode =>
      obtain h | ⟨ref, hside, htable, hin, -, rfl, hrun⟩ := MissingNode.effect params h
      · exact .inl h
      · have hnone := (hcascade rfl (by simp [Mutation.remove])).erase ref
        rw [MissingNode.cascade_eq hrun hnone]
        exact .inr ⟨ref.loc, (ofName_map htable _).trans (by rw [← hside]), turns_remove hin⟩
    | missingEdge =>
      obtain h | ⟨ref, hside, htable, hin, -, rfl, rfl⟩ := MissingEdge.effect params h
      · exact .inl h
      · exact .inr ⟨ref.loc, (ofName_map htable _).trans (by rw [← hside]), turns_remove hin⟩
    | missingAttribute => exact (MissingAttribute.effect h).exchanged fun _ => rfl
    | attributeDrift => exact (AttributeDrift.effect h).exchanged fun _ => rfl
    | endpointShift =>
      obtain h | ⟨ref, value, href, -, -, rfl, hs⟩ := EndpointShift.effect params h
      · exact .inl h
      · obtain ⟨hloc, hin⟩ := mem_refs.mp (List.mem_of_find?_eq_some href)
        rw [hs]
        exact .inr ⟨ref.loc, congrArg some hloc.symm, turns_write hin _ value⟩
    | asymmetricLink =>
      obtain h | ⟨ref, href, rfl, hs⟩ := AsymmetricLink.effect params h
      · exact .inl h
      · obtain ⟨hloc, hin⟩ := mem_refs.mp (List.mem_of_mem_filter href)
        rw [hs]
        exact .inr ⟨ref.loc, congrArg some hloc.symm, turns_remove hin⟩
    | orphanEntity => exact (OrphanEntity.effect params hv h).exchanged fun _ => rfl
    | splitIdentity =>
      obtain h | ⟨ref, original, kind, hside, href, -, -, rfl, rfl⟩ := SplitIdentity.effect params h
      · exact .inl h
      · obtain ⟨hloc, htable, -⟩ := findIn_eq_some href
        exact .inr ⟨ref.loc, (ofName_map htable _).trans (by rw [← hloc]), turns_add ref.loc _⟩
    | mergedIdentity =>
      obtain h | ⟨row, victim, hside, href, hvictim, -, rfl, hs⟩ := MergedIdentity.effect params h
      · exact .inl h
      · obtain ⟨hloc, htable, -, hin, hid⟩ := findIn_eq_some href
        have honce : OnceEach (s.2 row.loc) := by
          have hcatalog : row.loc = (.catalog, row.loc.2) := by rw [← hside, ← hloc]
          rw [hcatalog]
          exact hmerged rfl _ htable
        rw [hs]
        exact .inr ⟨row.loc, (ofName_map htable _).trans (by rw [← hloc]),
          turns_merge hin hid hvictim honce⟩
    | malformedId => exact (MalformedId.effect params hv h).exchanged fun _ => rfl
    | outOfRange => exact (OutOfRange.effect h).exchanged fun _ => rfl
    | invalidEnum => exact (InvalidEnum.effect h).exchanged fun _ => rfl
  | cross c =>
    cases c with
    | attributeConflict =>
      obtain h | ⟨cat, tel, column, catNew, telNew, hcat, htel, -, -, -, -, rfl, hs⟩ :=
        AttributeConflict.effect h
      · exact .inl h
      · obtain ⟨hloc, htable, -, hin, -⟩ := findIn_eq_some hcat
        obtain ⟨hloc', htable', -, hin', -⟩ := findIn_eq_some htel
        have hsame : tel.loc.2 = cat.loc.2 := Table.name_injective (htable'.trans htable.symm)
        rw [hs]
        refine .inr ⟨(.catalog, cat.loc.2), ofName_map htable _, turns_conflict hin hin' ?_ ?_⟩
        · rw [← hloc]
        · rw [← hloc', ← hsame]
    | structuralConflict =>
      obtain h | ⟨ref, value, hloc, hin, -, -, -, rfl, hs⟩ := StructuralConflict.effect params h
      · exact .inl h
      · rw [hs]
        exact .inr ⟨ref.loc, congrArg some hloc.symm, turns_write hin _ value⟩
    | existenceConflict =>
      obtain h | ⟨ref, hside, htable, hin, -, rfl, rfl⟩ := ExistenceConflict.effect h
      · exact .inl h
      · refine .inr ⟨ref.loc, (ofName_map htable _).trans ?_, turns_remove hin⟩
        obtain ⟨text, htext⟩ := hdropped rfl
        rw [← Prod.mk.eta (p := ref.loc), hside]
        congr 2
        unfold ExistenceConflict.side
        rw [htext]
        refine if_congr ?_ rfl rfl
        have hkind : "delete_from_telemetry" = "delete_from_" ++ "telemetry" := by decide
        rw [Value.eq_str, Value.str.injEq, hkind]
        exact String.append_right_inj "delete_from_"
    | phantomEntity => exact fabricate_exchanged (fun _ _ => rfl) h
    | shadowEntity => exact fabricate_exchanged (fun _ _ => rfl) h

end Calls

/-! ## Runs -/

section Run

variable {sc : Scenario} {twin : GoldenTwin} {st : RunState env} {app : Application env}

theorem Application.Occurs.exchanged (h : app.Occurs sc twin st) (hreversible : app.Reversible) :
    Exchanged app.cls app.spec.targetProjection app.entity app.before app.mutation app.after := by
  obtain ⟨g, hrun⟩ := h.runs
  refine DefectClass.exchanged h.reachable.shaped (fun hc hkind => ?_) hreversible.merged
    hreversible.dropped hrun
  obtain ⟨hnoop, -⟩ | ⟨-, r, hr, -⟩ := h.record
  · exact absurd hnoop hkind
  · exact hreversible.noCascade hc (by rw [hr]; rfl)

/-- The record of a call tells what it exchanges. -/
theorem Application.Occurs.leads (h : app.Occurs sc twin st) (hreversible : app.Reversible)
    {golden : Views}
    (hI : Exchange.Leads (st.ledger.map DefectRecord.exchange) golden.contents st.views.contents) :
    Exchange.Leads ((st.next app).ledger.map DefectRecord.exchange) golden.contents
      (st.next app).views.contents := by
  have hexchanged := h.exchanged hreversible
  rw [RunState.ledger_next, List.map_append]
  rw [← h.before] at hI
  obtain ⟨hnoop, hnone⟩ | ⟨hkind, r, hr, hmake⟩ := h.record
  · obtain ⟨g, hrun⟩ := h.runs
    have hsame : app.after = app.before :=
      (DefectClass.effect h.reachable.shaped hrun).eq_of_noop hnoop
    rw [hnone, Option.toList_none, List.map_nil, List.append_nil]
    show Exchange.Leads _ _ app.after.contents
    rw [hsame]
    exact hI
  · obtain ⟨hnoop, -⟩ | ⟨base, hplace, hturns⟩ := hexchanged
    · exact absurd (congrArg Mutation.kind hnoop) hkind
    · have hexchange : r.exchange = app.mutation.exchange base := by
        obtain ⟨_, -, rfl⟩ := Option.map_eq_some_iff.mp hmake
        unfold DefectRecord.exchange
        dsimp only
        rw [h.resolved]
        dsimp only
        rw [hplace]
      rw [hr, Option.toList_some, List.map_singleton]
      refine hI.append ?_
      rw [hexchange]
      exact hturns

end Run

/-- **The ledger replays the run, and undoes it.** Where the record of every call tells all of it,
the ledger leads from the rows of the twin to those that the run ends with, and back. -/
theorem ledger_replays (env : Env) (sc : Scenario) (twin : GoldenTwin)
    (h : ∀ app ∈ (runOn env sc twin).2.applied, app.Reversible) :
    Exchange.redoAll ((runOn env sc twin).2.ledger.map DefectRecord.exchange)
        (buildProjections twin).contents = (runOn env sc twin).2.views.contents ∧
      Exchange.undoAll ((runOn env sc twin).2.ledger.map DefectRecord.exchange)
        (runOn env sc twin).2.views.contents = (buildProjections twin).contents := by
  have hall : (∀ app ∈ (runOn env sc twin).2.applied, app.Reversible) →
      Exchange.Leads ((runOn env sc twin).2.ledger.map DefectRecord.exchange)
        (buildProjections twin).contents (runOn env sc twin).2.views.contents := by
    refine runOn_induction (I := fun st => (∀ app ∈ st.applied, app.Reversible) →
      Exchange.Leads (st.ledger.map DefectRecord.exchange) (buildProjections twin).contents
        st.views.contents) (fun _ => .nil) ?_
    intro st app hI hoccurs hreversible
    refine hoccurs.leads (hreversible app (List.mem_append_right _ (List.mem_singleton_self _))) ?_
    exact hI fun a ha => hreversible a (List.mem_append_left _ ha)
  exact ⟨(hall h).redoAll_eq, (hall h).undoAll_eq⟩

/-- A router is cloned, and then its first row is given a malformed id. -/
def clonedRouter : Scenario :=
  .sample [.sample "a" SplitIdentity.name .catalog "PhysicalRouter" [],
    .sample "b" MalformedId.name .catalog "PhysicalRouter" []]

theorem ledger_replays_sample :
    Exchange.undoAll ((runOn .plain clonedRouter .sample).2.ledger.map DefectRecord.exchange)
      (runOn .plain clonedRouter .sample).2.views.contents =
        (buildProjections .sample).contents := by
  refine (ledger_replays .plain clonedRouter .sample fun app happ => ?_).2
  have hcls : ∀ app ∈ (runOn .plain clonedRouter .sample).2.applied,
      app.cls = .single .splitIdentity ∨ app.cls = .single .malformedId := by
    decide +kernel
  obtain hc | hc := hcls app happ <;>
    exact ⟨fun h => by simp [hc] at h, fun h => by simp [hc] at h, fun h => by simp [hc] at h⟩

end GnnSandbox.Bench
