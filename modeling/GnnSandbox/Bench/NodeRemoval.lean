import GnnSandbox.Bench.Trace
import GnnSandbox.Lib.EraseEach

/-!
# What the removal of a node leaves

The projections after a call of `MissingNode`: table by table what its cascade removes, and when
it raises after the node has gone. A device without a gateway has the key `interface_id` with
the value `None`, for which the default of `dev.get("interface_id", "")` does not stand in.
-/

namespace GnnSandbox.Bench

open Raise EraseEach

variable {env : Env}

/-! ## The first row with an id -/

/-- The rows of a table without the first whose id equals `id`. -/
def withoutFirst (rows : List Row) (id : Value) : List Row :=
  rows.eraseP fun row => (row.get "id").eq id

namespace Views

/-- The first row with an id is removed. -/
def eraseFirst (v : Views) (loc : Loc) (id : Value) : Views :=
  Function.update v loc (withoutFirst (v loc) id)

variable {v : Views} {loc loc' : Loc} {id : Value}

@[simp] theorem eraseFirst_self : v.eraseFirst loc id loc = withoutFirst (v loc) id :=
  Function.update_self ..

theorem eraseFirst_of_ne (h : loc' ≠ loc) : v.eraseFirst loc id loc' = v loc' :=
  Function.update_of_ne h ..

end Views

theorem eraseP_of_find?_zipIdx {p : Row → Bool} {loc : Loc} {rows : List Row} {k : ℕ} {ref : Ref}
    (h : ((rows.zipIdx k).map fun q => (⟨loc, q.2, q.1⟩ : Ref)).find? (fun ref => p ref.row) =
      some ref) : k ≤ ref.index ∧ rows.eraseP p = rows.eraseIdx (ref.index - k) := by
  induction rows generalizing k with
  | nil => cases h
  | cons row rows ih =>
    rw [List.zipIdx_cons, List.map_cons, List.find?_cons] at h
    dsimp only at h
    cases hp : p row with
    | true =>
      rw [hp] at h
      obtain rfl := Option.some.inj h
      rw [List.eraseP_cons_of_pos hp, Nat.sub_self]
      exact ⟨Nat.le_refl k, rfl⟩
    | false =>
      rw [hp] at h
      obtain ⟨hle, hrest⟩ := ih h
      have hindex : ref.index - k = ref.index - (k + 1) + 1 := by omega
      rw [List.eraseP_cons_of_neg (Bool.eq_false_iff.mp hp), hrest, hindex, List.eraseIdx_cons_succ]
      exact ⟨Nat.le_of_succ_le hle, rfl⟩

/-- What `remove` finds is the first row with the id. -/
theorem Views.erase_eq_eraseFirst {v : Views} {loc : Loc} {id : Value} {ref : Ref}
    (h : findRow loc (v loc) id = some ref) : v.erase ref = v.eraseFirst loc id := by
  have herase := (eraseP_of_find?_zipIdx (p := fun row => (row.get "id").eq id) h).2
  unfold Views.erase Views.eraseFirst withoutFirst
  rw [(findRow_eq_some h).1, herase, Nat.sub_zero]

theorem Views.eraseFirst_eq_self {v : Views} {loc : Loc} {id : Value}
    (h : findRow loc (v loc) id = none) : v.eraseFirst loc id = v := by
  unfold Views.eraseFirst withoutFirst
  rw [List.eraseP_of_forall_not fun row hrow => Bool.eq_false_iff.mp (findRow_eq_none.mp h row hrow)]
  exact Function.update_eq_self ..

theorem runs_remove {s s' : env.rng.State × Views} {side : Side} {t : Table} {id : Value}
    {removed : Option Row} :
    Runs (remove side t.name id : Inject env _) s removed s' ↔
      removed = (findRow (side, t) (s.2 (side, t)) id).map Ref.row ∧
        s' = (s.1, s.2.eraseFirst (side, t) id) := by
  unfold remove
  rw [runs_liftExcept_bind]
  have hname : ∀ u, tableNamed t.name = .ok u ↔ u = t := fun u => by
    rw [tableNamed_eq_ok, Table.ofName_name, Option.some.injEq]
    exact eq_comm
  simp only [hname, exists_eq_left, runs_rowsAt_bind]
  cases hfind : findRow (side, t) (s.2 (side, t)) id with
  | none =>
    rw [Views.eraseFirst_eq_self hfind]
    exact runs_pure
  | some ref =>
    rw [← Views.erase_eq_eraseFirst hfind]
    exact runs_erase_bind.trans runs_pure

/-! ## The cascade of a router -/

namespace MissingNode

/-- An interface goes with its edges. -/
def dropInterface (side : Side) (v : Views) (id : Value) : Views :=
  ((v.eraseFirst (side, .physicalInterface) id).keep (side, .interfaceLink)
    fun row => !(row.get "interface_id").eq id).keep (side, .subnetAssociation)
      fun row => !(row.get "entity_id").eq id

/-- A VRF goes with its sessions. -/
def dropVrf (side : Side) (v : Views) (id : Value) : Views :=
  (v.eraseFirst (side, .vrf) id).keep (side, .bgpSession) fun row => !(row.get "vrf_id").eq id

section Runs

variable {side : Side} {s s' : env.rng.State × Views} {a : Unit} {id : Value}

theorem runs_strip_bind {α : Type} {t : Table} {attr : String} {value : Value}
    {k : Unit → Inject env α} {b : α} :
    Raise.Runs (strip side t attr value >>= k) s b s' ↔
      Raise.Runs (k ()) (s.1, s.2.keep (side, t) fun row => !(row.get attr).eq value) b s' :=
  runs_keepRows_bind

theorem runs_removeInterface :
    Raise.Runs (removeInterface side id : Inject env _) s a s' ↔
      s' = (s.1, dropInterface side s.2 id) := by
  unfold removeInterface
  rw [runs_bind]
  constructor
  · rintro ⟨removed, t, hremove, h⟩
    rw [(runs_remove (t := .physicalInterface).mp hremove).2, runs_strip_bind] at h
    exact runs_keepRows.mp h
  · intro h
    refine ⟨_, _, (runs_remove (t := .physicalInterface)).mpr ⟨rfl, rfl⟩, ?_⟩
    rw [runs_strip_bind]
    exact runs_keepRows.mpr h

theorem runs_removeVrf :
    Raise.Runs (removeVrf side id : Inject env _) s a s' ↔ s' = (s.1, dropVrf side s.2 id) := by
  unfold removeVrf
  rw [runs_bind]
  constructor
  · rintro ⟨removed, t, hremove, h⟩
    rw [(runs_remove (t := .vrf).mp hremove).2] at h
    exact runs_keepRows.mp h
  · intro h
    exact ⟨_, _, (runs_remove (t := .vrf)).mpr ⟨rfl, rfl⟩, runs_keepRows.mpr h⟩

end Runs

/-! ### Table by table -/

section Tables

variable {side : Side} {v : Views} {loc : Loc} {id : String} {ids : List Value}

theorem foldl_at {f : Views → Value → Views} {g : List Row → Value → List Row}
    (h : ∀ v id, f v id loc = g (v loc) id) : ids.foldl f v loc = ids.foldl g (v loc) :=
  (List.foldl_hom (fun v : Views => v loc) fun v id => (h v id).symm).symm

theorem foldl_at_of_same {f : Views → Value → Views} (h : ∀ v id, f v id loc = v loc) :
    ids.foldl f v loc = v loc := by
  rw [foldl_at (g := fun rows _ => rows) h]
  exact List.foldl_fixed ids

theorem dropInterface_of_ne (hi : loc ≠ (side, .physicalInterface))
    (hl : loc ≠ (side, .interfaceLink)) (hs : loc ≠ (side, .subnetAssociation)) (id : Value) :
    dropInterface side v id loc = v loc := by
  unfold dropInterface
  rw [Views.keep_of_ne hs, Views.keep_of_ne hl, Views.eraseFirst_of_ne hi]

theorem dropVrf_of_ne (hv : loc ≠ (side, .vrf)) (hb : loc ≠ (side, .bgpSession)) (id : Value) :
    dropVrf side v id loc = v loc := by
  unfold dropVrf
  rw [Views.keep_of_ne hb, Views.eraseFirst_of_ne hv]

/-- The projections after the loops over the router's interfaces and VRFs. -/
def dropOwned (side : Side) (id : String) (v : Views) : Views :=
  (owned (v (side, .vrf)) id).foldl (dropVrf side)
    ((owned (v (side, .physicalInterface)) id).foldl (dropInterface side) v)

theorem dropOwned_physicalInterface :
    dropOwned side id v (side, .physicalInterface) =
      eraseEach (fun row => row.get "id") Value.eq (owned (v (side, .physicalInterface)) id)
        (v (side, .physicalInterface)) := by
  unfold dropOwned
  rw [foldl_at_of_same fun v => dropVrf_of_ne (by simp) (by simp)]
  refine foldl_at fun v id => ?_
  unfold dropInterface
  rw [Views.keep_of_ne (by simp), Views.keep_of_ne (by simp), Views.eraseFirst_self]
  rfl

theorem dropOwned_vrf :
    dropOwned side id v (side, .vrf) =
      eraseEach (fun row => row.get "id") Value.eq (owned (v (side, .vrf)) id) (v (side, .vrf)) := by
  unfold dropOwned
  rw [foldl_at (g := withoutFirst), foldl_at_of_same fun v =>
    dropInterface_of_ne (by simp) (by simp) (by simp)]
  · rfl
  · intro v id
    unfold dropVrf
    rw [Views.keep_of_ne (by simp), Views.eraseFirst_self]

theorem dropOwned_interfaceLink :
    dropOwned side id v (side, .interfaceLink) =
      (v (side, .interfaceLink)).filter fun row =>
        (owned (v (side, .physicalInterface)) id).all fun i => !(row.get "interface_id").eq i := by
  unfold dropOwned
  rw [foldl_at_of_same fun v => dropVrf_of_ne (by simp) (by simp), ← foldl_filter]
  refine foldl_at fun v id => ?_
  unfold dropInterface
  rw [Views.keep_of_ne (by simp), Views.keep_self, Views.eraseFirst_of_ne (by simp)]

theorem dropOwned_subnetAssociation :
    dropOwned side id v (side, .subnetAssociation) =
      (v (side, .subnetAssociation)).filter fun row =>
        (owned (v (side, .physicalInterface)) id).all fun i => !(row.get "entity_id").eq i := by
  unfold dropOwned
  rw [foldl_at_of_same fun v => dropVrf_of_ne (by simp) (by simp), ← foldl_filter]
  refine foldl_at fun v id => ?_
  unfold dropInterface
  rw [Views.keep_self, Views.keep_of_ne (by simp), Views.eraseFirst_of_ne (by simp)]

theorem dropOwned_bgpSession :
    dropOwned side id v (side, .bgpSession) =
      (v (side, .bgpSession)).filter fun row =>
        (owned (v (side, .vrf)) id).all fun i => !(row.get "vrf_id").eq i := by
  unfold dropOwned
  rw [← foldl_filter, foldl_at (g := fun rows id => rows.filter fun row => !(row.get "vrf_id").eq id),
    foldl_at_of_same fun v => dropInterface_of_ne (by simp) (by simp) (by simp)]
  intro v id
  unfold dropVrf
  rw [Views.keep_self, Views.eraseFirst_of_ne (by simp)]

/-- The tables that neither loop changes. -/
theorem dropOwned_of_ne (hi : loc ≠ (side, .physicalInterface)) (hl : loc ≠ (side, .interfaceLink))
    (hs : loc ≠ (side, .subnetAssociation)) (hv : loc ≠ (side, .vrf))
    (hb : loc ≠ (side, .bgpSession)) : dropOwned side id v loc = v loc := by
  unfold dropOwned
  rw [foldl_at_of_same fun v => dropVrf_of_ne hv hb,
    foldl_at_of_same fun v => dropInterface_of_ne hi hl hs]

end Tables

/-! ## When a call returns -/

section Returns

variable {side : Side} {s s' : env.rng.State × Views} {a : Unit} {id : String}

/-- A loop that removes the rows of some ids. -/
theorem runs_forM_drop {f : Value → Inject env PUnit} {g : Views → Value → Views}
    (h : ∀ i t t', Raise.Runs (f i) t ⟨⟩ t' ↔ t' = (t.1, g t.2 i)) {ids : List Value} :
    Raise.Runs (forM ids f) s a s' ↔ s' = (s.1, ids.foldl g s.2) := by
  rw [runs_forM_iff (g := fun t i => (t.1, g t.2 i)) h]
  have hpair : ids.foldl (fun t i => (t.1, g t.2 i)) s = (s.1, ids.foldl g s.2) :=
    List.foldl_hom (fun v : Views => (s.1, v)) fun _ _ => rfl
  rw [hpair]

theorem runs_cascadeRouter :
    Raise.Runs (cascadeRouter side id : Inject env _) s a s' ↔
      ∃ devices, collect (clearGateway id) (s.2 (side, .device)) = .ok devices ∧
        s' = (s.1, Function.update (dropOwned side id s.2) (side, .device) devices) := by
  have hvrfs : ∀ ids : List Value,
      ids.foldl (dropInterface side) s.2 (side, .vrf) = s.2 (side, .vrf) :=
    fun ids => foldl_at_of_same fun v => dropInterface_of_ne (by simp) (by simp) (by simp)
  have hdevices : dropOwned side id s.2 (side, .device) = s.2 (side, .device) :=
    dropOwned_of_ne (by simp) (by simp) (by simp) (by simp) (by simp)
  unfold cascadeRouter
  rw [runs_rowsAt_bind, runs_bind]
  constructor
  · rintro ⟨_, t, hloop, h⟩
    rw [runs_rowsAt_bind, (runs_forM_drop fun _ _ _ => runs_removeInterface).mp hloop] at h
    dsimp only at h
    rw [hvrfs] at h
    obtain ⟨_, u, hloop', h⟩ := runs_bind.mp h
    rw [runs_rowsAt_bind, (runs_forM_drop fun _ _ _ => runs_removeVrf).mp hloop'] at h
    obtain ⟨devices, hcollect, h⟩ := runs_liftExcept_bind.mp h
    refine ⟨devices, ?_, runs_setRows.mp h⟩
    exact hdevices ▸ hcollect
  · rintro ⟨devices, hcollect, rfl⟩
    refine ⟨⟨⟩, _, (runs_forM_drop fun _ _ _ => runs_removeInterface).mpr rfl, ?_⟩
    rw [runs_rowsAt_bind]
    dsimp only
    rw [hvrfs, runs_bind]
    refine ⟨⟨⟩, _, (runs_forM_drop fun _ _ _ => runs_removeVrf).mpr rfl, ?_⟩
    rw [runs_rowsAt_bind, runs_liftExcept_bind]
    refine ⟨devices, ?_, runs_setRows.mpr rfl⟩
    show collect (clearGateway id) (dropOwned side id s.2 (side, .device)) = .ok devices
    rwa [hdevices]

theorem runs_cascadeInterface :
    Raise.Runs (cascadeInterface side id : Inject env _) s a s' ↔
      s' = (s.1, Function.update
        ((s.2.keep (side, .interfaceLink) fun row => !(row.get "interface_id").eq (.str id)).keep
          (side, .subnetAssociation) fun row => !(row.get "entity_id").eq (.str id))
        (side, .device) ((s.2 (side, .device)).map fun dev =>
          if (dev.get "interface_id").eq (.str id) then dev.set "interface_id" .none else dev)) := by
  unfold cascadeInterface
  rw [runs_strip_bind, runs_strip_bind, runs_alter]
  dsimp only
  have hdevices : ∀ {t : Table} {p : Row → Bool} {v : Views}, t ≠ .device →
      v.keep (side, t) p (side, .device) = v (side, .device) :=
    fun h => Views.keep_of_ne (by simpa using h.symm)
  rw [hdevices (by simp), hdevices (by simp)]

/-- A call finds the row, and its cascade returns. -/
theorem runs_apply {t : Table} {params : Params} {m : Mutation} :
    Raise.Runs (apply side ⟨t.name, id⟩ params : Inject env _) s m s' ↔
      (findRow (side, t) (s.2 (side, t)) (.str id) = none ∧ m = .noop ∧ s' = s) ∨
        ∃ node, findRow (side, t) (s.2 (side, t)) (.str id) = some node ∧
          m = .remove "delete_row" node ∧
            Raise.Runs (cascade side ⟨t.name, id⟩ : Inject env _) (s.1, s.2.erase node) () s' := by
  unfold apply
  rw [runs_bind]
  constructor
  · rintro ⟨removed, u, hremove, h⟩
    obtain ⟨hremoved, rfl⟩ := runs_remove.mp hremove
    cases hfind : findRow (side, t) (s.2 (side, t)) (.str id) with
    | none =>
      rw [hremoved, hfind, Views.eraseFirst_eq_self hfind] at h
      obtain ⟨rfl, rfl⟩ := runs_pure.mp h
      exact .inl ⟨rfl, rfl, rfl⟩
    | some node =>
      rw [hremoved, hfind, ← Views.erase_eq_eraseFirst hfind] at h
      obtain ⟨_, u, hcascade, hend⟩ := runs_bind.mp h
      obtain ⟨rfl, rfl⟩ := runs_pure.mp hend
      exact .inr ⟨node, rfl, rfl, hcascade⟩
  · rintro (⟨hfind, rfl, rfl⟩ | ⟨node, hfind, rfl, h⟩)
    · refine ⟨none, _, runs_remove.mpr ⟨by rw [hfind]; rfl, rfl⟩, ?_⟩
      rw [Views.eraseFirst_eq_self hfind]
      exact runs_pure.mpr ⟨rfl, rfl⟩
    · refine ⟨some node.row, _, runs_remove.mpr ⟨by rw [hfind]; rfl, rfl⟩, ?_⟩
      rw [← Views.erase_eq_eraseFirst hfind]
      exact runs_bind.mpr ⟨(), s', h, runs_pure.mpr ⟨rfl, rfl⟩⟩

/-- The gateways are cleared unless a device has none. -/
theorem exists_collect_clearGateway {devices : List Row} :
    (∃ rows, collect (clearGateway id) devices = .ok rows) ↔
      ∀ dev ∈ devices, ∃ gateway, dev.get "interface_id" = .str gateway := by
  rw [exists_collect_eq_ok]
  refine forall₂_congr fun dev _ => ?_
  unfold clearGateway
  cases dev.get "interface_id" <;> simp

/-- The cascade of a row raises only for a router, when some device has no gateway. -/
theorem exists_runs_cascade {t : Table} :
    (∃ s', Raise.Runs (cascade side ⟨t.name, id⟩ : Inject env _) s () s') ↔
      (t = .physicalRouter →
        ∀ dev ∈ s.2 (side, .device), ∃ gateway, dev.get "interface_id" = .str gateway) := by
  unfold cascade
  dsimp only
  split
  · next hname =>
    have ht : t = .physicalRouter := Table.name_injective hname
    simp only [runs_cascadeRouter, ht, true_imp_iff]
    rw [← @exists_collect_clearGateway id]
    constructor
    · rintro ⟨s', devices, h, -⟩
      exact ⟨devices, h⟩
    · rintro ⟨devices, h⟩
      exact ⟨_, devices, h, rfl⟩
  · next hname =>
    have hother : t ≠ .physicalRouter := by
      rintro rfl
      exact hname rfl
    refine ⟨fun _ h => absurd h hother, fun _ => ?_⟩
    split
    · exact ⟨_, runs_cascadeInterface.mpr rfl⟩
    · split
      · exact ⟨_, runs_keepRows.mpr rfl⟩
      · exact ⟨_, runs_pure.mpr ⟨rfl, rfl⟩⟩

/-- **When a removal returns**: unless a router is removed while a device has no gateway. -/
theorem apply_returns_iff (entity : EntityRef) (params : Params) (s : env.rng.State × Views) :
    (∃ m s', Raise.Runs (apply side entity params : Inject env _) s m s') ↔
      ∃ t, Table.ofName entity.table = some t ∧
        (t = .physicalRouter → (∃ row ∈ s.2 (side, t), row.get "id" = .str entity.id) →
          ∀ dev ∈ s.2 (side, .device), ∃ gateway, dev.get "interface_id" = .str gateway) := by
  obtain ⟨table, id⟩ := entity
  constructor
  · rintro ⟨m, s', h⟩
    obtain ⟨removed, u, hremove, -⟩ := runs_bind.mp h
    obtain ⟨t, ht, -⟩ := Bench.Runs.remove hremove
    refine ⟨t, ht, ?_⟩
    rintro rfl ⟨row, hrow, hid⟩
    obtain rfl := Table.name_of_ofName ht
    rcases runs_apply.mp h with ⟨hnone, -⟩ | ⟨node, hfind, -, hcascade⟩
    · have hne := findRow_eq_none.mp hnone row hrow
      rw [hid, Value.eq_str_str, decide_eq_false_iff_not] at hne
      exact absurd rfl hne
    · have hdevices := exists_runs_cascade.mp ⟨s', hcascade⟩ rfl
      dsimp only at hdevices
      rwa [Views.erase_of_ne (by simp [(findRow_eq_some hfind).1])] at hdevices
  · rintro ⟨t, ht, h⟩
    obtain rfl := Table.name_of_ofName ht
    cases hfind : findRow (side, t) (s.2 (side, t)) (.str id) with
    | none => exact ⟨.noop, s, runs_apply.mpr (.inl ⟨hfind, rfl, rfl⟩)⟩
    | some node =>
      obtain ⟨hloc, hin, hid⟩ := findRow_eq_some hfind
      have hrow : node.row ∈ s.2 (side, t) := hloc ▸ List.mem_of_getElem? hin
      have hcascade : ∃ s', Raise.Runs (cascade side ⟨t.name, id⟩ : Inject env _)
          (s.1, s.2.erase node) () s' := by
        refine exists_runs_cascade.mpr fun hrouter => ?_
        subst hrouter
        dsimp only
        rw [Views.erase_of_ne (by simp [hloc])]
        exact h rfl ⟨node.row, hrow, Value.eq_str.mp hid⟩
      obtain ⟨s', hs'⟩ := hcascade
      exact ⟨_, s', runs_apply.mpr (.inr ⟨node, hfind, rfl, hs'⟩)⟩

end Returns

/-! ### A device without a gateway -/

/-- The sample with a device that no interface serves. -/
def unattached : GoldenTwin :=
  { GoldenTwin.sample with
    entities :=
      { GoldenTwin.sample.entities with
        devices := [⟨"device:dev1", "dev1", none, none, none, none, none, none, some "Ready", none⟩] } }

/-- The router of a valid twin cannot be removed. -/
theorem unattached_removal_raises :
    unattached.Valid .plain ∧ Reachable .plain unattached (buildProjections unattached) ∧
      ¬∃ g m s', Raise.Runs
        (apply .catalog ⟨"PhysicalRouter", "router:pe1"⟩ [] : Inject .plain _)
          (g, buildProjections unattached) m s' := by
  refine ⟨by decide +kernel, .start, ?_⟩
  rintro ⟨g, m, s', h⟩
  rcases runs_apply (t := .physicalRouter).mp h with ⟨hnone, -⟩ | ⟨node, hfind, -, hcascade⟩
  · cases hnone
  · obtain ⟨devices, hdevices, -⟩ := runs_cascadeRouter.mp hcascade
    dsimp only at hdevices
    rw [Views.erase_of_ne (by simp [(findRow_eq_some hfind).1])] at hdevices
    cases hdevices

end MissingNode

end GnnSandbox.Bench
