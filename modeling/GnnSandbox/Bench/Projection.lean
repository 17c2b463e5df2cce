import GnnSandbox.Bench.Env
import GnnSandbox.Lib.Raise
import Mathlib.Logic.Function.Basic

/-!
# Projections

The two working sets of rows that the defects change. A reference to a row of a table is
its position. Every row has the columns of its table, so that `row[column]` and
`row.get(column)` agree on these.
-/

namespace GnnSandbox.Bench

open Raise

/-- The two projections. -/
inductive Side where
  | catalog
  | telemetry
deriving DecidableEq, Repr

/-- A table of a projection. -/
abbrev Loc := Side × Table

/-- The rows of the tables of both projections. -/
abbrev Views := Loc → List Row

/-- `build_projection` for both sides. -/
def buildProjections (twin : GoldenTwin) : Views := fun loc => twin.entities.rows loc.2

/-- What the injector raises. -/
inductive Error where
  | keyError (key : String)
  | valueError (text : String)
  | typeError
  | attributeError
  | validationError
  | fileNotFound (path : String)
  | fileExists (text : String)
deriving DecidableEq

/-- What a defect does: it draws, it changes rows, and it may raise. -/
abbrev Inject (env : Env) := StateT (env.rng.State × Views) (Except Error)

variable {env : Env}

/-! ## Primitive steps -/

/-- The rows of a table. -/
def rowsAt (loc : Loc) : Inject env (List Row) :=
  modifyGet fun s => (s.2 loc, s)

/-- Replace the rows of a table. -/
def setRows (loc : Loc) (rows : List Row) : Inject env Unit :=
  modify fun s => (s.1, Function.update s.2 loc rows)

/-- Draw from the generator. -/
def draw {α : Type} (f : env.rng.State → α × env.rng.State) : Inject env α :=
  modifyGet fun s => ((f s.1).1, (f s.1).2, s.2)

/-- `rng.choice(items)` -/
def choice {α : Type} (items : List α) : Inject env α := do
  let i ← draw (env.rng.choice items.length)
  match items[i]? with
  | some a => return a
  | none => throw (.valueError "Cannot choose from an empty sequence")

/-- `rng.randint(a, b)` -/
def randint (a b : ℤ) : Inject env ℤ := draw (env.rng.randint a b)

section Runs

variable {s s' : env.rng.State × Views}

@[simp] theorem runs_rowsAt {loc : Loc} {rows : List Row} :
    Runs (rowsAt loc : Inject env _) s rows s' ↔ rows = s.2 loc ∧ s' = s := by
  unfold rowsAt
  rw [runs_modifyGet, Prod.mk.injEq]
  exact ⟨fun h => ⟨h.1.symm, h.2.symm⟩, fun h => ⟨h.1.symm, h.2.symm⟩⟩

theorem runs_rowsAt_bind {α : Type} {loc : Loc} {f : List Row → Inject env α} {a : α} :
    Runs (rowsAt loc >>= f) s a s' ↔ Runs (f (s.2 loc)) s a s' := by
  rw [runs_bind]
  constructor
  · rintro ⟨rows, t, hrows, hf⟩
    obtain ⟨rfl, ht⟩ := runs_rowsAt.mp hrows
    rwa [ht] at hf
  · intro h
    exact ⟨s.2 loc, s, runs_rowsAt.mpr ⟨rfl, rfl⟩, h⟩

@[simp] theorem runs_setRows {loc : Loc} {rows : List Row} {a : Unit} :
    Runs (setRows loc rows : Inject env _) s a s' ↔
      s' = (s.1, Function.update s.2 loc rows) := runs_modify

@[simp] theorem runs_draw {α : Type} {f : env.rng.State → α × env.rng.State} {a : α} :
    Runs (draw f : Inject env _) s a s' ↔ a = (f s.1).1 ∧ s' = ((f s.1).2, s.2) := by
  simp only [draw, runs_modifyGet, Prod.mk.injEq]
  constructor
  · rintro ⟨rfl, rfl⟩
    exact ⟨rfl, rfl⟩
  · rintro ⟨rfl, rfl⟩
    exact ⟨rfl, rfl⟩

/-- A choice returns one of the items and changes no row. -/
theorem Runs.choice {α : Type} {items : List α} {a : α}
    (h : Runs (choice items : Inject env _) s a s') : a ∈ items ∧ s'.2 = s.2 := by
  unfold Bench.choice at h
  obtain ⟨i, t, hdraw, h⟩ := runs_bind.mp h
  obtain ⟨-, rfl⟩ := runs_draw.mp hdraw
  split at h
  · next b hb =>
    obtain ⟨rfl, rfl⟩ := runs_pure.mp h
    exact ⟨List.mem_of_getElem? hb, rfl⟩
  · exact (runs_throw.mp h).elim

/-- The item that is chosen is the one that the generator points at. -/
theorem Runs.choice_getElem? {α : Type} {items : List α} {a : α}
    (h : Runs (Bench.choice items : Inject env _) s a s') :
    items[(env.rng.choice items.length s.1).1]? = some a := by
  unfold Bench.choice at h
  obtain ⟨i, t, hdraw, h⟩ := runs_bind.mp h
  obtain ⟨rfl, -⟩ := runs_draw.mp hdraw
  split at h
  · next b hb =>
    obtain ⟨rfl, -⟩ := runs_pure.mp h
    exact hb
  · exact (runs_throw.mp h).elim

end Runs

/-! ## References to rows -/

/-- A row of a table with its position. -/
structure Ref where
  loc : Loc
  index : ℕ
  row : Row
deriving DecidableEq

/-- The reference points at its row. -/
def Ref.In (ref : Ref) (v : Views) : Prop := (v ref.loc)[ref.index]? = some ref.row

/-- The rows of a table with their positions. -/
def refs (loc : Loc) (rows : List Row) : List Ref := rows.zipIdx.map fun p => ⟨loc, p.2, p.1⟩

theorem mem_refs {v : Views} {loc : Loc} {ref : Ref} :
    ref ∈ refs loc (v loc) ↔ ref.loc = loc ∧ ref.In v := by
  unfold refs Ref.In
  rw [List.mem_map]
  constructor
  · rintro ⟨p, hp, rfl⟩
    exact ⟨rfl, List.mem_zipIdx_iff_getElem?.mp hp⟩
  · rintro ⟨rfl, h⟩
    exact ⟨(ref.row, ref.index), List.mem_zipIdx_iff_getElem?.mpr h, rfl⟩

/-- A reference to a row of a table whose id equals `id`, when there is one. -/
def findRow (loc : Loc) (rows : List Row) (id : Value) : Option Ref :=
  (refs loc rows).find? fun ref => (ref.row.get "id").eq id

theorem findRow_eq_some {v : Views} {loc : Loc} {id : Value} {ref : Ref}
    (h : findRow loc (v loc) id = some ref) :
    ref.loc = loc ∧ ref.In v ∧ (ref.row.get "id").eq id = true := by
  have hmem := mem_refs.mp (List.mem_of_find?_eq_some h)
  have hid := List.find?_some (p := fun r : Ref => (r.row.get "id").eq id) h
  exact ⟨hmem.1, hmem.2, hid⟩

/-- Nothing is found exactly when no row has the id. -/
theorem findRow_eq_none {loc : Loc} {rows : List Row} {id : Value} :
    findRow loc rows id = none ↔ ∀ row ∈ rows, (row.get "id").eq id = false := by
  unfold findRow refs
  rw [List.find?_eq_none]
  constructor
  · intro h row hrow
    obtain ⟨i, hi⟩ := List.mem_iff_getElem?.mp hrow
    have hmem : (⟨loc, i, row⟩ : Ref) ∈ rows.zipIdx.map fun p => ⟨loc, p.2, p.1⟩ :=
      List.mem_map.mpr ⟨(row, i), List.mem_zipIdx_iff_getElem?.mpr hi, rfl⟩
    exact Bool.eq_false_iff.mpr (h _ hmem)
  · intro h ref href
    obtain ⟨p, hp, rfl⟩ := List.mem_map.mp href
    exact Bool.eq_false_iff.mp (h p.1 (List.mem_of_getElem? (List.mem_zipIdx_iff_getElem?.mp hp)))

/-- Change the rows of a table. -/
def alter (loc : Loc) (f : List Row → List Row) : Inject env Unit := do
  let rows ← rowsAt loc
  setRows loc (f rows)

/-- Replace the row of a reference. -/
def assign (ref : Ref) (row : Row) : Inject env Unit :=
  alter ref.loc fun rows => rows.set ref.index row

/-- Remove the row of a reference. -/
def erase (ref : Ref) : Inject env Unit := alter ref.loc fun rows => rows.eraseIdx ref.index

/-- `rows.append(row)` -/
def append (loc : Loc) (row : Row) : Inject env Unit := alter loc fun rows => rows ++ [row]

/-- Keep the rows that satisfy `p`. -/
def keepRows (loc : Loc) (p : Row → Bool) : Inject env Unit := alter loc fun rows => rows.filter p

/-- The table of a name; a projection has no other. -/
def tableNamed (name : String) : Except Error Table :=
  match Table.ofName name with
  | some t => .ok t
  | none => .error (.keyError name)

@[simp] theorem tableNamed_eq_ok {name : String} {t : Table} :
    tableNamed name = .ok t ↔ Table.ofName name = some t := by
  unfold tableNamed
  cases Table.ofName name with
  | none => simp
  | some u => simp

/-- `projection.find` -/
def find (side : Side) (table id : String) : Inject env (Option Ref) := do
  let t ← liftM (tableNamed table)
  if t.isEdge then return none
  else do
    let rows ← rowsAt (side, t)
    return findRow (side, t) rows (.str id)

/-- `projection.remove`, which may be given the id of another row. -/
def remove (side : Side) (table : String) (id : Value) : Inject env (Option Row) := do
  let t ← liftM (tableNamed table)
  let rows ← rowsAt (side, t)
  match findRow (side, t) rows id with
  | none => return none
  | some ref => do
    erase ref
    return some ref.row

/-! ### What they do -/

namespace Views

/-- The row of a reference is replaced. -/
def assign (v : Views) (ref : Ref) (row : Row) : Views :=
  Function.update v ref.loc ((v ref.loc).set ref.index row)

/-- The row of a reference is removed. -/
def erase (v : Views) (ref : Ref) : Views :=
  Function.update v ref.loc ((v ref.loc).eraseIdx ref.index)

/-- A row is added. -/
def append (v : Views) (loc : Loc) (row : Row) : Views :=
  Function.update v loc (v loc ++ [row])

/-- Rows are dropped. -/
def keep (v : Views) (loc : Loc) (p : Row → Bool) : Views :=
  Function.update v loc ((v loc).filter p)

variable {v : Views} {ref : Ref} {row : Row} {loc : Loc}

@[simp] theorem assign_self : v.assign ref row ref.loc = (v ref.loc).set ref.index row :=
  Function.update_self ..

theorem assign_of_ne (h : loc ≠ ref.loc) : v.assign ref row loc = v loc :=
  Function.update_of_ne h ..

@[simp] theorem erase_self : v.erase ref ref.loc = (v ref.loc).eraseIdx ref.index :=
  Function.update_self ..

theorem erase_of_ne (h : loc ≠ ref.loc) : v.erase ref loc = v loc :=
  Function.update_of_ne h ..

@[simp] theorem append_self : v.append loc row loc = v loc ++ [row] :=
  Function.update_self ..

theorem append_of_ne {loc' : Loc} (h : loc' ≠ loc) : v.append loc row loc' = v loc' :=
  Function.update_of_ne h ..

@[simp] theorem keep_self {p : Row → Bool} : v.keep loc p loc = (v loc).filter p :=
  Function.update_self ..

theorem keep_of_ne {p : Row → Bool} {loc' : Loc} (h : loc' ≠ loc) : v.keep loc p loc' = v loc' :=
  Function.update_of_ne h ..

end Views

section Runs

variable {s s' : env.rng.State × Views} {side : Side}

theorem runs_alter {loc : Loc} {f : List Row → List Row} {a : Unit} :
    Runs (alter loc f : Inject env _) s a s' ↔
      s' = (s.1, Function.update s.2 loc (f (s.2 loc))) := by
  unfold alter
  rw [runs_rowsAt_bind, runs_setRows]

theorem runs_alter_bind {α : Type} {loc : Loc} {f : List Row → List Row} {k : Unit → Inject env α}
    {a : α} : Runs (alter loc f >>= k) s a s' ↔
      Runs (k ()) (s.1, Function.update s.2 loc (f (s.2 loc))) a s' := by
  rw [runs_bind]
  constructor
  · rintro ⟨u, t, hf, hk⟩
    rwa [runs_alter.mp hf] at hk
  · intro h
    exact ⟨(), _, runs_alter.mpr rfl, h⟩

@[simp] theorem runs_keepRows {loc : Loc} {p : Row → Bool} {a : Unit} :
    Runs (keepRows loc p : Inject env _) s a s' ↔ s' = (s.1, s.2.keep loc p) :=
  runs_alter

section Bind

variable {α : Type} {k : Unit → Inject env α} {a : α}

theorem runs_assign_bind {ref : Ref} {row : Row} :
    Runs (assign ref row >>= k) s a s' ↔ Runs (k ()) (s.1, s.2.assign ref row) a s' :=
  runs_alter_bind

theorem runs_erase_bind {ref : Ref} :
    Runs (erase ref >>= k) s a s' ↔ Runs (k ()) (s.1, s.2.erase ref) a s' :=
  runs_alter_bind

theorem runs_append_bind {loc : Loc} {row : Row} :
    Runs (append loc row >>= k) s a s' ↔ Runs (k ()) (s.1, s.2.append loc row) a s' :=
  runs_alter_bind

theorem runs_keepRows_bind {loc : Loc} {p : Row → Bool} :
    Runs (keepRows loc p >>= k) s a s' ↔ Runs (k ()) (s.1, s.2.keep loc p) a s' :=
  runs_alter_bind

end Bind

/-- What `find` returns is the first row of the named table that has the id. -/
theorem Runs.find {table id : String} {found : Option Ref}
    (h : Runs (find side table id : Inject env _) s found s') :
    s' = s ∧ ∃ t, Table.ofName table = some t ∧
      found = if t.isEdge then none else findRow (side, t) (s.2 (side, t)) (.str id) := by
  unfold Bench.find at h
  obtain ⟨t, ht, h⟩ := runs_liftExcept_bind.mp h
  split at h
  · next hedge =>
    obtain ⟨rfl, rfl⟩ := runs_pure.mp h
    exact ⟨rfl, t, tableNamed_eq_ok.mp ht, (if_pos hedge).symm⟩
  · next hedge =>
    rw [runs_rowsAt_bind, runs_pure] at h
    obtain ⟨rfl, rfl⟩ := h
    exact ⟨rfl, t, tableNamed_eq_ok.mp ht, (if_neg hedge).symm⟩

/-- `remove` takes the first row with the id, or changes nothing. -/
theorem Runs.remove {table : String} {id : Value} {removed : Option Row}
    (h : Runs (remove side table id : Inject env _) s removed s') :
    ∃ t, Table.ofName table = some t ∧
      (findRow (side, t) (s.2 (side, t)) id = none ∧ removed = none ∧ s' = s ∨
        ∃ ref, findRow (side, t) (s.2 (side, t)) id = some ref ∧ removed = some ref.row ∧
          s' = (s.1, s.2.erase ref)) := by
  unfold Bench.remove at h
  obtain ⟨t, ht, h⟩ := runs_liftExcept_bind.mp h
  rw [runs_rowsAt_bind] at h
  refine ⟨t, tableNamed_eq_ok.mp ht, ?_⟩
  split at h
  · next hfind =>
    obtain ⟨rfl, rfl⟩ := runs_pure.mp h
    exact .inl ⟨hfind, rfl, rfl⟩
  · next ref hfind =>
    rw [runs_erase_bind, runs_pure] at h
    obtain ⟨rfl, rfl⟩ := h
    exact .inr ⟨ref, hfind, rfl, rfl⟩

end Runs

/-! ## Keys -/

/-- `f"{row.get(a)}::{row.get(b)}"` -/
def pairKey (env : Env) (a b : String) (row : Row) : String :=
  (row.get a).format env ++ "::" ++ (row.get b).format env

/-- `_edge_natural_key` -/
def edgeNaturalKey (env : Env) (t : Table) (row : Row) : Except Error String :=
  match t with
  | .interfaceLink => .ok (pairKey env "interface_id" "link_id" row)
  | .subnetAssociation => .ok (pairKey env "entity_id" "subnet_id" row)
  | t => .error (.valueError ("no natural key defined for " ++ t.name))

/-- What a row of a table is known by: its natural key, or its id. -/
def keyOf (env : Env) (t : Table) (row : Row) : Value :=
  match edgeNaturalKey env t row with
  | .ok key => .str key
  | .error _ => row.get "id"

/-- Rows of an entity table are known by their id. -/
theorem keyOf_entity {t : Table} (h : t.isEdge = false) (row : Row) :
    keyOf env t row = row.get "id" := by
  cases t <;> first | rfl | cases h

/-- Rows of an edge table are known by their natural key. -/
theorem keyOf_edge {t : Table} {row : Row} {key : String}
    (h : edgeNaturalKey env t row = .ok key) : keyOf env t row = .str key := by
  unfold keyOf
  rw [h]

end GnnSandbox.Bench
