import Mathlib.Data.Set.Basic
import Mathlib.Tactic.Common

/-!
# Configuration trees

A configuration is a tree of nodes. It is changed by scripts of `set` and `delete` commands,
each of which names a path: `set` adds the path, and at a node that holds one value it replaces
the value; `delete` removes the subtree, if it is there. A schema says which nodes hold one value.
The main result is `refresh_iff`: when deleting some subtrees and setting a configuration again
leaves nothing of the old one. `Edit.mem_runAll` says what is left of any number of such scripts.
-/

namespace ConfigTree

variable {ω : Type}

/-- The words from the root to a node. -/
abbrev Path (ω : Type) := List ω

/-- The settings of a configuration, each by its path. -/
abbrev Config (ω : Type) := List (Path ω)

inductive Command (ω : Type) where
  | set (path : Path ω)
  | delete (path : Path ω)
deriving DecidableEq, Repr

/-- The nodes of the tree: all that is on the way to a setting. -/
def nodes (c : Config ω) : Set (Path ω) := {q | ∃ p ∈ c, q <+: p}

instance [DecidableEq ω] (c : Config ω) (q : Path ω) : Decidable (q ∈ nodes c) :=
  inferInstanceAs (Decidable (∃ p ∈ c, q <+: p))

section

variable (single : Path ω → Bool)

/-- The two paths end in a value of the same single-valued node. -/
def Replaces (p q : Path ω) : Prop :=
  p ≠ [] ∧ q ≠ [] ∧ p.dropLast = q.dropLast ∧ single p.dropLast = true

instance [DecidableEq ω] (p q : Path ω) : Decidable (Replaces single p q) := by
  unfold Replaces; infer_instance

/-- One command. -/
def apply [DecidableEq ω] (c : Config ω) : Command ω → Config ω
  | .set p => c.filter (fun q => ¬Replaces single p q) ++ [p]
  | .delete p => c.filter fun q => ¬p <+: q

/-- A script. -/
def run [DecidableEq ω] (script : List (Command ω)) (c : Config ω) : Config ω :=
  script.foldl (apply single) c

/-- One of the paths is at the node or below it, or gives it another value. -/
def Covers (ps : List (Path ω)) (q : Path ω) : Prop := ∃ p ∈ ps, Replaces single p q ∨ q <+: p

end

variable {single : Path ω → Bool} {p q r : Path ω} {ps ps' : List (Path ω)} {c : Config ω}

theorem Replaces.trans (h : Replaces single p q) (h' : Replaces single q r) : Replaces single p r :=
  ⟨h.1, h'.2.1, h.2.2.1.trans h'.2.2.1, h.2.2.2⟩

/-- A node on the way to a setting is that setting, or on the way to every other value of it. -/
theorem Replaces.prefix_of_replaced (h : Replaces single p r) (hq : q <+: r) : q = r ∨ q <+: p := by
  rcases List.prefix_concat_iff.mp
    (show q <+: r.dropLast ++ [r.getLast h.2.1] by rwa [List.dropLast_concat_getLast]) with hq | hq
  · exact .inl (hq.trans (List.dropLast_concat_getLast h.2.1))
  · exact .inr (hq.trans (h.2.2.1 ▸ List.dropLast_prefix p))

theorem Covers.of_below (hp : p ∈ ps) (h : q <+: p) : Covers single ps q := ⟨p, hp, .inr h⟩

theorem Covers.of_mem (hp : p ∈ ps) : Covers single ps p := .of_below hp (List.prefix_refl p)

/-- Two values of one single-valued node. -/
theorem Covers.of_value {n : Path ω} {v w : ω} (hp : n ++ [v] ∈ ps) (hn : single n = true) :
    Covers single ps (n ++ [w]) :=
  ⟨n ++ [v], hp, .inl ⟨by simp, by simp, by simp, by simpa using hn⟩⟩

variable [DecidableEq ω]

theorem run_append (s s' : List (Command ω)) (c : Config ω) :
    run single (s ++ s') c = run single s' (run single s c) := List.foldl_append

theorem mem_set : q ∈ apply single c (.set p) ↔ (q ∈ c ∧ ¬Replaces single p q) ∨ q = p := by
  simp [apply]

/-- What deleting leaves. -/
theorem mem_run_deletes {ds : List (Path ω)} :
    q ∈ run single (ds.map .delete) c ↔ q ∈ c ∧ ∀ d ∈ ds, ¬d <+: q := by
  induction ds generalizing c with
  | nil => simp [run]
  | cons d ds ih =>
    have hstep : run single ((d :: ds).map .delete) c =
      run single (ds.map .delete) (apply single c (.delete d)) := rfl
    rw [hstep, ih]
    simp [apply, and_assoc]

/-- Setting keeps the settings whose value it does not replace. -/
theorem mem_run_sets :
    q ∈ run single (ps.map .set) c ↔
      (q ∈ c ∧ ∀ p ∈ ps, ¬Replaces single p q) ∨ q ∈ run single (ps.map .set) [] := by
  induction ps generalizing c with
  | nil => simp [run]
  | cons p ps ih =>
    have hstep (c : Config ω) : run single ((p :: ps).map .set) c =
      run single (ps.map .set) (apply single c (.set p)) := rfl
    rw [hstep, hstep, ih, ih (c := apply single [] (.set p)), mem_set, mem_set]
    simp only [List.mem_cons, forall_eq_or_imp, List.not_mem_nil, false_and, false_or]
    tauto

/-- What setting gives on an empty configuration is among the paths set. -/
theorem mem_of_mem_run_sets (h : q ∈ run single (ps.map .set) []) : q ∈ ps := by
  induction ps with
  | nil => cases h
  | cons p ps ih =>
    have hstep : run single ((p :: ps).map .set) [] =
      run single (ps.map .set) (apply single [] (.set p)) := rfl
    rw [hstep, mem_run_sets, mem_set] at h
    rcases h with ⟨⟨hnil, -⟩ | rfl, -⟩ | h
    · cases hnil
    · exact List.mem_cons_self
    · exact List.mem_cons_of_mem p (ih h)

/-- A setting stays, or its node has another value. -/
theorem stays_or_replaced (hp : p ∈ c) :
    ∃ q ∈ run single (ps.map .set) c, q = p ∨ Replaces single q p := by
  induction ps generalizing c p with
  | nil => exact ⟨p, hp, .inl rfl⟩
  | cons a ps ih =>
    change ∃ q ∈ run single (ps.map .set) (apply single c (.set a)), _
    by_cases ha : Replaces single a p
    · obtain ⟨q, hq, h⟩ := ih (mem_set.mpr (.inr rfl) : a ∈ apply single c (.set a))
      refine ⟨q, hq, .inr ?_⟩
      rcases h with rfl | h
      · exact ha
      · exact h.trans ha
    · exact ih (mem_set.mpr (.inl ⟨hp, ha⟩))

/-- A path that is set is there in the end, or its node has another value. -/
theorem survives_or_replaced (single : Path ω → Bool) (hp : p ∈ ps) (c : Config ω) :
    ∃ q ∈ run single (ps.map .set) c, q = p ∨ Replaces single q p := by
  obtain ⟨l, l', rfl⟩ := List.append_of_mem hp
  rw [List.map_append, run_append]
  have hset : p ∈ apply single (run single (l.map .set) c) (.set p) := mem_set.mpr (.inr rfl)
  change ∃ q ∈ run single (l'.map .set) (apply single (run single (l.map .set) c) (.set p)), _
  exact stays_or_replaced hset

/-- A node is in the new configuration, or its value is replaced, exactly when the script covers
it. -/
theorem mem_nodes_or_replaced_iff :
    (q ∈ nodes (run single (ps.map .set) []) ∨ ∃ p ∈ ps, Replaces single p q) ↔
      Covers single ps q := by
  constructor
  · rintro (⟨r, hr, hq⟩ | ⟨r, hr, hq⟩)
    · exact ⟨r, mem_of_mem_run_sets hr, .inr hq⟩
    · exact ⟨r, hr, .inl hq⟩
  · rintro ⟨p, hp, hq | hq⟩
    · exact .inr ⟨p, hp, hq⟩
    · obtain ⟨r, hr, rfl | h⟩ := survives_or_replaced single hp []
      · exact .inl ⟨r, hr, hq⟩
      · rcases h.prefix_of_replaced hq with rfl | hq
        · exact .inr ⟨r, mem_of_mem_run_sets hr, h⟩
        · exact .inl ⟨r, hr, hq⟩

/-- **Refreshing a configuration.** Deleting some subtrees and setting all paths gives the tree
that setting them on an empty configuration gives, exactly when every old setting is deleted or
covered. -/
theorem refresh_iff {ds : List (Path ω)} :
    nodes (run single (ds.map .delete ++ ps.map .set) c) = nodes (run single (ps.map .set) []) ↔
      ∀ q ∈ c, (∃ d ∈ ds, d <+: q) ∨ Covers single ps q := by
  rw [run_append]
  constructor
  · intro h q hq
    by_contra hnot
    obtain ⟨hdel, hcov⟩ := not_or.mp hnot
    rw [← mem_nodes_or_replaced_iff, not_or] at hcov
    refine hcov.1 (h ▸ ⟨q, mem_run_sets.mpr (.inl ⟨mem_run_deletes.mpr ⟨hq, ?_⟩, ?_⟩), List.prefix_refl q⟩)
    · exact fun d hd hdq => hdel ⟨d, hd, hdq⟩
    · exact fun p hp hpq => hcov.2 ⟨p, hp, hpq⟩
  · intro h
    ext q
    constructor
    · rintro ⟨r, hr, hqr⟩
      rcases mem_run_sets.mp hr with ⟨hrc, hkept⟩ | hr
      · obtain ⟨hrc, hdel⟩ := mem_run_deletes.mp hrc
        rcases h r hrc with ⟨d, hd, hdr⟩ | hcov
        · exact (hdel d hd hdr).elim
        · rcases mem_nodes_or_replaced_iff.mpr hcov with ⟨t, ht, hrt⟩ | ⟨p, hp, hpr⟩
          · exact ⟨t, ht, hqr.trans hrt⟩
          · exact (hkept p hp hpr).elim
      · exact ⟨r, hr, hqr⟩
    · rintro ⟨r, hr, hqr⟩
      exact ⟨r, mem_run_sets.mpr (.inr hr), hqr⟩

/-! ## One script after the other -/

/-- A script that deletes some subtrees and then sets some paths. -/
structure Edit (ω : Type) where
  deletes : List (Path ω)
  sets : List (Path ω)

namespace Edit

omit [DecidableEq ω] in
/-- The setting is deleted, or its node is given a value. -/
def Touches (single : Path ω → Bool) (e : Edit ω) (q : Path ω) : Prop :=
  (∃ d ∈ e.deletes, d <+: q) ∨ ∃ p ∈ e.sets, Replaces single p q

instance (e : Edit ω) (q : Path ω) : Decidable (e.Touches single q) :=
  inferInstanceAs (Decidable (_ ∨ _))

def script (e : Edit ω) : List (Command ω) := e.deletes.map .delete ++ e.sets.map .set

/-- What the script gives on an empty configuration. -/
def fresh (single : Path ω → Bool) (e : Edit ω) : Config ω := run single (e.sets.map .set) []

variable {e : Edit ω} {es es' : List (Edit ω)}

/-- A script leaves what it does not touch, and what it gives on an empty configuration. -/
theorem mem_run : q ∈ run single e.script c ↔ (q ∈ c ∧ ¬e.Touches single q) ∨ q ∈ e.fresh single := by
  unfold script fresh Touches
  rw [run_append, mem_run_sets, mem_run_deletes]
  refine or_congr_left ?_
  rw [not_or]
  push Not
  exact and_assoc

/-- The configuration after some scripts. -/
def runAll (single : Path ω → Bool) (es : List (Edit ω)) (c : Config ω) : Config ω :=
  es.foldl (fun c e => run single e.script c) c

theorem runAll_append : runAll single (es ++ es') c = runAll single es' (runAll single es c) :=
  List.foldl_append

/-- **What is left of some scripts**: a setting that one of them gives and no later one touches, or
an old one that none touches. -/
theorem mem_runAll : q ∈ runAll single es c ↔ (q ∈ c ∧ ∀ e ∈ es, ¬e.Touches single q) ∨
    ∃ before e after, es = before ++ e :: after ∧ q ∈ e.fresh single ∧
      ∀ e' ∈ after, ¬e'.Touches single q := by
  induction es generalizing c with
  | nil => simp [runAll]
  | cons e es ih =>
    have hstep : runAll single (e :: es) c = runAll single es (run single e.script c) := rfl
    rw [hstep, ih, mem_run]
    constructor
    · rintro (⟨⟨hq, hkept⟩ | hq, hlater⟩ | ⟨before, e', after, rfl, hq, hlater⟩)
      · exact .inl ⟨hq, List.forall_mem_cons.mpr ⟨hkept, hlater⟩⟩
      · exact .inr ⟨[], e, es, rfl, hq, hlater⟩
      · exact .inr ⟨e :: before, e', after, rfl, hq, hlater⟩
    · rintro (⟨hq, hkept⟩ | ⟨before, e', after, heq, hq, hlater⟩)
      · obtain ⟨hkept, hlater⟩ := List.forall_mem_cons.mp hkept
        exact .inl ⟨.inl ⟨hq, hkept⟩, hlater⟩
      · cases before with
        | nil =>
          obtain ⟨rfl, rfl⟩ := List.cons.inj heq
          exact .inl ⟨.inr hq, hlater⟩
        | cons b before =>
          obtain ⟨rfl, rfl⟩ := List.cons.inj heq
          exact .inr ⟨before, e', after, rfl, hq, hlater⟩

/-- What is left of scripts that are made of something else, on an empty configuration. -/
theorem mem_runAll_map {σ : Type} (f : σ → Edit ω) {l : List σ} :
    q ∈ runAll single (l.map f) [] ↔ ∃ before s after, l = before ++ s :: after ∧
      q ∈ (f s).fresh single ∧ ∀ s' ∈ after, ¬(f s').Touches single q := by
  rw [mem_runAll]
  constructor
  · rintro (⟨hnil, -⟩ | ⟨_, _, _, heq, hq, hlater⟩)
    · cases hnil
    · obtain ⟨before, rest, rfl, rfl, hrest⟩ := List.map_eq_append_iff.mp heq
      obtain ⟨s, after, rfl, rfl, rfl⟩ := List.map_eq_cons_iff.mp hrest
      exact ⟨before, s, after, rfl, hq, fun s' hs' => hlater _ (List.mem_map_of_mem hs')⟩
  · rintro ⟨before, s, after, rfl, hq, hlater⟩
    refine .inr ⟨before.map f, f s, after.map f, by simp, hq, fun e' he' => ?_⟩
    obtain ⟨s', hs', rfl⟩ := List.mem_map.mp he'
    exact hlater s' hs'

/-- The same settings before a script give the same after it. -/
theorem mem_runAll_congr {c' : Config ω} (h : ∀ q, q ∈ c ↔ q ∈ c') :
    q ∈ runAll single es c ↔ q ∈ runAll single es c' := by
  rw [mem_runAll, mem_runAll, h]

/-- **Running a script again** changes nothing. -/
theorem mem_runAll_replicate (n : ℕ) :
    q ∈ runAll single (List.replicate (n + 1) e) c ↔ q ∈ run single e.script c := by
  induction n with
  | zero => rfl
  | succ n ih =>
    have hstep : runAll single (List.replicate (n + 1 + 1) e) c =
        run single e.script (runAll single (List.replicate (n + 1) e) c) := by
      rw [List.replicate_succ', runAll_append]
      rfl
    rw [hstep, mem_run, ih, mem_run]
    tauto

end Edit

end ConfigTree
