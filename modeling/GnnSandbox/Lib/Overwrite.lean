import GnnSandbox.Lib.MergePatch
import Mathlib.Data.List.Basic
import Mathlib.Data.List.Nodup
import Mathlib.Tactic.Common

/-!
# Overwriting entries by key

A list of entries with keys is overwritten by another one: its entries with a key of the other are
dropped, and the other is appended. What several lists do to a list does not depend on what they
did to it before.
-/

namespace Overwrite

variable {α κ : Type} [DecidableEq κ] (key : α → κ)

/-- The entries whose key is none of these. -/
def without (keys : List κ) (l : List α) : List α := l.filter fun a => key a ∉ keys

/-- The entries with those of the other list in place of the ones with the same key. -/
def overwrite (l own : List α) : List α := without key (own.map key) l ++ own

/-- The entries overwritten by one list after another. -/
def overwriteAll (l : List α) (layers : List (List α)) : List α := layers.foldl (overwrite key) l

/-- The keys of several lists. -/
def keysOf (layers : List (List α)) : List κ := layers.flatMap (List.map key)

variable {key} {keys keys' : List κ} {l own : List α} {layers layers' : List (List α)}

theorem mem_without {a : α} : a ∈ without key keys l ↔ a ∈ l ∧ key a ∉ keys := by
  simp [without]

@[simp] theorem without_nil_keys : without key [] l = l := by simp [without]

@[simp] theorem without_nil : without key keys [] = [] := rfl

theorem without_append (l l' : List α) :
    without key keys (l ++ l') = without key keys l ++ without key keys l' := List.filter_append ..

/-- An entry is dropped from the middle of a list. -/
theorem without_middle_of_mem (key : α → κ) {a : α} (h : key a ∈ keys) (before after : List α) :
    without key keys (before ++ a :: after) =
      without key keys before ++ without key keys after := by
  simp [without, h]

/-- An entry stays in the middle of a list. -/
theorem without_middle_of_notMem (key : α → κ) {a : α} (h : key a ∉ keys) (before after : List α) :
    without key keys (before ++ a :: after) =
      without key keys before ++ a :: without key keys after := by
  simp [without, h]

theorem without_without : without key keys (without key keys' l) = without key (keys' ++ keys) l := by
  simp only [without, List.filter_filter]
  refine List.filter_congr fun a _ => ?_
  simp [and_comm]

theorem without_eq_nil (h : ∀ a ∈ l, key a ∈ keys) : without key keys l = [] := by
  simpa [without] using h

theorem without_eq_self (h : ∀ a ∈ l, key a ∉ keys) : without key keys l = l := by
  simpa [without] using h

/-- Only which keys there are counts. -/
theorem without_congr (h : ∀ k, k ∈ keys ↔ k ∈ keys') : without key keys l = without key keys' l :=
  List.filter_congr fun a _ => by simp [h]

/-- What was there before keeps what is not overwritten, in front of all the rest. -/
theorem overwriteAll_eq (l : List α) (layers : List (List α)) :
    overwriteAll key l layers =
      without key (keysOf key layers) l ++ overwriteAll key [] layers := by
  induction layers generalizing l with
  | nil => simp [overwriteAll, keysOf]
  | cons own layers ih =>
    have hstep (l : List α) : overwriteAll key l (own :: layers) =
      overwriteAll key (overwrite key l own) layers := rfl
    rw [hstep, hstep, ih, ih (overwrite key [] own), overwrite, overwrite, without_append,
      without_nil, List.nil_append, without_without, List.append_assoc]
    rfl

/-- The first list in front of the rest. -/
theorem overwriteAll_cons (own : List α) (layers : List (List α)) :
    overwriteAll key [] (own :: layers) =
      without key (keysOf key layers) own ++ overwriteAll key [] layers := by
  rw [← overwriteAll_eq]
  rfl

theorem key_mem_of_mem_overwriteAll {a : α} (h : a ∈ overwriteAll key [] layers) :
    key a ∈ keysOf key layers := by
  induction layers with
  | nil => cases h
  | cons own layers ih =>
    rw [overwriteAll_cons, List.mem_append] at h
    simp only [keysOf, List.flatMap_cons, List.mem_append]
    rcases h with h | h
    · exact .inl (List.mem_map_of_mem (mem_without.mp h).1)
    · exact .inr (ih h)

/-- What is there afterwards was there before, or comes from a layer. -/
theorem mem_of_mem_overwriteAll {a : α} (h : a ∈ overwriteAll key l layers) :
    a ∈ l ∨ ∃ layer ∈ layers, a ∈ layer := by
  induction layers generalizing l with
  | nil => exact .inl h
  | cons own layers ih =>
    rcases ih h with h | ⟨layer, hlayer, ha⟩
    · rcases List.mem_append.mp h with h | h
      · exact .inl (mem_without.mp h).1
      · exact .inr ⟨own, List.mem_cons_self, h⟩
    · exact .inr ⟨layer, List.mem_cons_of_mem _ hlayer, ha⟩

/-- No key goes, and those of the layers come. -/
theorem mem_map_overwriteAll {k : κ} :
    k ∈ (overwriteAll key l layers).map key ↔ k ∈ l.map key ∨ k ∈ keysOf key layers := by
  induction layers generalizing l with
  | nil => simp [overwriteAll, keysOf]
  | cons own layers ih =>
    have hstep : overwriteAll key l (own :: layers) =
      overwriteAll key (overwrite key l own) layers := rfl
    have hown : k ∈ (overwrite key l own).map key ↔ k ∈ l.map key ∨ k ∈ own.map key := by
      unfold overwrite
      rw [List.map_append, List.mem_append]
      constructor
      · rintro (h | h)
        · obtain ⟨a, ha, rfl⟩ := List.mem_map.mp h
          exact .inl (List.mem_map_of_mem (mem_without.mp ha).1)
        · exact .inr h
      · intro h
        by_cases hk : k ∈ own.map key
        · exact .inr hk
        · obtain ⟨a, ha, rfl⟩ := List.mem_map.mp (h.resolve_right hk)
          exact .inl (List.mem_map_of_mem (mem_without.mpr ⟨ha, hk⟩))
    rw [hstep, ih, hown, keysOf, keysOf, List.flatMap_cons, List.mem_append, or_assoc]

/-- **Overwriting again.** What was overwritten before does not count, if all its keys are
overwritten now. -/
theorem overwriteAll_overwriteAll (h : ∀ k ∈ keysOf key layers', k ∈ keysOf key layers) :
    overwriteAll key (overwriteAll key l layers') layers = overwriteAll key l layers := by
  rw [overwriteAll_eq (overwriteAll key l layers'), overwriteAll_eq l layers', without_append,
    without_without,
    without_eq_nil fun a ha => h (key a) (key_mem_of_mem_overwriteAll ha), List.append_nil,
    overwriteAll_eq l layers]
  congr 1
  refine without_congr fun k => ?_
  rw [List.mem_append]
  exact or_iff_right_of_imp (h k)

/-- Dropping keys gives the entries from before exactly when none of these has one of the keys, and
all that came have. -/
theorem without_overwriteAll_eq_iff (hl : ∀ a ∈ l, key a ∉ keysOf key layers) :
    without key keys (overwriteAll key l layers) = l ↔
      (∀ a ∈ l, key a ∉ keys) ∧ ∀ k ∈ keysOf key layers, k ∈ keys := by
  rw [overwriteAll_eq, without_eq_self hl, without_append]
  constructor
  · intro h
    have hcame : ∀ k ∈ keysOf key layers, k ∈ keys := by
      intro k hk
      obtain ⟨a, ha, rfl⟩ := List.mem_map.mp (mem_map_overwriteAll.mpr (.inr hk) :
        k ∈ (overwriteAll key [] layers).map key)
      -- an entry that came and stays would have been there before
      by_contra hnot
      have hin : a ∈ l := by
        rw [← h]
        exact List.mem_append_right _ (mem_without.mpr ⟨ha, hnot⟩)
      exact hl a hin hk
    refine ⟨fun a ha => ?_, hcame⟩
    rw [without_eq_nil fun a ha => hcame _ (key_mem_of_mem_overwriteAll ha), List.append_nil] at h
    rw [← h] at ha
    exact (mem_without.mp ha).2
  · rintro ⟨hkept, hcame⟩
    rw [without_eq_self hkept,
      without_eq_nil fun a ha => hcame _ (key_mem_of_mem_overwriteAll ha), List.append_nil]

/-! ## Entries of several owners -/

theorem nodup_map_without (h : (l.map key).Nodup) : ((without key keys l).map key).Nodup :=
  h.sublist (List.filter_sublist.map key)

/-- Lists with different keys are all in the list that they overwrite. -/
theorem mem_overwriteAll_of_nodup (h : (keysOf key layers).Nodup) {a : α} :
    a ∈ overwriteAll key l layers ↔
      a ∈ l ∧ key a ∉ keysOf key layers ∨ ∃ layer ∈ layers, a ∈ layer := by
  rw [overwriteAll_eq, List.mem_append, mem_without]
  refine or_congr_right ?_
  induction layers with
  | nil => simp [overwriteAll]
  | cons own layers ih =>
    rw [keysOf, List.flatMap_cons, List.nodup_append'] at h
    obtain ⟨-, hlayers, hdisjoint⟩ := h
    rw [overwriteAll_cons, List.mem_append, ih hlayers, without_eq_self, List.exists_mem_cons_iff]
    exact fun b hb hin => hdisjoint (List.mem_map_of_mem hb) hin

theorem nodup_map_overwriteAll (hl : (l.map key).Nodup) (h : (keysOf key layers).Nodup) :
    ((overwriteAll key l layers).map key).Nodup := by
  induction layers generalizing l with
  | nil => exact hl
  | cons own layers ih =>
    rw [keysOf, List.flatMap_cons, List.nodup_append'] at h
    obtain ⟨hown, hlayers, -⟩ := h
    refine ih ?_ hlayers
    unfold overwrite
    rw [List.map_append, List.nodup_append']
    refine ⟨nodup_map_without hl, hown, fun k hk hin => ?_⟩
    obtain ⟨a, ha, rfl⟩ := List.mem_map.mp hk
    exact (mem_without.mp ha).2 hin

omit [DecidableEq κ] in
theorem key_mem_keysOf {a : α} (h : ∃ layer ∈ layers, a ∈ layer) : key a ∈ keysOf key layers := by
  obtain ⟨layer, hlayer, ha⟩ := h
  exact List.mem_flatMap.mpr ⟨layer, hlayer, List.mem_map_of_mem ha⟩

variable {ω : Type} {layersOf : ω → List (List α)} {base : List α} {live others past : List ω}

/-- A list holds the entries of the owners that live, and those of a base list whose key no owner
ever named, each key once. -/
structure Pooled (key : α → κ) (layersOf : ω → List (List α)) (l base : List α)
    (live past : List ω) : Prop where
  nodup : (l.map key).Nodup
  mem_iff : ∀ a, a ∈ l ↔ (∃ o ∈ live, ∃ layer ∈ layersOf o, a ∈ layer) ∨
    a ∈ base ∧ ∀ o ∈ past, key a ∉ keysOf key (layersOf o)

omit [DecidableEq κ] in
theorem Pooled.start (h : (l.map key).Nodup) : Pooled key layersOf l l [] [] :=
  ⟨h, fun a => by simp⟩

/-- An owner gives its entries, in place of those that it gave before. -/
theorem Pooled.join {o : ω} (h : Pooled key layersOf l base live past)
    (hnodup : (keysOf key (layersOf o)).Nodup)
    (hlive : ∀ o' ∈ live, o' ∈ others ∨
      ∀ k ∈ keysOf key (layersOf o'), k ∈ keysOf key (layersOf o))
    (hothers : ∀ o' ∈ others, o' ∈ live ∧
      ∀ k ∈ keysOf key (layersOf o'), k ∉ keysOf key (layersOf o)) :
    Pooled key layersOf (overwriteAll key l (layersOf o)) base (o :: others) (o :: past) := by
  refine ⟨nodup_map_overwriteAll h.nodup hnodup, fun a => ?_⟩
  rw [mem_overwriteAll_of_nodup hnodup, h.mem_iff a, List.exists_mem_cons_iff,
    List.forall_mem_cons]
  constructor
  · rintro (⟨⟨o', ho', ha⟩ | ⟨hbase, hnot⟩, hkey⟩ | hlayer)
    · have hother := (hlive o' ho').resolve_right fun hin => hkey (hin _ (key_mem_keysOf ha))
      exact .inl (.inr ⟨o', hother, ha⟩)
    · exact .inr ⟨hbase, hkey, hnot⟩
    · exact .inl (.inl hlayer)
  · rintro ((hlayer | ⟨o', ho', ha⟩) | ⟨hbase, hkey, hnot⟩)
    · exact .inr hlayer
    · obtain ⟨hmem, hapart⟩ := hothers o' ho'
      exact .inl ⟨.inl ⟨o', hmem, ha⟩, hapart _ (key_mem_keysOf ha)⟩
    · exact .inl ⟨.inr ⟨hbase, hnot⟩, hkey⟩

/-- An owner takes its entries away. -/
theorem Pooled.leave (h : Pooled key layersOf l base live past)
    (hlive : ∀ o ∈ live, o ∈ others ∨ ∀ k ∈ keysOf key (layersOf o), k ∈ keys)
    (hothers : ∀ o ∈ others, o ∈ live ∧ ∀ k ∈ keysOf key (layersOf o), k ∉ keys)
    (hpast : ∀ a ∈ l, key a ∈ keys → ∃ o ∈ past, key a ∈ keysOf key (layersOf o)) :
    Pooled key layersOf (without key keys l) base others past := by
  refine ⟨nodup_map_without h.nodup, fun a => ?_⟩
  rw [mem_without]
  constructor
  · rintro ⟨ha, hkey⟩
    rcases (h.mem_iff a).mp ha with ⟨o, ho, hlayer⟩ | hbase
    · have hother := (hlive o ho).resolve_right fun hin => hkey (hin _ (key_mem_keysOf hlayer))
      exact .inl ⟨o, hother, hlayer⟩
    · exact .inr hbase
  · rintro (⟨o, ho, hlayer⟩ | ⟨hbase, hnot⟩)
    · obtain ⟨hmem, hapart⟩ := hothers o ho
      exact ⟨(h.mem_iff a).mpr (.inl ⟨o, hmem, hlayer⟩), hapart _ (key_mem_keysOf hlayer)⟩
    · have hmem := (h.mem_iff a).mpr (.inr ⟨hbase, hnot⟩)
      refine ⟨hmem, fun hkey => ?_⟩
      obtain ⟨o, ho, hin⟩ := hpast a hmem hkey
      exact hnot o ho hin

end Overwrite

/-!
## Calls that are made again

A handler changes a state by calls. An attempt that fails has made some of its calls, and the
handler runs again. The attempts do not show, `foldl_attempts`, when making a call again wipes out
the first time, whatever calls were made in between.
-/

namespace Retry

open MergePatch Overwrite

variable {σ κ : Type}

/-- Of two times that a call is made, with such calls in between, the second one counts. -/
def Absorbing (perform : σ → κ → σ) (calls : κ → Prop) : Prop :=
  ∀ c, calls c → ∀ between : List κ, (∀ d ∈ between, calls d) → ∀ s,
    perform (between.foldl perform (perform s c)) c = perform (between.foldl perform s) c

variable {perform : σ → κ → σ} {calls : κ → Prop}

/-- A call that is made again does not count. -/
theorem foldl_of_mem (h : Absorbing perform calls) {c : κ} {cs : List κ} (hc : c ∈ cs)
    (hcs : ∀ d ∈ cs, calls d) (s : σ) : cs.foldl perform (perform s c) = cs.foldl perform s := by
  obtain ⟨before, after, rfl⟩ := List.append_of_mem hc
  rw [List.foldl_append, List.foldl_append, List.foldl_cons, List.foldl_cons,
    h c (hcs c hc) before (fun d hd => hcs d (List.mem_append_left _ hd)) s]

/-- **Attempts do not show.** Any calls of a handler, in any order and number, made before the
handler runs. -/
theorem foldl_attempts (h : Absorbing perform calls) {attempts cs : List κ}
    (hcs : ∀ d ∈ cs, calls d) (hattempts : ∀ c ∈ attempts, c ∈ cs) (s : σ) :
    cs.foldl perform (attempts.foldl perform s) = cs.foldl perform s := by
  induction attempts generalizing s with
  | nil => rfl
  | cons c attempts ih =>
    rw [List.forall_mem_cons] at hattempts
    rw [List.foldl_cons, ih hattempts.2, foldl_of_mem h hattempts.1 hcs]

/-! ## Kinds of calls -/

/-- Calls that commute, and that count once. -/
theorem absorbing_of_comm (hcomm : ∀ c d, calls c → calls d → ∀ s,
      perform (perform s c) d = perform (perform s d) c)
    (hself : ∀ c, calls c → ∀ s, perform (perform s c) c = perform s c) :
    Absorbing perform calls := by
  intro c hc between hbetween s
  induction between generalizing s with
  | nil => exact hself c hc s
  | cons d between ih =>
    rw [List.forall_mem_cons] at hbetween
    rw [List.foldl_cons, List.foldl_cons, hcomm c d hc hbetween.1, ih hbetween.2]

/-- A part of the state on which the calls act. -/
theorem foldl_view {τ : Type} {view : σ → τ} {act : τ → κ → τ}
    (hview : ∀ c, calls c → ∀ s, view (perform s c) = act (view s) c) {cs : List κ}
    (hcs : ∀ c ∈ cs, calls c) (s : σ) : view (cs.foldl perform s) = cs.foldl act (view s) := by
  induction cs generalizing s with
  | nil => rfl
  | cons c cs ih =>
    rw [List.forall_mem_cons] at hcs
    rw [List.foldl_cons, List.foldl_cons, ih hcs.2, hview c hcs.1]

/-- A part of the state does not show that a call was made before. -/
theorem view_absorbs {τ : Type} {view : σ → τ} {act : τ → κ → τ}
    (hview : ∀ c, calls c → ∀ s, view (perform s c) = act (view s) c) (h : Absorbing act calls)
    {c : κ} (hc : calls c) {between : List κ} (hbetween : ∀ d ∈ between, calls d) (s : σ) :
    view (perform (between.foldl perform (perform s c)) c) =
      view (perform (between.foldl perform s) c) := by
  rw [hview c hc, hview c hc, foldl_view hview hbetween, foldl_view hview hbetween, hview c hc,
    h c hc between hbetween]

/-- Calls that change nothing. -/
theorem absorbing_unchanged (calls : κ → Prop) : Absorbing (fun (s : σ) (_ : κ) => s) calls :=
  absorbing_of_comm (fun _ _ _ _ _ => rfl) fun _ _ _ => rfl

/-- Lists that overwrite a list by key. -/
theorem absorbing_overwrite {α β : Type} [DecidableEq β] (key : α → β) (own : κ → List α)
    (calls : κ → Prop) : Absorbing (fun l c => overwrite key l (own c)) calls := by
  intro c _ between _ l
  have hfold : ∀ (cs : List κ) (l : List α),
      cs.foldl (fun l c => overwrite key l (own c)) l = overwriteAll key l (cs.map own) :=
    fun cs l => (List.foldl_map ..).symm
  have happly : ∀ l : List α, overwrite key (overwriteAll key l (between.map own)) (own c) =
      overwriteAll key l (between.map own ++ [own c]) := by
    intro l
    rw [overwriteAll, overwriteAll, List.foldl_append]
    rfl
  dsimp only
  rw [hfold, hfold, happly, happly]
  show overwriteAll key (overwriteAll key l [own c]) _ = _
  refine overwriteAll_overwriteAll fun k hk => ?_
  simp only [keysOf, List.flatMap_append, List.mem_append]
  exact .inr hk

/-- Calls that overwrite a list by key, if they have an own list, or may replace it. -/
def overwriteOrReplace {α β : Type} [DecidableEq β] (key : α → β) (own replace : κ → Option (List α))
    (l : Option (List α)) (c : κ) : Option (List α) :=
  match own c with
  | some entries => some (overwrite key (l.getD []) entries)
  | none => value l (replace c)

section

variable {α β : Type} [DecidableEq β] {key : α → β} {own replace : κ → Option (List α)}

/-- What several such calls do. -/
theorem foldl_overwriteOrReplace (cs : List κ) :
    (∃ k, ∀ l, cs.foldl (overwriteOrReplace key own replace) l = k) ∨
      (∀ l, cs.foldl (overwriteOrReplace key own replace) l = l) ∨
        ∃ layers, ∀ l, cs.foldl (overwriteOrReplace key own replace) l =
          some (overwriteAll key (l.getD []) layers) := by
  induction cs with
  | nil => exact .inr (.inl fun _ => rfl)
  | cons c cs ih =>
    have hcons : ∀ l, (c :: cs).foldl (overwriteOrReplace key own replace) l =
        cs.foldl (overwriteOrReplace key own replace) (overwriteOrReplace key own replace l c) :=
      fun _ => rfl
    simp only [hcons]
    rcases ih with ⟨k, hk⟩ | hid | ⟨layers, hlayers⟩
    · exact .inl ⟨k, fun l => hk _⟩
    · simp only [hid, overwriteOrReplace]
      cases own c with
      | some entries => exact .inr (.inr ⟨[entries], fun _ => rfl⟩)
      | none =>
        cases replace c with
        | some l => exact .inl ⟨some l, fun _ => rfl⟩
        | none => exact .inr (.inl fun _ => rfl)
    · simp only [hlayers, overwriteOrReplace]
      cases own c with
      | some entries => exact .inr (.inr ⟨entries :: layers, fun _ => rfl⟩)
      | none =>
        cases replace c with
        | some l => exact .inl ⟨some (overwriteAll key l layers), fun _ => rfl⟩
        | none => exact .inr (.inr ⟨layers, fun _ => rfl⟩)

theorem absorbing_overwriteOrReplace (calls : κ → Prop) :
    Absorbing (overwriteOrReplace key own replace) calls := by
  intro c _ between _ l
  have hbetween := @foldl_overwriteOrReplace κ α β _ key own replace between
  rcases hbetween with ⟨k, hk⟩ | hid | ⟨layers, hlayers⟩
  · rw [hk, hk]
  · rw [hid, hid]
    unfold overwriteOrReplace
    cases own c with
    | some entries =>
      refine congrArg some ?_
      show overwriteAll key (overwriteAll key _ [entries]) [entries] = overwriteAll key _ [entries]
      exact overwriteAll_overwriteAll fun _ hk => hk
    | none => exact value_value_self l (replace c)
  · rw [hlayers, hlayers]
    unfold overwriteOrReplace
    cases own c with
    | some entries =>
      have happly : ∀ l : List α, overwrite key (overwriteAll key l layers) entries =
          overwriteAll key l (layers ++ [entries]) := by
        intro l
        rw [overwriteAll, overwriteAll, List.foldl_append]
        rfl
      refine congrArg some ?_
      rw [Option.getD_some, Option.getD_some, Option.getD_some, happly, happly]
      show overwriteAll key (overwriteAll key _ [entries]) _ = _
      refine overwriteAll_overwriteAll fun k hk => ?_
      simp only [keysOf, List.flatMap_append, List.mem_append]
      exact .inr hk
    | none =>
      cases replace c with
      | some l => rfl
      | none => rfl

end

/-- Records in which the first of two equal patches does not count. -/
class Regular (α : Type) [Record α] : Prop where
  merge_merge (p q : α) : Record.merge (Record.merge p q) p = Record.merge q p

@[simp] theorem value_value {β : Type} (p q : Option β) : value (value p q) p = value q p := by
  cases p <;> simp

instance {α : Type} [Record α] [Regular α] : Regular (Option α) where
  merge_merge p q := by
    cases p <;> cases q <;> simp [Record.merge, object, Regular.merge_merge]

/-- Patches of a record. -/
theorem absorbing_merge {α : Type} [Record α] [Regular α] (patch : κ → α) (calls : κ → Prop) :
    Absorbing (fun t c => Record.merge t (patch c)) calls := by
  intro c _ between _ t
  have hfold : ∀ t : α, between.foldl (fun t c => Record.merge t (patch c)) t =
      Record.merge t (combine (between.map patch)) := by
    intro t
    rw [← foldl_merge, List.foldl_map]
  dsimp only
  rw [hfold, hfold, Record.merge_assoc, Record.merge_assoc, Record.merge_assoc,
    ← Record.merge_assoc (patch c), Regular.merge_merge]

end Retry
