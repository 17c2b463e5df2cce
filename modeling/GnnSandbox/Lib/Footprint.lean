import GnnSandbox.Lib.Raise
import Mathlib.Data.Set.Lattice
import Mathlib.Logic.Function.Basic
import Mathlib.Order.CompletePartialOrder

/-!
# Footprints

A computation whose state is a private part `γ` and cells `ι → β` has the footprint `R`,
`W` when it writes no cell outside of `W` and when its result, its private part and what it
leaves in the cells of `R` depend on the cells of `R` only. Computations of which neither
writes what the other reads commute.
-/

namespace Raise

variable {γ ε ι β α δ : Type}

/-- `m` reads cells of `R` and writes cells of `W`. -/
structure Footprint (R W : Set ι) (m : StateT (γ × (ι → β)) (Except ε) α) : Prop where
  /-- The other cells are unchanged. -/
  frame : ∀ {g v a g' v'}, Runs m (g, v) a (g', v') → ∀ i, i ∉ W → v' i = v i
  /-- The same happens from every state with the same cells in `R`. -/
  transfer : ∀ {g v a g' v'} (w : ι → β), Runs m (g, v) a (g', v') → (∀ i ∈ R, w i = v i) →
    ∃ w', Runs m (g, w) a (g', w') ∧ ∀ i ∈ R, w' i = v' i

namespace Footprint

variable {R W : Set ι}

/-! ## Rules -/

theorem pure (a : α) : Footprint R W (Pure.pure a : StateT (γ × (ι → β)) (Except ε) α) where
  frame := by
    intro g v b g' v' h i _
    obtain ⟨-, h⟩ := runs_pure.mp h
    rw [(Prod.mk.inj h).2]
  transfer := by
    intro g v b g' v' w h hw
    obtain ⟨hb, hs⟩ := runs_pure.mp h
    obtain ⟨rfl, rfl⟩ := Prod.mk.inj hs
    exact ⟨w, runs_pure.mpr ⟨hb, rfl⟩, hw⟩

theorem throw (e : ε) :
    Footprint R W (MonadExcept.throw e : StateT (γ × (ι → β)) (Except ε) α) where
  frame := fun h => (runs_throw.mp h).elim
  transfer := fun _ h => (runs_throw.mp h).elim

/-- What follows a computation runs with results of it only, of which `P` is known. -/
theorem bind_of {m : StateT (γ × (ι → β)) (Except ε) α}
    {f : α → StateT (γ × (ι → β)) (Except ε) δ} {P : α → Prop} (hm : Footprint R W m)
    (hP : ∀ s a s', Runs m s a s' → P a) (hf : ∀ a, P a → Footprint R W (f a)) :
    Footprint R W (m >>= f) where
  frame := by
    intro g v b g' v' h i hi
    obtain ⟨a, t, hrun, hrest⟩ := runs_bind.mp h
    exact ((hf a (hP _ a _ hrun)).frame hrest i hi).trans (hm.frame hrun i hi)
  transfer := by
    intro g v b g' v' w h hw
    obtain ⟨a, t, hrun, hrest⟩ := runs_bind.mp h
    obtain ⟨u, hu, hagree⟩ := hm.transfer w hrun hw
    obtain ⟨w', hw', hagree'⟩ := (hf a (hP _ a _ hrun)).transfer u hrest hagree
    exact ⟨w', runs_bind.mpr ⟨a, _, hu, hw'⟩, hagree'⟩

theorem bind {m : StateT (γ × (ι → β)) (Except ε) α} {f : α → StateT (γ × (ι → β)) (Except ε) δ}
    (hm : Footprint R W m) (hf : ∀ a, Footprint R W (f a)) : Footprint R W (m >>= f) :=
  hm.bind_of (fun _ _ _ _ => trivial) fun a _ => hf a

theorem liftExcept (m : Except ε α) :
    Footprint R W (liftM m : StateT (γ × (ι → β)) (Except ε) α) where
  frame := by
    intro g v b g' v' h i _
    obtain ⟨-, h⟩ := runs_liftExcept.mp h
    rw [(Prod.mk.inj h).2]
  transfer := by
    intro g v b g' v' w h hw
    obtain ⟨hm, hs⟩ := runs_liftExcept.mp h
    obtain ⟨rfl, rfl⟩ := Prod.mk.inj hs
    exact ⟨w, runs_liftExcept.mpr ⟨hm, rfl⟩, hw⟩

/-- What follows a check runs with its result only. -/
theorem liftExcept_bind {m : Except ε α} {f : α → StateT (γ × (ι → β)) (Except ε) δ}
    (hf : ∀ a, m = .ok a → Footprint R W (f a)) :
    Footprint R W ((liftM m : StateT (γ × (ι → β)) (Except ε) α) >>= f) :=
  (liftExcept m).bind_of (fun _ _ _ h => (runs_liftExcept.mp h).1) hf

/-- A step that only works on the private part. -/
theorem modifyPrivate (f : γ → α × γ) :
    Footprint R W
      (modifyGet fun s => ((f s.1).1, (f s.1).2, s.2) : StateT (γ × (ι → β)) (Except ε) α) where
  frame := by
    intro g v b g' v' h i _
    have heq := (Prod.mk.inj (Prod.mk.inj (runs_modifyGet.mp h)).2).2
    rw [← heq]
  transfer := by
    intro g v b g' v' w h hw
    obtain ⟨rfl, hs⟩ := Prod.mk.inj (runs_modifyGet.mp h)
    obtain ⟨rfl, rfl⟩ := Prod.mk.inj hs
    exact ⟨w, runs_modifyGet.mpr rfl, hw⟩

/-- Reading a cell. -/
theorem read {i : ι} (hi : i ∈ R) :
    Footprint R W (modifyGet fun s => (s.2 i, s) : StateT (γ × (ι → β)) (Except ε) β) where
  frame := by
    intro g v b g' v' h j _
    have heq := (Prod.mk.inj (Prod.mk.inj (runs_modifyGet.mp h)).2).2
    rw [← heq]
  transfer := by
    intro g v b g' v' w h hw
    obtain ⟨rfl, hs⟩ := Prod.mk.inj (runs_modifyGet.mp h)
    obtain ⟨rfl, rfl⟩ := Prod.mk.inj hs
    exact ⟨w, runs_modifyGet.mpr (Prod.ext (hw i hi) rfl), hw⟩

/-- Writing a cell. -/
theorem write [DecidableEq ι] {i : ι} (hi : i ∈ W) (b : β) :
    Footprint R W (modify fun s => (s.1, Function.update s.2 i b) :
      StateT (γ × (ι → β)) (Except ε) PUnit) where
  frame := by
    intro g v a g' v' h j hj
    have hne : j ≠ i := fun hji => hj (hji ▸ hi)
    rw [(Prod.mk.inj (runs_modify.mp h)).2]
    exact Function.update_of_ne hne ..
  transfer := by
    intro g v a g' v' w h hw
    obtain ⟨rfl, rfl⟩ := Prod.mk.inj (runs_modify.mp h)
    refine ⟨Function.update w i b, runs_modify.mpr rfl, fun j hj => ?_⟩
    by_cases hji : j = i
    · rw [hji, Function.update_self, Function.update_self]
    · rw [Function.update_of_ne hji, Function.update_of_ne hji]
      exact hw j hj

theorem forM {l : List δ} {f : δ → StateT (γ × (ι → β)) (Except ε) PUnit}
    (hf : ∀ b ∈ l, Footprint R W (f b)) : Footprint R W (ForM.forM l f) := by
  induction l with
  | nil => exact Footprint.pure ..
  | cons b l ih =>
    exact Footprint.bind (hf b (List.mem_cons_self ..)) fun _ =>
      ih fun b' hb' => hf b' (List.mem_cons_of_mem _ hb')

/-- A footprint may be taken larger in what is read: the new cells are written or framed. -/
theorem mono_read {R' : Set ι} {m : StateT (γ × (ι → β)) (Except ε) α} (hm : Footprint R W m)
    (hWR : W ⊆ R) (h : R ⊆ R') : Footprint R' W m where
  frame := hm.frame
  transfer := by
    intro g v a g' v' w hrun hw
    obtain ⟨w', hrun', hagree⟩ := hm.transfer w hrun fun i hi => hw i (h hi)
    refine ⟨w', hrun', fun i hi => ?_⟩
    by_cases hiW : i ∈ W
    · exact hagree i (hWR hiW)
    · rw [hm.frame hrun i hiW, hm.frame hrun' i hiW]
      exact hw i hi

/-! ## Commutation -/

/-- A computation that writes nothing leaves the cells as they are. -/
theorem eq_of_reads {m : StateT (γ × (ι → β)) (Except ε) α} (hm : Footprint R ∅ m)
    {g g' : γ} {v v' : ι → β} {a : α} (h : Runs m (g, v) a (g', v')) : v' = v :=
  funext fun i => hm.frame h i (Set.notMem_empty i)

/-- **Independent computations commute**: when neither writes what the other reads, both
orders end in the same cells with the same results. -/
theorem commute {R' W' : Set ι} {m : StateT (γ × (ι → β)) (Except ε) α}
    {n : StateT (γ × (ι → β)) (Except ε) δ} (hm : Footprint R W m) (hn : Footprint R' W' n)
    (hWR : W ⊆ R) (hWR' : W' ⊆ R') (h : Disjoint W R') (h' : Disjoint W' R)
    {g g₁ k k₁ : γ} {v v₁ v₂ : ι → β} {a : α} {b : δ} (hfirst : Runs m (g, v) a (g₁, v₁))
    (hsecond : Runs n (k, v₁) b (k₁, v₂)) :
    ∃ w, Runs n (k, v) b (k₁, w) ∧ Runs m (g, w) a (g₁, v₂) := by
  have hdisj : ∀ {i}, i ∈ R' → i ∉ W := fun hR hW => Set.disjoint_left.mp h hW hR
  have hdisj' : ∀ {i}, i ∈ R → i ∉ W' := fun hR hW => Set.disjoint_left.mp h' hW hR
  obtain ⟨w, hw, hagree⟩ := hn.transfer v hsecond fun i hi =>
    (hm.frame hfirst i (hdisj hi)).symm
  obtain ⟨u, hu, hagree'⟩ := hm.transfer w hfirst fun i hi => hn.frame hw i (hdisj' hi)
  have heq : u = v₂ := by
    funext i
    by_cases hiW : i ∈ W
    · rw [hagree' i (hWR hiW), hn.frame hsecond i (hdisj' (hWR hiW))]
    · rw [hm.frame hu i hiW]
      by_cases hiW' : i ∈ W'
      · exact hagree i (hWR' hiW')
      · rw [hn.frame hw i hiW', hn.frame hsecond i hiW', hm.frame hfirst i hiW]
  rw [heq] at hu
  exact ⟨w, hw, hu⟩

end Footprint

end Raise
