import GnnSandbox.Lib.Transition
import GnnSandbox.Operator.Ports

/-!
# Exact allocation of ports

An allocation hands out the lowest free run of ports, or the one that begins at the base port. A
base port of zero counts as none, so such a request gets another run than it asks for.

1. `alloc_eq`: what an allocation does, by the free runs.
2. `sound_step`: the blocks that are handed out stay apart.
3. `exact_iff`: which histories are exact.
-/

namespace GnnSandbox.Operator.PortAllocator

open Transition

/-! ## Runs of ports -/

/-- The ports from one on. -/
def portRun (base : ℤ) (n : ℕ) : List ℤ := (List.range n).map fun i : ℕ => base + i

/-- The ports of a run lie in the range and are free. -/
def FreeRun (a : PortAllocator) (base : ℤ) (n : ℕ) : Prop :=
  portOffset ≤ base ∧ base + n ≤ portOffset + maxPorts ∧
    ∀ port ∈ portRun base n, port ∉ a.busyPorts

section

variable {a a' : PortAllocator} {base port : ℤ} {n : ℕ} {ports : List ℤ}

theorem mem_portRun : port ∈ portRun base n ↔ base ≤ port ∧ port < base + n := by
  unfold portRun
  rw [List.mem_map]
  constructor
  · rintro ⟨i, hi, rfl⟩
    have hi := List.mem_range.mp hi
    omega
  · rintro ⟨hge, hlt⟩
    exact ⟨(port - base).toNat, List.mem_range.mpr (by omega), by omega⟩

theorem reserveRange_fst (a : PortAllocator) (startIdx : ℤ) (n : ℕ) :
    (a.reserveRange startIdx n).1 = portRun (portOffset + startIdx) n := by
  unfold portRun
  induction n generalizing a startIdx with
  | zero => rfl
  | succ n ih =>
    simp only [reserveRange, ih, List.range_succ_eq_map, List.map_cons, List.map_map]
    refine congrArg₂ List.cons (by simp) (List.map_congr_left fun i _ => ?_)
    simp only [Function.comp_apply]
    push_cast
    omega

/-- The check of a block finds the free runs. -/
theorem isRangeFree_getIdx_iff (hn : 0 < n) :
    a.isRangeFree (getIdx base) n = true ↔ a.FreeRun base n := by
  rw [isRangeFree_iff]
  unfold FreeRun isValidIdx
  simp only [decide_eq_true_eq, mem_portRun, mem_busyPorts, Bool.not_eq_true]
  unfold getIdx portOffset maxPorts
  constructor
  · rintro ⟨hlow, hhigh, hfree⟩
    refine ⟨by omega, by omega, fun port hport => ?_⟩
    have hi := hfree (port - base).toNat (by omega)
    rwa [show base - 5200 + ((port - base).toNat : ℤ) = port - 5200 by omega] at hi
  · rintro ⟨hlow, hhigh, hfree⟩
    refine ⟨by omega, by omega, fun i hi => ?_⟩
    have hport := hfree (base + i) (by omega)
    rwa [show base + (i : ℤ) - 5200 = base - 5200 + i by omega] at hport

theorem find?_range'_succ (i k : ℕ) (p : ℕ → Bool) : (List.range' i (k + 1)).find? p =
    if p i then some i else (List.range' (i + 1) k).find? p := by
  rw [List.range'_succ, List.find?_cons]
  cases p i <;> rfl

theorem findFreeFrom_zero (count i : ℕ) : a.findFreeFrom count i 0 = none := by
  rw [findFreeFrom]

theorem findFreeFrom_succ (count i k : ℕ) : a.findFreeFrom count i (k + 1) =
    if a.isRangeFree i count then some i else a.findFreeFrom count (i + 1) k := by
  rw [findFreeFrom]

theorem findFreeFrom_eq (count i k : ℕ) : a.findFreeFrom count i k =
    (List.range' i k).find? fun j : ℕ => a.isRangeFree j count := by
  induction k generalizing i with
  | zero => rw [findFreeFrom_zero, List.range'_zero, List.find?_nil]
  | succ k ih => rw [findFreeFrom_succ, find?_range'_succ, ih]

/-- The search finds the lowest free run. -/
theorem findFreeRange_eq_some {start : ℕ} (hn : 0 < n) (h : a.findFreeRange n = some start) :
    a.FreeRun (portOffset + start) n ∧
      ∀ base, a.FreeRun base n → portOffset + (start : ℤ) ≤ base := by
  rw [findFreeRange, findFreeFrom_eq, List.find?_range'_eq_some] at h
  obtain ⟨hfree, hmem, hleast⟩ := h
  constructor
  · rw [← isRangeFree_getIdx_iff hn, getIdx_add]
    exact hfree
  · intro base hbase
    by_contra hlt
    have hlow := hbase.1
    have hnot := hleast (getIdx base).toNat (Nat.zero_le _) (by unfold getIdx; omega)
    rw [← isRangeFree_getIdx_iff hn] at hbase
    rw [Int.toNat_of_nonneg (by unfold getIdx; omega), hbase] at hnot
    cases hnot

/-- The search fails only when no run is free. -/
theorem findFreeRange_eq_none (hn : 0 < n) (h : a.findFreeRange n = none) (base : ℤ) :
    ¬a.FreeRun base n := by
  rw [findFreeRange, findFreeFrom_eq, List.find?_range'_eq_none] at h
  intro hbase
  have hlow := hbase.1
  have hhigh := hbase.2.1
  have hnot := h (getIdx base).toNat (Nat.zero_le _) (by
    unfold getIdx portOffset maxPorts
    unfold portOffset at hlow hhigh
    unfold maxPorts at hhigh
    omega)
  rw [← isRangeFree_getIdx_iff hn] at hbase
  rw [Int.toNat_of_nonneg (by unfold getIdx; omega), hbase] at hnot
  cases hnot

/-! ## What an allocation does -/

/-- The result of an allocation, by the free runs: the run from the base port, or the lowest one. -/
inductive Result (a : PortAllocator) (n : ℕ) : Option ℤ → Option (List ℤ) → Prop
  | at {base : ℤ} (free : a.FreeRun base n) : Result a n (some base) (some (portRun base n))
  | taken {base : ℤ} (busy : ¬a.FreeRun base n) : Result a n (some base) none
  | lowest {base : ℤ} (free : a.FreeRun base n) (least : ∀ base', a.FreeRun base' n → base ≤ base') :
      Result a n none (some (portRun base n))
  | full (busy : ∀ base, ¬a.FreeRun base n) : Result a n none none

theorem freeRun_le (h : a.FreeRun base n) : n ≤ maxPorts := by
  obtain ⟨hlow, hhigh, -⟩ := h
  omega

/-- **What an allocation does**: it hands out the run from its base port, or the lowest one when it
names none or zero. -/
theorem result_alloc (hn : 0 < n) (basePort : Option ℤ) :
    a.Result n (basePort.filter (· ≠ 0)) (a.alloc n basePort).1 := by
  unfold alloc
  rw [if_neg hn.ne']
  split
  · rename_i hmax
    cases basePort.filter (· ≠ 0) with
    | none => exact .full fun base h => absurd (freeRun_le h) (not_le.mpr hmax)
    | some base => exact .taken fun h => absurd (freeRun_le h) (not_le.mpr hmax)
  · cases basePort.filter (· ≠ 0) with
    | none =>
      dsimp only
      cases hfind : a.findFreeRange n with
      | none => exact .full (findFreeRange_eq_none hn hfind)
      | some start =>
        obtain ⟨hfree, hleast⟩ := findFreeRange_eq_some hn hfind
        change a.Result n none (some (a.reserveRange start n).1)
        rw [reserveRange_fst]
        exact .lowest hfree hleast
    | some base =>
      dsimp only
      by_cases hfree : a.isRangeFree (getIdx base) n = true
      · rw [if_pos hfree]
        have hbase : portOffset + getIdx base = base := by
          unfold getIdx
          omega
        change a.Result n (some base) (some (a.reserveRange (getIdx base) n).1)
        rw [reserveRange_fst, hbase]
        exact .at ((isRangeFree_getIdx_iff hn).mp hfree)
      · rw [if_neg hfree]
        exact .taken fun h => hfree ((isRangeFree_getIdx_iff hn).mpr h)

/-- A call without a result, or with an empty one, changes nothing. -/
theorem alloc_snd_of_empty {basePort : Option ℤ}
    (h : (a.alloc n basePort).1 = none ∨ (a.alloc n basePort).1 = some []) :
    (a.alloc n basePort).2 = a := by
  rcases h with h | h
  · exact alloc_none (Prod.ext h rfl)
  · rcases alloc_some (Prod.ext h rfl : a.alloc n basePort = (some [], (a.alloc n basePort).2)) with
      ⟨-, -, hsame⟩ | ⟨startIdx, -, hreserve⟩
    · exact hsame
    · have hlength := @length_reserveRange a startIdx n
      rw [hreserve] at hlength
      obtain rfl : n = 0 := hlength.symm
      exact (congrArg Prod.snd hreserve).symm

end

/-! ## Histories -/

/-- The allocator and the blocks that were handed out and of which no port was freed since. -/
structure History where
  allocator : PortAllocator := empty
  blocks : List (List ℤ) := []

inductive Call where
  | alloc (numberOfPorts : ℤ) (basePort : Option ℤ)
  | markBusy (ports : List ℤ)
  | free (ports : List ℤ)

/-- The result of an allocation; a number that is not positive counts as zero. -/
def History.alloc (s : History) (numberOfPorts : ℤ) (basePort : Option ℤ) :
    Option (List ℤ) × PortAllocator :=
  s.allocator.alloc numberOfPorts.toNat basePort

/-- Only ports that are allocated are freed. -/
def step (s : History) : Call → Option History
  | .alloc numberOfPorts basePort =>
    some ⟨(s.alloc numberOfPorts basePort).2,
      s.blocks ++ (s.alloc numberOfPorts basePort).1.toList⟩
  | .markBusy ports => some { s with allocator := s.allocator.markBusy ports }
  | .free ports =>
    if ∀ port ∈ ports, s.allocator.isBusy (getIdx port) then
      some ⟨s.allocator.free ports, s.blocks.filter fun block => ∀ port ∈ block, port ∉ ports⟩
    else none

/-- A block is a run of ports in the range. -/
def IsRun (block : List ℤ) : Prop := ∃ base n, block = portRun base n ∧
  portOffset ≤ base ∧ base + n ≤ portOffset + maxPorts

/-- The blocks are runs in the range that have no port in common. All their ports are busy, and no
others than those of the range are. -/
structure Sound (s : History) : Prop where
  run : ∀ block ∈ s.blocks, IsRun block
  disjoint : s.blocks.Pairwise List.Disjoint
  busy : ∀ block ∈ s.blocks, ∀ port ∈ block, port ∈ s.allocator.busyPorts
  valid : ∀ port ∈ s.allocator.busyPorts, isValidIdx (getIdx port) = true

/-- An allocation of a positive number of ports gives the run that was asked for; one without a
result changes nothing. -/
def Exact (s : History) : Call → Prop
  | .alloc numberOfPorts basePort =>
    (if 0 < numberOfPorts then
        s.allocator.Result numberOfPorts.toNat basePort (s.alloc numberOfPorts basePort).1
      else (s.alloc numberOfPorts basePort).1 = some []) ∧
    ((s.alloc numberOfPorts basePort).1 = none ∨ (s.alloc numberOfPorts basePort).1 = some [] →
      (s.alloc numberOfPorts basePort).2 = s.allocator)
  | _ => True

/-- Base port zero is not asked for while a run of that length is free. -/
def NoZeroBase (s : History) : Call → Prop
  | .alloc numberOfPorts (some 0) =>
    0 < numberOfPorts → ∀ base, ¬s.allocator.FreeRun base numberOfPorts.toNat
  | _ => True

section

variable {s s' : History} {c : Call} {cs : List Call}

theorem exact_alloc_iff (numberOfPorts : ℤ) (basePort : Option ℤ) :
    Exact s (.alloc numberOfPorts basePort) ↔ (0 < numberOfPorts →
      s.allocator.Result numberOfPorts.toNat basePort (s.alloc numberOfPorts basePort).1) := by
  have hunchanged := @alloc_snd_of_empty s.allocator numberOfPorts.toNat basePort
  refine (and_iff_left hunchanged).trans ?_
  by_cases hpos : 0 < numberOfPorts
  · rw [if_pos hpos]
    exact ⟨fun h _ => h, fun h => h hpos⟩
  · rw [if_neg hpos]
    refine iff_of_true ?_ fun h => absurd h hpos
    unfold History.alloc alloc
    rw [if_pos (by omega)]

/-- A base port of zero is no base port. -/
theorem result_zero_iff {a : PortAllocator} {n : ℕ} {result : Option (List ℤ)}
    (h : a.Result n none result) :
    a.Result n (some 0) result ↔ ∀ base, ¬a.FreeRun base n := by
  have hzero : ¬a.FreeRun 0 n := fun h => absurd h.1 (by decide)
  cases h with
  | lowest free least =>
    refine iff_of_false (fun h => ?_) fun h => h _ free
    generalize hports : some (portRun _ n) = result at h
    cases h with
    | «at» free => exact hzero free
    | taken busy => cases hports
  | full busy => exact iff_of_true (.taken hzero) busy

/-- An allocation is exact unless its base port is zero and a run is free. -/
theorem exact_iff_noZeroBase (s : History) (c : Call) : Exact s c ↔ NoZeroBase s c := by
  cases c with
  | alloc numberOfPorts basePort =>
    rw [exact_alloc_iff]
    have hresult (hpos : 0 < numberOfPorts) := result_alloc (a := s.allocator)
      (n := numberOfPorts.toNat) (by omega) basePort
    by_cases hzero : basePort = some 0
    · subst hzero
      refine forall_congr' fun hpos => ?_
      exact result_zero_iff (hresult hpos)
    · have hbase : basePort.filter (· ≠ 0) = basePort := by
        cases basePort with
        | none => rfl
        | some base => exact Option.filter_some_pos (by simpa using hzero)
      rw [hbase] at hresult
      refine iff_of_true hresult ?_
      unfold NoZeroBase
      split
      · rename_i heq
        cases heq
        exact absurd rfl hzero
      · trivial
  | markBusy ports => exact Iff.rfl
  | free ports => exact Iff.rfl

/-! ### The blocks -/

theorem isRun_of_alloc {a a' : PortAllocator} {n : ℕ} {basePort : Option ℤ} {ports : List ℤ}
    (h : a.alloc n basePort = (some ports, a')) : IsRun ports := by
  rcases alloc_some h with ⟨rfl, rfl, -⟩ | ⟨startIdx, hfree, hreserve⟩
  · exact ⟨portOffset, 0, rfl, le_rfl, by decide⟩
  · refine ⟨portOffset + startIdx, n, ?_, ?_⟩
    · rw [← reserveRange_fst a, hreserve]
    · obtain ⟨hlow, hhigh, -⟩ := isRangeFree_iff.mp hfree
      unfold isValidIdx at hlow hhigh
      simp only [decide_eq_true_eq] at hlow hhigh
      omega

theorem sound_alloc (h : Sound s) (numberOfPorts : ℤ) (basePort : Option ℤ)
    (hstep : step s (.alloc numberOfPorts basePort) = some s') : Sound s' := by
  change some (⟨(s.alloc numberOfPorts basePort).2,
    s.blocks ++ (s.alloc numberOfPorts basePort).1.toList⟩ : History) = some s' at hstep
  rcases hresult : s.alloc numberOfPorts basePort with ⟨result, allocator⟩
  rw [hresult] at hstep
  obtain rfl := Option.some.inj hstep
  cases result with
  | none =>
    obtain rfl : allocator = s.allocator := alloc_none hresult
    simpa using h
  | some ports =>
    have hgrants := grants_of_alloc hresult
    have hbusy : ∀ port, port ∈ allocator.busyPorts ↔ port ∈ s.allocator.busyPorts ∨ port ∈ ports := by
      intro port
      rw [hgrants.busy]
      rfl
    refine ⟨?_, ?_, ?_, ?_⟩
    · intro block hblock
      rcases List.mem_append.mp hblock with hblock | hblock
      · exact h.run block hblock
      · obtain rfl : block = ports := by simpa using hblock
        exact isRun_of_alloc hresult
    · refine List.pairwise_append.mpr ⟨h.disjoint, List.pairwise_singleton _ _, ?_⟩
      intro block hblock block' hblock' port hport hport'
      obtain rfl : block' = ports := by simpa using hblock'
      exact Set.disjoint_left.mp hgrants.free hport' (h.busy block hblock port hport)
    · intro block hblock port hport
      rw [hbusy]
      rcases List.mem_append.mp hblock with hblock | hblock
      · exact .inl (h.busy block hblock port hport)
      · obtain rfl : block = ports := by simpa using hblock
        exact .inr hport
    · intro port hport
      rcases (hbusy port).mp hport with hport | hport
      · exact h.valid port hport
      · exact hgrants.valid port hport

theorem busyPorts_markBusy_le {a : PortAllocator} (ports : List ℤ) :
    a.busyPorts ⊆ (a.markBusy ports).busyPorts ∧
      ∀ port ∈ (a.markBusy ports).busyPorts, port ∈ a.busyPorts ∨ isValidIdx (getIdx port) = true := by
  unfold markBusy
  induction ports generalizing a with
  | nil => exact ⟨subset_rfl, fun port hport => .inl hport⟩
  | cons p ports ih =>
    rw [List.foldl_cons]
    split
    · rename_i hvalid
      obtain ⟨hle, hmem⟩ := ih (a := a.setBusy (getIdx p) true)
      rw [busyPorts_setBusy_true] at hle hmem
      refine ⟨(Set.subset_insert p _).trans hle, fun port hport => ?_⟩
      rcases hmem port hport with (rfl | hbusy) | hport
      · exact .inr hvalid
      · exact .inl hbusy
      · exact .inr hport
    · exact ih

/-- The blocks stay sound. -/
theorem sound_step (h : Sound s) (hstep : step s c = some s') : Sound s' := by
  cases c with
  | alloc numberOfPorts basePort => exact sound_alloc h numberOfPorts basePort hstep
  | markBusy ports =>
    obtain rfl := Option.some.inj hstep
    obtain ⟨hle, hmem⟩ := busyPorts_markBusy_le (a := s.allocator) ports
    refine ⟨h.run, h.disjoint, fun block hblock port hport => hle (h.busy block hblock port hport),
      fun port hport => ?_⟩
    exact (hmem port hport).elim (h.valid port) id
  | free ports =>
    change (if _ then _ else _) = some s' at hstep
    split at hstep
    · rename_i hallocated
      obtain rfl := Option.some.inj hstep
      have hbusy := @busyPorts_free s.allocator ports
        fun port hport => h.valid port (hallocated port hport)
      have hkept {block : List ℤ} (hblock : block ∈ s.blocks.filter fun block =>
          ∀ port ∈ block, port ∉ ports) : block ∈ s.blocks ∧ ∀ port ∈ block, port ∉ ports := by
        simpa using hblock
      refine ⟨fun block hblock => h.run block (hkept hblock).1, h.disjoint.filter _,
        fun block hblock port hport => ?_, fun port hport => ?_⟩
      · rw [hbusy]
        exact ⟨h.busy block (hkept hblock).1 port hport, (hkept hblock).2 port hport⟩
      · rw [hbusy] at hport
        exact h.valid port hport.1
    · cases hstep

theorem sound_empty : Sound {} := by
  refine ⟨fun _ h => ?_, .nil, fun _ h => ?_, fun port hport => ?_⟩
  · cases h
  · cases h
  · rw [busyPorts_empty] at hport
    exact hport.elim

/-- **Which histories are exact.** In every history the blocks are runs in the range that have no
port in common, and all its allocations are exact exactly when none asks for base port zero while a
run of its length is free. -/
theorem exact_iff (hrun : run step {} cs = some s) :
    (Sound s ∧ Throughout step Exact {} cs) ↔ Throughout step NoZeroBase {} cs := by
  have hsound : Sound s := run_always (fun _ _ _ h hstep => sound_step h hstep) sound_empty hrun
  refine (and_iff_right hsound).trans ?_
  exact throughout_congr (I := fun _ => True) (fun s c _ => exact_iff_noZeroBase s c)
    (fun _ _ _ _ _ _ => trivial) trivial

end

/-- Blocks that are freed are handed out again. -/
theorem exact_reuse : ∃ s,
    run step {} [.alloc 2 none, .alloc 1 (some 5203), .free [5200, 5201], .alloc 3 none] = some s ∧
      s.blocks = [[5203], [5200, 5201, 5202]] ∧ Sound s := by
  have hrun : run step {} [.alloc 2 none, .alloc 1 (some 5203), .free [5200, 5201],
    .alloc 3 none] = some _ := rfl
  refine ⟨_, hrun, by decide +kernel, ((exact_iff hrun).mpr ?_).1⟩
  exact .of_step trivial rfl (.of_step trivial rfl (.of_step trivial rfl (.of_step trivial rfl trivial)))

/-- A request for base port zero gets the lowest free run. -/
theorem zero_base_gets_lowest : (empty.alloc 2 (some 0)).1 = some [5200, 5201] ∧
    ¬Exact {} (.alloc 2 (some 0)) := by
  have hresult : (empty.alloc 2 (some 0)).1 = some [5200, 5201] := by decide
  refine ⟨hresult, fun h => ?_⟩
  have hfree : empty.FreeRun 5200 2 := by
    refine ⟨by decide, by decide, fun port _ => ?_⟩
    rw [busyPorts_empty]
    exact id
  exact (exact_iff_noZeroBase _ _).mp h (by decide) 5200 hfree

end GnnSandbox.Operator.PortAllocator
