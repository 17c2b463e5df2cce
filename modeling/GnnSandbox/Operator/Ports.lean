import Mathlib.Data.Int.Notation
import Mathlib.Data.Set.Lattice
import Mathlib.Order.CompletePartialOrder
import Mathlib.Tactic.Common

/-!
# The ports of the traffic tests

`PortAllocator` keeps one flag for each port. Ports are handed out in blocks that follow each
other, and the busy ports are those handed out and not freed.
-/

namespace GnnSandbox.Operator

/-- `_allocated_ports`: whether the port with this index is busy. -/
structure PortAllocator where
  allocatedPorts : ℤ → Bool

namespace PortAllocator

def portOffset : ℤ := 5200

def maxPorts : ℕ := 10000

/-- No port is busy. -/
def empty : PortAllocator := ⟨fun _ => false⟩

def getIdx (port : ℤ) : ℤ := port - portOffset

def isValidIdx (idx : ℤ) : Bool := 0 ≤ idx ∧ idx < maxPorts

def isBusy (a : PortAllocator) (idx : ℤ) : Bool := a.allocatedPorts idx

def setBusy (a : PortAllocator) (idx : ℤ) (busy : Bool) : PortAllocator :=
  ⟨fun i => if i = idx then busy else a.allocatedPorts i⟩

def isRangeFree (a : PortAllocator) (startIdx : ℤ) (count : ℕ) : Bool :=
  if ¬isValidIdx startIdx ∨ ¬isValidIdx (startIdx + count - 1) then false
  else !(List.range count).any fun i => a.isBusy (startIdx + i)

/-- The loop of `_find_free_range` over the next `n` indices. -/
def findFreeFrom (a : PortAllocator) (count i : ℕ) : ℕ → Option ℕ
  | 0 => none
  | n + 1 => if a.isRangeFree i count then some i else a.findFreeFrom count (i + 1) n

def findFreeRange (a : PortAllocator) (count : ℕ) : Option ℕ :=
  a.findFreeFrom count 0 (maxPorts + 1 - count)

def reserveRange (a : PortAllocator) (startIdx : ℤ) : ℕ → List ℤ × PortAllocator
  | 0 => ([], a)
  | count + 1 =>
    let (ports, a') := (a.setBusy startIdx true).reserveRange (startIdx + 1) count
    ((portOffset + startIdx) :: ports, a')

/-- `None` when the block is not free. A base port of zero counts as none. -/
def alloc (a : PortAllocator) (numberOfPorts : ℕ) (basePort : Option ℤ) :
    Option (List ℤ) × PortAllocator :=
  if numberOfPorts = 0 then (some [], a)
  else if maxPorts < numberOfPorts then (none, a)
  else
    let startIdx : Option ℤ := match basePort.filter (· ≠ 0) with
      | some base => if a.isRangeFree (getIdx base) numberOfPorts then some (getIdx base) else none
      | none => (a.findFreeRange numberOfPorts).map Int.ofNat
    match startIdx with
    | none => (none, a)
    | some startIdx =>
      let (ports, a') := a.reserveRange startIdx numberOfPorts
      (some ports, a')

def markBusy (a : PortAllocator) (ports : List ℤ) : PortAllocator :=
  ports.foldl (fun a port =>
    if isValidIdx (getIdx port) then a.setBusy (getIdx port) true else a) a

/-- A port that is free already stays free. -/
def free (a : PortAllocator) (ports : List ℤ) : PortAllocator :=
  ports.foldl (fun a port =>
    if isValidIdx (getIdx port) ∧ a.isBusy (getIdx port) then a.setBusy (getIdx port) false else a) a

def isFree (a : PortAllocator) (port : ℤ) : Bool :=
  isValidIdx (getIdx port) && !a.isBusy (getIdx port)

/-! ## The busy ports -/

/-- The ports that are busy. -/
def busyPorts (a : PortAllocator) : Set ℤ := {port | a.isBusy (getIdx port) = true}

/-- The ports that have a flag. -/
def Valid (ports : List ℤ) : Prop := ∀ port ∈ ports, isValidIdx (getIdx port) = true

variable {a a' : PortAllocator} {port : ℤ} {ports : List ℤ} {idx startIdx : ℤ} {count n : ℕ}
  {busy : Bool}

theorem mem_busyPorts : port ∈ a.busyPorts ↔ a.isBusy (getIdx port) = true := Iff.rfl

@[simp] theorem busyPorts_empty : empty.busyPorts = ∅ := by
  ext port
  simp [mem_busyPorts, isBusy, empty]

theorem getIdx_inj {port port' : ℤ} : getIdx port = getIdx port' ↔ port = port' := by
  unfold getIdx
  omega

theorem getIdx_add (idx : ℤ) : getIdx (portOffset + idx) = idx := by
  unfold getIdx
  omega

theorem isBusy_setBusy {i : ℤ} :
    (a.setBusy idx busy).isBusy i = if i = idx then busy else a.isBusy i := rfl

theorem busyPorts_setBusy_true :
    (a.setBusy (getIdx port) true).busyPorts = insert port a.busyPorts := by
  ext p
  rw [mem_busyPorts, isBusy_setBusy, Set.mem_insert_iff, mem_busyPorts]
  by_cases h : p = port
  · simp [h]
  · rw [if_neg (fun heq => h (getIdx_inj.mp heq))]
    simp [h]

theorem busyPorts_setBusy_false :
    (a.setBusy (getIdx port) false).busyPorts = a.busyPorts \ {port} := by
  ext p
  rw [mem_busyPorts, isBusy_setBusy, Set.mem_sdiff, mem_busyPorts, Set.mem_singleton_iff]
  by_cases h : p = port
  · simp [h]
  · rw [if_neg (fun heq => h (getIdx_inj.mp heq))]
    simp [h]

/-- The valid ports become busy, and no others. -/
theorem busyPorts_markBusy (hvalid : Valid ports) :
    (a.markBusy ports).busyPorts = a.busyPorts ∪ {port | port ∈ ports} := by
  unfold markBusy
  induction ports generalizing a with
  | nil => simp
  | cons port ports ih =>
    have hport := hvalid port List.mem_cons_self
    have hports : Valid ports := fun p hp => hvalid p (List.mem_cons_of_mem _ hp)
    rw [List.foldl_cons, if_pos hport, ih hports, busyPorts_setBusy_true]
    ext p
    simp only [Set.mem_union, Set.mem_insert_iff, Set.mem_ofPred_eq, List.mem_cons]
    tauto

/-- The valid ports become free, and no others. -/
theorem busyPorts_free (hvalid : Valid ports) :
    (a.free ports).busyPorts = a.busyPorts \ {port | port ∈ ports} := by
  unfold free
  induction ports generalizing a with
  | nil => simp
  | cons port ports ih =>
    have hport := hvalid port List.mem_cons_self
    have hports : Valid ports := fun p hp => hvalid p (List.mem_cons_of_mem _ hp)
    have hhead : (if isValidIdx (getIdx port) ∧ a.isBusy (getIdx port) then
        a.setBusy (getIdx port) false else a).busyPorts = a.busyPorts \ {port} := by
      by_cases hbusy : a.isBusy (getIdx port) = true
      · rw [if_pos ⟨hport, hbusy⟩, busyPorts_setBusy_false]
      · rw [if_neg fun h => hbusy h.2, Set.sdiff_singleton_eq_self (s := a.busyPorts) hbusy]
    rw [List.foldl_cons, ih hports, hhead]
    ext p
    simp only [Set.mem_sdiff, Set.mem_singleton_iff, Set.mem_ofPred_eq, List.mem_cons]
    tauto

/-! ## Allocation -/

theorem isRangeFree_iff : a.isRangeFree startIdx count = true ↔
    isValidIdx startIdx = true ∧ isValidIdx (startIdx + count - 1) = true ∧
      ∀ i < count, a.isBusy (startIdx + i) = false := by
  unfold isRangeFree
  split_ifs with h
  · simp only [false_iff]
    tauto
  · simp only [not_or, not_not] at h
    simp [h.1, h.2]

theorem mem_reserveRange :
    port ∈ (a.reserveRange startIdx count).1 ↔ startIdx ≤ getIdx port ∧ getIdx port < startIdx + count := by
  induction count generalizing a startIdx with
  | zero =>
    simp only [reserveRange, List.not_mem_nil, false_iff]
    omega
  | succ count ih =>
    simp only [reserveRange, List.mem_cons, ih]
    unfold getIdx
    push_cast
    omega

theorem length_reserveRange : (a.reserveRange startIdx count).1.length = count := by
  induction count generalizing a startIdx with
  | zero => rfl
  | succ count ih => exact congrArg (· + 1) ih

/-- The reserved ports become busy. -/
theorem busyPorts_reserveRange : (a.reserveRange startIdx count).2.busyPorts =
    a.busyPorts ∪ {port | port ∈ (a.reserveRange startIdx count).1} := by
  induction count generalizing a startIdx with
  | zero => simp [reserveRange]
  | succ count ih =>
    simp only [reserveRange, ih]
    have hset : (a.setBusy (getIdx (portOffset + startIdx)) true).busyPorts =
        insert (portOffset + startIdx) a.busyPorts := busyPorts_setBusy_true
    rw [getIdx_add] at hset
    rw [hset]
    ext p
    simp only [Set.mem_union, Set.mem_insert_iff, Set.mem_ofPred_eq, List.mem_cons]
    tauto

theorem isRangeFree_of_findFreeFrom {i j n : ℕ} (h : a.findFreeFrom count i n = some j) :
    a.isRangeFree j count = true := by
  induction n generalizing i with
  | zero => cases h
  | succ n ih =>
    unfold findFreeFrom at h
    split_ifs at h with hfree
    · obtain rfl := Option.some.inj h
      exact hfree
    · exact ih h

/-- A failed allocation changes nothing. -/
theorem alloc_none {base : Option ℤ} (h : a.alloc n base = (none, a')) : a' = a := by
  unfold alloc at h
  split_ifs at h with hzero hmax
  · cases h
  · exact (congrArg Prod.snd h).symm
  · dsimp only at h
    split at h
    · exact (congrArg Prod.snd h).symm
    · cases h

/-- The start of an allocated block, if it is not empty. -/
theorem alloc_some {base : Option ℤ} (h : a.alloc n base = (some ports, a')) :
    (n = 0 ∧ ports = [] ∧ a' = a) ∨
      ∃ startIdx, a.isRangeFree startIdx n = true ∧ a.reserveRange startIdx n = (ports, a') := by
  unfold alloc at h
  split_ifs at h with hzero hmax
  · cases h
    exact .inl ⟨hzero, rfl, rfl⟩
  · cases h
  · refine .inr ?_
    dsimp only at h
    split at h
    · cases h
    · rename_i startIdx hstart
      refine ⟨startIdx, ?_, by cases h; rfl⟩
      split at hstart
      · split_ifs at hstart with hfree
        obtain rfl := Option.some.inj hstart
        exact hfree
      · obtain ⟨i, hi, rfl⟩ := Option.map_eq_some_iff.mp hstart
        exact isRangeFree_of_findFreeFrom hi

/-- What an allocation hands out was free and has a flag. -/
structure Grants (a : PortAllocator) (n : ℕ) (ports : List ℤ) (a' : PortAllocator) : Prop where
  length : ports.length = n
  valid : Valid ports
  free : Disjoint {port | port ∈ ports} a.busyPorts
  busy : a'.busyPorts = a.busyPorts ∪ {port | port ∈ ports}

theorem grants_of_alloc {base : Option ℤ} (h : a.alloc n base = (some ports, a')) :
    a.Grants n ports a' := by
  rcases alloc_some h with ⟨rfl, rfl, rfl⟩ | ⟨startIdx, hfree, hreserve⟩
  · exact ⟨rfl, fun _ hp => absurd hp List.not_mem_nil, by simp, by simp⟩
  · obtain ⟨hlow, hhigh, hfree⟩ := isRangeFree_iff.mp hfree
    have hports : ports = (a.reserveRange startIdx n).1 := (congrArg Prod.fst hreserve).symm
    have ha' : a' = (a.reserveRange startIdx n).2 := (congrArg Prod.snd hreserve).symm
    have hmem : ∀ port ∈ ports, startIdx ≤ getIdx port ∧ getIdx port < startIdx + n := fun p hp =>
      mem_reserveRange.mp (hports ▸ hp)
    refine ⟨by rw [hports, length_reserveRange], fun p hp => ?_, ?_,
      by rw [ha', hports, busyPorts_reserveRange]⟩
    · have hp := hmem p hp
      unfold isValidIdx at *
      simp only [decide_eq_true_eq] at *
      omega
    · refine Set.disjoint_left.mpr fun p hp hbusy => ?_
      obtain ⟨hge, hlt⟩ := hmem p hp
      have hi := hfree (getIdx p - startIdx).toNat (by omega)
      rw [Int.toNat_of_nonneg (by omega), show startIdx + (getIdx p - startIdx) = getIdx p by omega] at hi
      rw [mem_busyPorts, hi] at hbusy
      cases hbusy

example : (empty.alloc 2 none).1 = some [5200, 5201] := by decide

end PortAllocator

end GnnSandbox.Operator
