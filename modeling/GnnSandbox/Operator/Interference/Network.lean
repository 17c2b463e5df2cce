import GnnSandbox.Operator.Interference.Basic

/-!
# Two faults of the infrastructure

An MTU mismatch is wider than its target: it changes all networks of a name. Two of them are swapped
if the names differ, and overwrite each other if not.
-/

namespace GnnSandbox.Operator

open Cluster

/-! ## The target -/

section

variable {router interface name name' : String} {mtu mtu' : Option ℤ} {l : List Network}

/-- The target does not depend on MTUs. -/
theorem targetNetwork_withMtu : targetNetwork router interface (withMtu name mtu l) =
    (targetNetwork router interface l).map fun net =>
      if net.name = name then { net with mtu } else net := by
  unfold targetNetwork withMtu
  rw [List.find?_map]
  refine congrArg (Option.map _) (congrArg (List.find? · l) (funext fun net => ?_))
  show decide _ = decide _
  by_cases h : net.name = name
  · simp [h, Network.connects]
  · simp [h]

theorem targetNetwork_withMtu_name {net : Network}
    (h : targetNetwork router interface (withMtu name mtu l) = some net) :
    ∃ net', targetNetwork router interface l = some net' ∧ net'.name = net.name ∧
      (net'.name ≠ name → net' = net) := by
  rw [targetNetwork_withMtu] at h
  obtain ⟨net', hnet', rfl⟩ := Option.map_eq_some_iff.mp h
  by_cases hname : net'.name = name
  · exact ⟨net', hnet', by rw [if_pos hname], fun hne => absurd hname hne⟩
  · rw [if_neg hname]
    exact ⟨net', hnet', rfl, fun _ => rfl⟩

theorem targetNetwork_withMtu_of_ne {net : Network} (h : targetNetwork router interface l = some net)
    (hne : net.name ≠ name) : targetNetwork router interface (withMtu name mtu l) = some net := by
  rw [targetNetwork_withMtu, h, Option.map_some, if_neg hne]

theorem withMtu_comm (hne : name ≠ name') :
    withMtu name' mtu' (withMtu name mtu l) = withMtu name mtu (withMtu name' mtu' l) := by
  unfold withMtu
  rw [List.map_map, List.map_map]
  refine List.map_congr_left fun net _ => ?_
  by_cases h : net.name = name
  · simp [h, hne]
  · by_cases h' : net.name = name'
    · simp [h', Ne.symm hne]
    · simp [h, h']

end

section

variable {nf A B : NetworkFailure} {c c' cA cAB : Cluster} {savedA savedB saved : OriginalState}
  {l : List Network} {netA netB : Network}

theorem injectMtu_ok_iff (h : nf.failureType = .mtuMismatch) :
    injectFailureOperator nf c = .ok (saved, c') ↔
      ∃ name l net, c.infraName = some name ∧ networks.get? c = some l ∧
        targetNetwork nf.target.router (nf.target.interface.getD "") l = some net ∧
        saved = { mtu := some (net.mtu.getD 1500), networkName := some net.name,
                  infraName := some name } ∧
        c' = networks.set (withMtu net.name (some (nf.parameters.mtu.getD 1400)) l) c := by
  rw [← injectMtuMismatch_ok_iff]
  unfold injectFailureOperator
  rw [h]

theorem restoreMtu_eq (h : nf.failureType = .mtuMismatch) :
    restoreFailureOperator nf saved c = restoreMtuMismatch saved c := by
  unfold restoreFailureOperator
  rw [h]

theorem restorableMtu_iff (h : nf.failureType = .mtuMismatch) (hl : networks.get? c = some l)
    (hnet : targetNetwork nf.target.router (nf.target.interface.getD "") l = some netA) :
    Restorable nf c ↔
      netA.mtu ≠ some 1500 ∧ ∀ other ∈ l, other.name = netA.name → other.mtu = netA.mtu := by
  unfold Restorable
  rw [h]
  show MtuRestorable _ _ _ ↔ _
  unfold MtuRestorable
  constructor
  · intro hall
    exact hall l netA hl hnet
  · intro hmtu l' net' hl' hnet'
    obtain rfl := Option.some.inj (hl.symm.trans hl')
    obtain rfl := Option.some.inj (hnet.symm.trans hnet')
    exact hmtu

/-- An MTU that is changed elsewhere is restorable as before. -/
theorem restorableMtu_set (h : nf.failureType = .mtuMismatch) (hl : networks.get? c = some l)
    (hnet : targetNetwork nf.target.router (nf.target.interface.getD "") l = some netA)
    {name : String} {mtu : Option ℤ} (hne : netA.name ≠ name) :
    Restorable nf (networks.set (withMtu name mtu l) c) ↔ Restorable nf c := by
  rw [restorableMtu_iff h hl hnet, restorableMtu_iff h (networks.get?_set _ hl)
    (targetNetwork_withMtu_of_ne hnet hne)]
  refine and_congr_right fun _ => ?_
  unfold withMtu
  rw [List.forall_mem_map]
  refine forall₂_congr fun other _ => ?_
  by_cases hother : other.name = name
  · simp [hother, Ne.symm hne]
  · simp [hother]

/-- The second of two MTU mismatches is injected where the first has written its network. -/
theorem injectMtu_twice (htypeA : A.failureType = .mtuMismatch)
    (htypeB : B.failureType = .mtuMismatch) (hA : injectFailureOperator A c = .ok (savedA, cA))
    (hB : injectFailureOperator B cA = .ok (savedB, cAB)) (hl : networks.get? c = some l)
    (hnetA : targetNetwork A.target.router (A.target.interface.getD "") l = some netA) :
    ∃ name net, c.infraName = some name ∧
      savedA = { mtu := some (netA.mtu.getD 1500), networkName := some netA.name,
                 infraName := some name } ∧
      cA = networks.set (withMtu netA.name (some (A.parameters.mtu.getD 1400)) l) c ∧
      targetNetwork B.target.router (B.target.interface.getD "")
        (withMtu netA.name (some (A.parameters.mtu.getD 1400)) l) = some net ∧
      savedB = { mtu := some (net.mtu.getD 1500), networkName := some net.name,
                 infraName := some name } ∧
      cAB = networks.set (withMtu net.name (some (B.parameters.mtu.getD 1400))
        (withMtu netA.name (some (A.parameters.mtu.getD 1400)) l)) cA := by
  obtain ⟨name, l₁, net₁, hname, hl₁, hnet₁, hsavedA, hcA⟩ := (injectMtu_ok_iff htypeA).mp hA
  obtain ⟨name', l₂, net₂, hname', hl₂, hnet₂, hsavedB, hcAB⟩ := (injectMtu_ok_iff htypeB).mp hB
  obtain rfl := Option.some.inj (hl.symm.trans hl₁)
  obtain rfl := Option.some.inj (hnetA.symm.trans hnet₁)
  rw [hcA, infraName_set, hname] at hname'
  obtain rfl := Option.some.inj hname'
  rw [hcA, networks.get?_set _ hl] at hl₂
  obtain rfl := Option.some.inj hl₂
  exact ⟨name, net₂, hname, hsavedA, hcA, hnet₂, hsavedB, hcAB⟩

/-- MTU mismatches of different networks are swapped. -/
theorem swaps_of_mtu (htypeA : A.failureType = .mtuMismatch) (htypeB : B.failureType = .mtuMismatch)
    (hA : injectFailureOperator A c = .ok (savedA, cA))
    (hB : injectFailureOperator B cA = .ok (savedB, cAB)) (hl : networks.get? c = some l)
    (hnetA : targetNetwork A.target.router (A.target.interface.getD "") l = some netA)
    (hnetB : targetNetwork B.target.router (B.target.interface.getD "") l = some netB)
    (hne : netA.name ≠ netB.name) : ∃ cB, Swaps A B c cA cAB cB savedA savedB := by
  obtain ⟨name, net₂, hname, hsavedA, hcA, hnet₂, hsavedB, hcAB⟩ :=
    injectMtu_twice htypeA htypeB hA hB hl hnetA
  obtain rfl := Option.some.inj ((targetNetwork_withMtu_of_ne hnetB (Ne.symm hne)).symm.trans hnet₂)
  refine ⟨networks.set (withMtu netB.name (some (B.parameters.mtu.getD 1400)) l) c, ?_, ?_, ?_, ?_⟩
  · exact (injectMtu_ok_iff htypeB).mpr ⟨name, l, netB, hname, hl, hnetB, hsavedB, rfl⟩
  · refine (injectMtu_ok_iff htypeA).mpr ⟨name, _, netA, (infraName_set _).trans hname,
      networks.get?_set _ hl, targetNetwork_withMtu_of_ne hnetA hne, hsavedA, ?_⟩
    rw [hcAB, hcA, networks.set_set, networks.set_set, withMtu_comm hne]
  · exact restorableMtu_set htypeA hl hnetA hne
  · rw [hcA]
    exact restorableMtu_set htypeB hl hnetB (Ne.symm hne)

/-- MTU mismatches of one network overwrite each other. -/
theorem noInterference_iff_of_mtu (htypeA : A.failureType = .mtuMismatch)
    (htypeB : B.failureType = .mtuMismatch) (hA : injectFailureOperator A c = .ok (savedA, cA))
    (hB : injectFailureOperator B cA = .ok (savedB, cAB)) (hl : networks.get? c = some l)
    (hnetA : targetNetwork A.target.router (A.target.interface.getD "") l = some netA)
    (hnetB : targetNetwork B.target.router (B.target.interface.getD "") l = some netB)
    (heq : netA.name = netB.name) :
    NoInterference A B c cA cAB savedA savedB ↔
      ((∀ net ∈ l, net.name = netA.name → net.mtu = some (A.parameters.mtu.getD 1400)) ∧
        ∀ net ∈ l, net.name = netA.name → net.mtu = some (B.parameters.mtu.getD 1400)) ∧
      Restorable A c ∧ Restorable B c := by
  obtain ⟨name, net₂, hname, hsavedA, hcA, hnet₂, hsavedB, hcAB⟩ :=
    injectMtu_twice htypeA htypeB hA hB hl hnetA
  obtain ⟨net', hnet', hnet'_name, -⟩ := targetNetwork_withMtu_name hnet₂
  obtain rfl := Option.some.inj (hnetB.symm.trans hnet')
  have hB' := (injectMtu_ok_iff htypeB).mpr ⟨name, l, netB, hname, hl, hnetB, rfl, rfl⟩
  rw [hcA, networks.set_set, ← hnet'_name, ← heq, withMtu_withMtu] at hcAB
  rw [noInterference_iff_of_overwrites hA hB hB' ?_ ?_, hcA, StatePart.set_eq_self_iff hl,
    StatePart.set_eq_self_iff hl, withMtu_eq_self_iff, withMtu_eq_self_iff, ← heq]
  · rw [restoreMtu_eq htypeA, restoreMtu_eq htypeA, hsavedA, hcAB, hcA,
      restoreMtuMismatch_of_name ((infraName_set _).trans hname) (networks.get?_set _ hl)
        (targetNetwork_name hnetA),
      restoreMtuMismatch_of_name ((infraName_set _).trans hname) (networks.get?_set _ hl)
        (targetNetwork_name hnetA), networks.set_set, networks.set_set, withMtu_withMtu,
      withMtu_withMtu]
  · rw [hcAB, heq]

end

end GnnSandbox.Operator
