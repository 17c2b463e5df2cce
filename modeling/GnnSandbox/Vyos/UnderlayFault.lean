import GnnSandbox.Vyos.Reading

/-!
# Faults of the underlay in the script of their router

The template reads neither the areas of OSPF nor costs of its interfaces, and the playbook does not
pass the traffic policy on. So the three faults that change these in the underlay never reach the
router.
-/

namespace GnnSandbox.Vyos

open MergePatch
open Operator (NetworkFailure OriginalState Cluster UnderlaySpec UnderlayFault IsUnderlay)

/-! ## What the template reads of protocols -/

/-- The protocols without the areas of OSPF. -/
def Protocols.withoutAreas (p : Protocols) : Protocols :=
  { p with ospf := p.ospf.map fun o => { o with areas := none } }

/-- The variables without the areas of OSPF. -/
def Vars.withoutAreas (v : Vars) : Vars := { v with protocols := v.protocols.withoutAreas }

/-- The areas are in no command. -/
theorem script_withoutAreas (v : Vars) : v.withoutAreas.script = v.script := by
  obtain ⟨_, _, _, ⟨_ | o, _, _, _⟩, _, _⟩ := v
  · rfl
  · refine if_congr ?_ rfl rfl
    constructor
    · intro h
      refine ⟨h.rd, fun o' ho' => ?_, h.bgp, h.mpls⟩
      obtain rfl := Option.some.inj ho'
      exact h.ospf { o with areas := none } (Option.mem_some_self _)
    · intro h
      refine ⟨h.rd, fun o' ho' => ?_, h.bgp, h.mpls⟩
      obtain rfl := Option.some.inj ho'
      exact h.ospf o (Option.mem_some_self _)

theorem withoutAreas_merge (p q : Protocols) :
    (Record.merge p q).withoutAreas = Record.merge p.withoutAreas q.withoutAreas := by
  obtain ⟨_ | o, _, _, _⟩ := p <;> obtain ⟨_ | o', _, _, _⟩ := q <;> rfl

theorem withoutAreas_combine (patches : List Protocols) :
    (combine patches).withoutAreas = combine (patches.map Protocols.withoutAreas) := by
  induction patches with
  | nil => rfl
  | cons p patches ih =>
    rw [List.map_cons, combine_cons, combine_cons, withoutAreas_merge, ih]

/-! ## Underlays that differ in what is not read -/

/-- An underlay that gives the same but for areas changes no script. -/
theorem script_patched_patched {u u' : Underlay} {name : String}
    (h : (u'.given name).withoutAreas = (u.given name).withoutAreas) (v : Vars) :
    ((v.patched (u.patches name)).patched (u'.patches name)).script =
      (v.patched (u.patches name)).script := by
  rw [← script_withoutAreas, ← script_withoutAreas (v.patched _), patched_underlay,
    patched_underlay]
  unfold Vars.withoutAreas
  simp only [withoutAreas_merge, h, Record.merge_assoc, Record.merge_self]

theorem scriptOf_applyUnderlay {routers : Routers} {name : String} {spec : Spec} (u : Underlay)
    (h : routers name = some spec) :
    scriptOf (applyUnderlay u routers) name =
      (spec.extravars.patched (u.patches name)).script := by
  rw [scriptOf, applyUnderlay_apply, h, Option.map_some, Option.bind_some, script_eq,
    extravars_foldl_patched]

/-! ## The entries of the resource -/

/-- What the template can see of an entry: its router and its protocols without areas. -/
def Reading.seen (rd : Reading) (r : Operator.UnderlayRouter) : String × Protocols :=
  (r.name, ((r.protocols.map rd.protocolsOf).getD {}).withoutAreas)

theorem given_withoutAreas (rd : Reading) (spec : UnderlaySpec)
    (l : List Operator.UnderlayRouter) (name : String) :
    ((rd.underlay { spec with routers := some l }).given name).withoutAreas =
      combine (((l.map rd.seen).filter fun p => p.1 = name).map Prod.snd) := by
  unfold Underlay.given Underlay.entries Reading.underlay
  rw [withoutAreas_combine, Option.map_some, Option.getD_some, List.filter_map, List.filter_map,
    List.map_map, List.map_map, List.map_map]
  rfl

/-! ## Main result -/

/-- **A fault of the underlay that is restored in what no template reads** does not reach the
router: where it changes the script, the restoration does not change it back. -/
theorem not_faultReaches_of_isUnderlay {rd : Reading} {nf : NetworkFailure} {f : UnderlayFault}
    {c injected : Cluster} {saved : OriginalState} (hf : IsUnderlay nf f)
    (hundo : ∀ saved r, rd.seen (f.undo saved r) = rd.seen r)
    (hpropagate : ∀ saved c routers, rd.propagate nf.failureType saved c routers =
      match saved.underlayName.bind c.underlays.get? with
      | some spec => applyUnderlay (rd.underlay spec) routers
      | none => routers)
    (h : Operator.injectFailureOperator nf c = .ok (saved, injected)) (routers : Routers) :
    ¬FaultReaches rd nf saved injected routers := by
  rw [hf.inject] at h
  obtain ⟨_, l, r, hname, hl, -, hsaved, rfl⟩ := Operator.injectUnderlay_ok_iff.mp h
  obtain ⟨⟨name, underlay⟩, hfirst, rfl⟩ := Option.map_eq_some_iff.mp hname
  have hunderlay := f.saved_name hsaved
  rintro ⟨hdiffer, hrestored⟩
  have hrestore := hrestored _ ((congrFun (hf.restore saved) _).trans (Operator.restoreUnderlay_of_name
    ((Cluster.underlayName_set _).trans hname) hunderlay
    (Cluster.underlayRouters.get?_set _ hl)))
  rw [Cluster.underlayRouters.set_set] at hrestore
  have hset (l' : List Operator.UnderlayRouter) (routers : Routers) :
      rd.propagate nf.failureType saved (Cluster.underlayRouters.set l' c) routers =
        applyUnderlay (rd.underlay { underlay with routers := some l' }) routers := by
    rw [hpropagate, hunderlay, Option.bind_some, Cluster.get?_underlayRouters_set hfirst]
  simp only [hset] at hdiffer hrestore
  cases hrouter : routers nf.target.router with
  | none =>
    obtain ⟨before, hbefore, -⟩ := hdiffer
    simp [scriptOf, hrouter] at hbefore
  | some spec =>
    have hfaulty := applyUnderlay_apply (rd.underlay { underlay with
      routers := some (modifyFirst (fun r => r.name = f.router) f.change l) }) routers
      nf.target.router
    rw [hrouter, Option.map_some] at hfaulty
    rw [scriptOf_applyUnderlay _ hfaulty, extravars_foldl_patched,
      script_patched_patched, ← scriptOf_applyUnderlay _ hrouter] at hrestore
    · exact hdiffer.scriptOf_ne hrestore
    · rw [given_withoutAreas, given_withoutAreas, map_modifyFirst (hundo saved)]

/-- The fault is one of the three of the underlay. -/
theorem underlay_never_reaches {rd : Reading} {nf : NetworkFailure} {c injected : Cluster}
    {saved : OriginalState}
    (htype : nf.failureType = .packetCorruption ∨ nf.failureType = .ospfAreaMismatch ∨
      nf.failureType = .ospfCostInflation)
    (h : Operator.injectFailureOperator nf c = .ok (saved, injected)) (routers : Routers) :
    ¬FaultReaches rd nf saved injected routers := by
  rcases htype with htype | htype | htype
  · refine not_faultReaches_of_isUnderlay (Operator.isUnderlay_packetFault htype) (fun _ _ => rfl)
      (fun saved c routers => ?_) h routers
    rw [htype]
    rfl
  · refine not_faultReaches_of_isUnderlay (Operator.isUnderlay_areaFault htype) (fun saved r => ?_)
      (fun saved c routers => ?_) h routers
    · obtain ⟨_, _ | ⟨_ | o, _⟩, _, _⟩ := r <;> rfl
    · rw [htype]
      rfl
  · refine not_faultReaches_of_isUnderlay (Operator.isUnderlay_costFault htype) (fun saved r => ?_)
      (fun saved c routers => ?_) h routers
    · obtain ⟨_, _ | ⟨_ | o, _⟩, _, _⟩ := r <;> rfl
    · rw [htype]
      rfl

end GnnSandbox.Vyos
