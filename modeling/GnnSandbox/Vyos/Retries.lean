import GnnSandbox.Lib.Overwrite
import GnnSandbox.Vyos.Deletion

/-!
# Handlers that run again

The handlers of VyOSUnderlay and VyOSL3VPN change routers by calls of the API: a merge patch, the
patch of the VRFs of a PE router, which is merged from what the router has, a JSON patch for the
interfaces of a VRF, and a clean-up. A call that fails is logged, and the handler goes on with the
next router. When the routers are not ready in time, or the operator restarts, the handler runs
again from the start.

However much of a handler was done before, in however many attempts, a complete run gives what it
gives on its own.
-/

namespace GnnSandbox.Vyos

open MergePatch Overwrite Retry

/-! ## Calls -/

/-- A call that changes a router. -/
inductive Call where
  | patch (name : String) (patch : SpecPatch)
  | provide (router : PeRouter)
  | assign (name : String) (v : VpnVrf)
  | clean (router : PeRouter)

namespace Call

def perform (routers : Routers) : Call → Routers
  | patch name p => patchVyosRouter name p routers
  | provide r => routers.modify r.name fun s => s.patched (pePatch s r)
  | assign name v => routers.modify name fun s => assignVrf s v
  | clean r => routers.modify r.name fun s => cleanupPe s r

end Call

inductive Handler where
  | createUnderlay (spec : Underlay)
  | deleteUnderlay (spec : Underlay)
  | createVpn (spec : L3vpn)
  | deleteVpn (spec : L3vpn)

namespace Handler

/-- What a complete run does. -/
def run : Handler → Routers → Routers
  | createUnderlay spec => applyUnderlay spec
  | deleteUnderlay spec => Vyos.deleteUnderlay spec
  | createVpn spec => applyVpn spec
  | deleteVpn spec => Vyos.deleteVpn spec

/-- The calls of a complete run; a VRF without interfaces has one that changes nothing. -/
def calls : Handler → List Call
  | createUnderlay spec => (spec.routers.getD []).map fun r => .patch r.name r.patch
  | deleteUnderlay spec =>
    ((spec.routers.getD []).filter fun r => r.name ≠ "").map fun r => .patch r.name r.clearPatch
  | createVpn spec =>
    ((spec.routers.getD []).flatMap fun r => .provide r :: r.vrfList.map (.assign r.name)) ++
      (spec.ceRouters.getD []).map fun r => .patch r.name r.patch
  | deleteVpn spec =>
    ((spec.routers.getD []).filter fun r => r.name ≠ "").map .clean ++
      ((spec.ceRouters.getD []).filter fun r => r.name ≠ "").map fun r =>
        .patch r.name { protocols := some {} }

end Handler

/-! ### A run is its calls -/

theorem modify_modify (routers : Routers) (name : String) (f g : Spec → Spec) :
    (routers.modify name f).modify name g = routers.modify name fun s => g (f s) := by
  funext n
  unfold Routers.modify
  by_cases h : n = name
  · simp only [if_pos h, Option.map_map]
    rfl
  · simp only [if_neg h]

theorem foldl_assign (routers : Routers) (name : String) (f : Spec → Spec) (vrfs : List VpnVrf) :
    (vrfs.map (Call.assign name)).foldl Call.perform (routers.modify name f) =
      routers.modify name fun s => vrfs.foldl assignVrf (f s) := by
  induction vrfs generalizing f with
  | nil => rfl
  | cons v vrfs ih =>
    rw [List.map_cons, List.foldl_cons]
    have hstep : Call.perform (routers.modify name f) (.assign name v) =
        routers.modify name fun s => assignVrf (f s) v := modify_modify routers name f _
    rw [hstep, ih]
    rfl

/-- A loop that leaves out the entries without a name. -/
theorem foldl_filter_named {α : Type} (named : α → String) (f : Routers → α → Routers)
    (entries : List α) (routers : Routers) :
    (entries.filter fun r => named r ≠ "").foldl f routers =
      entries.foldl (fun routers r => if named r = "" then routers else f routers r) routers := by
  rw [List.foldl_filter]
  refine List.foldl_ext _ _ _ fun routers r _ => ?_
  by_cases h : named r = "" <;> simp [h]

theorem run_eq_calls (h : Handler) (routers : Routers) :
    h.run routers = h.calls.foldl Call.perform routers := by
  cases h with
  | createUnderlay spec =>
    unfold Handler.calls
    rw [List.foldl_map]
    rfl
  | deleteUnderlay spec =>
    unfold Handler.calls
    rw [List.foldl_map, foldl_filter_named UnderlayRouter.name]
    rfl
  | createVpn spec =>
    have hpe : ∀ (entries : List PeRouter) (routers : Routers),
        (entries.flatMap fun r => Call.provide r :: r.vrfList.map (.assign r.name)).foldl
          Call.perform routers =
        entries.foldl (fun routers r => routers.modify r.name fun s => providePe s r) routers := by
      intro entries routers
      rw [List.foldl_flatMap]
      exact List.foldl_ext _ _ _ fun routers r _ => foldl_assign routers r.name _ r.vrfList
    unfold Handler.calls
    rw [List.foldl_append, hpe, List.foldl_map]
    rfl
  | deleteVpn spec =>
    unfold Handler.calls
    rw [List.foldl_append, List.foldl_map, List.foldl_map,
      foldl_filter_named PeRouter.name, foldl_filter_named CeRouter.name]
    rfl

/-! ## Calls and the variables of a router -/

namespace Call

/-- What a call does to the variables of a router. -/
def onVars (name : String) (v : Vars) : Call → Vars
  | patch n p => if n = name then v.patched [p] else v
  | provide r =>
    if r.name = name then
      { v with
        vrfs := overwrite Vrf.name v.vrfs r.routerVrfs
        protocols := v.protocols.withBgpVrfs
          (overwrite BgpVrf.name v.protocols.bgpVrfs r.bgpVrfList) }
    else v
  | assign n w =>
    if n = name then
      { v with
        interfaces :=
          assignAll v.interfaces ((w.interfaces.getD []).map fun i => (i, w.vrf.name)) }
    else v
  | clean r => if r.name = name then v.cleared r.assignedInterfaces r.vrfNames else v

end Call

theorem vars_modify (routers : Routers) (n name : String) {f : Spec → Spec} {g : Vars → Vars}
    (h : ∀ s, (f s).extravars = g s.extravars) :
    (routers.modify n f).vars name = (routers.vars name).map fun v => if n = name then g v else v := by
  unfold Routers.vars Routers.modify
  by_cases hn : name = n
  · simp only [if_pos hn, if_pos hn.symm, Option.map_map]
    exact congrArg (Option.map · (routers name)) (funext h)
  · simp only [if_neg hn, if_neg (Ne.symm hn), Option.map_map]
    rfl

/-- Assigning interfaces changes no other field. -/
theorem assignVrf_eq (s : Spec) (v : VpnVrf) :
    assignVrf s v = { s with interfaces := (assignVrf s v).interfaces } := by
  unfold assignVrf
  generalize v.interfaces.getD [] = names
  induction names generalizing s with
  | nil => rfl
  | cons name names ih =>
    rw [List.foldl_cons, ih]
    rfl

theorem extravars_assignVrf (s : Spec) (v : VpnVrf) : (assignVrf s v).extravars =
    { s.extravars with
      interfaces := assignAll s.extravars.interfaces
        ((v.interfaces.getD []).map fun i => (i, v.vrf.name)) } := by
  have hlist : (assignVrf s v).interfaceList =
      assignAll s.interfaceList ((v.interfaces.getD []).map fun i => (i, v.vrf.name)) := by
    unfold assignVrf assignAll
    rw [List.foldl_map]
    exact (List.foldl_hom Spec.interfaceList
      fun s i => (interfaceList_assignInterface v.vrf.name s i).symm).symm
  have hextravars : (assignVrf s v).extravars =
      { s.extravars with interfaces := (assignVrf s v).interfaceList } := by
    rw [assignVrf_eq]
    rfl
  rw [hextravars, hlist]
  rfl

theorem extravars_provided (s : Spec) (r : PeRouter) :
    (s.patched (pePatch s r)).extravars = { s.extravars with
      vrfs := overwrite Vrf.name s.extravars.vrfs r.routerVrfs
      protocols := s.extravars.protocols.withBgpVrfs
        (overwrite BgpVrf.name s.extravars.protocols.bgpVrfs r.bgpVrfList) } := by
  have hprotocols := getD_object_bgpDict s (mergedBgpVrfs s r)
  have hvrfs : mergedVrfs s r = overwrite Vrf.name s.vrfList r.routerVrfs := by
    unfold mergedVrfs overwrite without PeRouter.routerVrfs PeRouter.vrfNames
    rw [List.map_map]
    rfl
  have hextravars : (s.patched (pePatch s r)).extravars = { s.extravars with
      vrfs := mergedVrfs s r
      protocols := (object s.protocols (some { bgp := some (mergedBgp s r) })).getD
        Record.empty } := rfl
  have hbgp : mergedBgpVrfs s r =
      overwrite BgpVrf.name s.extravars.protocols.bgpVrfs r.bgpVrfList := by
    have hdict : s.extravars.protocols.bgpVrfs = s.bgpVrfList := bgpVrfs_protocolsDict s
    rw [hdict]
    rfl
  rw [hextravars, hvrfs, ← hbgp]
  exact congrArg (fun p => { s.extravars with
    vrfs := overwrite Vrf.name s.vrfList r.routerVrfs, protocols := p }) hprotocols

theorem vars_perform (routers : Routers) (c : Call) (name : String) :
    (Call.perform routers c).vars name = (routers.vars name).map fun v => c.onVars name v := by
  cases c with
  | patch n p => exact vars_modify routers n name fun s => extravars_foldl_patched s [p]
  | provide r => exact vars_modify routers r.name name fun s => extravars_provided s r
  | assign n v => exact vars_modify routers n name fun s => extravars_assignVrf s v
  | clean r => exact vars_modify routers r.name name fun s => extravars_cleanupPe s r

theorem vars_foldl_perform (routers : Routers) (cs : List Call) (name : String) :
    (cs.foldl Call.perform routers).vars name =
      (routers.vars name).map fun v => cs.foldl (Call.onVars name) v := by
  induction cs generalizing routers with
  | nil => exact Option.map_id'.symm
  | cons c cs ih =>
    rw [List.foldl_cons, ih, vars_perform, Option.map_map]
    rfl

/-! ## Providing again -/

instance : Regular Static where
  merge_merge p q := by simp [Record.merge]

instance : Regular Ospf where
  merge_merge p q := by simp [Record.merge]

instance : Regular Bgp where
  merge_merge p q := by simp [Record.merge]

instance : Regular Ldp where
  merge_merge p q := by simp [Record.merge]

theorem object_object {α : Type} [Record α] [Regular α] (p q : Option α) :
    object (object p q) p = object q p := Regular.merge_merge p q

instance : Regular Mpls where
  merge_merge p q := by simp [Record.merge, object_object]

instance : Regular Protocols where
  merge_merge p q := by simp [Record.merge, object_object]

namespace Protocols

/-- The protocols without the VRFs of BGP. -/
def rest (p : Protocols) : Protocols := { p with bgp := p.bgp.map fun b => { b with vrfs := none } }

/-- `protocols.bgp.vrfs`, if it is there. -/
def vrfs? (p : Protocols) : Option (List BgpVrf) := p.bgp.bind Bgp.vrfs

theorem eq_of_parts {p q : Protocols} (hrest : p.rest = q.rest) (hvrfs : p.vrfs? = q.vrfs?) :
    p = q := by
  obtain ⟨_, _ | ⟨_, _, _, _, _, _⟩, _, _⟩ := p <;> obtain ⟨_, _ | ⟨_, _, _, _, _, _⟩, _, _⟩ := q <;>
    simp_all [rest, vrfs?]

theorem rest_merge (p q : Protocols) : (Record.merge p q).rest = Record.merge p.rest q.rest := by
  have hbgp : ∀ a b : Option Bgp, (object a b).map (fun c => { c with vrfs := none }) =
      object (a.map fun c => { c with vrfs := none }) (b.map fun c => { c with vrfs := none }) := by
    intro a b
    cases a with
    | none => rw [none_object, Option.map_none, none_object]
    | some a => cases b <;> rfl
  exact congrArg (fun b => { Record.merge p q with bgp := b }) (hbgp p.bgp q.bgp)

theorem vrfs_merge (p q : Protocols) : (Record.merge p q).vrfs? = value p.vrfs? q.vrfs? :=
  bind_object p.bgp q.bgp rfl fun _ _ => rfl

theorem rest_withBgpVrfs (p : Protocols) (l : List BgpVrf) :
    (p.withBgpVrfs l).rest = Record.merge p.rest { bgp := some {} } := by
  obtain ⟨_, _ | b, _, _⟩ := p <;> rfl

theorem vrfs_withBgpVrfs (p : Protocols) (l : List BgpVrf) : (p.withBgpVrfs l).vrfs? = some l := rfl

theorem bgpVrfs_eq (p : Protocols) : p.bgpVrfs = p.vrfs?.getD [] := by
  obtain ⟨_, _ | b, _, _⟩ := p <;> rfl

end Protocols

/-- Variables that agree in all their parts. -/
theorem Vars.eq_of_parts {v w : Vars} (hhostname : v.routerHostname = w.routerHostname)
    (hinterfaces : v.interfaces = w.interfaces) (hvrfs : v.vrfs = w.vrfs)
    (hrest : v.protocols.rest = w.protocols.rest)
    (hbgpVrfs : v.protocols.vrfs? = w.protocols.vrfs?) (hservices : v.services = w.services)
    (htraffic : v.trafficPolicy = w.trafficPolicy) : v = w := by
  obtain ⟨_, _, _, p, _, _⟩ := v
  obtain ⟨_, _, _, q, _, _⟩ := w
  obtain rfl : p = q := Protocols.eq_of_parts hrest hbgpVrfs
  simp_all

namespace Call

/-- A call that creates; its patch gives protocols only, besides the traffic policy. -/
def Creates : Call → Prop
  | patch _ p => p = { protocols := p.protocols, trafficPolicy := p.trafficPolicy }
  | provide _ | assign _ _ => True
  | clean _ => False

section

variable (name : String)

/-- The interfaces that a call assigns on a router, with their VRFs. -/
def assigns : Call → List (String × String)
  | assign n w => if n = name then (w.interfaces.getD []).map fun i => (i, w.vrf.name) else []
  | _ => []

/-- The VRFs that a call gives a router. -/
def ownVrfs : Call → List Vrf
  | provide r => if r.name = name then r.routerVrfs else []
  | _ => []

/-- The protocols that a call gives a router, besides the VRFs of BGP. -/
def restPatch : Call → Protocols
  | patch n p => if n = name then (p.protocols.getD {}).rest else {}
  | provide r => if r.name = name then { bgp := some {} } else {}
  | _ => {}

/-- The VRFs of BGP that a call merges. -/
def ownBgpVrfs : Call → Option (List BgpVrf)
  | provide r => if r.name = name then some r.bgpVrfList else none
  | _ => none

/-- The VRFs of BGP that a call replaces all others by. -/
def newBgpVrfs : Call → Option (List BgpVrf)
  | patch n p => if n = name then (p.protocols.getD {}).vrfs? else none
  | _ => none

end

section

variable {name : String} {c : Call}

theorem Creates.onVars_patch {n : String} {p : SpecPatch} (h : (patch n p).Creates) (v : Vars) :
    (patch n p).onVars name v = { v with
      protocols := Record.merge v.protocols (if n = name then p.protocols.getD {} else {}) } := by
  have hnone : v = { v with protocols := Record.merge v.protocols {} } :=
    congrArg (fun p => { v with protocols := p }) (Record.merge_empty v.protocols).symm
  have honVars : (patch n p).onVars name v = if n = name then v.patched [p] else v := rfl
  rw [honVars]
  by_cases hn : n = name
  · rw [if_pos hn, if_pos hn, show p = _ from h]
    have hpatched : v.patched [{ protocols := p.protocols, trafficPolicy := p.trafficPolicy }] =
        { v with
          protocols := Record.merge v.protocols ((combine [p.protocols]).getD {})
          services := Record.merge v.services Record.empty } := rfl
    have hcombine : combine [p.protocols] = p.protocols := Record.empty_merge p.protocols
    rw [hpatched, hcombine, Record.merge_empty]
  · rw [if_neg hn, if_neg hn]
    exact hnone

/-- A call that creates, part by part. -/
theorem Creates.parts (h : c.Creates) (v : Vars) :
    (c.onVars name v).interfaces = assignAll v.interfaces (c.assigns name) ∧
      (c.onVars name v).vrfs = overwrite Vrf.name v.vrfs (c.ownVrfs name) ∧
      (c.onVars name v).protocols.rest = Record.merge v.protocols.rest (c.restPatch name) ∧
      (c.onVars name v).protocols.vrfs? = overwriteOrReplace BgpVrf.name (ownBgpVrfs name)
        (newBgpVrfs name) v.protocols.vrfs? c ∧
      (c.onVars name v).routerHostname = v.routerHostname ∧
      (c.onVars name v).services = v.services ∧
      (c.onVars name v).trafficPolicy = v.trafficPolicy := by
  have hnothing : ∀ l : List Vrf, overwrite Vrf.name l [] = l := by
    intro l
    simp [overwrite]
  have hmerge : ∀ p : Protocols, Record.merge p {} = p := Record.merge_empty
  cases c with
  | patch n p =>
    rw [h.onVars_patch]
    refine ⟨rfl, (hnothing _).symm, ?_, ?_, rfl, rfl, rfl⟩
    · rw [Protocols.rest_merge, restPatch]
      by_cases hn : n = name
      · rw [if_pos hn, if_pos hn]
      · rw [if_neg hn, if_neg hn]
        rfl
    · have hact : overwriteOrReplace BgpVrf.name (ownBgpVrfs name) (newBgpVrfs name)
          v.protocols.vrfs? (patch n p) = value v.protocols.vrfs?
            (if n = name then (p.protocols.getD {}).vrfs? else none) := rfl
      rw [Protocols.vrfs_merge, hact]
      by_cases hn : n = name
      · rw [if_pos hn, if_pos hn]
      · rw [if_neg hn, if_neg hn]
        rfl
  | provide r =>
    by_cases hn : r.name = name
    · refine ⟨?_, ?_, ?_, ?_, ?_, ?_, ?_⟩ <;>
        simp [onVars, assigns, ownVrfs, restPatch, overwriteOrReplace, ownBgpVrfs, hn, assignAll,
          Protocols.rest_withBgpVrfs, Protocols.bgpVrfs_eq, Protocols.vrfs_withBgpVrfs]
    · refine ⟨?_, ?_, ?_, ?_, ?_, ?_, ?_⟩ <;>
        simp [onVars, assigns, ownVrfs, restPatch, overwriteOrReplace, ownBgpVrfs, newBgpVrfs, hn,
          assignAll, hnothing, hmerge]
  | assign n w =>
    by_cases hn : n = name <;> refine ⟨?_, ?_, ?_, ?_, ?_, ?_, ?_⟩ <;>
      simp [onVars, assigns, ownVrfs, restPatch, overwriteOrReplace, ownBgpVrfs, newBgpVrfs, hn,
        assignAll, hnothing, hmerge]
  | clean r => exact h.elim

end

end Call

/-- Assignments of interfaces, one list after the other. -/
theorem absorbing_assignAll {κ : Type} (assigns : κ → List (String × String)) (calls : κ → Prop) :
    Absorbing (fun l c => assignAll l (assigns c)) calls := by
  intro c _ between _ l
  have hfold : ∀ l, between.foldl (fun l c => assignAll l (assigns c)) l =
      assignAll l (between.flatMap assigns) := by
    intro l
    unfold assignAll
    rw [List.foldl_flatMap]
  have happend : ∀ l, assignAll (assignAll l (between.flatMap assigns)) (assigns c) =
      assignAll l (between.flatMap assigns ++ assigns c) := fun l => List.foldl_append.symm
  dsimp only
  rw [hfold, hfold, happend, happend]
  refine assignAll_assignAll (fun i hi => ?_) l
  rw [List.map_append, List.mem_append]
  exact .inr hi

/-- **Creating again.** Of two times that a call creates, the second one counts. -/
theorem absorbing_creates (name : String) : Absorbing (Call.onVars name) Call.Creates := by
  intro c hc between hbetween v
  have hview {τ : Type} (view : Vars → τ) {act : τ → Call → τ}
      (h : ∀ c : Call, c.Creates → ∀ v, view (c.onVars name v) = act (view v) c)
      (habsorbing : Absorbing act Call.Creates) :
      view (c.onVars name (between.foldl (Call.onVars name) (c.onVars name v))) =
        view (c.onVars name (between.foldl (Call.onVars name) v)) :=
    view_absorbs h habsorbing hc hbetween v
  refine Vars.eq_of_parts ?_ ?_ ?_ ?_ ?_ ?_ ?_
  · exact hview Vars.routerHostname (fun _ h v => (h.parts v).2.2.2.2.1) (absorbing_unchanged _)
  · exact hview Vars.interfaces (fun _ h v => (h.parts v).1)
      (absorbing_assignAll (Call.assigns name) _)
  · exact hview Vars.vrfs (fun _ h v => (h.parts v).2.1)
      (absorbing_overwrite _ (Call.ownVrfs name) _)
  · exact hview (fun v => v.protocols.rest) (fun _ h v => (h.parts v).2.2.1)
      (absorbing_merge (Call.restPatch name) _)
  · exact hview (fun v => v.protocols.vrfs?) (fun _ h v => (h.parts v).2.2.2.1)
      (absorbing_overwriteOrReplace _)
  · exact hview Vars.services (fun _ h v => (h.parts v).2.2.2.2.2.1) (absorbing_unchanged _)
  · exact hview Vars.trafficPolicy (fun _ h v => (h.parts v).2.2.2.2.2.2) (absorbing_unchanged _)

/-! ## Clearing again -/

/-- A call that clears: it removes VRFs, or patches nothing that the template reads. -/
def Call.Clears : Call → Prop
  | .clean _ => True
  | .patch _ p => p = { protocols := some {}, trafficPolicy := p.trafficPolicy }
  | _ => False

theorem cleared_congr (v : Vars) {assigned assigned' names names' : List String}
    (hassigned : ∀ i, i ∈ assigned ↔ i ∈ assigned') (hnames : ∀ n, n ∈ names ↔ n ∈ names') :
    v.cleared assigned names = v.cleared assigned' names' := by
  unfold Vars.cleared
  simp only [hassigned, without_congr hnames]

theorem Call.Clears.onVars_eq {c : Call} (h : c.Clears) (name : String) :
    (∀ v, c.onVars name v = v) ∨
      ∃ assigned names, ∀ v, c.onVars name v = v.cleared assigned names := by
  cases c with
  | clean r =>
    by_cases hn : r.name = name
    · exact .inr ⟨_, _, fun _ => if_pos hn⟩
    · exact .inl fun _ => if_neg hn
  | patch n p =>
    have hcreates : (Call.patch n p).Creates := by
      unfold Call.Creates
      rw [show p = _ from h]
    refine .inl fun v => ?_
    rw [hcreates.onVars_patch, show p.protocols = some {} from congrArg SpecPatch.protocols h]
    have hmerge := Record.merge_empty v.protocols
    split <;> exact congrArg (fun p => { v with protocols := p }) hmerge
  | provide | assign => exact h.elim

theorem absorbing_clears (name : String) : Absorbing (Call.onVars name) Call.Clears := by
  refine absorbing_of_comm (fun c d hc hd v => ?_) fun c hc v => ?_
  · rcases hc.onVars_eq name with hc | ⟨a, n, hc⟩ <;> rcases hd.onVars_eq name with hd | ⟨b, m, hd⟩ <;>
      simp only [hc, hd, cleared_cleared]
    exact cleared_congr v (fun _ => by simp only [List.mem_append, or_comm])
      fun _ => by simp only [List.mem_append, or_comm]
  · rcases hc.onVars_eq name with hc | ⟨a, n, hc⟩
    · rw [hc, hc]
    · rw [hc, hc, cleared_cleared]
      exact cleared_congr v (fun _ => by simp) fun _ => by simp

/-! ## Handlers -/

theorem creates_or_clears (h : Handler) :
    (∀ c ∈ h.calls, c.Creates) ∨ ∀ c ∈ h.calls, c.Clears := by
  cases h with
  | createUnderlay spec =>
    refine .inl fun c hc => ?_
    obtain ⟨r, -, rfl⟩ := List.mem_map.mp hc
    rfl
  | deleteUnderlay spec =>
    refine .inl fun c hc => ?_
    obtain ⟨r, -, rfl⟩ := List.mem_map.mp hc
    rfl
  | createVpn spec =>
    refine .inl fun c hc => ?_
    rcases List.mem_append.mp hc with hc | hc
    · obtain ⟨r, -, hc⟩ := List.mem_flatMap.mp hc
      rcases List.mem_cons.mp hc with rfl | hc
      · exact trivial
      · obtain ⟨v, -, rfl⟩ := List.mem_map.mp hc
        exact trivial
    · obtain ⟨r, -, rfl⟩ := List.mem_map.mp hc
      rfl
  | deleteVpn spec =>
    refine .inr fun c hc => ?_
    rcases List.mem_append.mp hc with hc | hc
    · obtain ⟨r, -, rfl⟩ := List.mem_map.mp hc
      exact trivial
    · obtain ⟨r, -, rfl⟩ := List.mem_map.mp hc
      rfl

/-- **Retries do not show.** Any calls of a handler, in any order and number, made before it runs
completely: every router gets the variables and the scripts that it gets without them. -/
theorem run_after_attempts (h : Handler) (attempts : List Call)
    (hattempts : ∀ c ∈ attempts, c ∈ h.calls) (routers : Routers) (name : String) :
    (h.run (attempts.foldl Call.perform routers)).vars name = (h.run routers).vars name ∧
      ∀ mode, (h.run (attempts.foldl Call.perform routers) name).map (Spec.script mode) =
        (h.run routers name).map (Spec.script mode) := by
  have hvars : (h.run (attempts.foldl Call.perform routers)).vars name =
      (h.run routers).vars name := by
    rw [run_eq_calls, run_eq_calls, vars_foldl_perform, vars_foldl_perform, vars_foldl_perform,
      Option.map_map]
    refine congrArg (Option.map · (routers.vars name)) (funext fun v => ?_)
    rcases creates_or_clears h with hcalls | hcalls
    · exact foldl_attempts (absorbing_creates name) hcalls hattempts v
    · exact foldl_attempts (absorbing_clears name) hcalls hattempts v
  refine ⟨hvars, fun mode => ?_⟩
  have hscript : ∀ routers' : Routers, (routers' name).map (Spec.script mode) =
      (routers'.vars name).map fun v => if v.Complete then some (v.commands mode) else none := by
    intro routers'
    unfold Routers.vars
    rw [Option.map_map]
    rfl
  rw [hscript, hscript, hvars]

/-- Two attempts, the first one without the interface. -/
theorem run_after_attempts_spoke :
    ∃ r, r ∈ spokeVpn.peEntries "pe1" ∧ ∃ v, v ∈ r.vrfList ∧
      ((Handler.createVpn spokeVpn).run
          ([Call.provide r, .provide r, .assign "pe1" v].foldl Call.perform
            (onlyRouter "pe1" peSpec))).vars "pe1" =
        ((Handler.createVpn spokeVpn).run (onlyRouter "pe1" peSpec)).vars "pe1" := by
  refine ⟨_, List.mem_cons_self, _, List.mem_cons_self,
    (run_after_attempts (.createVpn spokeVpn) _ (fun c hc => ?_) _ _).1⟩
  simp only [List.mem_cons, List.not_mem_nil, or_false] at hc
  rcases hc with rfl | rfl | rfl
  · exact List.mem_cons_self
  · exact List.mem_cons_self
  · exact List.mem_cons_of_mem _ List.mem_cons_self

end GnnSandbox.Vyos
