import GnnSandbox.Vyos.Deletion
import GnnSandbox.Vyos.Histories
import Mathlib.Data.List.AList

/-!
# The VRFs of the live VPNs

Several VPNs write into one router. The create handler merges what the spec gives into what is
there, and the update handler is the create handler: it sees the new spec and not the old one. The
VRFs of a router are those of the live VPNs when an update names again what it named before
(`specs_merged`).

1. `Vars.Merged`: what a router holds, by the live VPNs and all specs so far.
2. `merged_join`, `merged_leave`: the handlers on one router.
3. `specs_merged`: runs of handlers.
-/

namespace GnnSandbox.Vyos

open MergePatch Overwrite Transition

/-! ## What a router holds -/

/-- The names of the BGP VRFs that a VPN gives a router. -/
def L3vpn.bgpNames (vpn : L3vpn) (name : String) : List String :=
  ((vpn.peEntries name).flatMap PeRouter.bgpVrfList).map (·.name)

/-- The VRFs of a VPN for a router, by entry. -/
def L3vpn.vrfLayers (name : String) (vpn : L3vpn) : List (List Vrf) :=
  (vpn.peEntries name).map PeRouter.routerVrfs

/-- The BGP VRFs of a VPN for a router, by entry. -/
def L3vpn.bgpLayers (name : String) (vpn : L3vpn) : List (List BgpVrf) :=
  (vpn.peEntries name).map PeRouter.bgpVrfList

/-- The keys of `protocols.bgp` but for `vrfs`. -/
def Protocols.bgpRest (p : Protocols) : Bgp := (p.bgp.getD {}).withoutVrfs

/-- The VRFs of a router are those of the live VPNs, and those from the start that none of the specs
named; an interface has a VRF exactly when a live VPN assigns it. -/
structure Vars.MergedVrfs (v first : Vars) (live past : List L3vpn) (name : String) : Prop where
  vrfs : Pooled Vrf.name (L3vpn.vrfLayers name) v.vrfs first.vrfs live past
  interfaces : ∀ i ∈ v.interfaces, i.vrf.isSome = true ↔ ∃ vpn ∈ live, i.name ∈ vpn.assigned name

/-- The BGP VRFs of a router are those of the live VPNs, and those from the start that none of the
specs named; the rest of BGP is as at the start. -/
structure Vars.MergedBgp (v first : Vars) (live past : List L3vpn) (name : String) : Prop where
  bgpVrfs : Pooled BgpVrf.name (L3vpn.bgpLayers name) v.protocols.bgpVrfs first.protocols.bgpVrfs
    live past
  rest : v.protocols.bgpRest = first.protocols.bgpRest

/-! ## The handlers on one router -/

/-- The names of two VPNs on a router are different. -/
def L3vpn.Apart (vpn other : L3vpn) (name : String) : Prop :=
  ∀ vrf ∈ vpn.vrfNames name ++ vpn.bgpNames name,
    vrf ∉ other.vrfNames name ++ other.bgpNames name

/-- A VPN that names each VRF once on a router, none of which another VPN names, and assigns
interfaces of which there is at most one. -/
structure L3vpn.Joins (vpn : L3vpn) (others : List L3vpn) (name : String) (v : Vars) : Prop where
  vrfs : (vpn.vrfNames name).Nodup
  bgpVrfs : (vpn.bgpNames name).Nodup
  apart : ∀ other ∈ others, vpn.Apart other name
  single : ∀ i ∈ vpn.assigned name, (v.interfaces.map (·.name)).count i ≤ 1

/-- A VPN names again the VRFs that its old spec named on a router, and assigns again the
interfaces that no other VPN assigns. -/
structure L3vpn.Replaces (vpn old : L3vpn) (others : List L3vpn) (name : String) (v : Vars) :
    Prop where
  vrfs : ∀ vrf ∈ old.vrfNames name, vrf ∈ vpn.vrfNames name
  bgpVrfs : ∀ vrf ∈ old.bgpNames name, vrf ∈ vpn.bgpNames name
  assigned : ∀ i ∈ v.interfaces, i.name ∈ old.assigned name →
    i.name ∈ vpn.assigned name ∨ ∃ other ∈ others, i.name ∈ other.assigned name

/-- A VPN takes its own things away: among the BGP VRFs of a router, those with the name of one of
its VRFs are those that it gave, and no other VPN assigns its interfaces. -/
structure L3vpn.Leaves (vpn : L3vpn) (others : List L3vpn) (name : String) (v : Vars) : Prop where
  bgpVrfs : ∀ b ∈ v.protocols.bgpVrfs, b.name ∈ vpn.vrfNames name ↔ b.name ∈ vpn.bgpNames name
  interfaces : ∀ i ∈ v.interfaces, i.name ∈ vpn.assigned name →
    ∀ other ∈ others, i.name ∉ other.assigned name

theorem assignFirst_cons_of_eq {a : String × String} {i : Interface} (h : i.name = a.1)
    (l : List Interface) : assignFirst (i :: l) a = { i with vrf := some a.2 } :: l :=
  if_pos (decide_eq_true h)

theorem assignFirst_cons_of_ne {a : String × String} {i : Interface} (h : i.name ≠ a.1)
    (l : List Interface) : assignFirst (i :: l) a = i :: assignFirst l a :=
  if_neg (by simpa using h)

/-- The first interface of a name is all of them. -/
theorem vrf_assignFirst {a : String × String} {l : List Interface}
    (hsingle : (l.map (·.name)).count a.1 ≤ 1) {i : Interface} (hi : i ∈ assignFirst l a)
    (hname : i.name = a.1) : i.vrf = some a.2 := by
  induction l with
  | nil => cases hi
  | cons b l ih =>
    rw [List.map_cons, List.count_cons] at hsingle
    by_cases hb : b.name = a.1
    · rw [assignFirst_cons_of_eq hb] at hi
      rcases List.mem_cons.mp hi with rfl | hi
      · rfl
      · rw [hb, beq_self_eq_true, if_pos rfl] at hsingle
        have hmem : a.1 ∈ l.map (·.name) := List.mem_map.mpr ⟨i, hi, hname⟩
        have hpos := List.count_pos_iff.mpr hmem
        omega
    · rw [assignFirst_cons_of_ne hb] at hi
      rcases List.mem_cons.mp hi with rfl | hi
      · exact absurd hname hb
      · exact ih (le_trans (Nat.le_add_right _ _) hsingle) hi

/-- Interfaces that are assigned have a VRF afterwards. -/
theorem isSome_of_assigned {as : List (String × String)} {l : List Interface} {i : Interface}
    (hsingle : (l.map (·.name)).count i.name ≤ 1) (hin : i.name ∈ as.map Prod.fst)
    (hi : i ∈ assignAll l as) : i.vrf.isSome = true := by
  induction as generalizing l with
  | nil => cases hin
  | cons a as ih =>
    change i ∈ assignAll (assignFirst l a) as at hi
    have hnames : (assignFirst l a).map (·.name) = l.map (·.name) := by
      refine map_modifyFirst (fun j => ?_) l
      rfl
    by_cases htail : i.name ∈ as.map Prod.fst
    · exact ih (hnames ▸ hsingle) htail hi
    · have hname : i.name = a.1 := by
        rw [List.map_cons, List.mem_cons] at hin
        exact hin.resolve_right htail
      obtain ⟨j, hj, hkey, hvrf | ⟨b, -, -, hvrf⟩⟩ := mem_assignAll hi
      · have hjname : j.name = a.1 := (Prod.mk.inj hkey).1.trans hname
        rw [hvrf, vrf_assignFirst (hname ▸ hsingle) hj hjname]
        rfl
      · rw [hvrf]
        rfl

theorem map_fst_assigns (entries : List PeRouter) :
    (entries.flatMap PeRouter.assigns).map Prod.fst = entries.flatMap PeRouter.assignedInterfaces := by
  rw [List.map_flatMap]
  congr 1
  funext r
  unfold PeRouter.assigns PeRouter.assignedInterfaces
  rw [List.map_flatMap]
  simp only [List.map_map, Function.comp_def, List.map_id']

section Steps

variable {vpn : L3vpn} {live others past : List L3vpn} {name : String} {v first : Vars}

theorem mergedVrfs_join (h : v.MergedVrfs first live past name) (hjoins : vpn.Joins others name v)
    (hlive : ∀ o ∈ live, o ∈ others ∨ vpn.Replaces o others name v)
    (hothers : ∀ o ∈ others, o ∈ live) :
    (vpn.onVars name v).MergedVrfs first (vpn :: others) (vpn :: past) name where
  vrfs := by
    refine h.vrfs.join ?_ (fun o ho => (hlive o ho).imp_right fun hrep => ?_) fun o ho => ?_
    · exact (keysOf_routerVrfs vpn name).symm ▸ hjoins.vrfs
    · rw [L3vpn.vrfLayers, L3vpn.vrfLayers, keysOf_routerVrfs, keysOf_routerVrfs]
      exact hrep.vrfs
    · rw [L3vpn.vrfLayers, L3vpn.vrfLayers, keysOf_routerVrfs, keysOf_routerVrfs]
      exact ⟨hothers o ho, fun k hk hin => hjoins.apart o ho k (List.mem_append_left _ hin)
        (List.mem_append_left _ hk)⟩
  interfaces := by
    intro i' hi'
    obtain ⟨i, hi, hkey, hvrf⟩ := mem_assignAll hi'
    have hname : i.name = i'.name := (Prod.mk.inj hkey).1
    rw [List.exists_mem_cons_iff, ← hname]
    constructor
    · intro hsome
      rcases hvrf with hvrf | ⟨a, ha, haname, -⟩
      · rw [hvrf] at hsome
        obtain ⟨o, ho, hin⟩ := (h.interfaces i hi).mp hsome
        rcases hlive o ho with ho | hrep
        · exact .inr ⟨o, ho, hin⟩
        · exact hrep.assigned i hi hin
      · exact .inl (haname ▸ assigns_fst ha)
    · rintro (hin | ⟨o, ho, hin⟩)
      · have hsingle : (v.interfaces.map (·.name)).count i'.name ≤ 1 :=
          hname ▸ hjoins.single i.name hin
        refine isSome_of_assigned hsingle ?_ hi'
        rw [map_fst_assigns, ← hname]
        exact hin
      · have hsome := (h.interfaces i hi).mpr ⟨o, hothers o ho, hin⟩
        rcases hvrf with hvrf | ⟨a, -, -, hvrf⟩
        · rw [hvrf]
          exact hsome
        · rw [hvrf]
          rfl

theorem bgpVrfs_provided (p : Protocols) (entries : List PeRouter) :
    (p.provided entries).bgpVrfs =
      overwriteAll BgpVrf.name p.bgpVrfs (entries.map PeRouter.bgpVrfList) := by
  by_cases h : entries = []
  · rw [h]
    rfl
  · rw [provided_of_ne_nil h, bgpVrfs_withBgpVrfs]

theorem bgpRest_provided (p : Protocols) (entries : List PeRouter) :
    (p.provided entries).bgpRest = p.bgpRest := by
  unfold Protocols.provided
  split <;> rfl

theorem mergedBgp_join (h : v.MergedBgp first live past name) (hjoins : vpn.Joins others name v)
    (hlive : ∀ o ∈ live, o ∈ others ∨ vpn.Replaces o others name v)
    (hothers : ∀ o ∈ others, o ∈ live) (hgiven : (vpn.given name).bgp = none) :
    (vpn.onVars name v).MergedBgp first (vpn :: others) (vpn :: past) name := by
  have hbgp : (vpn.onVars name v).protocols.bgp =
      (v.protocols.provided (vpn.peEntries name)).bgp :=
    congrArg (object (v.protocols.provided (vpn.peEntries name)).bgp) hgiven
  constructor
  · have hvrfs : (vpn.onVars name v).protocols.bgpVrfs =
        overwriteAll BgpVrf.name v.protocols.bgpVrfs (vpn.bgpLayers name) := by
      rw [L3vpn.bgpLayers, ← bgpVrfs_provided, Protocols.bgpVrfs, hbgp]
      rfl
    rw [hvrfs]
    refine h.bgpVrfs.join ?_ (fun o ho => (hlive o ho).imp_right fun hrep => ?_) fun o ho => ?_
    · rw [L3vpn.bgpLayers, keysOf_bgpVrfs]
      exact hjoins.bgpVrfs
    · rw [L3vpn.bgpLayers, L3vpn.bgpLayers, keysOf_bgpVrfs, keysOf_bgpVrfs]
      exact hrep.bgpVrfs
    · rw [L3vpn.bgpLayers, L3vpn.bgpLayers, keysOf_bgpVrfs, keysOf_bgpVrfs]
      exact ⟨hothers o ho, fun k hk hin => hjoins.apart o ho k (List.mem_append_right _ hin)
        (List.mem_append_right _ hk)⟩
  · rw [Protocols.bgpRest, hbgp]
    exact (bgpRest_provided _ _).trans h.rest

theorem mergedVrfs_leave (hname : name ≠ "") (h : v.MergedVrfs first live past name)
    (hleaves : vpn.Leaves others name v) (hpast : vpn ∈ past)
    (hlive : ∀ o, o ∈ live ↔ o = vpn ∨ o ∈ others) (hapart : ∀ o ∈ others, vpn.Apart o name) :
    (vpn.clear name v).MergedVrfs first others past name := by
  rw [clear_eq hname]
  constructor
  · refine h.vrfs.leave (fun o ho => ?_) (fun o ho => ⟨(hlive o).mpr (.inr ho), fun k hk => ?_⟩)
      fun w _ hw => ⟨vpn, hpast, ?_⟩
    · rcases (hlive o).mp ho with rfl | ho
      · rw [L3vpn.vrfLayers, keysOf_routerVrfs]
        exact .inr fun _ => id
      · exact .inl ho
    · rw [L3vpn.vrfLayers, keysOf_routerVrfs] at hk
      exact fun hin => hapart o ho k (List.mem_append_left _ hin) (List.mem_append_left _ hk)
    · rw [L3vpn.vrfLayers, keysOf_routerVrfs]
      exact hw
  · intro i' hi'
    obtain ⟨i, hi, rfl⟩ := List.mem_map.mp hi'
    unfold Interface.cleared
    split
    · rename_i hassigned
      refine iff_of_false (by nofun) ?_
      rintro ⟨o, ho, hin⟩
      exact hleaves.interfaces i hi hassigned o ho hin
    · rename_i hassigned
      rw [h.interfaces i hi]
      constructor
      · rintro ⟨o, ho, hin⟩
        rcases (hlive o).mp ho with rfl | ho
        · exact absurd hin hassigned
        · exact ⟨o, ho, hin⟩
      · rintro ⟨o, ho, hin⟩
        exact ⟨o, (hlive o).mpr (.inr ho), hin⟩

theorem mergedBgp_leave (hname : name ≠ "") (h : v.MergedBgp first live past name)
    (hleaves : vpn.Leaves others name v) (hpast : vpn ∈ past)
    (hlive : ∀ o, o ∈ live ↔ o = vpn ∨ o ∈ others) (hapart : ∀ o ∈ others, vpn.Apart o name) :
    (vpn.clear name v).MergedBgp first others past name := by
  have hvrfs : (vpn.clear name v).protocols.bgpVrfs =
      without BgpVrf.name (vpn.vrfNames name) v.protocols.bgpVrfs := by
    rw [clear_eq hname]
    by_cases hentries : vpn.peEntries name = []
    · simp only [L3vpn.vrfNames, hentries, List.flatMap_nil, without_nil_keys, ↓reduceIte]
    · simp only [if_neg hentries, bgpVrfs_withBgpVrfs]
  constructor
  · rw [hvrfs]
    refine h.bgpVrfs.leave (fun o ho => ?_) (fun o ho => ⟨(hlive o).mpr (.inr ho), fun k hk => ?_⟩)
      fun b hb hin => ⟨vpn, hpast, ?_⟩
    · rcases (hlive o).mp ho with rfl | ho
      · -- the entries that the VPN gave are there, so the filter finds their names
        refine .inr fun k hk => ?_
        obtain ⟨layer, hlayer, hk⟩ := List.mem_flatMap.mp hk
        obtain ⟨b, hb, rfl⟩ := List.mem_map.mp hk
        have hmem := (h.bgpVrfs.mem_iff b).mpr (.inl ⟨o, ho, layer, hlayer, hb⟩)
        refine (hleaves.bgpVrfs b hmem).mpr ?_
        rw [L3vpn.bgpNames, ← keysOf_bgpVrfs]
        exact key_mem_keysOf ⟨layer, hlayer, hb⟩
      · exact .inl ho
    · rw [L3vpn.bgpLayers, keysOf_bgpVrfs] at hk
      exact fun hin => hapart o ho k (List.mem_append_left _ hin) (List.mem_append_right _ hk)
    · rw [L3vpn.bgpLayers, keysOf_bgpVrfs]
      exact (hleaves.bgpVrfs b hb).mp hin
  · rw [← h.rest, clear_eq hname]
    by_cases hentries : vpn.peEntries name = []
    · simp only [if_pos hentries]
    · simp only [if_neg hentries]
      rfl

end Steps

/-! ## Runs -/

/-- The routers, the live VPNs by name, and all specs that were applied, which no handler reads. -/
structure VpnState where
  routers : Routers
  live : AList fun _ : String => L3vpn
  past : List L3vpn

inductive VpnEvent where
  | create (name : String) (spec : L3vpn)
  | update (name : String) (spec : L3vpn)
  | delete (name : String)

namespace VpnState

variable (s : VpnState)

/-- Before the first VPN. -/
def start (routers : Routers) : VpnState := ⟨routers, ∅, []⟩

/-- The specs of the live VPNs. -/
def specs : List L3vpn := s.live.entries.map (·.2)

/-- The specs of the live VPNs of other names. -/
def others (name : String) : List L3vpn := (s.live.erase name).entries.map (·.2)

/-- A spec is created or updated. -/
def applied (name : String) (spec : L3vpn) : VpnState where
  routers := applyVpn spec s.routers
  live := s.live.insert name spec
  past := spec :: s.past

/-- A VPN with this spec is deleted. -/
def deleted (name : String) (spec : L3vpn) : VpnState where
  routers := deleteVpn spec s.routers
  live := s.live.erase name
  past := s.past

end VpnState

/-- A handler; only a VPN that is live can be updated or deleted. -/
def VpnEvent.step (s : VpnState) : VpnEvent → Option VpnState
  | .create name spec => if name ∈ s.live then none else some (s.applied name spec)
  | .update name spec => if name ∈ s.live then some (s.applied name spec) else none
  | .delete name => (s.live.lookup name).map fun spec => s.deleted name spec

/-- The routers that are PE routers of a VPN. -/
def L3vpn.peNames (vpn : L3vpn) : List String := (vpn.routers.getD []).map (·.name)

/-- A spec joins the live VPNs on its PE routers, replaces its old one, and no VPN gives BGP to a CE
router that is a PE router of a VPN. -/
structure VpnState.Admits (s : VpnState) (name : String) (spec : L3vpn) : Prop where
  joins : ∀ n ∈ spec.peNames, ∀ v ∈ s.routers.vars n, spec.Joins (s.others name) n v
  replaces : ∀ old ∈ s.live.lookup name, ∀ n ∈ old.peNames, ∀ v ∈ s.routers.vars n,
    spec.Replaces old (s.others name) n v
  roles : ∀ vpn ∈ spec :: s.past, ∀ other ∈ spec :: s.past, ∀ n ∈ vpn.peNames,
    (other.given n).bgp = none

/-- A handler fits the routers and the live VPNs that it finds. -/
def VpnEvent.Fits (s : VpnState) : VpnEvent → Prop
  | .create name spec => s.Admits name spec
  | .update name spec => s.Admits name spec
  | .delete name => ∀ spec ∈ s.live.lookup name, ∀ n ∈ spec.peNames, ∀ v ∈ s.routers.vars n,
      spec.Leaves (s.others name) n v

/-- Every PE router holds what the live VPNs give and what there was at the start. -/
def VpnState.Merged (first : Routers) (s : VpnState) : Prop :=
  ∀ name, (∃ vpn ∈ s.past, name ∈ vpn.peNames) → ∀ v ∈ s.routers.vars name,
    ∃ v₀ ∈ first.vars name, v.MergedVrfs v₀ s.specs s.past name ∧ v.MergedBgp v₀ s.specs s.past name

/-- A router at the start: it names each VRF once, and no interface has one. -/
structure Vars.Clean (v : Vars) : Prop where
  vrfs : (v.vrfs.map (·.name)).Nodup
  bgpVrfs : (v.protocols.bgpVrfs.map (·.name)).Nodup
  interfaces : ∀ i ∈ v.interfaces, i.vrf = none

/-- What every handler keeps. -/
structure VpnState.Inv (first : Routers) (s : VpnState) : Prop where
  merged : ∀ n, ∀ v ∈ s.routers.vars n, ∃ v₀ ∈ first.vars n, v.MergedVrfs v₀ s.specs s.past n ∧
    ((∀ vpn ∈ s.past, (vpn.given n).bgp = none) → v.MergedBgp v₀ s.specs s.past n)
  apart : ∀ n, ∀ v ∈ s.routers.vars n, ∀ m m', m ≠ m' → ∀ vpn ∈ s.live.lookup m,
    ∀ other ∈ s.live.lookup m', vpn.Apart other n
  past : ∀ vpn ∈ s.specs, vpn ∈ s.past
  roles : ∀ vpn ∈ s.past, ∀ other ∈ s.past, ∀ n ∈ vpn.peNames, (other.given n).bgp = none

section Runs

variable {s : VpnState} {first : Routers} {name n : String} {spec vpn other : L3vpn}

theorem mem_specs : vpn ∈ s.specs ↔ ∃ m, vpn ∈ s.live.lookup m := by
  unfold VpnState.specs
  rw [List.mem_map]
  constructor
  · rintro ⟨⟨m, vpn⟩, h, rfl⟩
    exact ⟨m, AList.mem_lookup_iff.mpr h⟩
  · rintro ⟨m, h⟩
    exact ⟨⟨m, vpn⟩, AList.mem_lookup_iff.mp h, rfl⟩

theorem mem_others : vpn ∈ s.others name ↔ ∃ m ≠ name, vpn ∈ s.live.lookup m := by
  have hspecs := @mem_specs (s.deleted name vpn) vpn
  refine hspecs.trans ⟨?_, ?_⟩
  · rintro ⟨m, h⟩
    change (s.live.erase name).lookup m = some vpn at h
    by_cases hm : m = name
    · rw [hm, AList.lookup_erase] at h
      cases h
    · rw [AList.lookup_erase_ne hm] at h
      exact ⟨m, hm, h⟩
  · rintro ⟨m, hm, h⟩
    exact ⟨m, (AList.lookup_erase_ne hm).trans h⟩

theorem L3vpn.Apart.symm (h : vpn.Apart other n) : other.Apart vpn n :=
  fun vrf hvrf hin => h vrf hin hvrf

theorem peEntries_eq_nil (h : n ∉ vpn.peNames) : vpn.peEntries n = [] := by
  refine List.filter_eq_nil_iff.mpr fun r hr hrname => h ?_
  exact List.mem_map.mpr ⟨r, hr, of_decide_eq_true hrname⟩

/-- A VPN without an entry for a router joins the others there. -/
theorem joins_of_notMem (h : n ∉ vpn.peNames) (others : List L3vpn) (v : Vars) :
    vpn.Joins others n v := by
  have hnil := peEntries_eq_nil h
  constructor
  · rw [L3vpn.vrfNames, hnil]
    exact List.nodup_nil
  · rw [L3vpn.bgpNames, hnil]
    exact List.nodup_nil
  · intro other _ vrf hvrf
    rw [L3vpn.vrfNames, L3vpn.bgpNames, hnil] at hvrf
    cases hvrf
  · intro i hi
    rw [L3vpn.assigned, hnil] at hi
    cases hi

theorem replaces_of_notMem (h : n ∉ other.peNames) (others : List L3vpn) (v : Vars) :
    vpn.Replaces other others n v := by
  have hnil := peEntries_eq_nil h
  constructor
  · intro vrf hvrf
    rw [L3vpn.vrfNames, hnil] at hvrf
    cases hvrf
  · intro vrf hvrf
    rw [L3vpn.bgpNames, hnil] at hvrf
    cases hvrf
  · intro i _ hi
    rw [L3vpn.assigned, hnil] at hi
    cases hi

theorem leaves_of_notMem (h : n ∉ vpn.peNames) (others : List L3vpn) (v : Vars) :
    vpn.Leaves others n v := by
  have hnil := peEntries_eq_nil h
  constructor
  · intro b _
    rw [L3vpn.vrfNames, L3vpn.bgpNames, hnil]
    exact Iff.rfl
  · intro i _ hi
    rw [L3vpn.assigned, hnil] at hi
    cases hi

theorem VpnState.Admits.joins_all (h : s.Admits name spec) {v : Vars}
    (hv : v ∈ s.routers.vars n) : spec.Joins (s.others name) n v := by
  by_cases hn : n ∈ spec.peNames
  · exact h.joins n hn v hv
  · exact joins_of_notMem hn _ _

theorem inv_applied (h : s.Inv first) (hadmits : s.Admits name spec) :
    (s.applied name spec).Inv first where
  merged := by
    intro n v' hv'
    change v' ∈ (applyVpn spec s.routers).vars n at hv'
    rw [vars_applyVpn] at hv'
    obtain ⟨v, hv, rfl⟩ := Option.map_eq_some_iff.mp hv'
    obtain ⟨v₀, hv₀, hvrfs, hbgp⟩ := h.merged n v hv
    have hjoins := hadmits.joins_all hv
    have hlive : ∀ o ∈ s.specs, o ∈ s.others name ∨ spec.Replaces o (s.others name) n v := by
      intro o ho
      obtain ⟨m, hm⟩ := mem_specs.mp ho
      by_cases hname : m = name
      · refine .inr ?_
        by_cases hn : n ∈ o.peNames
        · exact hadmits.replaces o (hname ▸ hm) n hn v hv
        · exact replaces_of_notMem hn _ _
      · exact .inl (mem_others.mpr ⟨m, hname, hm⟩)
    have hothers : ∀ o ∈ s.others name, o ∈ s.specs := by
      intro o ho
      obtain ⟨m, -, hm⟩ := mem_others.mp ho
      exact mem_specs.mpr ⟨m, hm⟩
    refine ⟨v₀, hv₀, mergedVrfs_join hvrfs hjoins hlive hothers, fun hgiven => ?_⟩
    exact mergedBgp_join (hbgp fun o ho => hgiven o (List.mem_cons_of_mem _ ho)) hjoins hlive hothers
      (hgiven spec List.mem_cons_self)
  apart := by
    intro n v' hv' m m' hne vpn hvpn other hother
    change v' ∈ (applyVpn spec s.routers).vars n at hv'
    rw [vars_applyVpn] at hv'
    obtain ⟨v, hv, rfl⟩ := Option.map_eq_some_iff.mp hv'
    have hapart := (hadmits.joins_all hv).apart
    change (s.live.insert name spec).lookup m = some vpn at hvpn
    change (s.live.insert name spec).lookup m' = some other at hother
    by_cases hm : m = name
    · rw [hm, AList.lookup_insert] at hvpn
      obtain rfl := Option.some.inj hvpn
      have hm' : m' ≠ name := fun heq => hne (hm.trans heq.symm)
      rw [AList.lookup_insert_ne hm'] at hother
      exact hapart other (mem_others.mpr ⟨m', hm', hother⟩)
    · rw [AList.lookup_insert_ne hm] at hvpn
      by_cases hm' : m' = name
      · rw [hm', AList.lookup_insert] at hother
        obtain rfl := Option.some.inj hother
        exact (hapart vpn (mem_others.mpr ⟨m, hm, hvpn⟩)).symm
      · rw [AList.lookup_insert_ne hm'] at hother
        exact h.apart n v hv m m' hne vpn hvpn other hother
  past := by
    rintro o (_ | ⟨_, ho⟩)
    · exact List.mem_cons_self
    · obtain ⟨m, -, hm⟩ := mem_others.mp ho
      exact List.mem_cons_of_mem _ (h.past o (mem_specs.mpr ⟨m, hm⟩))
  roles := hadmits.roles

theorem inv_deleted (hnamed : first "" = none) (h : s.Inv first)
    (hlookup : s.live.lookup name = some spec)
    (hleaves : ∀ n ∈ spec.peNames, ∀ v ∈ s.routers.vars n, spec.Leaves (s.others name) n v) :
    (s.deleted name spec).Inv first where
  merged := by
    intro n v' hv'
    change v' ∈ (deleteVpn spec s.routers).vars n at hv'
    rw [vars_deleteVpn] at hv'
    obtain ⟨v, hv, rfl⟩ := Option.map_eq_some_iff.mp hv'
    obtain ⟨v₀, hv₀, hvrfs, hbgp⟩ := h.merged n v hv
    have hn : n ≠ "" := by
      rintro rfl
      rw [Routers.vars, hnamed] at hv₀
      cases hv₀
    have hleaves : spec.Leaves (s.others name) n v := by
      by_cases hmem : n ∈ spec.peNames
      · exact hleaves n hmem v hv
      · exact leaves_of_notMem hmem _ _
    have hpast : spec ∈ s.past := h.past spec (mem_specs.mpr ⟨name, hlookup⟩)
    have hlive : ∀ o, o ∈ s.specs ↔ o = spec ∨ o ∈ s.others name := by
      intro o
      rw [mem_specs, mem_others]
      constructor
      · rintro ⟨m, hm⟩
        by_cases hname : m = name
        · rw [hname, hlookup] at hm
          exact .inl (Option.some.inj hm).symm
        · exact .inr ⟨m, hname, hm⟩
      · rintro (rfl | ⟨m, -, hm⟩)
        · exact ⟨name, hlookup⟩
        · exact ⟨m, hm⟩
    have hapart : ∀ o ∈ s.others name, spec.Apart o n := by
      intro o ho
      obtain ⟨m, hm, hmem⟩ := mem_others.mp ho
      exact h.apart n v hv name m hm.symm spec hlookup o hmem
    exact ⟨v₀, hv₀, mergedVrfs_leave hn hvrfs hleaves hpast hlive hapart,
      fun hgiven => mergedBgp_leave hn (hbgp hgiven) hleaves hpast hlive hapart⟩
  apart := by
    intro n v' hv' m m' hne vpn hvpn other hother
    change v' ∈ (deleteVpn spec s.routers).vars n at hv'
    rw [vars_deleteVpn] at hv'
    obtain ⟨v, hv, rfl⟩ := Option.map_eq_some_iff.mp hv'
    -- what is live afterwards was live before
    have hlive {m : String} {o : L3vpn} (ho : (s.live.erase name).lookup m = some o) :
        s.live.lookup m = some o := by
      by_cases hm : m = name
      · rw [hm, AList.lookup_erase] at ho
        cases ho
      · rwa [AList.lookup_erase_ne hm] at ho
    exact h.apart n v hv m m' hne vpn (hlive hvpn) other (hlive hother)
  past := by
    intro o ho
    obtain ⟨m, -, hm⟩ := mem_others.mp ho
    exact h.past o (mem_specs.mpr ⟨m, hm⟩)
  roles := h.roles

theorem inv_start (hclean : ∀ n, ∀ v ∈ first.vars n, v.Clean) :
    (VpnState.start first).Inv first where
  merged := by
    intro n v hv
    have hv := hclean n v hv
    refine ⟨v, ‹_›, ⟨.start hv.vrfs, fun i hi => ?_⟩, fun _ => ⟨.start hv.bgpVrfs, rfl⟩⟩
    rw [hv.interfaces i hi]
    exact iff_of_false (by nofun) (by rintro ⟨_, ⟨⟩, _⟩)
  apart := by
    rintro n v _ m m' _ vpn ⟨⟩
  past := by
    rintro o ⟨⟩
  roles := by
    rintro o ⟨⟩

theorem inv_step (hnamed : first "" = none) (e : VpnEvent) {s' : VpnState} (h : s.Inv first)
    (hfits : e.Fits s) (hstep : e.step s = some s') : s'.Inv first := by
  cases e with
  | create name spec =>
    change (if name ∈ s.live then none else some (s.applied name spec)) = some s' at hstep
    split at hstep
    · cases hstep
    · obtain rfl := Option.some.inj hstep
      exact inv_applied h hfits
  | update name spec =>
    change (if name ∈ s.live then some (s.applied name spec) else none) = some s' at hstep
    split at hstep
    · obtain rfl := Option.some.inj hstep
      exact inv_applied h hfits
    · cases hstep
  | delete name =>
    obtain ⟨spec, hspec, rfl⟩ := Option.map_eq_some_iff.mp hstep
    exact inv_deleted hnamed h hspec (hfits spec hspec)

end Runs

/-- **The VRFs of the live VPNs.** When every handler fits what it finds, a PE router always has the
VRFs and BGP VRFs of the live VPNs and those that no VPN ever named, its interfaces have a VRF
exactly when a live VPN assigns them, and the rest of its BGP is as at the start. No resource has
an empty name. -/
theorem specs_merged {first : Routers} {events : List VpnEvent} (hnamed : first "" = none)
    (hclean : ∀ n, ∀ v ∈ first.vars n, v.Clean)
    (h : Throughout VpnEvent.step VpnEvent.Fits (.start first) events) :
    Always VpnEvent.step (VpnState.Merged first) (.start first) events := by
  rintro before after s rfl hrun
  have hinv : s.Inv first := run_invariant (fun s e s' hs hfits => inv_step hnamed e hs hfits)
    (inv_start hclean) ((throughout_append hrun).mp h).1 hrun
  rintro name ⟨vpn, hvpn, hname⟩ v hv
  obtain ⟨v₀, hv₀, hvrfs, hbgp⟩ := hinv.merged name v hv
  exact ⟨v₀, hv₀, hvrfs, hbgp fun other hother => hinv.roles vpn hvpn other hother name hname⟩

/-! ## Runs in the sandbox -/

section

variable (vpn old other : L3vpn) (others : List L3vpn) (name : String) (v : Vars)

instance : Decidable (vpn.Apart other name) := by
  unfold L3vpn.Apart
  infer_instance

instance : Decidable (vpn.Joins others name v) :=
  decidable_of_iff (_ ∧ _ ∧ _ ∧ _) ⟨fun h => ⟨h.1, h.2.1, h.2.2.1, h.2.2.2⟩,
    fun h => ⟨h.vrfs, h.bgpVrfs, h.apart, h.single⟩⟩

instance : Decidable (vpn.Replaces old others name v) :=
  decidable_of_iff (_ ∧ _ ∧ _) ⟨fun h => ⟨h.1, h.2.1, h.2.2⟩,
    fun h => ⟨h.vrfs, h.bgpVrfs, h.assigned⟩⟩

instance : Decidable (vpn.Leaves others name v) :=
  decidable_of_iff (_ ∧ _) ⟨fun h => ⟨h.1, h.2⟩, fun h => ⟨h.bgpVrfs, h.interfaces⟩⟩

instance (s : VpnState) : Decidable (s.Admits name vpn) :=
  decidable_of_iff (_ ∧ _ ∧ _) ⟨fun h => ⟨h.1, h.2.1, h.2.2⟩,
    fun h => ⟨h.joins, h.replaces, h.roles⟩⟩

instance (s : VpnState) (e : VpnEvent) : Decidable (e.Fits s) := by
  cases e <;> dsimp only [VpnEvent.Fits] <;> infer_instance

end

/-- A VPN with this VRF on the port of the PE router. -/
def vpnWith (vrf : String) : L3vpn where
  routers := some
    [{ name := "pe1",
       vrfs := some [⟨{ name := vrf, table := 102 }, some ["eth1"]⟩],
       bgp := some { vrfs := some [{ name := vrf }] } }]

theorem clean_peSpec : ∀ n, ∀ v ∈ (onlyRouter "pe1" peSpec).vars n, v.Clean := by
  intro n v hv
  obtain ⟨spec, hspec, rfl⟩ := Option.map_eq_some_iff.mp hv
  obtain ⟨-, rfl⟩ := eq_of_mem_onlyRouter hspec
  exact ⟨by decide, by decide, by decide⟩

/-- A VPN comes, is updated and goes. -/
theorem sample_specs_merged : Always VpnEvent.step (VpnState.Merged (onlyRouter "pe1" peSpec))
    (.start (onlyRouter "pe1" peSpec))
    [.create "blue" (vpnWith "BLUE_SPOKE"), .update "blue" (vpnWith "BLUE_SPOKE"),
      .delete "blue"] :=
  specs_merged rfl clean_peSpec (by decide)

/-- An update with another VRF leaves the old one on the router. -/
theorem renamed_vrf_stays :
    (∀ n, ∀ v ∈ (onlyRouter "pe1" peSpec).vars n, v.Clean) ∧
    ¬Always VpnEvent.step (VpnState.Merged (onlyRouter "pe1" peSpec))
      (.start (onlyRouter "pe1" peSpec))
      [.create "blue" (vpnWith "BLUE_SPOKE"), .update "blue" (vpnWith "RED_SPOKE")] := by
  refine ⟨clean_peSpec, fun h => ?_⟩
  have hmerged := h _ [] _ (List.append_nil _).symm rfl
  obtain ⟨v₀, hv₀, hvrfs, -⟩ :=
    hmerged "pe1" ⟨vpnWith "RED_SPOKE", List.mem_cons_self, by decide⟩ _ rfl
  obtain rfl := Option.some.inj hv₀
  have hold := (hvrfs.vrfs.mem_iff { name := "BLUE_SPOKE", table := 102 }).mp (by decide)
  exact absurd hold (by decide)

end GnnSandbox.Vyos
