import GnnSandbox.Lib.Transition
import GnnSandbox.Operator.Deletion

/-!
# Dependents and deletions

The check of an infrastructure looks for VPNs only on the underlays that still exist. It is enough
as long as no underlay is removed before its VPNs.

1. `checkDependents_eq_none`: the check passes only if no underlay refers to the infrastructure.
2. `change_of_step`: what an orderly event does to the references between resources.
3. `dependents_gone`: in an orderly run an infrastructure is only deleted when whatever was built
   on it is gone.
-/

namespace GnnSandbox.Operator.Deletion

open Dependency Relation Transition

variable {s s' t : State} {e : Event} {ref : Ref} {key key' : Key}

/-! ## References -/

/-- The uid of a resource and the name that it refers to. -/
def State.find (s : State) (key : Key) : Option (ℕ × Option String) :=
  (s.resources.lookup key).map fun r => (r.uid, r.parentRef)

/-- The resource that another one refers to. -/
def State.parent (s : State) (key : Key) : Option Key :=
  (s.find key).bind fun r => r.2.bind (parentKey key)

/-- No resource refers to this one. -/
def State.Free (s : State) (key : Key) : Prop := ∀ key', s.parent key' ≠ some key

theorem free_iff : s.Free key ↔
    ∀ entry ∈ s.resources.entries, entry.2.parentRef.bind (parentKey entry.1) ≠ some key := by
  constructor
  · intro h entry hentry hparent
    have hlookup : s.resources.lookup entry.1 = some entry.2 := AList.mem_lookup_iff.mpr hentry
    refine h entry.1 ?_
    unfold State.parent State.find
    rw [hlookup]
    exact hparent
  · intro h key' hparent
    obtain ⟨r, hfind, hname⟩ := Option.bind_eq_some_iff.mp hparent
    obtain ⟨cr, hlookup, rfl⟩ := Option.map_eq_some_iff.mp hfind
    exact h ⟨key', cr⟩ (AList.mem_lookup_iff.mp hlookup) hname

instance : Decidable (s.Free key) := decidable_of_iff _ free_iff.symm

/-- A resource with this uid exists. -/
def State.Exists (s : State) (uid : ℕ) : Prop := ∃ key parentRef, s.find key = some (uid, parentRef)

/-- One resource refers to another, by their uids. -/
def State.BuiltOn (s : State) (x y : ℕ) : Prop :=
  ∃ key key' parentRef parentRef', s.find key = some (x, parentRef) ∧ s.parent key = some key' ∧
    s.find key' = some (y, parentRef')

/-! ## The check -/

theorem mem_items {resources : Resources} {kind : Kind} {namespace_ : String}
    {cr : String × Resource} :
    cr ∈ items resources kind namespace_ ↔
      resources.lookup (kind, namespace_, cr.1) = some cr.2 := by
  rw [← Option.mem_def, AList.mem_lookup_iff]
  unfold items
  rw [List.mem_filterMap]
  constructor
  · rintro ⟨⟨key, r⟩, hmem, hcr⟩
    dsimp only at hcr
    split_ifs at hcr with hkey
    obtain rfl := Option.some.inj hcr
    obtain ⟨rfl, rfl⟩ := hkey
    exact hmem
  · intro hmem
    exact ⟨_, hmem, if_pos ⟨rfl, rfl⟩⟩

/-- Only the underlays decide: VPNs are looked for on the underlays that block already. -/
theorem listBlockingDependents_eq_nil {name : String}
    {underlays l3vpns : Except String (List (String × Resource))} :
    listBlockingDependents name underlays l3vpns = .ok [] ↔
      ∃ crs, underlays = .ok crs ∧ ∀ cr ∈ crs, cr.2.parentRef ≠ some name := by
  unfold listBlockingDependents
  cases underlays with
  | error message => simp [bind, Except.bind]
  | ok crs =>
    have hreferencing : (crs.filter fun cr => cr.2.parentRef = some name).map Prod.fst = [] ↔
        ∀ cr ∈ crs, cr.2.parentRef ≠ some name := by
      simp [List.filter_eq_nil_iff]
    simp only [bind, Except.bind, Except.ok.injEq, exists_eq_left']
    rw [← hreferencing]
    split_ifs with hnil
    · exact iff_of_true rfl hnil
    · refine iff_of_false (fun h => ?_) hnil
      cases l3vpns with
      | error message => cases h
      | ok vpns =>
        have happend := List.append_eq_nil_iff.mp (Except.ok.inj h)
        exact hnil (List.map_eq_nil_iff.mp happend.1)

/-- If the check passes, no underlay refers to the infrastructure. -/
theorem free_of_checkDependents {ans : CheckAnswers}
    (hcheck : checkDependents ref s.resources ans = none)
    (hinstalled : ¬(ans.underlays = .notFound ∧ items s.resources .underlay ref.1 ≠ [])) :
    s.Free (.infrastructure, ref) := by
  have hblocking : listBlockingDependents ref.2
      (ans.underlays.read (items s.resources .underlay ref.1))
      (ans.l3vpns.read (items s.resources .l3vpn ref.1)) = .ok [] := by
    unfold checkDependents at hcheck
    split at hcheck
    · cases hcheck
    · split at hcheck
      · cases hcheck
      · assumption
      · cases hcheck
  obtain ⟨crs, hread, hno⟩ := listBlockingDependents_eq_nil.mp hblocking
  have hcrs : crs = items s.resources .underlay ref.1 := by
    cases hlisting : ans.underlays with
    | listed => exact (Except.ok.inj (hlisting ▸ hread)).symm
    | notFound =>
      have hitems : items s.resources .underlay ref.1 = [] := by
        by_contra hne
        exact hinstalled ⟨hlisting, hne⟩
      rw [hitems]
      exact (Except.ok.inj (hlisting ▸ hread)).symm
    | raises message => cases (hlisting ▸ hread)
  intro key hparent
  obtain ⟨⟨uid, parentRef⟩, hfind, hname⟩ := Option.bind_eq_some_iff.mp hparent
  obtain ⟨name, rfl, hkey⟩ := Option.bind_eq_some_iff.mp hname
  obtain ⟨r, hlookup, hr⟩ := Option.map_eq_some_iff.mp hfind
  obtain ⟨kind, namespace_, crName⟩ := key
  cases kind with
  | infrastructure => cases hkey
  | underlay =>
    cases hkey
    exact hno (crName, r) (hcrs ▸ mem_items.mpr hlookup) (Prod.mk.inj hr).2
  | l3vpn => cases hkey

/-! ## What an event does to the references -/

/-- A resource is created on others before they are deleted, keeps its reference, and an underlay
is only removed when no VPN refers to it. -/
def Orderly (s : State) : Event → Prop
  | .create key parentRef _ => ∀ key', parentRef.bind (parentKey key) = some key' →
      s.underway key' = false
  | .update key parentRef _ => ∀ r ∈ s.resources.lookup key, parentRef = r.parentRef
  | .deleteUnderlay ref deleting => deleteVyosunderlay deleting = none → s.Free (.underlay, ref)
  | _ => True

/-- The uids are the numbers below `nextUid`, each of one resource, and nothing refers to an
infrastructure that is being deleted. -/
structure Sound (s : State) : Prop where
  lt : ∀ {key uid parentRef}, s.find key = some (uid, parentRef) → uid < s.nextUid
  inj : ∀ {key key' uid parentRef parentRef'}, s.find key = some (uid, parentRef) →
    s.find key' = some (uid, parentRef') → key = key'
  free : ∀ ref, s.underway (.infrastructure, ref) = true → s.Free (.infrastructure, ref)

/-- What an orderly event does. -/
inductive Change (s s' : State) : Prop
  | keeps (hfind : s'.find = s.find) (hnext : s'.nextUid = s.nextUid)
      (hunderway : ∀ ref, s'.underway (.infrastructure, ref) = true →
        s.underway (.infrastructure, ref) = true ∨ s.Free (.infrastructure, ref))
  | creates (key : Key) (parentRef : Option String) (hnew : s.find key = none)
      (hfind : s'.find = Function.update s.find key (some (s.nextUid, parentRef)))
      (hnext : s'.nextUid = s.nextUid + 1) (hunderway : s'.underway = s.underway)
      (hparent : ∀ key', parentRef.bind (parentKey key) = some key' → s.underway key' = false)
  | removes (key : Key) (hfree : s.Free key)
      (hfind : s'.find = Function.update s.find key none) (hnext : s'.nextUid = s.nextUid)
      (hunderway : ∀ key', s'.underway key' = true → s.underway key' = true)

theorem find_of_insert {r : Resource} (h : s'.resources = s.resources.insert key r) :
    s'.find = Function.update s.find key (some (r.uid, r.parentRef)) := by
  funext key'
  unfold State.find
  rw [h]
  rcases eq_or_ne key' key with rfl | hne
  · rw [AList.lookup_insert, Function.update_self]
    rfl
  · rw [AList.lookup_insert_ne hne, Function.update_of_ne hne]

theorem find_of_erase (h : s'.resources = s.resources.erase key) :
    s'.find = Function.update s.find key none := by
  funext key'
  unfold State.find
  rw [h]
  rcases eq_or_ne key' key with rfl | hne
  · rw [AList.lookup_erase, Function.update_self]
    rfl
  · rw [AList.lookup_erase_ne hne, Function.update_of_ne hne]

theorem free_l3vpn (s : State) (ref : Ref) : s.Free (.l3vpn, ref) := by
  intro key hparent
  obtain ⟨r, -, hname⟩ := Option.bind_eq_some_iff.mp hparent
  obtain ⟨name, -, hkey⟩ := Option.bind_eq_some_iff.mp hname
  obtain ⟨kind, keyRef⟩ := key
  cases kind <;> cases hkey

/-- A change of a resource that keeps its uid and its reference. -/
theorem change_of_modify {change : Resource → Resource} (hmodify : s.modify key change = some s')
    (hsame : ∀ r ∈ s.resources.lookup key, (change r).uid = r.uid ∧
      (change r).parentRef = r.parentRef) : Change s s' := by
  obtain ⟨r, hlookup, rfl⟩ := Option.map_eq_some_iff.mp hmodify
  refine .keeps ?_ rfl fun ref h => .inl h
  rw [find_of_insert (s := s) rfl, (hsame r hlookup).1, (hsame r hlookup).2]
  refine Function.update_eq_self_iff.mpr ?_
  unfold State.find
  rw [hlookup]
  rfl

theorem change_of_remove (hfree : s.Free key) : Change s (s.remove key) := by
  refine .removes key hfree (find_of_erase rfl) rfl fun key' h => ?_
  rcases eq_or_ne key' key with rfl | hne
  · exact absurd ((Function.update_self ..).symm.trans h) Bool.false_ne_true
  · exact (Function.update_of_ne hne ..).symm.trans h

theorem change_of_underway (key : Key) (value : Bool)
    (hfree : value = true → ∀ ref, key = (.infrastructure, ref) → s.Free (.infrastructure, ref)) :
    Change s { s with underway := Function.update s.underway key value } := by
  refine .keeps rfl rfl fun ref h => ?_
  rcases eq_or_ne (.infrastructure, ref) key with rfl | hne
  · exact .inr (hfree ((Function.update_self ..).symm.trans h) ref rfl)
  · exact .inl ((Function.update_of_ne hne ..).symm.trans h)

theorem Change.refl (s : State) : Change s s := .keeps (by rfl) (by rfl) fun _ => .inl

/-- The children do not matter. -/
theorem Change.withChildren (h : Change s s') (children : List Child) :
    Change s { s' with children } := by
  cases h with
  | keeps hfind hnext hunderway => exact .keeps hfind hnext hunderway
  | creates key parentRef hnew hfind hnext hunderway hparent =>
    exact .creates key parentRef hnew hfind hnext hunderway hparent
  | removes key hfree hfind hnext hunderway => exact .removes key hfree hfind hnext hunderway

theorem change_of_step (hs : Sound s) (hok : Orderly s e) (hstep : step s e = some s') :
    Change s s' := by
  cases e with
  | create key parentRef routers =>
    change s.create key parentRef routers = some s' at hstep
    unfold State.create at hstep
    split_ifs at hstep with hmem
    obtain rfl := Option.some.inj hstep
    have hnew : s.find key = none := by
      unfold State.find
      rw [AList.lookup_eq_none.mpr hmem]
      rfl
    exact .creates key parentRef hnew
      (find_of_insert (r := { uid := s.nextUid, parentRef, routers }) rfl) (by rfl) (by rfl) hok
  | update key parentRef routers =>
    exact change_of_modify hstep fun r hr => ⟨by rfl, hok r hr⟩
  | requestDelete key now => exact change_of_modify hstep fun r hr => ⟨by rfl, by rfl⟩
  | startInfrastructure ref ans =>
    obtain ⟨r, -, hstart⟩ := Option.bind_eq_some_iff.mp hstep
    split_ifs at hstart with hinstalled
    split at hstart
    · obtain rfl := Option.some.inj hstart
      exact .refl s
    · rename_i hcheck
      obtain rfl := Option.some.inj hstart
      refine change_of_underway _ true fun _ ref' href => ?_
      obtain rfl := (Prod.mk.inj href).2
      exact free_of_checkDependents hcheck hinstalled
  | finishInfrastructure ref ans =>
    change s.finishInfrastructure ref ans = some s' at hstep
    unfold State.finishInfrastructure at hstep
    split_ifs at hstep with hunderway
    obtain ⟨r, -, rfl⟩ := Option.map_eq_some_iff.mp hstep
    dsimp only
    split
    · exact (change_of_underway _ false nofun).withChildren _
    · exact (change_of_remove (hs.free ref hunderway)).withChildren _
  | deleteUnderlay ref deleting =>
    obtain ⟨r, -, rfl⟩ := Option.map_eq_some_iff.mp hstep
    split
    · exact .refl s
    · rename_i hdone
      exact change_of_remove (hok hdone)
  | startL3vpn ref ans =>
    obtain ⟨vpn, -, rfl⟩ := Option.map_eq_some_iff.mp hstep
    split
    · exact .refl s
    · exact change_of_remove (free_l3vpn s ref)
    · exact change_of_underway _ true fun _ ref' href => nomatch href
  | finishL3vpn ref =>
    change s.finishL3vpn ref = some s' at hstep
    unfold State.finishL3vpn at hstep
    split_ifs at hstep
    obtain rfl := Option.some.inj hstep
    exact change_of_remove (free_l3vpn s ref)
  | changeChildren children =>
    obtain rfl := Option.some.inj hstep
    exact (Change.refl s).withChildren children
  | restart =>
    obtain rfl := Option.some.inj hstep
    exact .keeps (by rfl) (by rfl) nofun

/-! ## Runs -/

theorem sound_initial : Sound .initial where
  lt h := nomatch h
  inj h := nomatch h
  free _ h := nomatch h

theorem parent_congr (h : s'.find key = s.find key) : s'.parent key = s.parent key := by
  unfold State.parent
  rw [h]

theorem update_eq_some {α β : Type*} [DecidableEq α] {f : α → Option β} {a a' : α}
    {b : Option β} {c : β} (h : Function.update f a b a' = some c) :
    (a' = a ∧ b = some c) ∨ (a' ≠ a ∧ f a' = some c) := by
  rcases eq_or_ne a' a with rfl | hne
  · rw [Function.update_self] at h
    exact .inl ⟨rfl, h⟩
  · rw [Function.update_of_ne hne] at h
    exact .inr ⟨hne, h⟩

/-- What exists afterwards is new or existed before. -/
theorem Change.find_old {r : ℕ × Option String} (h : Change s s') (hfind : s'.find key = some r) :
    s.find key = some r ∨ r.1 = s.nextUid := by
  cases h with
  | keeps hfind' => exact .inl (hfind' ▸ hfind)
  | creates _ _ _ hfind' =>
    rcases update_eq_some (hfind' ▸ hfind) with ⟨-, hr⟩ | ⟨-, hr⟩
    · cases hr
      exact .inr rfl
    · exact .inl hr
  | removes _ _ hfind' =>
    rcases update_eq_some (hfind' ▸ hfind) with ⟨-, hr⟩ | ⟨-, hr⟩
    · cases hr
    · exact .inl hr

theorem Sound.change (hs : Sound s) (h : Change s s') : Sound s' := by
  cases h with
  | keeps hfind hnext hunderway =>
    have hparent : s'.parent = s.parent := funext fun key => parent_congr (congrFun hfind key)
    refine ⟨fun h => hnext ▸ hs.lt (hfind ▸ h), fun h h' => hs.inj (hfind ▸ h) (hfind ▸ h'),
      fun ref h key => ?_⟩
    rw [hparent]
    exact (hunderway ref h).elim (hs.free ref · key) (· key)
  | creates key parentRef hnew hfind hnext hunderway hparent =>
    refine ⟨fun h => ?_, fun h h' => ?_, fun ref h k hk => ?_⟩
    · rcases update_eq_some (hfind ▸ h) with ⟨-, hr⟩ | ⟨-, h⟩
      · cases hr
        omega
      · have hlt := hs.lt h
        omega
    · rcases update_eq_some (hfind ▸ h) with ⟨rfl, hr⟩ | ⟨-, h⟩ <;>
        rcases update_eq_some (hfind ▸ h') with ⟨rfl, hr'⟩ | ⟨-, h'⟩
      · rfl
      · cases hr
        exact absurd (hs.lt h') (Nat.lt_irrefl _)
      · cases hr'
        exact absurd (hs.lt h) (Nat.lt_irrefl _)
      · exact hs.inj h h'
    · rw [hunderway] at h
      rcases eq_or_ne k key with rfl | hne
      · unfold State.parent at hk
        rw [hfind, Function.update_self] at hk
        exact absurd ((hparent _ hk).symm.trans h) Bool.false_ne_true
      · rw [parent_congr (s := s) (by rw [hfind, Function.update_of_ne hne])] at hk
        exact hs.free ref h k hk
  | removes key hfree hfind hnext hunderway =>
    have hold : ∀ {k r}, s'.find k = some r → s.find k = some r := by
      intro k r h
      rcases update_eq_some (hfind ▸ h) with ⟨-, hr⟩ | ⟨-, h⟩
      · cases hr
      · exact h
    refine ⟨fun h => hnext ▸ hs.lt (hold h), fun h h' => hs.inj (hold h) (hold h'),
      fun ref h k hk => ?_⟩
    obtain ⟨r, hr, hname⟩ := Option.bind_eq_some_iff.mp hk
    exact hs.free ref (hunderway _ h) k (Option.bind_eq_some_iff.mpr ⟨r, hold hr, hname⟩)

/-- What of the resources of an earlier state still exists is as it was, and nothing is gone on
which something was built that still exists. -/
structure Since (s t : State) : Prop where
  next : s.nextUid ≤ t.nextUid
  same : ∀ {key uid parentRef}, t.find key = some (uid, parentRef) → uid < s.nextUid →
    s.find key = some (uid, parentRef)
  grounded : Grounded s.BuiltOn {uid | t.Exists uid}

theorem Since.refl (s : State) : Since s s where
  next := le_rfl
  same h _ := h
  grounded := by
    rintro x y ⟨-, key', -, parentRef', -, -, hy⟩ -
    exact ⟨key', parentRef', hy⟩

/-- What was built on something that still exists, refers to it still. -/
theorem Since.refers (hs : Sound s) (h : Since s t) {x y : ℕ}
    (hon : s.BuiltOn x y) (hx : t.Exists x) {parentRef : Option String}
    (hy : t.find key = some (y, parentRef)) : ∃ key', t.parent key' = some key := by
  obtain ⟨kx, ky, px, py, hkx, hparent, hky⟩ := hon
  obtain ⟨kx', px', hkx'⟩ := hx
  have hkx'' := h.same hkx' (hs.lt hkx)
  obtain rfl := hs.inj hkx hkx''
  obtain rfl := hs.inj hky (h.same hy (hs.lt hky))
  refine ⟨kx, ?_⟩
  rw [parent_congr (s := s) (hkx'.trans hkx''.symm)]
  exact hparent

theorem builtOn_lt (hs : Sound s) {x y : ℕ} (hon : s.BuiltOn x y) : x < s.nextUid := by
  obtain ⟨key, -, parentRef, -, hx, -⟩ := hon
  exact hs.lt hx

theorem Since.grounded_change (hs : Sound s) (ht : Sound t) (h : Since s t) {t' : State}
    (hchange : Change t t') : Grounded s.BuiltOn {uid | t'.Exists uid} := by
  cases hchange with
  | keeps hfind =>
    have hexists : t'.Exists = t.Exists := by
      unfold State.Exists
      rw [hfind]
    rw [hexists]
    exact h.grounded
  | creates key parentRef hnew hfind =>
    have hexists : {uid | t'.Exists uid} = insert t.nextUid {uid | t.Exists uid} := by
      ext uid
      constructor
      · rintro ⟨key', p, hp⟩
        rcases update_eq_some (hfind ▸ hp) with ⟨-, hr⟩ | ⟨-, hp⟩
        · cases hr
          exact .inl rfl
        · exact .inr ⟨key', p, hp⟩
      · rintro (rfl | ⟨key', p, hp⟩)
        · exact ⟨key, parentRef, by rw [hfind, Function.update_self]⟩
        · refine ⟨key', p, ?_⟩
          rw [hfind, Function.update_of_ne, hp]
          rintro rfl
          cases hp.symm.trans hnew
    rw [hexists]
    exact h.grounded.insert fun y hon => absurd (builtOn_lt hs hon) (Nat.not_lt.mpr h.next)
  | removes key hfree hfind =>
    cases hkey : t.find key with
    | none =>
      have hexists : t'.Exists = t.Exists := by
        unfold State.Exists
        rw [hfind, Function.update_eq_self_iff.mpr hkey.symm]
      rw [hexists]
      exact h.grounded
    | some r =>
      have hexists : {uid | t'.Exists uid} = {uid | t.Exists uid} \ {r.1} := by
        ext uid
        constructor
        · rintro ⟨key', p, hp⟩
          rcases update_eq_some (hfind ▸ hp) with ⟨-, hr⟩ | ⟨hne, hp⟩
          · cases hr
          · refine ⟨⟨key', p, hp⟩, ?_⟩
            rintro rfl
            exact hne (ht.inj hp hkey)
        · rintro ⟨⟨key', p, hp⟩, hne⟩
          refine ⟨key', p, ?_⟩
          rw [hfind, Function.update_of_ne, hp]
          rintro rfl
          obtain rfl := Option.some.inj (hp.symm.trans hkey)
          exact hne rfl
      rw [hexists]
      refine h.grounded.remove fun x hx hon => ?_
      obtain ⟨key', hparent⟩ := h.refers hs hon hx hkey
      exact hfree key' hparent

theorem Since.change (hs : Sound s) (ht : Sound t) (h : Since s t) {t' : State}
    (hchange : Change t t') : Since s t' := by
  refine ⟨?_, fun {key uid parentRef} hfind hlt => ?_, h.grounded_change hs ht hchange⟩
  · cases hchange with
    | keeps _ hnext => exact hnext ▸ h.next
    | creates _ _ _ _ hnext => exact hnext ▸ Nat.le_succ_of_le h.next
    | removes _ _ _ hnext => exact hnext ▸ h.next
  · rcases hchange.find_old hfind with hold | rfl
    · exact h.same hold hlt
    · exact absurd hlt (Nat.not_lt.mpr h.next)

/-- The handler of an infrastructure gets past its check, or goes on after it. -/
def Proceeds (ref : Ref) (s : State) (e : Event) : Prop :=
  ∃ s', step s e = some s' ∧
    ((∃ ans, e = .startInfrastructure ref ans ∧ s'.underway (.infrastructure, ref) = true) ∨
      ∃ ans, e = .finishInfrastructure ref ans)

/-- Of what was built on the infrastructure, directly or on an underlay, nothing exists. -/
def DependentsGone (ref : Ref) (s t : State) : Prop :=
  ∀ uid parentRef, t.find (.infrastructure, ref) = some (uid, parentRef) →
    ∀ dependent, TransGen s.BuiltOn dependent uid → ¬t.Exists dependent

theorem free_of_proceeds (hs : Sound s) (h : Proceeds ref s e) : s.Free (.infrastructure, ref) := by
  obtain ⟨s', hstep, ⟨ans, rfl, hunderway⟩ | ⟨ans, rfl⟩⟩ := h
  · obtain ⟨r, hr, hstart⟩ := Option.bind_eq_some_iff.mp hstep
    split_ifs at hstart with hinstalled
    split at hstart
    · obtain rfl := Option.some.inj hstart
      exact hs.free ref hunderway
    · rename_i hcheck
      exact free_of_checkDependents hcheck hinstalled
  · change s.finishInfrastructure ref ans = some s' at hstep
    unfold State.finishInfrastructure at hstep
    split_ifs at hstep with hunderway
    exact hs.free ref hunderway

/-- **Dependents first.** In a run whose events are all orderly, the delete handler of an
infrastructure proceeds only when nothing exists any more that was built on it in any state of
the run. -/
theorem dependents_gone {before after : List Event} (hs : run step .initial before = some s)
    (ht : run step s after = some t) (hok : Throughout step Orderly .initial (before ++ after))
    (hproceeds : Proceeds ref t e) : DependentsGone ref s t := by
  obtain ⟨hbefore, hafter⟩ := (throughout_append hs).mp hok
  have hsound : Sound s := run_invariant
    (fun s e s' hs hok hstep => hs.change (change_of_step hs hok hstep)) sound_initial hbefore hs
  have hboth : Sound t ∧ Since s t := by
    refine run_invariant (I := fun t => Sound t ∧ Since s t) (fun t e t' hI hok hstep => ?_)
      ⟨hsound, .refl s⟩ hafter ht
    have hchange := change_of_step hI.1 hok hstep
    exact ⟨hI.1.change hchange, hI.2.change hsound hI.1 hchange⟩
  intro uid parentRef hinfra dependent hchain hexists
  refine hboth.2.grounded.not_transGen (fun x hx hon => ?_) hexists hchain
  obtain ⟨key', hparent⟩ := hboth.2.refers hsound hon hx hinfra
  exact free_of_proceeds hboth.1 hproceeds key' hparent

/-! ### Three resources -/

def sampleInfra : Ref := ("default", "lab-infra")

def sampleUnderlay : Ref := ("default", "lab-underlay")

def sampleVpn : Ref := ("default", "blue-vpn")

def sampleCreates : List Event :=
  [.create (.infrastructure, sampleInfra) none [],
    .create (.underlay, sampleUnderlay) (some "lab-infra") [],
    .create (.l3vpn, sampleVpn) (some "lab-underlay") ["pe1"]]

def sampleCheck : CheckAnswers := ⟨.done "2025-01-01T00:00:00Z", .listed, .listed⟩

def sampleQueue : QueueAnswers :=
  ⟨.listed, .done "2025-01-01T00:00:00Z", .done "2025-01-01T00:00:00Z"⟩

/-- The VPN, the underlay and the infrastructure are deleted in this order. -/
def sampleDeletions : List Event :=
  [.requestDelete (.l3vpn, sampleVpn) 1, .startL3vpn sampleVpn sampleQueue,
    .finishL3vpn sampleVpn, .requestDelete (.underlay, sampleUnderlay) 2,
    .deleteUnderlay sampleUnderlay (.done "2025-01-01T00:00:00Z"),
    .requestDelete (.infrastructure, sampleInfra) 3]

def sampleCluster : State := (run step .initial sampleCreates).getD .initial

def sampleRest : State := (run step sampleCluster sampleDeletions).getD .initial

theorem dependents_gone_sample :
    Proceeds sampleInfra sampleRest (.startInfrastructure sampleInfra sampleCheck) ∧
      DependentsGone sampleInfra sampleCluster sampleRest := by
  have hs : run step .initial sampleCreates = some sampleCluster := rfl
  have ht : run step sampleCluster sampleDeletions = some sampleRest := rfl
  have hproceeds : Proceeds sampleInfra sampleRest (.startInfrastructure sampleInfra sampleCheck) :=
    ⟨_, rfl, .inl ⟨_, rfl, rfl⟩⟩
  refine ⟨hproceeds, dependents_gone hs ht ?_ hproceeds⟩
  refine .of_step nofun rfl (.of_step (fun _ _ => rfl) rfl (.of_step (fun _ _ => rfl) rfl ?_))
  refine .of_step trivial rfl (.of_step trivial rfl (.of_step trivial rfl (.of_step trivial rfl ?_)))
  exact .of_step (fun _ => by decide) rfl (.of_step trivial rfl throughout_nil)

/-- An underlay that is deleted before its VPN hides the VPN from the check. -/
theorem underlay_hides_vpn : ¬∀ (before after : List Event) (s t : State) (e : Event) (ref : Ref),
    run step .initial before = some s → run step s after = some t → Proceeds ref t e →
      DependentsGone ref s t := by
  intro hall
  have hs : run step .initial sampleCreates = some sampleCluster := rfl
  have ht : run step sampleCluster [.requestDelete (.underlay, sampleUnderlay) 1,
      .deleteUnderlay sampleUnderlay (.done "2025-01-01T00:00:00Z"),
      .requestDelete (.infrastructure, sampleInfra) 2] = some _ := rfl
  have hunderlay : sampleCluster.BuiltOn 1 0 :=
    ⟨(.underlay, sampleUnderlay), (.infrastructure, sampleInfra), _, _, rfl, rfl, rfl⟩
  have hvpn : sampleCluster.BuiltOn 2 1 :=
    ⟨(.l3vpn, sampleVpn), (.underlay, sampleUnderlay), _, _, rfl, rfl, rfl⟩
  exact hall _ _ _ _ (.startInfrastructure sampleInfra sampleCheck) sampleInfra hs ht
    ⟨_, rfl, .inl ⟨_, rfl, rfl⟩⟩ 0 none rfl 2 (.head hvpn (.single hunderlay))
    ⟨(.l3vpn, sampleVpn), some "lab-underlay", rfl⟩

end GnnSandbox.Operator.Deletion
