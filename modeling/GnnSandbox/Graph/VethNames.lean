import GnnSandbox.Graph.Current.Bridge
import GnnSandbox.Graph.Performed

/-!
# The interface behind a veth name

The veth pair of a router's interface is named after the first eight characters of the
router's name and the interface. `sync_veth_pairs` takes the name apart at its last dash
and asks the store for an open interface of that name on a router whose id matches the
pattern `router:<first part>%`.
-/

namespace GnnSandbox.Graph

open Scd Effect

/-! ## Interfaces of routers -/

/-- An interface of a router. -/
structure Port where
  router : ResourceName
  interface : String
deriving DecidableEq

namespace Port

variable {p q : Port}

def routerId (p : Port) : String := "router:" ++ p.router

def id (p : Port) : String := "router:" ++ p.router ++ ":interface:" ++ p.interface

/-- `router_name[:8]` -/
def routerPrefix (p : Port) : String := String.ofList (p.router.val.toList.take 8)

/-- The name of the host's end of the interface's veth pair. -/
def vethName (p : Port) : String := p.routerPrefix ++ "-" ++ p.interface

/-- `veth_name.rsplit('-', 1)` -/
def parts (p : Port) : String × String := (rsplitOnce '-' p.vethName).getD (p.vethName, "")

/-- `veth_link_id` -/
def linkId (p : Port) : String := "link:veth:" ++ p.parts.1 ++ ":" ++ p.parts.2

/-- `host_veth_name` -/
def hostVethName (p : Port) : String := "host:veth:" ++ p.vethName

/-- The pattern that the lookup compares the ids of routers with. -/
def pattern (p : Port) : String := "router:" ++ p.routerPrefix ++ "%"

theorem id_inj : p.id = q.id ↔ p = q := by
  constructor
  · intro h
    obtain ⟨hrouter, hiface⟩ := interfaceId_inj p.router.property q.router.property h
    obtain ⟨r, i⟩ := p
    obtain ⟨r', i'⟩ := q
    have hr : r = r' := Subtype.ext hrouter
    have hi : i = i' := hiface
    rw [hr, hi]
  · exact congrArg id

/-- An interface without a dash in its name is what stands after the last dash. -/
theorem rsplitOnce_vethName (h : '-' ∉ p.interface.toList) :
    rsplitOnce '-' p.vethName = some (p.routerPrefix, p.interface) := by
  have hname : p.vethName =
      String.ofList (p.routerPrefix.toList ++ '-' :: p.interface.toList) := by
    rw [← String.toList_inj]
    simp [vethName]
  rw [hname, rsplitOnce_append h, String.ofList_toList, String.ofList_toList]

/-- Of an interface with a dash in its name only the end stands after the last dash. -/
theorem rsplitOnce_vethName_dashed (h : '-' ∈ p.interface.toList) :
    ∃ a b, p.interface = a ++ "-" ++ b ∧ '-' ∉ b.toList ∧
      rsplitOnce '-' p.vethName = some (p.routerPrefix ++ "-" ++ a, b) := by
  obtain ⟨a, b, hab, hb⟩ := List.eq_append_cons_of_mem (List.mem_reverse.mpr h)
  have hlist : p.interface.toList = b.reverse ++ '-' :: a.reverse := by
    have hrev := congrArg List.reverse hab
    simpa using hrev
  have ha : '-' ∉ a.reverse := fun hm => hb (List.mem_reverse.mp hm)
  refine ⟨String.ofList b.reverse, String.ofList a.reverse, ?_, ?_, ?_⟩
  · rw [← String.toList_inj, hlist]
    simp
  · rwa [String.toList_ofList]
  · have hname : p.vethName =
        String.ofList (p.routerPrefix.toList ++ '-' :: b.reverse ++ '-' :: a.reverse) := by
      rw [← String.toList_inj]
      simp [vethName, hlist]
    rw [hname, rsplitOnce_append ha, Option.some.injEq, Prod.mk.injEq]
    refine ⟨?_, rfl⟩
    rw [← String.toList_inj]
    simp

theorem rsplitOnce_eq_parts (p : Port) : rsplitOnce '-' p.vethName = some p.parts := by
  unfold parts
  by_cases h : '-' ∈ p.interface.toList
  · obtain ⟨a, b, -, -, hsplit⟩ := rsplitOnce_vethName_dashed h
    rw [hsplit, Option.getD_some]
  · rw [rsplitOnce_vethName h, Option.getD_some]

theorem parts_of_undashed (h : '-' ∉ p.interface.toList) :
    p.parts = (p.routerPrefix, p.interface) := by
  rw [parts, rsplitOnce_vethName h, Option.getD_some]

theorem vethName_ne_empty (p : Port) : p.vethName ≠ "" := by
  intro h
  have hlist := congrArg String.toList h
  simp [vethName] at hlist

theorem colon_notMem_routerPrefix (p : Port) : ':' ∉ p.routerPrefix.toList := by
  rw [routerPrefix, String.toList_ofList]
  exact fun h => p.router.property (List.mem_of_mem_take h)

end Port

/-- The interface is open in the store, as `sync_physical_router` writes it. -/
def OpenPort (db : Database) (p : Port) : Prop :=
  ∃ v ∈ db .physicalInterface, v.isActive = true ∧ v.data.id = p.id ∧
    v.data.routerId = p.routerId ∧ v.data.name = p.interface

/-- The lookup for an interface can only lead to it: its name has no dash, no other open
interface of its name is on a router that the pattern matches, and its own router is
matched by the pattern or is the text that the pattern is made of. -/
structure Determined (db : Database) (p : Port) : Prop where
  undashed : '-' ∉ p.interface.toList
  alone : ∀ v ∈ db .physicalInterface, v.isActive = true → v.data.name = p.interface →
    like v.data.routerId p.pattern = true → v.data.id = p.id
  matched : like p.routerId p.pattern = true ∨ p.router.val = p.routerPrefix

/-- The open row of an interface is its row. -/
theorem OpenPort.row {db : Database} {p : Port} (h : Single db) (hp : OpenPort db p)
    {v : Version Timestamp PhysicalInterface} (hv : v ∈ db .physicalInterface)
    (hactive : v.isActive = true) (hid : v.data.id = p.id) :
    v.data.routerId = p.routerId ∧ v.data.name = p.interface := by
  obtain ⟨u, hu, hopen, huid, hrouter, hname⟩ := hp
  have hkey : ∀ {x : Version Timestamp PhysicalInterface}, x ∈ db .physicalInterface →
      x.isActive = true → x.data.id = p.id → x ∈ db.active .physicalInterface (.id p.id) :=
    fun hx hxa hxid => mem_active.mpr ⟨hx, Version.isActive_iff.mp hxa, congrArg Key.id hxid⟩
  have heq : v = u := by
    have hone := h .physicalInterface (.id p.id)
    have hmv := hkey hv hactive hid
    have hmu := hkey hu hopen huid
    obtain ⟨x, hx⟩ := List.length_eq_one_iff.mp
      (Nat.le_antisymm hone (List.length_pos_of_mem hmv))
    rw [hx, List.mem_singleton] at hmv hmu
    rw [hmv, hmu]
  rw [heq]
  exact ⟨hrouter, hname⟩

namespace Bridge

variable {db : Database} {p q : Port}

theorem mem_containerInterfaces {a b : String} {v : Version Timestamp PhysicalInterface} :
    v ∈ containerInterfaces a b db ↔ v ∈ db .physicalInterface ∧ v.isActive = true ∧
      v.data.name = b ∧ like v.data.routerId ("router:" ++ a ++ "%") = true := by
  simp [containerInterfaces, and_assoc]

theorem exists_resolves (db : Database) (a b : String) : ∃ id, Resolves db a b id := by
  by_cases h : containerInterfaces a b db = []
  · exact ⟨_, Or.inr ⟨h, rfl⟩⟩
  · obtain ⟨v, hv⟩ := List.exists_mem_of_ne_nil _ h
    exact ⟨_, Or.inl ⟨v, hv, rfl⟩⟩

/-- The interface that is made up for a split name with a dash before its second part. -/
theorem fallback_ne_id {a b : String} (h : p.interface = a ++ "-" ++ b) :
    "router:" ++ (p.routerPrefix ++ "-" ++ a) ++ ":interface:" ++ b ≠ p.id := by
  intro heq
  have hlist := congrArg String.toList heq
  simp only [Port.id, h, String.toList_append, List.append_assoc] at hlist
  have htail := List.append_cancel_left hlist
  -- the texts are of one length, so nothing of the router's name was cut off
  have hlength := congrArg List.length htail
  have hfull : p.router.val.toList.length ≤ p.routerPrefix.toList.length := by
    simp only [List.length_append] at hlength
    omega
  have hrouter : p.routerPrefix.toList = p.router.val.toList := by
    rw [Port.routerPrefix, String.toList_ofList] at hfull ⊢
    rw [List.length_take] at hfull
    exact List.take_of_length_le (by omega)
  rw [hrouter] at htail
  have hdash := List.append_cancel_left htail
  exact absurd (List.cons.inj hdash).1 (by decide)

/-- **What the lookup determines.** Whatever row it returns is the interface's own
exactly when the interface is determined. -/
theorem resolves_own_iff (h : Single db) (hp : OpenPort db p) :
    (∀ id, Resolves db p.parts.1 p.parts.2 id → id = p.id) ↔ Determined db p := by
  constructor
  · intro hown
    have hundashed : '-' ∉ p.interface.toList := by
      intro hdash
      obtain ⟨a, b, hab, hb, hsplit⟩ := Port.rsplitOnce_vethName_dashed hdash
      have hparts : p.parts = (p.routerPrefix ++ "-" ++ a, b) :=
        Option.some.inj (p.rsplitOnce_eq_parts.symm.trans hsplit)
      rw [hparts] at hown
      obtain ⟨id, hid⟩ := exists_resolves db (p.routerPrefix ++ "-" ++ a) b
      have heq := hown id hid
      rcases hid with ⟨v, hv, hvid⟩ | ⟨-, hfallback⟩
      · obtain ⟨hmem, hactive, hname, -⟩ := mem_containerInterfaces.mp hv
        have hrow := hp.row h hmem hactive (hvid.symm.trans heq)
        rw [← hname, hrow.2] at hb
        exact hb hdash
      · exact fallback_ne_id hab (hfallback.symm.trans heq)
    rw [Port.parts_of_undashed hundashed] at hown
    refine ⟨hundashed, fun v hv hactive hname hlike => ?_, ?_⟩
    · exact hown _ (Or.inl ⟨v, mem_containerInterfaces.mpr ⟨hv, hactive, hname, hlike⟩, rfl⟩)
    · by_cases hnil : containerInterfaces p.routerPrefix p.interface db = []
      · have hfallback := hown _ (Or.inr ⟨hnil, rfl⟩)
        have hlist := congrArg String.toList hfallback
        simp only [Port.id, String.toList_append, List.append_assoc] at hlist
        have hname := List.append_cancel_right (List.append_cancel_left hlist)
        exact Or.inr (String.toList_inj.mp hname.symm)
      · obtain ⟨v, hv⟩ := List.exists_mem_of_ne_nil _ hnil
        obtain ⟨hmem, hactive, -, hlike⟩ := mem_containerInterfaces.mp hv
        have hid := hown _ (Or.inl ⟨v, hv, rfl⟩)
        rw [(hp.row h hmem hactive hid).1] at hlike
        exact Or.inl hlike
  · rintro ⟨hundashed, halone, hmatched⟩ id hid
    rw [Port.parts_of_undashed hundashed] at hid
    rcases hid with ⟨v, hv, rfl⟩ | ⟨hnil, rfl⟩
    · obtain ⟨hmem, hactive, hname, hlike⟩ := mem_containerInterfaces.mp hv
      exact halone v hmem hactive hname hlike
    · rcases hmatched with hlike | hname
      · obtain ⟨v, hv, hactive, -, hrouter, hname⟩ := hp
        have hmem : v ∈ containerInterfaces p.routerPrefix p.interface db :=
          mem_containerInterfaces.mpr ⟨hv, hactive, hname, hrouter ▸ hlike⟩
        rw [hnil] at hmem
        cases hmem
      · rw [Port.id, hname]

/-- Interfaces that are determined have links of their own. -/
theorem linkId_inj (h : Single db) (hp : OpenPort db p) (hq : OpenPort db q)
    (hdp : Determined db p) (hdq : Determined db q) (heq : p.linkId = q.linkId) : p = q := by
  have hlist := congrArg String.toList heq
  simp only [Port.linkId, Port.parts_of_undashed hdp.undashed, Port.parts_of_undashed hdq.undashed,
    String.toList_append, List.append_assoc] at hlist
  obtain ⟨hrouter, hiface⟩ := append_sep_inj p.colon_notMem_routerPrefix
    q.colon_notMem_routerPrefix (List.append_cancel_left hlist)
  have hparts : p.parts = q.parts := by
    rw [Port.parts_of_undashed hdp.undashed, Port.parts_of_undashed hdq.undashed,
      String.toList_inj.mp hrouter, String.toList_inj.mp hiface]
  -- both names are looked up alike, and the lookup leads to both
  obtain ⟨id, hid⟩ := exists_resolves db p.parts.1 p.parts.2
  have hidp := (resolves_own_iff h hp).mpr hdp id hid
  rw [hparts] at hid
  have hidq := (resolves_own_iff h hq).mpr hdq id hid
  exact Port.id_inj.mp (hidp.symm.trans hidq)

end Bridge

end GnnSandbox.Graph
