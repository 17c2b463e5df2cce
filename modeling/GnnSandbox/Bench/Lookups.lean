import GnnSandbox.Bench.Projector
import GnnSandbox.Bench.UniqueIds
import GnnSandbox.Bench.Validation

/-!
# Lookups in an accepted twin

Validation works on sets of ids and counts the edges of a link. It accepts repeated ids and
repeated edges, of which a search finds the first, a dictionary the last, and a link both as
its ends.
-/

namespace GnnSandbox.Bench

namespace GoldenTwinEntities

/-- The link has two different ends. -/
def Joins (e : GoldenTwinEntities) (link : String) : Prop :=
  ∃ a b, a ≠ b ∧ e.endpoints link = [a, b]

/-- Every row of an entity table is the one that is found by its id. -/
def Addressed (e : GoldenTwinEntities) : Prop :=
  ∀ side t, t.isEdge = false → ∀ (i : ℕ) (row : Row), (e.rows t)[i]? = some row →
    findRow (side, t) (e.rows t) (row.get "id") = some ⟨(side, t), i, row⟩

end GoldenTwinEntities

/-- Ids, edges and associations are unique, and links join different interfaces. -/
structure GoldenTwin.Unambiguous (twin : GoldenTwin) : Prop where
  ids : twin.UniqueIds
  edges : twin.entities.interfaceLink.Nodup
  associations : (twin.entities.subnetAssociation.map fun sa => (sa.entityId, sa.subnetId)).Nodup
  links : ∀ l ∈ twin.entities.links, twin.entities.Joins l.id

/-! ## Ids -/

section Ids

variable {twin : GoldenTwin}

/-- A row is found by its id when ids are unique. -/
theorem GoldenTwin.UniqueIds.addressed (h : twin.UniqueIds) : twin.entities.Addressed := by
  intro side t ht i row hrow
  obtain ⟨id, hid⟩ := twin.entities.id_rows ht (List.mem_of_getElem? hrow)
  rw [hid]
  exact (h.start (side, t)).findRow_eq hrow hid

/-- Of two rows with an id only the first is found. -/
theorem GoldenTwinEntities.Addressed.uniqueIds (h : twin.entities.Addressed) : twin.UniqueIds := by
  intro t ht
  refine List.nodup_iff_injective_get.mpr fun i j hij => ?_
  obtain ⟨i, hi⟩ := i
  obtain ⟨j, hj⟩ := j
  rw [List.length_map] at hi hj
  have hids : ((twin.entities.rows t)[i].get "id") = ((twin.entities.rows t)[j].get "id") := by
    simpa using hij
  have hfirst := h .catalog t ht i _ (List.getElem?_eq_getElem hi)
  have hsecond := h .catalog t ht j _ (List.getElem?_eq_getElem hj)
  rw [hids, hsecond] at hfirst
  exact Fin.ext (congrArg Ref.index (Option.some.inj hfirst)).symm

/-- A dictionary with unique keys returns the item of a key. -/
theorem lastWith_eq_some {α : Type} {id : α → String} {items : List α} (h : (items.map id).Nodup)
    {a : α} (ha : a ∈ items) : lastWith id items (id a) = some a := by
  unfold lastWith
  cases hfind : items.reverse.find? fun b => decide (id b = id a) with
  | none =>
    have hne := List.find?_eq_none.mp hfind a (List.mem_reverse.mpr ha)
    exact absurd (decide_eq_true rfl) hne
  | some b =>
    have hb : b ∈ items := List.mem_reverse.mp (List.mem_of_find?_eq_some hfind)
    have hid : id b = id a := by simpa using List.find?_some hfind
    rw [List.inj_on_of_nodup_map h hb ha hid]

/-- The typed ids of a table are unique when those of its rows are. -/
theorem GoldenTwin.UniqueIds.nodup (h : twin.UniqueIds) {α : Type} {t : Table} {dump : α → Row}
    {items : List α} {id : α → String} (ht : t.isEdge = false)
    (hrows : twin.entities.rows t = items.map dump) (hid : ∀ a, (dump a).get "id" = .str (id a)) :
    (items.map id).Nodup := by
  have hnodup := h t ht
  rw [hrows, List.map_map] at hnodup
  refine List.Nodup.of_map Value.str ?_
  rw [List.map_map]
  have heq : (fun row : Row => row.get "id") ∘ dump = Value.str ∘ id := funext hid
  rwa [heq] at hnodup

end Ids

/-! ## Edges -/

section Edges

variable {e : GoldenTwinEntities}

theorem GoldenTwinEntities.length_endpoints (link : String) :
    (e.endpoints link).length = Loader.endpoints e link := List.length_map _

/-- The two edges of a link that no edge repeats have different ends. -/
theorem GoldenTwinEntities.Checked.joins (h : e.Checked) (hnodup : e.interfaceLink.Nodup)
    {link : String} (hlink : link ∈ e.ids .physicalLink) : e.Joins link := by
  obtain ⟨a, b, hab⟩ := List.length_eq_two.mp (h.linkEndpoints link hlink)
  have hends : e.endpoints link = [a.interfaceId, b.interfaceId] := by
    unfold GoldenTwinEntities.endpoints
    rw [hab]
    rfl
  have hlinks : ∀ il ∈ [a, b], il.linkId = link := by
    rw [← hab]
    intro il hil
    exact of_decide_eq_true (List.mem_filter.mp hil).2
  refine ⟨_, _, fun heq => ?_, hends⟩
  have hpair : [a, b].Nodup := hab ▸ hnodup.filter _
  have hsame : a = b := by
    obtain ⟨ia, la⟩ := a
    obtain ⟨ib, lb⟩ := b
    have hla : la = link := hlinks ⟨ia, la⟩ (List.mem_cons_self ..)
    have hlb : lb = link := hlinks ⟨ib, lb⟩ (List.mem_cons_of_mem _ (List.mem_singleton_self _))
    obtain rfl : ia = ib := heq
    rw [hla, hlb]
  exact (List.nodup_cons.mp hpair).1 (List.mem_singleton.mpr hsame)

/-- An edge that is repeated is both ends of its link. -/
theorem GoldenTwinEntities.Checked.nodup_of_joins (h : e.Checked)
    (hjoins : ∀ link ∈ e.ids .physicalLink, e.Joins link) : e.interfaceLink.Nodup := by
  refine List.nodup_iff_count_le_one.mpr fun il => ?_
  by_cases hmem : il ∈ e.interfaceLink
  · obtain ⟨a, b, hne, hends⟩ := hjoins _ (h.edgeLink il hmem)
    have hcount : e.interfaceLink.count il ≤ (e.endpoints il.linkId).count il.interfaceId := by
      have hfilter : (e.interfaceLink.filter fun x => decide (x.linkId = il.linkId)).count il =
          e.interfaceLink.count il := List.count_filter (decide_eq_true rfl)
      rw [← hfilter]
      exact List.count_le_count_map
    have hone : [a, b].count il.interfaceId ≤ 1 :=
      List.nodup_iff_count_le_one.mp (List.nodup_cons.mpr
        ⟨fun hab => hne (List.mem_singleton.mp hab), List.nodup_singleton b⟩) _
    rw [hends] at hcount
    exact hcount.trans hone
  · rw [List.count_eq_zero_of_not_mem hmem]
    exact Nat.zero_le 1

end Edges

/-! ## Accepted twins -/

/-- **Lookups in an accepted twin**: each link has two edges; every row is found by its id exactly
when ids are unique, and then the dictionaries hold every row; the two ends of all links differ
exactly when no edge is repeated. -/
theorem lookups_of_accepted (env : Env) (twin : GoldenTwin) (checkHash : Bool)
    (h : validateGoldenTwin env twin checkHash = []) :
    (∀ l ∈ twin.entities.links, (twin.entities.endpoints l.id).length = 2) ∧
      (twin.UniqueIds ↔ twin.entities.Addressed) ∧
      (twin.UniqueIds →
        (∀ r ∈ twin.entities.routers, twin.entities.routerById r.id = some r) ∧
          (∀ i ∈ twin.entities.interfaces, twin.entities.ifaceById i.id = some i) ∧
          ∀ s ∈ twin.entities.l3vpnServices,
            lastWith L3VPNService.id twin.entities.l3vpnServices s.id = some s) ∧
      (twin.entities.interfaceLink.Nodup ↔ ∀ l ∈ twin.entities.links, twin.entities.Joins l.id) := by
  have hchecked := (validateGoldenTwin_eq_nil.mp h).2.1
  refine ⟨fun l hl => ?_, ⟨GoldenTwin.UniqueIds.addressed, fun ha => ha.uniqueIds⟩,
    fun hids => ⟨?_, ?_, ?_⟩, fun hnodup l hl => ?_, fun hjoins => ?_⟩
  · rw [GoldenTwinEntities.length_endpoints]
    exact hchecked.linkEndpoints l.id (List.mem_map_of_mem hl)
  · exact fun r hr => lastWith_eq_some (hids.nodup (t := .physicalRouter) rfl rfl fun _ => rfl) hr
  · exact fun i hi => lastWith_eq_some (hids.nodup (t := .physicalInterface) rfl rfl fun _ => rfl) hi
  · exact fun s hs => lastWith_eq_some (hids.nodup (t := .l3vpnService) rfl rfl fun _ => rfl) hs
  · exact hchecked.joins hnodup (List.mem_map_of_mem hl)
  · refine hchecked.nodup_of_joins fun link hlink => ?_
    obtain ⟨l, hl, rfl⟩ := List.mem_map.mp hlink
    exact hjoins l hl

theorem lookups_of_accepted_sample : GoldenTwin.sample.entities.Addressed :=
  (lookups_of_accepted .plain .sample true (by decide +kernel)).2.1.mp GoldenTwin.sample_uniqueIds

/-- The sample with its router twice, and with a link whose edges are the same. -/
def GoldenTwin.repeated : GoldenTwin :=
  { GoldenTwin.sample with
    entities :=
      { GoldenTwin.sample.entities with
        routers := GoldenTwin.sample.entities.routers ++ GoldenTwin.sample.entities.routers
        links := [⟨"link:core", "core", none, some "UP", none⟩]
        interfaceLink := [⟨"router:pe1:interface:eth0", "link:core"⟩,
          ⟨"router:pe1:interface:eth0", "link:core"⟩] } }

/-- It is accepted. -/
theorem repeated_accepted :
    GoldenTwin.repeated.Valid .plain ∧ ¬GoldenTwin.repeated.UniqueIds ∧
      ¬GoldenTwin.repeated.entities.interfaceLink.Nodup ∧
      (∃ l ∈ GoldenTwin.repeated.entities.links, ¬GoldenTwin.repeated.entities.Joins l.id) ∧
      ¬GoldenTwin.repeated.Unambiguous := by
  have hids : ¬GoldenTwin.repeated.UniqueIds := fun h =>
    absurd (h .physicalRouter rfl) (by decide)
  refine ⟨by decide +kernel, hids, by decide, ?_, fun h => hids h.ids⟩
  refine ⟨_, List.mem_singleton_self _, ?_⟩
  rintro ⟨a, b, hne, hends⟩
  have hpair : ["router:pe1:interface:eth0", "router:pe1:interface:eth0"] = [a, b] := hends
  cases hpair
  exact hne rfl

end GnnSandbox.Bench
