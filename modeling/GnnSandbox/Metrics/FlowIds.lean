import Mathlib.Data.Set.Basic
import GnnSandbox.Graph.Text

/-!
# Ids of traffic flows

The operator builds the id of a flow from the names of its test and of its source device, the
metrics collector takes the device from it again, and the supervisor finds the flows of a test by
their prefix. Names have no underscore, but a device may be called like the suffix of the reverse
flows.
-/

namespace GnnSandbox.Metrics

open Graph (rsplitOnce startsWith)

/-! ## The encoder -/

inductive Direction where
  | forward
  | reverse
deriving DecidableEq

/-- A flow between a source device of a test and its destination. -/
structure Flow where
  test : String
  source : String
  direction : Direction
deriving DecidableEq

/-- `flow_id` and `flow_id_rev` -/
def Flow.id (f : Flow) : String :=
  match f.direction with
  | .forward => f.test ++ "_" ++ f.source
  | .reverse => f.test ++ "_" ++ f.source ++ "_rev"

/-! ## The decoders -/

/-- `s.endswith(suffix)` -/
def endsWith (s suffix : String) : Bool := suffix.toList.isSuffixOf s.toList

/-- `flow_id[:-4] if flow_id.endswith("_rev") else flow_id` -/
def cleanFlowId (flowId : String) : String :=
  if endsWith flowId "_rev" then String.ofList (flowId.toList.take (flowId.length - 4)) else flowId

/-- `clean_flow_id.rsplit("_", 1)[-1]` -/
def nodeName (flowId : String) : String :=
  ((rsplitOnce '_' (cleanFlowId flowId)).map Prod.snd).getD (cleanFlowId flowId)

/-- `STARTS_WITH(flow_id, @prefix)` for the prefix of a test. -/
def selects (test flowId : String) : Bool := startsWith flowId (test ++ "_")

/-! ## What is asked of them -/

/-- Lower-case alphanumerics, `-` and `.`. -/
def ValidName (name : String) : Prop :=
  ∀ c ∈ name.toList, c.isLower = true ∨ c.isDigit = true ∨ c = '-' ∨ c = '.'

instance (name : String) : Decidable (ValidName name) :=
  List.decidableBAll
    (fun c : Char => c.isLower = true ∨ c.isDigit = true ∨ c = '-' ∨ c = '.') name.toList

/-- The ids tell the devices, the flows and the tests. -/
structure Decodable (flows : Set Flow) : Prop where
  source : ∀ f ∈ flows, nodeName f.id = f.source
  distinct : ∀ f ∈ flows, ∀ g ∈ flows, f.id = g.id → f = g
  selected : ∀ test, ValidName test → ∀ f ∈ flows, (selects test f.id = true ↔ f.test = test)

/-! ## Splitting -/

theorem ValidName.underscore_notMem {name : String} (h : ValidName name) : '_' ∉ name.toList :=
  fun hmem => absurd (h '_' hmem) (by decide)

theorem rsplitOnce_of_notMem {sep : Char} {s : String} (h : sep ∉ s.toList) :
    rsplitOnce sep s = none := by
  have hsplit : ∀ l : List Char, sep ∉ l → Graph.splitFirst [sep] l = none := by
    intro l hl
    induction l with
    | nil => rfl
    | cons c l ih =>
      obtain ⟨hne, hl⟩ := List.ne_and_not_mem_of_not_mem_cons hl
      have hpre : [sep].isPrefixOf (c :: l) = false := by
        rw [← Bool.not_eq_true, List.isPrefixOf_iff_prefix, List.cons_prefix_cons]
        exact fun hc => hne hc.1
      rw [Graph.splitFirst, hpre, ih hl]
      rfl
  unfold rsplitOnce
  rw [hsplit _ fun hmem => h (List.mem_reverse.mp hmem)]

variable {test source : String}

theorem toList_forward : (test ++ "_" ++ source).toList = test.toList ++ '_' :: source.toList := by
  rw [String.toList_append, String.toList_append, List.append_assoc]
  rfl

theorem rsplitOnce_forward (h : '_' ∉ source.toList) :
    rsplitOnce '_' (test ++ "_" ++ source) = some (test, source) := by
  have hsplit := Graph.rsplitOnce_append (a := test.toList) h
  rwa [← toList_forward, String.ofList_toList, String.ofList_toList, String.ofList_toList] at hsplit

/-- A device called `rev` looks like the suffix. -/
theorem endsWith_forward_iff (h : '_' ∉ source.toList) :
    endsWith (test ++ "_" ++ source) "_rev" = true ↔ source = "rev" := by
  unfold endsWith
  rw [List.isSuffixOf_iff_suffix, toList_forward]
  constructor
  · rintro ⟨before, hbefore⟩
    have heq : before ++ '_' :: "rev".toList = test.toList ++ '_' :: source.toList := hbefore
    have hsplit : rsplitOnce '_' (String.ofList (before ++ '_' :: "rev".toList)) = some _ :=
      Graph.rsplitOnce_append (by decide)
    rw [heq, Graph.rsplitOnce_append h, String.ofList_toList, String.ofList_toList] at hsplit
    exact (Prod.mk.inj (Option.some.inj hsplit)).2
  · rintro rfl
    exact List.suffix_append ..

theorem cleanFlowId_append (s : String) : cleanFlowId (s ++ "_rev") = s := by
  have hends : endsWith (s ++ "_rev") "_rev" = true := by
    unfold endsWith
    rw [List.isSuffixOf_iff_suffix, String.toList_append]
    exact List.suffix_append ..
  unfold cleanFlowId
  rw [if_pos hends, String.length_append, String.toList_append]
  have htake : (s.toList ++ "_rev".toList).take (s.length + 4 - 4) = s.toList := by
    rw [Nat.add_sub_cancel, ← String.length_toList, List.take_left]
  exact (congrArg String.ofList htake).trans String.ofList_toList

/-! ## Devices, flows and tests -/

variable {flows : Set Flow} {f g : Flow}

/-- The underscores of an id are those that were put there. -/
structure Flow.Valid (f : Flow) : Prop where
  test : ValidName f.test
  source : ValidName f.source

theorem nodeName_forward_iff (htest : '_' ∉ test.toList) (hsource : '_' ∉ source.toList) :
    nodeName (test ++ "_" ++ source) = source ↔ (source = "rev" → test = "rev") := by
  unfold nodeName
  by_cases hrev : source = "rev"
  · subst hrev
    have happend : test ++ "_" ++ "rev" = test ++ "_rev" := by
      rw [String.append_assoc]
      rfl
    rw [happend, cleanFlowId_append, rsplitOnce_of_notMem htest]
    exact ⟨fun h _ => h, fun h => h rfl⟩
  · have hends := (@endsWith_forward_iff test source hsource).not.mpr hrev
    unfold cleanFlowId
    rw [if_neg hends, rsplitOnce_forward hsource]
    exact ⟨fun _ h => absurd h hrev, fun _ => rfl⟩

theorem nodeName_reverse (hsource : '_' ∉ source.toList) :
    nodeName (test ++ "_" ++ source ++ "_rev") = source := by
  unfold nodeName
  rw [cleanFlowId_append, rsplitOnce_forward hsource]
  rfl

/-- **The device is told** from the id of every flow but that of a device called like the suffix. -/
theorem nodeName_id_iff (hf : f.Valid) : nodeName f.id = f.source ↔
    (f.direction = .forward → f.source = "rev" → f.test = "rev") := by
  have htest := hf.test.underscore_notMem
  have hsource := hf.source.underscore_notMem
  obtain ⟨test, source, direction⟩ := f
  cases direction with
  | forward => exact (nodeName_forward_iff htest hsource).trans ⟨fun h _ => h, fun h => h rfl⟩
  | reverse => exact iff_of_true (nodeName_reverse hsource) fun h => by cases h

/-- The last underscore of a reverse id is before the suffix. -/
theorem rsplitOnce_reverse : rsplitOnce '_' (test ++ "_" ++ source ++ "_rev") =
    some (test ++ "_" ++ source, "rev") := by
  have hsplit := @rsplitOnce_forward (test ++ "_" ++ source) "rev" (by decide)
  rwa [String.append_assoc] at hsplit

/-- The test of a forward id ends before its only underscore. -/
theorem forward_ne_reverse {test' source' : String} (htest : '_' ∉ test.toList)
    (hsource : '_' ∉ source.toList) :
    test ++ "_" ++ source ≠ test' ++ "_" ++ source' ++ "_rev" := by
  intro h
  have hsplit := @rsplitOnce_forward test source hsource
  rw [h, rsplitOnce_reverse] at hsplit
  have heq := (Prod.mk.inj (Option.some.inj hsplit)).1
  rw [← heq, toList_forward] at htest
  exact htest (List.mem_append_right _ (List.mem_cons_self ..))

theorem forward_injective {test' source' : String} (hsource : '_' ∉ source.toList)
    (hsource' : '_' ∉ source'.toList) (h : test ++ "_" ++ source = test' ++ "_" ++ source') :
    test = test' ∧ source = source' := by
  have hsplit := @rsplitOnce_forward test source hsource
  rw [h, rsplitOnce_forward hsource'] at hsplit
  obtain ⟨rfl, rfl⟩ := Prod.mk.inj (Option.some.inj hsplit)
  exact ⟨rfl, rfl⟩

/-- **No two flows have one id.** -/
theorem id_injective (hf : f.Valid) (hg : g.Valid) (h : f.id = g.id) : f = g := by
  have htest := hf.test.underscore_notMem
  have hsource := hf.source.underscore_notMem
  have htest' := hg.test.underscore_notMem
  have hsource' := hg.source.underscore_notMem
  obtain ⟨test, source, direction⟩ := f
  obtain ⟨test', source', direction'⟩ := g
  cases direction <;> cases direction'
  case forward.forward =>
    obtain ⟨rfl, rfl⟩ := forward_injective hsource hsource' h
    rfl
  case forward.reverse => exact absurd h (forward_ne_reverse htest hsource)
  case reverse.forward => exact absurd h.symm (forward_ne_reverse htest' hsource')
  case reverse.reverse =>
    have hclean : cleanFlowId (test ++ "_" ++ source ++ "_rev") =
        cleanFlowId (test' ++ "_" ++ source' ++ "_rev") := congrArg cleanFlowId h
    rw [cleanFlowId_append, cleanFlowId_append] at hclean
    obtain ⟨rfl, rfl⟩ := forward_injective hsource hsource' hclean
    rfl

/-- Every id starts with the name of its test and an underscore. -/
theorem toList_id (f : Flow) : ∃ rest, f.id.toList = f.test.toList ++ '_' :: rest := by
  obtain ⟨test, source, direction⟩ := f
  cases direction with
  | forward => exact ⟨_, toList_forward⟩
  | reverse =>
    refine ⟨source.toList ++ "_rev".toList, ?_⟩
    change (test ++ "_" ++ source ++ "_rev").toList = _
    rw [String.toList_append, toList_forward, List.append_assoc]
    rfl

/-- **The prefix of a test** selects its own flows: names have no underscore. -/
theorem selects_iff (hf : f.Valid) (htest : ValidName test) :
    selects test f.id = true ↔ f.test = test := by
  obtain ⟨rest, hid⟩ := toList_id f
  unfold selects startsWith
  rw [List.isPrefixOf_iff_prefix, hid, String.toList_append]
  constructor
  · rintro ⟨after, hafter⟩
    rw [List.append_assoc] at hafter
    have heq := (Graph.append_sep_inj htest.underscore_notMem hf.test.underscore_notMem hafter).1
    exact String.toList_inj.mp heq.symm
  · rintro rfl
    exact ⟨rest, List.append_assoc ..⟩

/-- **The ids of flows can be decoded** exactly when a device called `rev` sends in a test of this
name only. -/
theorem decodable_iff (hvalid : ∀ f ∈ flows, f.Valid) : Decodable flows ↔
    ∀ f ∈ flows, f.direction = .forward → f.source = "rev" → f.test = "rev" := by
  constructor
  · exact fun h f hf => (nodeName_id_iff (hvalid f hf)).mp (h.source f hf)
  · intro h
    exact
      { source := fun f hf => (nodeName_id_iff (hvalid f hf)).mpr (h f hf)
        distinct := fun f hf g hg => id_injective (hvalid f hf) (hvalid g hg)
        selected := fun test htest f hf => selects_iff (hvalid f hf) htest }

/-- The flows of one test from a device, and those of a device called like the suffix in a test
that is called so as well. -/
def decodableFlows : Set Flow :=
  {f | f = ⟨"web", "dev1", .forward⟩ ∨ f = ⟨"web", "dev1", .reverse⟩ ∨
    f = ⟨"rev", "rev", .forward⟩ ∨ f = ⟨"web-2", "rev", .reverse⟩}

theorem decodable_web : Decodable decodableFlows := by
  refine (decodable_iff ?_).mpr ?_
  · rintro f (rfl | rfl | rfl | rfl) <;> exact ⟨by decide, by decide⟩
  · rintro f (rfl | rfl | rfl | rfl) <;> decide

/-- A device called `rev` is taken for the suffix, and its test for the device. -/
theorem suffix_taken : ¬ ∀ flows : Set Flow, (∀ f ∈ flows, f.Valid) → Decodable flows := by
  intro h
  have hvalid : ∀ f ∈ ({⟨"web", "rev", .forward⟩} : Set Flow), f.Valid := by
    rintro f rfl
    exact ⟨by decide, by decide⟩
  have hdecodable := h {⟨"web", "rev", .forward⟩} hvalid
  exact absurd (hdecodable.source _ rfl) (by decide +kernel)

end GnnSandbox.Metrics
