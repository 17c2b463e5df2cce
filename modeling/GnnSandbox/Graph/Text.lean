import Mathlib.Data.List.Infix
import Mathlib.Data.List.Count
import Mathlib.Tactic.Common

/-!
# Strings

Python's `startswith`, `split` and `rsplit` and SQL's `LIKE`, on the characters of a
string, and the identifiers that the controllers build by concatenation.
-/

namespace GnnSandbox.Graph

/-! ## Splitting -/

/-- The text before and after the first occurrence of `sep`. -/
def splitFirst (sep : List Char) : List Char → Option (List Char × List Char)
  | [] => if sep = [] then some ([], []) else none
  | c :: cs =>
    if sep.isPrefixOf (c :: cs) then some ([], (c :: cs).drop sep.length)
    else (splitFirst sep cs).map fun p => (c :: p.1, p.2)

/-- `s.split(sep)` when it has exactly two parts. -/
def splitInTwo (sep s : String) : Option (String × String) :=
  match splitFirst sep.toList s.toList with
  | none => none
  | some (a, b) =>
    if (splitFirst sep.toList b).isNone then some (String.ofList a, String.ofList b) else none

/-- `s.split(sep)[0]`. -/
def splitHead (sep s : String) : String :=
  match splitFirst sep.toList s.toList with
  | none => s
  | some (a, _) => String.ofList a

/-- `s.rsplit(sep, 1)` when it has two parts, for a one-character separator. -/
def rsplitOnce (sep : Char) (s : String) : Option (String × String) :=
  match splitFirst [sep] s.toList.reverse with
  | none => none
  | some (a, b) => some (String.ofList b.reverse, String.ofList a.reverse)

/-- `part in s`. -/
def contains (s part : String) : Bool := (splitFirst part.toList s.toList).isSome

/-- `s.startswith(p)`. -/
def startsWith (s p : String) : Bool := p.toList.isPrefixOf s.toList

@[simp] theorem startsWith_append (p s : String) : startsWith (p ++ s) p = true := by
  simp [startsWith]

/-- The first occurrence is the one before which none starts. -/
theorem splitFirst_append {sep a b : List Char} (hsep : sep ≠ [])
    (h : ∀ a₁ c a₂, a = a₁ ++ c :: a₂ → ¬sep <+: c :: a₂ ++ (sep ++ b)) :
    splitFirst sep (a ++ (sep ++ b)) = some (a, b) := by
  induction a with
  | nil =>
    match sep with
    | [] => exact absurd rfl hsep
    | s :: sep =>
      have hpre : (s :: sep).isPrefixOf (s :: (sep ++ b)) = true := by
        rw [List.isPrefixOf_iff_prefix]
        exact List.prefix_append (s :: sep) b
      simp [splitFirst, hpre]
  | cons c a ih =>
    have hpre : sep.isPrefixOf (c :: (a ++ (sep ++ b))) = false := by
      rw [← Bool.not_eq_true, List.isPrefixOf_iff_prefix]
      exact h [] c a rfl
    rw [List.cons_append, splitFirst, hpre,
      ih fun a₁ c' a₂ ha => h (c :: a₁) c' a₂ (by rw [ha]; rfl)]
    rfl

/-- The last occurrence is the one after which none stands. -/
theorem rsplitOnce_append {sep : Char} {a b : List Char} (hb : sep ∉ b) :
    rsplitOnce sep (String.ofList (a ++ sep :: b)) = some (String.ofList a, String.ofList b) := by
  have hsplit : splitFirst [sep] (b.reverse ++ ([sep] ++ a.reverse)) =
      some (b.reverse, a.reverse) := by
    refine splitFirst_append (by simp) fun a₁ c a₂ ha hpre => ?_
    have hc : sep = c := (List.cons_prefix_cons.mp hpre).1
    have hmem : c ∈ b.reverse := by simp [ha]
    exact hb (hc ▸ List.mem_reverse.mp hmem)
  have hlist : (String.ofList (a ++ sep :: b)).toList.reverse =
      b.reverse ++ ([sep] ++ a.reverse) := by simp
  rw [rsplitOnce, hlist, hsplit]
  simp

theorem append_right_inj {a s t : String} (h : a ++ s = a ++ t) : s = t := by
  have hlist := congrArg String.toList h
  rw [String.toList_append, String.toList_append] at hlist
  exact String.toList_inj.mp (List.append_cancel_left hlist)

/-- Text before the first separator is read off uniquely. -/
theorem append_sep_inj {sep : Char} {a a' b b' : List Char} (ha : sep ∉ a) (ha' : sep ∉ a')
    (h : a ++ sep :: b = a' ++ sep :: b') : a = a' ∧ b = b' := by
  induction a generalizing a' with
  | nil =>
    match a' with
    | [] => exact ⟨rfl, List.cons.inj h |>.2⟩
    | c :: a' => exact absurd (List.cons.inj h).1.symm (fun hc => ha' (hc ▸ List.mem_cons_self ..))
  | cons c a ih =>
    match a' with
    | [] => exact absurd (List.cons.inj h).1 (fun hc => ha (hc ▸ List.mem_cons_self ..))
    | c' :: a' =>
      obtain ⟨rfl, ht⟩ := List.cons.inj h
      obtain ⟨rfl, rfl⟩ := ih (fun hm => ha (List.mem_cons_of_mem _ hm))
        (fun hm => ha' (List.mem_cons_of_mem _ hm)) ht
      exact ⟨rfl, rfl⟩

/-- The id `router:<name>:interface:<iface>` tells its router and its interface. -/
theorem interfaceId_inj {a a' b b' : String} (ha : ':' ∉ a.toList) (ha' : ':' ∉ a'.toList)
    (h : "router:" ++ a ++ ":interface:" ++ b = "router:" ++ a' ++ ":interface:" ++ b') :
    a = a' ∧ b = b' := by
  have hlist := congrArg String.toList h
  simp only [String.toList_append, List.append_assoc] at hlist
  have hcolon : a.toList ++ ':' :: ("interface:".toList ++ b.toList) =
      a'.toList ++ ':' :: ("interface:".toList ++ b'.toList) := List.append_cancel_left hlist
  obtain ⟨hrouter, hrest⟩ := append_sep_inj ha ha' hcolon
  exact ⟨String.toList_inj.mp hrouter, String.toList_inj.mp (List.append_cancel_left hrest)⟩

/-- The id `router:<name>:interface:<iface>` splits into its router and its interface,
unless the router is called `interface`. -/
theorem splitInTwo_interfaceId {name iface routerId ifaceName : String}
    (hname : ':' ∉ name.toList) (hne : name ≠ "interface")
    (h : splitInTwo ":interface:" ("router:" ++ name ++ ":interface:" ++ iface) =
      some (routerId, ifaceName)) :
    routerId = "router:" ++ name ∧ ifaceName = iface := by
  have hsplit : splitFirst ":interface:".toList
      (("router:" ++ name).toList ++ (":interface:".toList ++ iface.toList)) =
      some (("router:" ++ name).toList, iface.toList) := by
    refine splitFirst_append (by decide) fun a₁ c a₂ ha hpre => ?_
    have hc : c = ':' := by
      obtain ⟨t, ht⟩ := hpre
      exact ((List.cons.inj ht).1).symm
    subst hc
    -- the only colon of `router:<name>` is the one before the name
    have hsuffix : a₁ = "router".toList ∧ a₂ = name.toList := by
      refine append_sep_inj ?_ (by decide) (ha.symm.trans ?_)
      · have hcount := congrArg (List.count ':') ha
        rw [String.toList_append, List.count_append, List.count_append, List.count_cons_self,
          List.count_eq_zero_of_not_mem hname] at hcount
        have hone : List.count ':' "router:".toList = 1 := by decide
        exact List.count_eq_zero.mp (by omega)
      · rw [String.toList_append]; rfl
    obtain ⟨t, ht⟩ := hpre
    have htail : "interface".toList ++ ':' :: t =
        name.toList ++ ':' :: ("interface:".toList ++ iface.toList) := by
      rw [← hsuffix.2]
      exact (List.cons.inj ht).2
    have heq := (append_sep_inj (by decide) hname htail).1
    exact hne (String.toList_inj.mp heq.symm)
  have hlist : ("router:" ++ name ++ ":interface:" ++ iface).toList =
      ("router:" ++ name).toList ++ (":interface:".toList ++ iface.toList) := by
    simp only [String.toList_append, List.append_assoc]
  rw [splitInTwo, hlist, hsplit] at h
  dsimp only at h
  split at h
  · simp only [Option.some.injEq, Prod.mk.injEq, String.ofList_toList] at h
    exact ⟨h.1.symm, h.2.symm⟩
  · cases h
/-! ## Patterns -/

/-- SQL's `LIKE` on characters: `%` matches any text, `_` any character, and a backslash
the character that follows it. The flag says that the pattern's first character follows one. -/
def likeChars : Bool → List Char → List Char → Bool
  | escaped, [], s => !escaped && s.isEmpty
  | escaped, p :: ps, s =>
    if !escaped && p = '%' then s.tails.any (likeChars false ps)
    else if !escaped && p = '\\' then likeChars true ps s
    else
      match s with
      | [] => false
      | c :: cs => (!escaped && p = '_' || p = c) && likeChars false ps cs

/-- `s LIKE pattern`. -/
def like (s pattern : String) : Bool := likeChars false pattern.toList s.toList

/-- A pattern that ends in its only wildcard selects a prefix. -/
theorem likeChars_append_percent {p s : List Char}
    (h : (p.all fun c => c ≠ '%' ∧ c ≠ '_' ∧ c ≠ '\\') = true) :
    likeChars false (p ++ ['%']) s = p.isPrefixOf s := by
  induction p generalizing s with
  | nil => simp [likeChars]
  | cons a p ih =>
    rw [List.all_cons, Bool.and_eq_true, decide_eq_true_eq] at h
    obtain ⟨ha, htail⟩ := h
    have ih := fun s => ih (s := s) htail
    cases s with
    | nil => simp [likeChars, ha]
    | cons c cs => simp [likeChars, ha, ih, List.isPrefixOf, beq_eq_decide]

/-- `LIKE 'link:%'`. -/
theorem like_link (s : String) : like s "link:%" = startsWith s "link:" :=
  likeChars_append_percent (p := "link:".toList) (by decide)

/-- `LIKE 'subnet:%'`. -/
theorem like_subnet (s : String) : like s "subnet:%" = startsWith s "subnet:" :=
  likeChars_append_percent (p := "subnet:".toList) (by decide)

/-- `LIKE 'vpn:%'`. -/
theorem like_vpn (s : String) : like s "vpn:%" = startsWith s "vpn:" :=
  likeChars_append_percent (p := "vpn:".toList) (by decide)

/-! ## Case mapping of ASCII text -/

def lowerAscii (s : String) : String := String.ofList (s.toList.map Char.toLower)

def upperAscii (s : String) : String := String.ofList (s.toList.map Char.toUpper)

theorem toLower_toLower (c : Char) : c.toLower.toLower = c.toLower := by
  unfold Char.toLower
  split
  · next h =>
    rw [dif_neg]
    have hA : 'A'.val.toNat = 65 := rfl
    have hZ : 'Z'.val.toNat = 90 := rfl
    have hd : ('a'.val - 'A'.val).toNat = 32 := rfl
    simp only [ge_iff_le, UInt32.le_iff_toNat_le, UInt32.toNat_add] at h ⊢
    omega
  · rfl

theorem toUpper_toUpper (c : Char) : c.toUpper.toUpper = c.toUpper := by
  unfold Char.toUpper
  split
  · next h =>
    rw [dif_neg]
    have ha : 'a'.val.toNat = 97 := rfl
    have hz : 'z'.val.toNat = 122 := rfl
    -- the difference of the cases, modulo `2 ^ 32`
    have hd : ('A'.val - 'a'.val).toNat = 4294967264 := rfl
    simp only [UInt32.le_iff_toNat_le, UInt32.toNat_add] at h ⊢
    omega
  · rfl

theorem lowerAscii_lowerAscii (s : String) : lowerAscii (lowerAscii s) = lowerAscii s := by
  simp [lowerAscii, Function.comp_def, toLower_toLower]

theorem upperAscii_upperAscii (s : String) : upperAscii (upperAscii s) = upperAscii s := by
  simp [upperAscii, Function.comp_def, toUpper_toUpper]

end GnnSandbox.Graph
