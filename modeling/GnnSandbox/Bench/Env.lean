import GnnSandbox.Bench.Twin
import GnnSandbox.Graph.Text

/-!
# The world around the injector

`Env` collects what the injector does not decide: the draws of `random.Random`, digests,
the arithmetic of dates, and Python's full Unicode case mapping and formatting.
-/

namespace GnnSandbox.Bench

open Graph (Float64)

/-- A generator such as `random.Random`: its draws lie in the ranges that are asked for. -/
structure Generator where
  State : Type
  /-- `Random(f"{seed}:{id}")` -/
  seeded : ℤ → String → State
  /-- `random() < rate` -/
  below : Float64 → State → Bool × State
  /-- The index of `choice(items)` for so many items. -/
  choice : ℕ → State → ℕ × State
  choice_lt : ∀ n s, n ≠ 0 → (choice n s).1 < n
  /-- The indices of `sample(items, k)` for `n` items. -/
  sample : ℕ → ℕ → State → List ℕ × State
  sample_length : ∀ n k s, k ≤ n → (sample n k s).1.length = k
  sample_nodup : ∀ n k s, k ≤ n → (sample n k s).1.Nodup
  sample_lt : ∀ n k s, k ≤ n → ∀ i ∈ (sample n k s).1, i < n
  /-- `randint(a, b)` -/
  randint : ℤ → ℤ → State → ℤ × State
  randint_mem : ∀ a b s, a ≤ b → a ≤ (randint a b s).1 ∧ (randint a b s).1 ≤ b

structure Env where
  rng : Generator
  /-- `repr` of a value -/
  repr : Value → String
  /-- `str.upper` -/
  upper : String → String
  /-- The characters that `\d` matches. -/
  isDecimal : Char → Bool
  /-- The bytes of `hashlib.sha256`. -/
  sha256 : String → List ℕ
  /-- `compute_content_hash` -/
  contentHash : GoldenTwinEntities → String
  /-- The date 30 days before an instant and so many days later; `none` when the text is no
  instant. -/
  auditDate : String → ℤ → Option String
  /-- The instant so many seconds later; `none` when the text is no instant. -/
  secondsLater : String → ℕ → Option String

/-- `f"{a}"` -/
def Value.format (env : Env) : Value → String
  | none => "None"
  | bool b => if b then "True" else "False"
  | int n => toString n
  | str s => s
  | a => env.repr a

/-- Draws that always take the first of what is offered. -/
def Generator.first : Generator where
  State := Unit
  seeded _ _ := ()
  below rate s := (match rate with
    | .finite q => decide (0 < q)
    | .inf negative => !negative
    | .nan => false, s)
  choice _ s := (0, s)
  choice_lt _ _ h := Nat.pos_of_ne_zero h
  sample _ k s := (List.range k, s)
  sample_length _ _ _ _ := List.length_range
  sample_nodup _ _ _ _ := List.nodup_range
  sample_lt _ _ _ h _ hi := (List.mem_range.mp hi).trans_le h
  randint a _ s := (a, s)
  randint_mem _ _ _ h := ⟨le_refl _, h⟩

/-- An environment for ASCII text, with the draws that take the first. -/
def Env.plain : Env where
  rng := .first
  repr _ := ""
  upper := Graph.upperAscii
  isDecimal c := c.isDigit
  sha256 _ := []
  contentHash _ := ""
  auditDate _ _ := some ""
  secondsLater _ _ := some ""

end GnnSandbox.Bench

/-!
## Synthesised inventory columns

The naming convention of the catalog, and the columns that it derives from ids and names.
-/

namespace GnnSandbox.Bench

variable (env : Env)

def isAsciiAlpha (c : Char) : Bool := ('a' ≤ c ∧ c ≤ 'z') ∨ ('A' ≤ c ∧ c ≤ 'Z')

/-- `^([a-zA-Z]+)(\d+)$`, whose end may stand before a last line break. -/
def splitNumbered (part : List Char) : Option (List Char × List Char) :=
  let letters := part.takeWhile isAsciiAlpha
  let rest := part.dropWhile isAsciiAlpha
  let digits := if rest.getLast? = some '\n' then rest.dropLast else rest
  if letters ≠ [] ∧ digits ≠ [] ∧ digits.all env.isDecimal then some (letters, digits) else none

/-- A part of a hostname between dashes. -/
def displayPart (part : List Char) : String :=
  match splitNumbered env part with
  | some (letters, digits) => env.upper (String.ofList letters) ++ "-" ++ String.ofList digits
  | none => env.upper (String.ofList part)

/-- `to_display_name` -/
def toDisplayName (hostname : String) : String :=
  "-".intercalate ((hostname.toList.splitOn '-').map (displayPart env))

/-! ## Digests -/

/-- `int.from_bytes(bytes, "big")` -/
def fromBytes (bytes : List ℕ) : ℕ := bytes.foldl (fun n b => n * 256 + b) 0

/-- `_deterministic_int` -/
def deterministicInt (seed : ℤ) (key : String) (modulo : ℕ) : ℕ :=
  fromBytes ((env.sha256 (toString seed ++ ":" ++ key)).take 4) % modulo

def hexDigit (n : ℕ) : Char := Char.ofNat (if n < 10 then n + 48 else n + 55)

/-- The upper-case hexadecimal digits of some bytes. -/
def hexUpper (bytes : List ℕ) : List Char :=
  bytes.flatMap fun b => [hexDigit (b / 16), hexDigit (b % 16)]

/-- `f"{n:04d}"` -/
def pad4 (n : ℕ) : String :=
  String.ofList (List.replicate (4 - (toString n).length) '0') ++ toString n

/-- `_synth_serial` of the text of an id. -/
def synthSerial (seed : ℤ) (id : String) : String :=
  "SN-" ++ String.ofList
    ((hexUpper (env.sha256 (toString seed ++ ":serial:" ++ id))).take 12)

/-- `_synth_asset_tag` -/
def synthAssetTag (seed : ℤ) (id : String) : String :=
  "ASSET-" ++ pad4 (deterministicInt env seed ("asset:" ++ id) 9000 + 1000)

/-- `_synth_mgmt_ip` -/
def synthMgmtIp (seq : ℕ) : String := "10.0.0." ++ toString (seq + 10)

/-- `_synth_fiber_type` -/
def synthFiberType (linkName : String) : String :=
  (["single-mode", "multi-mode", "copper"][deterministicInt env 0 ("fiber:" ++ linkName) 3]?).getD ""

/-- `_synth_length_km` -/
def synthLengthKm (linkName : String) : ℕ :=
  deterministicInt env 0 ("length:" ++ linkName) 500 + 1

def SPEED_TO_MBPS : List (String × ℤ) :=
  [("10G", 10000), ("1G", 1000), ("100M", 100), ("10M", 10), ("100mbit", 100), ("1gbit", 1000),
    ("10gbit", 10000), ("unlimited", 1000)]

end GnnSandbox.Bench
