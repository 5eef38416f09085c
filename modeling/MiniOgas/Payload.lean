import Mathlib.Algebra.Ring.Rat
import Mathlib.Algebra.Order.Ring.Unbundled.Rat
import Mathlib.Data.List.Sort

namespace MiniOgas

/-- An instant, in microseconds since the epoch. -/
abbrev Timestamp := Int

def second : Int := 1000000

abbrev Quantity := ℚ

theorem quantity_pos (n : Nat) : (0 : Quantity) < n + 1 := by
  grind

/-- The characters of `str.isspace`. -/
def isSpace (c : Char) : Bool :=
  let n := c.toNat
  (9 ≤ n && n ≤ 13) || (28 ≤ n && n ≤ 32) || n = 0x85 || n = 0xa0 || n = 0x1680 ||
    (0x2000 ≤ n && n ≤ 0x200a) || n = 0x2028 || n = 0x2029 || n = 0x202f || n = 0x205f ||
    n = 0x3000

/-- The characters of the Unicode property `White_Space`, which
`str_strip_whitespace` strips: unlike `str.isspace`, not U+001C to U+001F. -/
def isWhiteSpace (c : Char) : Bool :=
  isSpace c && !(28 ≤ c.toNat && c.toNat ≤ 31)

def stripChars (p : Char → Bool) (xs : List Char) : List Char :=
  ((xs.dropWhile p).reverse.dropWhile p).reverse

def strip (s : String) : String := String.ofList (stripChars isSpace s.toList)

def isBlank (s : String) : Bool := s.toList.all isSpace

theorem exists_of_stripChars {p : Char → Bool} {xs : List Char} (h : stripChars p xs ≠ []) :
    ∃ c ∈ stripChars p xs, p c = false := by
  have hne : (xs.dropWhile p).reverse.dropWhile p ≠ [] := fun hnil => h (by simp [stripChars, hnil])
  exact ⟨_, List.mem_reverse.mpr (List.head_mem hne), List.head_dropWhile_not p hne⟩

theorem strip_not_blank {s : String} (h : strip s ≠ "") : isBlank (strip s) = false := by
  have hne : stripChars isSpace s.toList ≠ [] := fun hnil => h (by simp [strip, hnil])
  obtain ⟨c, hc, hp⟩ := exists_of_stripChars hne
  simpa [isBlank, strip] using ⟨c, hc, hp⟩

/-- SQL `TRIM(s)`, which strips blanks only. -/
def trim (s : String) : String := String.ofList (stripChars (· = ' ') s.toList)

/-- A `str` field with `str_strip_whitespace`, `min_length` and `max_length`. -/
structure Text (minLength maxLength : Nat) where
  value : String
  stripped : stripChars isWhiteSpace value.toList = value.toList
  bounded : minLength ≤ value.toList.length ∧ value.toList.length ≤ maxLength

def isCodeHead (c : Char) : Bool := c.isAlphanum

def isCodeTail (c : Char) : Bool := c.isAlphanum || c = '.' || c = '_' || c = '-'

/-- `CODE_PATTERN`: `^[A-Za-z0-9][A-Za-z0-9._-]{1,63}$`. -/
def matchesCodePattern (s : String) : Bool :=
  match s.toList with
  | [] => false
  | c :: cs => isCodeHead c && cs.all isCodeTail && decide (1 ≤ cs.length ∧ cs.length ≤ 63)

structure Code where
  value : String
  matchesPattern : matchesCodePattern value = true
deriving DecidableEq

theorem taskId_none : ∀ id ∈ (none : Option Nat), 1 ≤ id := by simp

theorem firstRevision_pos : (1 : Int) ≤ 1 := le_refl 1

theorem firstPeriod_valid : (0 : Timestamp) < 1 := Int.one_pos

def Text.empty {maxLength : Nat} : Text 0 maxLength := ⟨"", by simp [stripChars], by simp⟩

def Text.orElse {minLength maxLength : Nat} (other : Text minLength maxLength) (s : String) :
    Text minLength maxLength :=
  if h : stripChars isWhiteSpace s.toList = s.toList ∧
      minLength ≤ s.toList.length ∧ s.toList.length ≤ maxLength then ⟨s, h.1, h.2⟩ else other

def Code.orElse (other : Code) (s : String) : Code :=
  if h : matchesCodePattern s = true then ⟨s, h⟩ else other

def sampleCode : String → Code := Code.orElse ⟨"A1", by decide +kernel⟩

def sampleKey : String → Text 1 128 := Text.orElse ⟨"-", by decide +kernel, by decide +kernel⟩

def sampleReference : Text 1 240 := ⟨"E-1", by decide +kernel, by decide +kernel⟩

/-- What `_json_ready` leaves: a datetime is the text of its instant. -/
inductive Json where
  | null
  | bool (b : Bool)
  | int (n : Int)
  | float (q : ℚ)
  | str (s : String)
  | time (t : Timestamp)
  | arr (items : List Json)
  | obj (fields : List (String × Json))

inductive JsonToken where
  | null
  | bool (b : Bool)
  | int (n : Int)
  | float (q : ℚ)
  | str (s : String)
  | time (t : Timestamp)
  | openArr
  | closeArr
  | openObj
  | key (s : String)
  | closeObj
deriving DecidableEq

/-- The fields of an object in the order that `sort_keys=True` writes them. -/
def sortKeys (fields : List (String × List JsonToken)) : List (String × List JsonToken) :=
  fields.insertionSort fun x y => x.1 ≤ y.1

mutual

/-- `_canonical_json`, as the tokens of its text. -/
def canonicalJson : Json → List JsonToken
  | .null => [.null]
  | .bool b => [.bool b]
  | .int n => [.int n]
  | .float q => [.float q]
  | .str s => [.str s]
  | .time t => [.time t]
  | .arr items => [.openArr] ++ canonicalItems items ++ [.closeArr]
  | .obj fields =>
    [.openObj] ++ (sortKeys (canonicalFields fields)).flatMap (fun f => .key f.1 :: f.2) ++
      [.closeObj]

def canonicalItems : List Json → List JsonToken
  | [] => []
  | item :: items => canonicalJson item ++ canonicalItems items

def canonicalFields : List (String × Json) → List (String × List JsonToken)
  | [] => []
  | field :: fields => (field.1, canonicalJson field.2) :: canonicalFields fields

end

/-- `_request_hash`, with SHA-256 taken as free of collisions: the digest is
represented by the text it is taken of. -/
def requestHash (payload : Json) : List JsonToken := canonicalJson payload

/-- `ExecutionError`, `MaterialFlowError`, `QualityError` and `MaintenanceError`
share these fields. -/
structure AuthorityError where
  statusCode : Nat
  code : String
  message : String
  context : List (String × Json) := []

inductive Fault where
  | execution (error : AuthorityError)
  | materialFlow (error : AuthorityError)
  | quality (error : AuthorityError)
  | maintenance (error : AuthorityError)
  | database (message : String)
  | runtime (message : String)

/-- The arithmetic of the quantities: rational numbers, unless a result is about `float`s. -/
class Arithmetic where
  /-- The number that stands for an exact result, or for a literal. -/
  round : Quantity → Quantity
  /-- `sum(xs)`. -/
  sum : List Quantity → Quantity
  /-- `SUM(x)`. -/
  total : List Quantity → Quantity

@[reducible] instance exactArithmetic : Arithmetic := ⟨fun q => q, List.sum, List.sum⟩

@[simp] theorem round_exact (q : Quantity) : Arithmetic.round q = q := rfl

@[simp] theorem sum_exact (qs : List Quantity) : Arithmetic.sum qs = qs.sum := rfl

@[simp] theorem total_exact (qs : List Quantity) : Arithmetic.total qs = qs.sum := rfl

/-- `_same_quantity`. -/
def sameQuantity [Arithmetic] (left right : Quantity) : Bool :=
  decide (Arithmetic.round (left - right) ≤ Arithmetic.round (1 / 1000000000) ∧
    Arithmetic.round (right - left) ≤ Arithmetic.round (1 / 1000000000))

def jsonText (x : Option String) : Json := (x.map Json.str).getD .null

def jsonNat (x : Option Nat) : Json := (x.map fun n => Json.int n).getD .null

def jsonFlag (b : Bool) : Json := .int (if b then 1 else 0)

def jsonTime (x : Option Timestamp) : Json := (x.map Json.time).getD .null

end MiniOgas
