import MiniOgas.CommandTables
import Mathlib.Algebra.Order.BigOperators.Group.List
import Mathlib.Data.List.TakeWhile
import Mathlib.Tactic.IntervalCases
import Mathlib.Tactic.Tauto

namespace MiniOgas

def quotationMark : Char := Char.ofNat 34

def reverseSolidus : Char := Char.ofNat 92

def hexDigit (n : Nat) : Char :=
  if n < 10 then Char.ofNat (48 + n) else Char.ofNat (87 + n)

def hexValue (c : Char) : Option Nat :=
  let n := c.toNat
  if 48 ≤ n ∧ n ≤ 57 then some (n - 48)
  else if 97 ≤ n ∧ n ≤ 102 then some (n - 87)
  else if 65 ≤ n ∧ n ≤ 70 then some (n - 55)
  else none

/-- A character of a text that `json.dumps` writes with `ensure_ascii=False`. -/
def escapeChar (c : Char) : List Char :=
  if c = quotationMark ∨ c = reverseSolidus then [reverseSolidus, c]
  else if 32 ≤ c.toNat then [c]
  else if c.toNat = 8 then [reverseSolidus, 'b']
  else if c.toNat = 9 then [reverseSolidus, 't']
  else if c.toNat = 10 then [reverseSolidus, 'n']
  else if c.toNat = 12 then [reverseSolidus, 'f']
  else if c.toNat = 13 then [reverseSolidus, 'r']
  else [reverseSolidus, 'u', '0', '0', hexDigit (c.toNat / 16), hexDigit (c.toNat % 16)]

def writeCodeUnit (n : Nat) : List Char :=
  [reverseSolidus, 'u', hexDigit (n / 4096), hexDigit (n / 256 % 16), hexDigit (n / 16 % 16),
    hexDigit (n % 16)]

/-- A character that `ensure_ascii=True` does not write as it is. -/
def escapeUnicode (c : Char) : List Char :=
  if c.toNat < 0x10000 then writeCodeUnit c.toNat
  else writeCodeUnit (0xD800 + (c.toNat - 0x10000) / 1024) ++
    writeCodeUnit (0xDC00 + (c.toNat - 0x10000) % 1024)

def readCodeUnit : List Char → Option (Nat × List Char)
  | a :: b :: c :: d :: rest => do
    let a ← hexValue a
    let b ← hexValue b
    let c ← hexValue c
    let d ← hexValue d
    return (((a * 16 + b) * 16 + c) * 16 + d, rest)
  | _ => none

def readLowSurrogate : List Char → Option (Nat × List Char)
  | c :: u :: rest =>
    if c = reverseSolidus ∧ u = 'u' then
      (readCodeUnit rest).filter fun unit => 0xDC00 ≤ unit.1 && unit.1 < 0xE000
    else none
  | _ => none

/-- What follows a reverse solidus; half a pair of code units is no character. -/
def readEscape : List Char → Option (Char × List Char)
  | [] => none
  | c :: rest =>
    if c = quotationMark ∨ c = reverseSolidus ∨ c = '/' then some (c, rest)
    else if c = 'b' then some (Char.ofNat 8, rest)
    else if c = 't' then some (Char.ofNat 9, rest)
    else if c = 'n' then some (Char.ofNat 10, rest)
    else if c = 'f' then some (Char.ofNat 12, rest)
    else if c = 'r' then some (Char.ofNat 13, rest)
    else if c = 'u' then do
      let (unit, rest) ← readCodeUnit rest
      if 0xD800 ≤ unit ∧ unit < 0xDC00 then
        let (low, rest) ← readLowSurrogate rest
        return (Char.ofNat (0x10000 + (unit - 0xD800) * 1024 + (low - 0xDC00)), rest)
      else if 0xDC00 ≤ unit ∧ unit < 0xE000 then none
      else return (Char.ofNat unit, rest)
    else none

def readText : Nat → List Char → Option (List Char × List Char)
  | fuel + 1, c :: rest =>
    if c = quotationMark then some ([], rest)
    else if c = reverseSolidus then do
      let (c, rest) ← readEscape rest
      let (cs, rest) ← readText fuel rest
      return (c :: cs, rest)
    else if c.toNat < 32 then none
    else do
      let (cs, rest) ← readText fuel rest
      return (c :: cs, rest)
  | _, _ => none

def isNumberChar (c : Char) : Bool :=
  c.isDigit || c = '-' || c = '+' || c = '.' || c = 'e' || c = 'E'

/-- `0|[1-9][0-9]*`. -/
def isWhole (digits : List Char) : Bool :=
  !digits.isEmpty && digits.all Char.isDigit && (digits.length = 1 || digits.head? != some '0')

/-- `-?` and what follows. -/
def magnitude : List Char → List Char
  | [] => []
  | c :: cs => if c = '-' then cs else c :: cs

/-- `[eE][-+]?[0-9]+`. -/
def isExponent : List Char → Bool
  | c :: sign :: digits =>
    (c = 'e' || c = 'E') && (if sign = '-' ∨ sign = '+' then digits else sign :: digits).all
      Char.isDigit && !(if sign = '-' ∨ sign = '+' then digits else sign :: digits).isEmpty
  | _ => false

/-- `\.[0-9]+` with an exponent or without, or an exponent. -/
def isFraction : List Char → Bool
  | [] => false
  | c :: cs =>
    if c = '.' then
      !(cs.takeWhile Char.isDigit).isEmpty &&
        ((cs.dropWhile Char.isDigit).isEmpty || isExponent (cs.dropWhile Char.isDigit))
    else isExponent (c :: cs)

/-- The text of a number that is a `float`. -/
def isFloatText (cs : List Char) : Bool :=
  isWhole ((magnitude cs).takeWhile Char.isDigit) &&
    isFraction ((magnitude cs).dropWhile Char.isDigit)

/-- The `ensure_ascii` of `json.dumps`, and `float.__repr__`, and `float` of such a text, of the
numbers that are finite. -/
structure FloatFormat where
  ensureAscii : Bool := false
  repr : ℚ → List Char
  parse : List Char → Option ℚ
  numeric : ∀ q, (repr q).all isNumberChar = true
  floating : ∀ q, isFloatText (repr q) = true
  parse_repr : ∀ q, parse (repr q) = some q

/-- `int.__repr__`. -/
def writeInt : Int → List Char
  | .ofNat n => Nat.toDigits 10 n
  | .negSucc n => '-' :: Nat.toDigits 10 (n + 1)

def readInteger (cs : List Char) : Option Int :=
  if isWhole (magnitude cs) then
    let n : Int := Nat.ofDigitChars 10 (magnitude cs) 0
    some (if cs.head? = some '-' then -n else n)
  else none

def isJsonSpace (c : Char) : Bool := c = ' ' || c = '\t' || c = '\n' || c = '\r'

def skipSpace (cs : List Char) : List Char := cs.dropWhile isJsonSpace

def closes (c : Char) : Bool := c = ',' || c = ']' || c = '}'

section Values

variable (format : FloatFormat)

def FloatFormat.escape (c : Char) : List Char :=
  if format.ensureAscii = true ∧ 127 ≤ c.toNat then escapeUnicode c else escapeChar c

def writeText (cs : List Char) : List Char :=
  quotationMark :: cs.flatMap format.escape ++ [quotationMark]

mutual

def writeJson : Json → List Char
  | .null => "null".toList
  | .bool true => "true".toList
  | .bool false => "false".toList
  | .int n => writeInt n
  | .float q => format.repr q
  | .str s => writeText format s.toList
  | .time _ => []
  | .arr items => '[' :: (writeItems items).drop 1 ++ [']']
  | .obj fields => '{' :: (writeMembers fields).drop 1 ++ ['}']

def writeItems : List Json → List Char
  | [] => []
  | item :: items => ',' :: writeJson item ++ writeItems items

def writeMembers : List (String × Json) → List Char
  | [] => []
  | field :: fields => ',' :: (writeText format field.1.toList ++ ':' :: writeJson field.2) ++
      writeMembers fields

end

def readNumber (cs : List Char) : Option Json :=
  if isFloatText cs then (format.parse cs).map Json.float else (readInteger cs).map Json.int

def readLiteral (name : String) (value : Json) (cs : List Char) : Option (Json × List Char) :=
  if name.toList.isPrefixOf cs then some (value, cs.drop name.toList.length) else none

mutual

/-- The value that a text begins with, and the rest of the text. -/
def readJson : Nat → List Char → Option (Json × List Char)
  | 0, _ => none
  | fuel + 1, cs =>
    match skipSpace cs with
    | [] => none
    | c :: rest =>
      if c = quotationMark then
        (readText fuel rest).map fun text => (.str (String.ofList text.1), text.2)
      else if c = '[' then
        match skipSpace rest with
        | ']' :: rest => some (.arr [], rest)
        | rest => do
          let (item, rest) ← readJson fuel rest
          let (items, rest) ← readItems fuel rest
          return (.arr (item :: items), rest)
      else if c = '{' then
        match skipSpace rest with
        | '}' :: rest => some (.obj [], rest)
        | rest => do
          let (field, rest) ← readMember fuel rest
          let (fields, rest) ← readMembers fuel rest
          return (.obj ((field :: fields).foldl (fun all one => Fields.set all one.1 one.2) []),
            rest)
      else if c = 'n' then readLiteral "null" .null (c :: rest)
      else if c = 't' then readLiteral "true" (.bool true) (c :: rest)
      else if c = 'f' then readLiteral "false" (.bool false) (c :: rest)
      else
        (readNumber format ((c :: rest).takeWhile isNumberChar)).map fun number =>
          (number, (c :: rest).dropWhile isNumberChar)

def readItems : Nat → List Char → Option (List Json × List Char)
  | 0, _ => none
  | fuel + 1, cs =>
    match skipSpace cs with
    | ']' :: rest => some ([], rest)
    | ',' :: rest => do
      let (item, rest) ← readJson fuel rest
      let (items, rest) ← readItems fuel rest
      return (item :: items, rest)
    | _ => none

def readMember : Nat → List Char → Option ((String × Json) × List Char)
  | 0, _ => none
  | fuel + 1, cs =>
    match skipSpace cs with
    | [] => none
    | c :: rest =>
      if c = quotationMark then do
        let (key, rest) ← readText fuel rest
        match skipSpace rest with
        | ':' :: rest =>
          let (value, rest) ← readJson fuel rest
          return ((String.ofList key, value), rest)
        | _ => none
      else none

def readMembers : Nat → List Char → Option (List (String × Json) × List Char)
  | 0, _ => none
  | fuel + 1, cs =>
    match skipSpace cs with
    | '}' :: rest => some ([], rest)
    | ',' :: rest => do
      let (field, rest) ← readMember fuel rest
      let (fields, rest) ← readMembers fuel rest
      return (field :: fields, rest)
    | _ => none

end

/-- `json.loads`, of the texts without `NaN` and `Infinity`. -/
def loadJson (text : String) : Option Json :=
  match readJson format (text.toList.length + 1) text.toList with
  | some (value, rest) => if (skipSpace rest).isEmpty then some value else none
  | none => none

end Values

mutual

/-- The value is of a `dict` that `json.dumps` takes: no datetimes, and no key twice. -/
def Json.plain : Json → Bool
  | .time _ => false
  | .arr items => plainItems items
  | .obj fields => decide (fields.map Prod.fst).Nodup && plainFields fields
  | _ => true

def plainItems : List Json → Bool
  | [] => true
  | item :: items => item.plain && plainItems items

def plainFields : List (String × Json) → Bool
  | [] => true
  | field :: fields => field.2.plain && plainFields fields

end

theorem readCodeUnit_control {n : Nat} (small : n < 32) (rest : List Char) :
    readCodeUnit ('0' :: '0' :: hexDigit (n / 16) :: hexDigit (n % 16) :: rest) =
      some (n, rest) := by
  interval_cases n <;> rfl

theorem escapeChar_cases (c : Char) :
    (escapeChar c = [c] ∧ c ≠ quotationMark ∧ c ≠ reverseSolidus ∧ ¬ c.toNat < 32) ∨
      ∃ cs, escapeChar c = reverseSolidus :: cs ∧
        ∀ rest, readEscape (cs ++ rest) = some (c, rest) := by
  have self : Char.ofNat c.toNat = c := Char.ofNat_toNat c
  unfold escapeChar
  split
  next special =>
    refine .inr ⟨[c], rfl, fun rest => ?_⟩
    exact if_pos (by tauto)
  next plain =>
    simp only [not_or] at plain
    split
    next visible => exact .inl ⟨rfl, plain.1, plain.2, by omega⟩
    next control =>
      refine .inr ?_
      split
      next same => exact ⟨['b'], rfl, fun rest => by rw [← self, same]; rfl⟩
      next =>
        split
        next same => exact ⟨['t'], rfl, fun rest => by rw [← self, same]; rfl⟩
        next =>
          split
          next same => exact ⟨['n'], rfl, fun rest => by rw [← self, same]; rfl⟩
          next =>
            split
            next same => exact ⟨['f'], rfl, fun rest => by rw [← self, same]; rfl⟩
            next =>
              split
              next same => exact ⟨['r'], rfl, fun rest => by rw [← self, same]; rfl⟩
              next =>
                refine ⟨_, rfl, fun rest => ?_⟩
                have unit := @readCodeUnit_control c.toNat (by omega) rest
                have escaped : readEscape ('u' :: '0' :: '0' :: hexDigit (c.toNat / 16) ::
                    hexDigit (c.toNat % 16) :: rest) = some (Char.ofNat c.toNat, rest) := by
                  unfold readEscape
                  simp only [Char.reduceEq, if_false, if_true, unit]
                  rw [if_neg (by decide), Option.bind_eq_bind, Option.bind_some,
                    if_neg (by omega), if_neg (by omega)]
                  rfl
                rw [self] at escaped
                exact escaped

theorem readCodeUnit_writeCodeUnit {n : Nat} (small : n < 65536) (rest : List Char) :
    readCodeUnit (hexDigit (n / 4096) :: hexDigit (n / 256 % 16) :: hexDigit (n / 16 % 16) ::
      hexDigit (n % 16) :: rest) = some (n, rest) := by
  have digit : ∀ m, m < 16 → hexValue (hexDigit m) = some m := by
    intro m below
    interval_cases m <;> rfl
  simp only [readCodeUnit, digit _ (show n / 4096 < 16 by omega), digit (n / 256 % 16) (by omega),
    digit (n / 16 % 16) (by omega), digit (n % 16) (by omega), Option.bind_eq_bind,
    Option.bind_some]
  exact congrArg some (Prod.ext (by dsimp only; omega) rfl)

theorem escapeUnicode_cases (c : Char) :
    ∃ cs, escapeUnicode c = reverseSolidus :: cs ∧
      ∀ rest, readEscape (cs ++ rest) = some (c, rest) := by
  have self : Char.ofNat c.toNat = c := Char.ofNat_toNat c
  have valid : c.toNat < 0xD800 ∨ 0xDFFF < c.toNat ∧ c.toNat < 0x110000 := c.valid
  have unit : ∀ n, n < 65536 → ∀ rest, readEscape ('u' :: hexDigit (n / 4096) ::
      hexDigit (n / 256 % 16) :: hexDigit (n / 16 % 16) :: hexDigit (n % 16) :: rest) =
      if 0xD800 ≤ n ∧ n < 0xDC00 then (readLowSurrogate rest).map fun low =>
          (Char.ofNat (0x10000 + (n - 0xD800) * 1024 + (low.1 - 0xDC00)), low.2)
        else if 0xDC00 ≤ n ∧ n < 0xE000 then none
        else some (Char.ofNat n, rest) := by
    intro n small rest
    unfold readEscape
    simp only [Char.reduceEq, if_false, if_true, readCodeUnit_writeCodeUnit small]
    rw [if_neg (by decide), Option.bind_eq_bind, Option.bind_some]
    split
    next => cases readLowSurrogate rest <;> rfl
    next => rfl
  unfold escapeUnicode
  split
  next small =>
    refine ⟨_, rfl, fun rest => (unit _ small rest).trans ?_⟩
    rw [if_neg (by omega), if_neg (by omega), self]
  next large =>
    refine ⟨_, rfl, fun rest => (unit _ (by omega) _).trans ?_⟩
    have low : readLowSurrogate (writeCodeUnit (0xDC00 + (c.toNat - 0x10000) % 1024) ++ rest) =
        some (0xDC00 + (c.toNat - 0x10000) % 1024, rest) := by
      simp only [writeCodeUnit, List.cons_append, List.nil_append, readLowSurrogate, and_self,
        if_true, readCodeUnit_writeCodeUnit (show 0xDC00 + (c.toNat - 0x10000) % 1024 < 65536 by
          omega)]
      refine Option.filter_some_pos ?_
      rw [Bool.and_eq_true, decide_eq_true_iff, decide_eq_true_iff]
      omega
    rw [if_pos (by omega)]
    refine (congrArg (Option.map _) low).trans ?_
    rw [Option.map_some]
    have whole : 0x10000 + (0xD800 + (c.toNat - 0x10000) / 1024 - 0xD800) * 1024 +
        (0xDC00 + (c.toNat - 0x10000) % 1024 - 0xDC00) = c.toNat := by omega
    rw [whole, self]

theorem escape_cases (format : FloatFormat) (c : Char) :
    (format.escape c = [c] ∧ c ≠ quotationMark ∧ c ≠ reverseSolidus ∧ ¬ c.toNat < 32) ∨
      ∃ cs, format.escape c = reverseSolidus :: cs ∧
        ∀ rest, readEscape (cs ++ rest) = some (c, rest) := by
  unfold FloatFormat.escape
  split
  next => exact .inr (escapeUnicode_cases c)
  next => exact escapeChar_cases c

theorem readText_flatMap (format : FloatFormat) (cs rest : List Char) {fuel : Nat}
    (enough : (cs.flatMap format.escape).length < fuel) :
    readText fuel (cs.flatMap format.escape ++ quotationMark :: rest) = some (cs, rest) := by
  induction cs generalizing fuel with
  | nil =>
    cases fuel with
    | zero => simp at enough
    | succ fuel => simp [readText]
  | cons c cs ih =>
    cases fuel with
    | zero => simp at enough
    | succ fuel =>
      rw [List.flatMap_cons, List.length_append] at enough
      rw [List.flatMap_cons, List.append_assoc]
      rcases escape_cases format c with ⟨as, notQuote, notSolidus, visible⟩ | ⟨escape, as, reads⟩
      · rw [as] at enough ⊢
        rw [List.length_singleton] at enough
        have later := @ih fuel (by omega)
        simp [readText, notQuote, notSolidus, visible, later]
      · rw [as] at enough ⊢
        rw [List.length_cons] at enough
        have later := @ih fuel (by omega)
        have different : reverseSolidus ≠ quotationMark := by decide
        simp [readText, different, reads, later]

theorem isWhole_toDigits (n : Nat) : isWhole (Nat.toDigits 10 n) = true := by
  have digits : ∀ c ∈ Nat.toDigits 10 n, c.isDigit = true := fun c member =>
    Nat.isDigit_of_mem_toDigits (by decide) (by decide) member
  have leading : ∀ n, 0 < n → (Nat.toDigits 10 n).head? ≠ some '0' := by
    intro n positive
    induction n using Nat.strong_induction_on with
    | _ n ih =>
      by_cases small : n < 10
      · rw [Nat.toDigits_of_lt_base small]
        simp
        omega
      · rw [Nat.toDigits_of_base_le (by decide) (by omega)]
        have before := ih (n / 10) (by omega) (by omega)
        rw [List.head?_append_of_ne_nil _ Nat.toDigits_ne_nil]
        exact before
  have whole : (Nat.toDigits 10 n).length = 1 ∨ (Nat.toDigits 10 n).head? ≠ some '0' := by
    by_cases zero : n = 0
    · rw [zero]
      exact .inl rfl
    · exact .inr (leading n (by omega))
  unfold isWhole
  have nonempty := @Nat.toDigits_ne_nil n 10
  rcases whole with single | leading
  · simp [nonempty, single, List.all_eq_true.mpr digits]
  · simp [nonempty, leading, List.all_eq_true.mpr digits]

theorem digits_of_isWhole {digits : List Char} (whole : isWhole digits = true) :
    digits ≠ [] ∧ ∀ c ∈ digits, c.isDigit = true := by
  unfold isWhole at whole
  simp only [Bool.and_eq_true, Bool.not_eq_true', List.isEmpty_eq_false_iff,
    List.all_eq_true] at whole
  exact ⟨whole.1.1, whole.1.2⟩

theorem magnitude_writeInt (n : Int) :
    magnitude (writeInt n) = Nat.toDigits 10 n.natAbs ∧
      ((writeInt n).head? = some '-' ↔ n < 0) := by
  cases n with
  | ofNat n =>
    obtain ⟨nonempty, digits⟩ := digits_of_isWhole (isWhole_toDigits n)
    have same : writeInt (.ofNat n) = Nat.toDigits 10 n := rfl
    rw [same]
    cases written : Nat.toDigits 10 n with
    | nil => exact absurd written nonempty
    | cons c cs =>
      have digit := digits c (written ▸ List.mem_cons_self)
      have sign : c ≠ '-' := by
        intro same
        rw [same] at digit
        cases digit
      have all : magnitude (c :: cs) = c :: cs := if_neg sign
      rw [all]
      refine ⟨written.symm, ?_⟩
      refine iff_of_false (fun starts => sign (Option.some.inj starts)) ?_
      simp
  | negSucc n =>
    refine ⟨rfl, iff_of_true rfl (Int.negSucc_lt_zero n)⟩

theorem writeInt_ne_nil (n : Int) : writeInt n ≠ [] := by
  intro none
  have same := (magnitude_writeInt n).1
  rw [none] at same
  exact (digits_of_isWhole (isWhole_toDigits _)).1 same.symm

theorem readInteger_writeInt (n : Int) : readInteger (writeInt n) = some n := by
  obtain ⟨same, negative⟩ := magnitude_writeInt n
  unfold readInteger
  rw [same, if_pos (isWhole_toDigits _), Nat.ofDigitChars_ten_toDigits]
  dsimp only
  by_cases below : n < 0
  · rw [if_pos (negative.mpr below)]
    congr 1
    omega
  · rw [if_neg fun starts => below (negative.mp starts)]
    congr 1
    omega

theorem not_isFloatText_writeInt (n : Int) : isFloatText (writeInt n) = false := by
  have digits := (digits_of_isWhole (isWhole_toDigits n.natAbs)).2
  have none : (Nat.toDigits 10 n.natAbs).dropWhile Char.isDigit = [] := by
    exact List.dropWhile_eq_nil_iff.mpr digits
  unfold isFloatText
  rw [(magnitude_writeInt n).1, none]
  simp [isFraction]

theorem isNumberChar_of_isDigit {c : Char} (digit : c.isDigit = true) :
    isNumberChar c = true := by
  unfold isNumberChar
  rw [digit]
  rfl

theorem numeric_writeInt (n : Int) : ∀ c ∈ writeInt n, isNumberChar c = true := by
  intro c member
  cases n with
  | ofNat n =>
    exact isNumberChar_of_isDigit ((digits_of_isWhole (isWhole_toDigits n)).2 c member)
  | negSucc n =>
    rcases List.mem_cons.mp member with rfl | member
    · rfl
    · exact isNumberChar_of_isDigit ((digits_of_isWhole (isWhole_toDigits _)).2 c member)

section RoundTrip

variable (format : FloatFormat)

/-- A value ends at the end of the text, or before a comma, a bracket or a brace. -/
def Stops (rest : List Char) : Prop := ∀ c ∈ rest.head?, closes c = true

theorem stops_nil : Stops [] := nofun

theorem stops_cons {c : Char} (close : closes c = true) (rest : List Char) : Stops (c :: rest) := by
  intro first same
  rw [List.head?_cons, Option.mem_some] at same
  exact same ▸ close

theorem takeWhile_stops {p : Char → Bool} {cs rest : List Char} (all : ∀ c ∈ cs, p c = true)
    (stops : ∀ c ∈ rest.head?, p c = false) :
    (cs ++ rest).takeWhile p = cs ∧ (cs ++ rest).dropWhile p = rest := by
  have none : rest.takeWhile p = [] ∧ rest.dropWhile p = rest := by
    cases rest with
    | nil => exact ⟨rfl, rfl⟩
    | cons c rest =>
      have stop := stops c rfl
      have closed : ¬p c = true := by simp [stop]
      exact ⟨List.takeWhile_cons_of_neg closed, List.dropWhile_cons_of_neg closed⟩
  rw [List.takeWhile_append_of_pos all, List.dropWhile_append_of_pos all, none.1, none.2,
    List.append_nil]
  exact ⟨rfl, rfl⟩

theorem skipSpace_of_head {c : Char} (visible : isJsonSpace c = false) (rest : List Char) :
    skipSpace (c :: rest) = c :: rest :=
  List.dropWhile_cons_of_neg (by simp [visible])

theorem ne_of_numeric {c d : Char} (numeric : isNumberChar c = true)
    (other : isNumberChar d = false) : c ≠ d := by
  rintro rfl
  rw [numeric] at other
  cases other

theorem isJsonSpace_of_numeric {c : Char} (numeric : isNumberChar c = true) :
    isJsonSpace c = false := by
  unfold isJsonSpace
  simp [ne_of_numeric (d := ' ') numeric rfl, ne_of_numeric (d := '\t') numeric rfl,
    ne_of_numeric (d := '\n') numeric rfl, ne_of_numeric (d := '\r') numeric rfl]

theorem readJson_number {cs rest : List Char} {value : Json} (nonempty : cs ≠ [])
    (numeric : ∀ c ∈ cs, isNumberChar c = true) (reads : readNumber format cs = some value)
    (stops : Stops rest) (fuel : Nat) :
    readJson format (fuel + 1) (cs ++ rest) = some (value, rest) := by
  have ends : ∀ c ∈ rest.head?, isNumberChar c = false := by
    intro c first
    have close := stops c first
    unfold closes at close
    simp only [Bool.or_eq_true, decide_eq_true_eq] at close
    rcases close with (rfl | rfl) | rfl <;> rfl
  obtain ⟨taken, left⟩ := takeWhile_stops numeric ends
  cases cs with
  | nil => exact absurd rfl nonempty
  | cons c cs =>
    have first := numeric c List.mem_cons_self
    have other {d : Char} : isNumberChar d = false → c ≠ d := ne_of_numeric first
    rw [List.cons_append] at taken left ⊢
    rw [readJson, skipSpace_of_head (isJsonSpace_of_numeric first)]
    dsimp only
    rw [if_neg (other rfl), if_neg (other rfl), if_neg (other rfl), if_neg (other rfl),
      if_neg (other rfl), if_neg (other rfl)]
    rw [taken, left, reads]
    rfl

theorem nonempty_of_numeric {q : ℚ} : format.repr q ≠ [] := by
  intro none
  have text := format.floating q
  rw [none] at text
  cases text

theorem writeJson_head (value : Json) (plain : value.plain = true) :
    ∃ c cs, writeJson format value = c :: cs ∧ isJsonSpace c = false ∧ c ≠ ']' := by
  have number : ∀ cs : List Char, cs ≠ [] → (∀ c ∈ cs, isNumberChar c = true) →
      ∃ c rest, cs = c :: rest ∧ isJsonSpace c = false ∧ c ≠ ']' := by
    intro cs nonempty numeric
    cases cs with
    | nil => exact absurd rfl nonempty
    | cons c rest =>
      have first := numeric c List.mem_cons_self
      exact ⟨c, rest, rfl, isJsonSpace_of_numeric first, ne_of_numeric first rfl⟩
  cases value with
  | null => exact ⟨_, _, rfl, rfl, by decide⟩
  | bool b => cases b <;> exact ⟨_, _, rfl, rfl, by decide⟩
  | int n => exact number _ (writeInt_ne_nil n) (numeric_writeInt n)
  | float q => exact number _ (nonempty_of_numeric format) (List.all_eq_true.mp (format.numeric q))
  | str s => exact ⟨_, _, rfl, rfl, by decide⟩
  | time t => cases plain
  | arr items => exact ⟨_, _, rfl, rfl, by decide⟩
  | obj fields => exact ⟨_, _, rfl, rfl, by decide⟩

theorem foldl_set {fields all : List (String × Json)}
    (distinct : ((all ++ fields).map Prod.fst).Nodup) :
    fields.foldl (fun all one => Fields.set all one.1 one.2) all = all ++ fields := by
  induction fields generalizing all with
  | nil => exact (List.append_nil all).symm
  | cons field fields ih =>
    have new : all.any (·.1 = field.1) = false := by
      rw [List.any_eq_false]
      intro other member
      rw [List.map_append, List.map_cons, List.nodup_append'] at distinct
      have apart := distinct.2.2 (List.mem_map_of_mem member)
      intro same
      exact apart (of_decide_eq_true same ▸ List.mem_cons_self)
    have added : Fields.set all field.1 field.2 = all ++ [field] := by
      unfold Fields.set
      rw [new]
      rfl
    rw [List.foldl_cons, added]
    have distinct' : (((all ++ [field]) ++ fields).map Prod.fst).Nodup := by
      rw [List.append_assoc]
      exact distinct
    rw [ih distinct', List.append_assoc]
    rfl

theorem readLiteral_append (name : String) (value : Json) (rest : List Char) :
    readLiteral name value (name.toList ++ rest) = some (value, rest) := by
  unfold readLiteral
  rw [if_pos (List.isPrefixOf_iff_prefix.mpr (List.prefix_append _ _)), List.drop_left]

theorem readText_writeText (format : FloatFormat) (cs rest : List Char) {fuel : Nat}
    (enough : (writeText format cs).length ≤ fuel) :
    readText fuel (cs.flatMap format.escape ++ [quotationMark] ++ rest) = some (cs, rest) := by
  unfold writeText at enough
  rw [List.length_append, List.length_cons, List.length_singleton] at enough
  rw [List.append_assoc]
  exact readText_flatMap format cs rest (by omega)

theorem stops_writeItems (items : List Json) (rest : List Char) :
    Stops (writeItems format items ++ ']' :: rest) := by
  cases items with
  | nil => exact stops_cons rfl _
  | cons item items => exact stops_cons rfl _

theorem stops_writeMembers (fields : List (String × Json)) (rest : List Char) :
    Stops (writeMembers format fields ++ '}' :: rest) := by
  cases fields with
  | nil => exact stops_cons rfl _
  | cons field fields => exact stops_cons rfl _

theorem readMember_write {key : String} {value : Json} {rest : List Char} {fuel : Nat}
    (reads : readJson format fuel (writeJson format value ++ rest) = some (value, rest))
    (enough : (writeText format key.toList).length ≤ fuel) :
    readMember format (fuel + 1)
        (writeText format key.toList ++ ':' :: writeJson format value ++ rest) =
      some ((key, value), rest) := by
  have text : writeText format key.toList ++ ':' :: writeJson format value ++ rest =
      quotationMark :: (key.toList.flatMap format.escape ++ [quotationMark] ++
        (':' :: (writeJson format value ++ rest))) := by
    simp [writeText]
  rw [text, readMember, skipSpace_of_head rfl]
  dsimp only
  rw [if_pos rfl, readText_writeText format _ _ enough, Option.bind_eq_bind, Option.bind_some,
    skipSpace_of_head rfl]
  simp only []
  rw [reads, Option.bind_eq_bind, Option.bind_some, String.ofList_toList]
  rfl

mutual

theorem readJson_write (value : Json) (plain : value.plain = true) {rest : List Char}
    (stops : Stops rest) {fuel : Nat} (enough : (writeJson format value).length < fuel) :
    readJson format fuel (writeJson format value ++ rest) = some (value, rest) := by
  cases fuel with
  | zero => omega
  | succ fuel =>
    cases value with
    | null => exact readLiteral_append "null" .null rest
    | bool b =>
      cases b with
      | true => exact readLiteral_append "true" (.bool true) rest
      | false => exact readLiteral_append "false" (.bool false) rest
    | int n =>
      refine readJson_number format (writeInt_ne_nil n) (numeric_writeInt n) ?_ stops fuel
      rw [readNumber, not_isFloatText_writeInt, if_neg Bool.false_ne_true, readInteger_writeInt]
      rfl
    | float q =>
      refine readJson_number format (nonempty_of_numeric format)
        (List.all_eq_true.mp (format.numeric q)) ?_ stops fuel
      rw [readNumber, if_pos (format.floating q), format.parse_repr]
      rfl
    | str s =>
      have text : writeJson format (.str s) ++ rest = quotationMark ::
          (s.toList.flatMap format.escape ++ [quotationMark] ++ rest) := by
        simp [writeJson, writeText]
      rw [text, readJson, skipSpace_of_head rfl]
      dsimp only
      have short : (writeText format s.toList).length ≤ fuel := Nat.le_of_lt_succ enough
      rw [if_pos rfl, readText_writeText format _ _ short, Option.map_some, String.ofList_toList]
    | time t => cases plain
    | arr items =>
      cases items with
      | nil => rfl
      | cons item items =>
        rw [Json.plain, plainItems, Bool.and_eq_true] at plain
        obtain ⟨c, cs, head, visible, open'⟩ := writeJson_head format item plain.1
        have text : writeJson format (.arr (item :: items)) ++ rest =
            '[' :: (writeJson format item ++ (writeItems format items ++ ']' :: rest)) := by
          simp [writeJson, writeItems]
        have length : (writeJson format (.arr (item :: items))).length =
            (writeJson format item).length + (writeItems format items).length + 2 := by
          simp [writeJson, writeItems]
          omega
        have first := readJson_write item plain.1 (stops_writeItems format items rest)
          (show (writeJson format item).length < fuel by omega)
        have others : readItems format fuel (writeItems format items ++ ']' :: rest) =
            some (items, rest) := readItems_write items plain.2 (by omega)
        rw [text, readJson, skipSpace_of_head rfl]
        dsimp only
        rw [if_neg (by decide), if_pos rfl]
        rw [head] at first ⊢
        rw [List.cons_append, skipSpace_of_head visible]
        rw [List.cons_append] at first
        split
        next same => exact absurd (List.cons.inj same).1 open'
        next =>
          rw [first, Option.bind_eq_bind, Option.bind_some, others, Option.bind_eq_bind,
            Option.bind_some]
          rfl
    | obj fields =>
      cases fields with
      | nil => rfl
      | cons field fields =>
        rw [Json.plain, Bool.and_eq_true, decide_eq_true_eq, plainFields, Bool.and_eq_true] at plain
        obtain ⟨distinct, plain⟩ := plain
        have text : writeJson format (.obj (field :: fields)) ++ rest =
            '{' :: (writeText format field.1.toList ++ ':' :: writeJson format field.2 ++
              (writeMembers format fields ++ '}' :: rest)) := by
          simp [writeJson, writeMembers]
        have length : (writeJson format (.obj (field :: fields))).length =
            (writeText format field.1.toList).length + (writeJson format field.2).length +
              (writeMembers format fields).length + 3 := by
          simp [writeJson, writeMembers]
          omega
        obtain ⟨fuel, rfl⟩ : ∃ n, fuel = n + 1 := ⟨fuel - 1, by omega⟩
        have value := readJson_write field.2 plain.1 (stops_writeMembers format fields rest)
          (show (writeJson format field.2).length < fuel by omega)
        have first := readMember_write format value
          (show (writeText format field.1.toList).length ≤ fuel by omega)
        have others : readMembers format (fuel + 1) (writeMembers format fields ++ '}' :: rest) =
            some (fields, rest) := readMembers_write fields plain.2 (by omega)
        have head : ∃ cs, writeText format field.1.toList ++ ':' :: writeJson format field.2 ++
            (writeMembers format fields ++ '}' :: rest) = quotationMark :: cs := ⟨_, rfl⟩
        obtain ⟨cs, head⟩ := head
        have all : (field :: fields).foldl (fun all one => Fields.set all one.1 one.2) [] =
            field :: fields := foldl_set distinct
        rw [text, readJson, skipSpace_of_head rfl]
        dsimp only
        rw [if_neg (by decide), if_neg (by decide), if_pos rfl]
        rw [head] at first ⊢
        rw [skipSpace_of_head rfl]
        split
        next same => exact absurd (List.cons.inj same).1 (by decide)
        next =>
          rw [first, Option.bind_eq_bind, Option.bind_some, others, Option.bind_eq_bind,
            Option.bind_some, all]
          rfl

theorem readItems_write (items : List Json) (plain : plainItems items = true) {rest : List Char}
    {fuel : Nat} (enough : (writeItems format items).length < fuel) :
    readItems format fuel (writeItems format items ++ ']' :: rest) = some (items, rest) := by
  cases fuel with
  | zero => omega
  | succ fuel =>
    cases items with
    | nil => rfl
    | cons item items =>
      rw [plainItems, Bool.and_eq_true] at plain
      have text : writeItems format (item :: items) ++ ']' :: rest =
          ',' :: (writeJson format item ++ (writeItems format items ++ ']' :: rest)) := by
        simp [writeItems]
      have length : (writeItems format (item :: items)).length =
          (writeJson format item).length + (writeItems format items).length + 1 := by
        simp [writeItems]
      have first := readJson_write item plain.1 (stops_writeItems format items rest)
        (show (writeJson format item).length < fuel by omega)
      have others : readItems format fuel (writeItems format items ++ ']' :: rest) =
          some (items, rest) := readItems_write items plain.2 (by omega)
      rw [text, readItems, skipSpace_of_head rfl]
      simp only []
      rw [first, Option.bind_eq_bind, Option.bind_some, others, Option.bind_eq_bind,
        Option.bind_some]
      rfl

theorem readMembers_write (fields : List (String × Json)) (plain : plainFields fields = true)
    {rest : List Char} {fuel : Nat} (enough : (writeMembers format fields).length < fuel) :
    readMembers format fuel (writeMembers format fields ++ '}' :: rest) = some (fields, rest) := by
  cases fuel with
  | zero => omega
  | succ fuel =>
    cases fields with
    | nil => rfl
    | cons field fields =>
      rw [plainFields, Bool.and_eq_true] at plain
      have text : writeMembers format (field :: fields) ++ '}' :: rest =
          ',' :: (writeText format field.1.toList ++ ':' :: writeJson format field.2 ++
            (writeMembers format fields ++ '}' :: rest)) := by
        simp [writeMembers]
      have length : (writeMembers format (field :: fields)).length =
          (writeText format field.1.toList).length + (writeJson format field.2).length +
            (writeMembers format fields).length + 2 := by
        simp [writeMembers]
        omega
      obtain ⟨fuel, rfl⟩ : ∃ n, fuel = n + 1 := ⟨fuel - 1, by omega⟩
      have value := readJson_write field.2 plain.1 (stops_writeMembers format fields rest)
        (show (writeJson format field.2).length < fuel by omega)
      have first := readMember_write format value
        (show (writeText format field.1.toList).length ≤ fuel by omega)
      have others : readMembers format (fuel + 1) (writeMembers format fields ++ '}' :: rest) =
          some (fields, rest) := readMembers_write fields plain.2 (by omega)
      rw [text, readMembers, skipSpace_of_head rfl]
      simp only []
      rw [first, Option.bind_eq_bind, Option.bind_some, others, Option.bind_eq_bind,
        Option.bind_some]
      rfl

end

end RoundTrip

def keyBefore (field other : String × Json) : Prop := field.1 ≤ other.1

instance : DecidableRel keyBefore := fun field other =>
  inferInstanceAs (Decidable (field.1 ≤ other.1))

instance : Std.Total keyBefore := ⟨fun field other => String.le_total field.1 other.1⟩

instance : IsTrans (String × Json) keyBefore := ⟨fun _ _ _ => String.le_trans⟩

mutual

/-- The value as `sort_keys=True` writes it. -/
def Json.sorted : Json → Json
  | .arr items => .arr (sortedItems items)
  | .obj fields => .obj ((sortedFields fields).insertionSort keyBefore)
  | value => value

def sortedItems : List Json → List Json
  | [] => []
  | item :: items => item.sorted :: sortedItems items

def sortedFields : List (String × Json) → List (String × Json)
  | [] => []
  | field :: fields => (field.1, field.2.sorted) :: sortedFields fields

end

theorem sortedFields_eq (fields : List (String × Json)) :
    sortedFields fields = fields.map fun field => (field.1, field.2.sorted) := by
  induction fields with
  | nil => rfl
  | cons field fields ih => rw [sortedFields, ih, List.map_cons]

theorem find?_mapValues (f : Json → Json) (fields : List (String × Json)) (key : String) :
    ((fields.map fun field => (field.1, f field.2)).find? (·.1 = key)).map (·.2) =
      ((fields.find? (·.1 = key)).map (·.2)).map f := by
  rw [List.find?_map]
  have keys : ((fun field : String × Json => decide (field.1 = key)) ∘
      fun field : String × Json => (field.1, f field.2)) = fun field => decide (field.1 = key) :=
    rfl
  rw [keys]
  cases fields.find? fun field => field.1 = key <;> rfl

theorem sortedItems_eq (items : List Json) : sortedItems items = items.map Json.sorted := by
  induction items with
  | nil => rfl
  | cons item items ih => rw [sortedItems, ih, List.map_cons]

theorem plainItems_iff {items : List Json} :
    plainItems items = true ↔ ∀ item ∈ items, item.plain = true := by
  induction items with
  | nil => simp [plainItems]
  | cons item items ih => rw [plainItems, Bool.and_eq_true, ih, List.forall_mem_cons]

theorem keys_sortedFields (fields : List (String × Json)) :
    (sortedFields fields).map Prod.fst = fields.map Prod.fst := by
  rw [sortedFields_eq, List.map_map]
  rfl

theorem plainFields_eq (fields : List (String × Json)) :
    plainFields fields = fields.all fun field => field.2.plain := by
  induction fields with
  | nil => rfl
  | cons field fields ih => rw [plainFields, ih, List.all_cons]

mutual

theorem plain_sorted (value : Json) : value.sorted.plain = value.plain := by
  cases value with
  | arr items => rw [Json.sorted, Json.plain, Json.plain, plainItems_sorted items]
  | obj fields =>
    have perm := List.perm_insertionSort keyBefore (sortedFields fields)
    have distinct : (((sortedFields fields).insertionSort keyBefore).map Prod.fst).Nodup ↔
        (fields.map Prod.fst).Nodup := by
      rw [(perm.map Prod.fst).nodup_iff, keys_sortedFields]
    rw [Json.sorted, Json.plain, Json.plain, decide_eq_decide.mpr distinct, plainFields_eq,
      perm.all_eq, ← plainFields_eq, plainFields_sorted fields]
  | null | bool | int | float | str | time => rfl

theorem plainItems_sorted (items : List Json) :
    plainItems (sortedItems items) = plainItems items := by
  cases items with
  | nil => rfl
  | cons item items =>
    rw [sortedItems, plainItems, plainItems, plain_sorted item, plainItems_sorted items]

theorem plainFields_sorted (fields : List (String × Json)) :
    plainFields (sortedFields fields) = plainFields fields := by
  cases fields with
  | nil => rfl
  | cons field fields =>
    rw [sortedFields, plainFields, plainFields, plain_sorted field.2, plainFields_sorted fields]

end

mutual

theorem sorted_sorted (value : Json) : value.sorted.sorted = value.sorted := by
  cases value with
  | arr items => rw [Json.sorted, Json.sorted, sortedItems_sorted items]
  | obj fields =>
    have ordered := List.pairwise_insertionSort keyBefore (sortedFields fields)
    have perm := List.perm_insertionSort keyBefore (sortedFields fields)
    have same : sortedFields ((sortedFields fields).insertionSort keyBefore) =
        (sortedFields fields).insertionSort keyBefore := by
      rw [sortedFields_eq]
      refine (List.map_congr_left fun field member => ?_).trans (List.map_id _)
      have again := sortedFields_sorted fields field (perm.mem_iff.mp member)
      rw [again]
      rfl
    rw [Json.sorted, Json.sorted, same, ordered.insertionSort_eq]
  | null | bool | int | float | str | time => rfl

theorem sortedItems_sorted (items : List Json) :
    sortedItems (sortedItems items) = sortedItems items := by
  cases items with
  | nil => rfl
  | cons item items =>
    rw [sortedItems, sortedItems, sorted_sorted item, sortedItems_sorted items]

theorem sortedFields_sorted (fields : List (String × Json)) :
    ∀ field ∈ sortedFields fields, field.2.sorted = field.2 := by
  cases fields with
  | nil => exact List.forall_mem_nil _
  | cons field fields =>
    rw [sortedFields]
    exact List.forall_mem_cons.mpr ⟨sorted_sorted field.2, sortedFields_sorted fields⟩

end

theorem find?_insertionSort (fields : List (String × Json)) (key : String) :
    (fields.insertionSort keyBefore).find? (·.1 = key) = fields.find? (·.1 = key) := by
  have inserted : ∀ (field : String × Json) (fields : List (String × Json)),
      (fields.orderedInsert keyBefore field).find? (·.1 = key) =
        (field :: fields).find? (·.1 = key) := by
    intro field fields
    induction fields with
    | nil => rfl
    | cons other fields ih =>
      rw [List.orderedInsert_cons]
      split
      next => rfl
      next after =>
        have different : field.1 ≠ other.1 := by
          intro same
          have ordered : field.1 ≤ other.1 := same ▸ String.le_refl _
          exact after ordered
        rw [List.find?_cons, ih]
        by_cases own : field.1 = key
        · have foreign : other.1 ≠ key := fun same => different (own.trans same.symm)
          simp [own, foreign]
        · simp [own, List.find?_cons]
  induction fields with
  | nil => rfl
  | cons field fields ih =>
    rw [List.insertionSort_cons, inserted, List.find?_cons, ih, List.find?_cons]

/-- `json.dumps` with `sort_keys=True` and no blanks. -/
def dumpJson (format : FloatFormat) (value : Json) : String :=
  String.ofList (writeJson format value.sorted)

theorem loadJson_dumpJson (format : FloatFormat) {value : Json} (plain : value.plain = true) :
    loadJson format (dumpJson format value) = some value.sorted := by
  have reads := readJson_write format value.sorted ((plain_sorted value).trans plain)
    stops_nil
    (Nat.lt_succ_self (writeJson format value.sorted).length)
  rw [List.append_nil] at reads
  unfold loadJson dumpJson
  rw [String.toList_ofList, reads]
  rfl

/-- The canonical text stands for the value but for the order of the keys, and reading and writing
it again changes nothing. -/
theorem dumpJson_canonical (format : FloatFormat)
    (value other : {json : Json // json.plain = true}) :
    (dumpJson format value = dumpJson format other ↔ value.val.sorted = other.val.sorted) ∧
      (loadJson format (dumpJson format value)).map (dumpJson format) =
        some (dumpJson format value) := by
  have reads := loadJson_dumpJson format value.property
  refine ⟨⟨fun same => ?_, fun same => by rw [dumpJson, same, dumpJson]⟩, ?_⟩
  · rw [same, loadJson_dumpJson format other.property] at reads
    exact (Option.some.inj reads).symm
  · rw [reads, Option.map_some, dumpJson, sorted_sorted, dumpJson]

def memberLength (format : FloatFormat) (field : String × Json) : Nat :=
  (writeMembers format [(field.1, field.2.sorted)]).length

theorem length_writeMembers (format : FloatFormat) (fields : List (String × Json)) :
    (writeMembers format fields).length =
      (fields.map fun field => (writeMembers format [field]).length).sum := by
  induction fields with
  | nil => rfl
  | cons field fields ih =>
    have split : writeMembers format (field :: fields) =
        writeMembers format [field] ++ writeMembers format fields := by
      simp [writeMembers]
    rw [split, List.length_append, ih, List.map_cons, List.sum_cons]

theorem length_dumpJson (format : FloatFormat) (fields : List (String × Json)) :
    (dumpJson format (.obj fields)).length =
      ((fields.map (memberLength format)).sum - 1) + 2 := by
  have perm := (List.perm_insertionSort keyBefore (sortedFields fields)).map fun field =>
    (writeMembers format [field]).length
  have total : ((sortedFields fields).map fun field => (writeMembers format [field]).length) =
      fields.map (memberLength format) := by
    rw [sortedFields_eq, List.map_map]
    rfl
  unfold dumpJson Json.sorted
  rw [String.length_ofList, writeJson]
  simp only [List.length_cons, List.length_append, List.length_drop, List.length_nil]
  rw [length_writeMembers, perm.sum_nat, total]

theorem dumpJson_length_le (format : FloatFormat) {fields others : List (String × Json)}
    (sub : fields.Sublist others) :
    (dumpJson format (.obj fields)).length ≤ (dumpJson format (.obj others)).length := by
  have sums := (sub.map (memberLength format)).sum_le_sum fun _ _ => Nat.zero_le _
  rw [length_dumpJson, length_dumpJson]
  omega

/-- The text of a number, that of `float` for the whole ones. -/
def sampleRepr (q : ℚ) : List Char :=
  writeInt q.num ++ '.' :: Nat.toDigits 10 (if q.den = 1 then 0 else q.den)

def sampleParse (cs : List Char) : Option ℚ :=
  (readInteger (cs.takeWhile fun c => c != '.')).map fun num =>
    mkRat num (max 1 (Nat.ofDigitChars 10 ((cs.dropWhile fun c => c != '.').drop 1) 0))

theorem sampleRepr_numeric (q : ℚ) : (sampleRepr q).all isNumberChar = true := by
  rw [List.all_eq_true]
  intro c member
  rcases List.mem_append.mp member with whole | fraction
  · exact numeric_writeInt _ c whole
  · rcases List.mem_cons.mp fraction with rfl | digit
    · rfl
    · exact isNumberChar_of_isDigit ((digits_of_isWhole (isWhole_toDigits _)).2 c digit)

theorem magnitude_append {cs rest : List Char} (nonempty : cs ≠ []) :
    magnitude (cs ++ rest) = magnitude cs ++ rest := by
  cases cs with
  | nil => exact absurd rfl nonempty
  | cons c cs =>
    rw [List.cons_append, magnitude, magnitude]
    split <;> rfl

theorem sampleRepr_floating (q : ℚ) : isFloatText (sampleRepr q) = true := by
  have point : ∀ c ∈ ('.' :: Nat.toDigits 10 (if q.den = 1 then 0 else q.den)).head?,
      c.isDigit = false := by
    intro c first
    cases first
    rfl
  have whole := isWhole_toDigits q.num.natAbs
  have fraction := digits_of_isWhole (isWhole_toDigits (if q.den = 1 then 0 else q.den))
  obtain ⟨before, after⟩ := takeWhile_stops (digits_of_isWhole whole).2 point
  unfold isFloatText sampleRepr
  rw [magnitude_append (writeInt_ne_nil q.num), (magnitude_writeInt q.num).1, before, after, whole]
  have all := List.takeWhile_eq_self_iff.mpr fraction.2
  have none := List.dropWhile_eq_nil_iff.mpr fraction.2
  simp [isFraction, all, none, fraction.1]

theorem sampleParse_sampleRepr (q : ℚ) : sampleParse (sampleRepr q) = some q := by
  have digits : ∀ c ∈ writeInt q.num, (c != '.') = true := by
    intro c member
    by_contra point
    have same : c = '.' := by simpa using point
    subst same
    cases given : q.num with
    | ofNat n =>
      rw [given] at member
      cases (digits_of_isWhole (isWhole_toDigits n)).2 '.' member
    | negSucc n =>
      rw [given] at member
      rcases List.mem_cons.mp member with same | member
      · cases same
      · cases (digits_of_isWhole (isWhole_toDigits (n + 1))).2 '.' member
  have point : ∀ c ∈ ('.' :: Nat.toDigits 10 (if q.den = 1 then 0 else q.den)).head?,
      (c != '.') = false := by
    intro c first
    cases first
    rfl
  obtain ⟨before, after⟩ := takeWhile_stops digits point
  unfold sampleParse sampleRepr
  rw [before, after, readInteger_writeInt, List.drop_succ_cons, List.drop_zero,
    Nat.ofDigitChars_ten_toDigits, Option.map_some]
  have den : max 1 (if q.den = 1 then 0 else q.den) = q.den := by
    have pos := q.den_pos
    split <;> omega
  rw [den, Rat.mkRat_self]

def sampleFormat : FloatFormat where
  repr := sampleRepr
  parse := sampleParse
  numeric := sampleRepr_numeric
  floating := sampleRepr_floating
  parse_repr := sampleParse_sampleRepr

end MiniOgas
