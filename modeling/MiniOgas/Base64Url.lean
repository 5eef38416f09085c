import Mathlib.Tactic.IntervalCases

namespace Base64Url

variable {a b c v left pads : Nat} {cs rest : List Char} {bytes : List UInt8}

def sextetChar (n : Nat) : Char :=
  if n < 26 then Char.ofNat (n + 65)
  else if n < 52 then Char.ofNat (n + 71)
  else if n < 62 then Char.ofNat (n - 4)
  else if n = 62 then '-'
  else '_'

/-- The six bits of a character, in the alphabet for addresses or in the other one. -/
def sextet (c : Char) : Option Nat :=
  let n := c.toNat
  if 65 ≤ n ∧ n ≤ 90 then some (n - 65)
  else if 97 ≤ n ∧ n ≤ 122 then some (n - 71)
  else if 48 ≤ n ∧ n ≤ 57 then some (n + 4)
  else if c = '-' ∨ c = '+' then some 62
  else if c = '_' ∨ c = '/' then some 63
  else none

/-- The text of some bytes, with no padding. -/
def encode : List UInt8 → List Char
  | a :: b :: c :: rest =>
    sextetChar (a.toNat / 4) :: sextetChar (a.toNat % 4 * 16 + b.toNat / 16) ::
      sextetChar (b.toNat % 16 * 4 + c.toNat / 64) :: sextetChar (c.toNat % 64) :: encode rest
  | [a, b] =>
    [sextetChar (a.toNat / 4), sextetChar (a.toNat % 4 * 16 + b.toNat / 16),
      sextetChar (b.toNat % 16 * 4)]
  | [a] => [sextetChar (a.toNat / 4), sextetChar (a.toNat % 4 * 16)]
  | [] => []

/-- The reader after `position` characters of a group, the last bits of which are in `left`. It
passes over what is not in the alphabet, and it stops at a padding that completes the group. -/
def read (position left pads : Nat) : List Char → Option (List UInt8)
  | [] => if position = 0 then some [] else none
  | c :: cs =>
    if c = '=' then
      if position < 2 then read position left pads cs
      else if 4 ≤ position + (pads + 1) then some []
      else read position left (pads + 1) cs
    else
      match sextet c with
      | none => read position left pads cs
      | some v =>
        match position with
        | 0 => read 1 v 0 cs
        | 1 => (read 2 (v % 16) 0 cs).map (UInt8.ofNat (left * 4 + v / 16) :: ·)
        | 2 => (read 3 (v % 4) 0 cs).map (UInt8.ofNat (left * 16 + v / 4) :: ·)
        | _ => (read 0 0 0 cs).map (UInt8.ofNat (left * 64 + v) :: ·)

def decode (cs : List Char) : Option (List UInt8) :=
  read 0 0 0 (cs ++ List.replicate ((4 - cs.length % 4) % 4) '=')

theorem sextet_sextetChar (small : v < 64) : sextet (sextetChar v) = some v := by
  interval_cases v <;> rfl

theorem sextetChar_ne (small : v < 64) : sextetChar v ≠ '=' ∧ sextetChar v ≠ '.' := by
  interval_cases v <;> decide

theorem read_sextetChar (position : Nat) (small : v < 64) :
    read position left pads (sextetChar v :: rest) =
      match position with
      | 0 => read 1 v 0 rest
      | 1 => (read 2 (v % 16) 0 rest).map (UInt8.ofNat (left * 4 + v / 16) :: ·)
      | 2 => (read 3 (v % 4) 0 rest).map (UInt8.ofNat (left * 16 + v / 4) :: ·)
      | _ => (read 0 0 0 rest).map (UInt8.ofNat (left * 64 + v) :: ·) := by
  rw [read, if_neg (sextetChar_ne small).1, sextet_sextetChar small]

theorem ofNat_eq {x : UInt8} (same : v = x.toNat) : UInt8.ofNat v = x := by
  rw [same, UInt8.ofNat_toNat]

theorem read_encode (bytes : List UInt8) {padding : List Char}
    (ends : padding = List.replicate ((4 - (encode bytes).length % 4) % 4) '=') :
    read 0 0 0 (encode bytes ++ padding) = some bytes := by
  induction bytes using encode.induct generalizing padding with
  | case1 a b c rest ih =>
    have := a.toNat_lt
    have := b.toNat_lt
    have := c.toNat_lt
    have same : padding = List.replicate ((4 - (encode rest).length % 4) % 4) '=' := by
      rw [ends, encode]
      simp only [List.length_cons]
      congr 1
      omega
    rw [encode]
    simp only [List.cons_append]
    rw [read_sextetChar 0 (by omega), read_sextetChar 1 (by omega), read_sextetChar 2 (by omega),
      read_sextetChar 3 (by omega), ih same]
    simp only [Option.map_some]
    rw [ofNat_eq (x := a) (by omega), ofNat_eq (x := b) (by omega),
      ofNat_eq (x := c) (by omega)]
  | case2 a b =>
    have := a.toNat_lt
    have := b.toNat_lt
    obtain rfl : padding = ['='] := ends
    rw [encode]
    simp only [List.cons_append, List.nil_append]
    rw [read_sextetChar 0 (by omega), read_sextetChar 1 (by omega), read_sextetChar 2 (by omega)]
    simp only [read, if_true, if_false, Option.map_some, Nat.reduceLT, Nat.reduceAdd, Nat.le_refl]
    rw [ofNat_eq (x := a) (by omega), ofNat_eq (x := b) (by omega)]
  | case3 a =>
    have := a.toNat_lt
    obtain rfl : padding = ['=', '='] := ends
    rw [encode]
    simp only [List.cons_append, List.nil_append]
    rw [read_sextetChar 0 (by omega), read_sextetChar 1 (by omega)]
    simp only [read, if_true, if_false, Option.map_some, Nat.reduceLT, Nat.reduceAdd,
      Nat.reduceLeDiff, Nat.le_refl]
    rw [ofNat_eq (x := a) (by omega)]
  | case4 =>
    obtain rfl : padding = [] := ends
    rfl

theorem decode_encode (bytes : List UInt8) : decode (encode bytes) = some bytes :=
  read_encode bytes rfl

theorem mem_encode {char : Char} (member : char ∈ encode bytes) :
    ∃ v, v < 64 ∧ char = sextetChar v := by
  induction bytes using encode.induct with
  | case1 a b c rest ih =>
    have := a.toNat_lt
    have := b.toNat_lt
    have := c.toNat_lt
    rw [encode] at member
    simp only [List.mem_cons] at member
    rcases member with same | same | same | same | later
    · exact ⟨_, by omega, same⟩
    · exact ⟨_, by omega, same⟩
    · exact ⟨_, by omega, same⟩
    · exact ⟨_, by omega, same⟩
    · exact ih later
  | case2 a b =>
    have := a.toNat_lt
    have := b.toNat_lt
    rw [encode] at member
    simp only [List.mem_cons, List.not_mem_nil, or_false] at member
    rcases member with same | same | same
    · exact ⟨_, by omega, same⟩
    · exact ⟨_, by omega, same⟩
    · exact ⟨_, by omega, same⟩
  | case3 a =>
    have := a.toNat_lt
    rw [encode] at member
    simp only [List.mem_cons, List.not_mem_nil, or_false] at member
    rcases member with same | same
    · exact ⟨_, by omega, same⟩
    · exact ⟨_, by omega, same⟩
  | case4 => cases member

theorem dot_not_mem_encode (bytes : List UInt8) : '.' ∉ encode bytes := by
  intro member
  obtain ⟨v, small, same⟩ := mem_encode member
  exact (sextetChar_ne small).2 same.symm

/-- The text of an encoding is ASCII. -/
theorem ascii_encode (bytes : List UInt8) : ∀ c ∈ encode bytes, c.toNat < 128 := by
  intro c member
  obtain ⟨v, small, rfl⟩ := mem_encode member
  interval_cases v <;> decide

end Base64Url
