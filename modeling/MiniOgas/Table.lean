import Mathlib.Data.List.Basic
import Mathlib.Algebra.BigOperators.Group.List.Basic

namespace Relational

/-- A table with an auto-increment key and no deletes: the row inserted as
the `n`-th (from one) has identifier `n`, so identifiers are unique by
construction. -/
structure Table (α : Type) where
  rows : List α
deriving DecidableEq, Repr

variable {α M : Type} {t : Table α} {id : Nat}

def Table.empty : Table α := ⟨[]⟩

/-- The identifier that the next inserted row receives. -/
def Table.nextId (t : Table α) : Nat := t.rows.length + 1

def Table.find? (t : Table α) : Nat → Option α
  | 0 => none
  | n + 1 => t.rows[n]?

def Table.insert (t : Table α) (row : α) : Table α := ⟨t.rows ++ [row]⟩

def Table.insertAll (t : Table α) (rows : List α) : Table α := ⟨t.rows ++ rows⟩

/-- Overwrites the row with the given identifier, if there is one. -/
def Table.set (t : Table α) (id : Nat) (row : α) : Table α :=
  match id with
  | 0 => t
  | n + 1 => ⟨t.rows.set n row⟩

/-- `UPDATE .. SET f WHERE p`. -/
def Table.updateWhere (t : Table α) (p : α → Bool) (f : α → α) : Table α :=
  ⟨t.rows.map fun row => if p row then f row else row⟩

/-- The rows with their identifiers, in identifier order. -/
def Table.entries (t : Table α) : List (Nat × α) :=
  t.rows.zipIdx.map fun entry => (entry.2 + 1, entry.1)

def Table.select (t : Table α) (p : α → Bool) : List (Nat × α) :=
  t.entries.filter fun entry => p entry.2

/-- `SELECT .. WHERE p ORDER BY id LIMIT 1`. -/
def Table.first? (t : Table α) (p : α → Bool) : Option (Nat × α) := (t.select p).head?

/-- `SELECT .. WHERE p ORDER BY id DESC LIMIT 1`. -/
def Table.last? (t : Table α) (p : α → Bool) : Option (Nat × α) := (t.select p).getLast?

def Table.any (t : Table α) (p : α → Bool) : Bool := t.rows.any p

def Table.count (t : Table α) (p : α → Bool) : Nat := t.rows.countP p

/-- `SELECT COALESCE(SUM(f), 0) .. WHERE p`. -/
def Table.sum [AddCommMonoid M] (t : Table α) (p : α → Bool) (f : α → M) : M :=
  ((t.rows.filter p).map f).sum

@[simp] theorem Table.find?_zero (t : Table α) : t.find? 0 = none := rfl

@[simp] theorem Table.find?_empty (id : Nat) : (Table.empty : Table α).find? id = none := by
  cases id <;> rfl

theorem Table.pos_of_find? {row : α} (h : t.find? id = some row) :
    0 < id := by
  cases id with
  | zero => simp at h
  | succ n => omega

theorem Table.lt_nextId_of_find? {row : α} (h : t.find? id = some row) :
    id < t.nextId := by
  cases id with
  | zero => simp at h
  | succ n =>
    have hn : n < t.rows.length := (List.getElem?_eq_some_iff.mp h).1
    unfold Table.nextId
    omega

theorem Table.find?_eq_none_of_le (h : t.nextId ≤ id) :
    t.find? id = none := by
  cases hf : t.find? id with
  | none => rfl
  | some row => exact absurd (t.lt_nextId_of_find? hf) (by omega)

@[simp] theorem Table.find?_nextId (t : Table α) : t.find? t.nextId = none :=
  Table.find?_eq_none_of_le (Nat.le_refl _)

theorem Table.find?_insertAll (t : Table α) (rows : List α) (id : Nat) :
    (t.insertAll rows).find? id =
      if id < t.nextId then t.find? id else rows[id - t.nextId]? := by
  cases id with
  | zero => simp [Table.nextId]
  | succ n =>
    by_cases hn : n < t.rows.length
    · simp [Table.insertAll, Table.find?, Table.nextId, hn, List.getElem?_append_left hn]
    · simp [Table.insertAll, Table.find?, Table.nextId, hn, List.getElem?_append_right (by omega :
        t.rows.length ≤ n)]

theorem Table.ext_find? {t t' : Table α} (h : ∀ id, t.find? id = t'.find? id) : t = t' := by
  have hrows : t.rows = t'.rows := List.ext_getElem? fun n => h (n + 1)
  exact congrArg Table.mk hrows

theorem Table.insert_eq_insertAll (t : Table α) (row : α) : t.insert row = t.insertAll [row] := rfl

theorem Table.insertAll_insert (t : Table α) (row : α) (rows : List α) :
    (t.insert row).insertAll rows = t.insertAll (row :: rows) := by
  simp [Table.insert, Table.insertAll]

@[simp] theorem Table.insertAll_nil (t : Table α) : t.insertAll [] = t := by
  simp [Table.insertAll]

theorem Table.find?_insert (t : Table α) (row : α) (id : Nat) :
    (t.insert row).find? id = if id = t.nextId then some row else t.find? id := by
  rw [Table.insert_eq_insertAll, Table.find?_insertAll]
  rcases Nat.lt_trichotomy id t.nextId with lt | eq | gt
  · simp [lt, Nat.ne_of_lt lt]
  · simp [eq]
  · have hne : id - t.nextId ≠ 0 := by omega
    rw [if_neg (by omega), if_neg (by omega), Table.find?_eq_none_of_le (by omega)]
    simp
    omega

@[simp] theorem Table.find?_insert_self (t : Table α) (row : α) :
    (t.insert row).find? t.nextId = some row := by
  simp [Table.find?_insert]

theorem Table.find?_insert_of_find? {row : α} (new : α) (h : t.find? id = some row) :
    (t.insert new).find? id = some row := by
  rw [Table.find?_insert, if_neg (Nat.ne_of_lt (t.lt_nextId_of_find? h)), h]

theorem Table.find?_set (t : Table α) (id : Nat) (row : α) (j : Nat) :
    (t.set id row).find? j = if j = id then (t.find? id).map fun _ => row else t.find? j := by
  cases id with
  | zero =>
    by_cases hj : j = 0
    · subst j; simp
    · simp [Table.set, hj]
  | succ n =>
    cases j with
    | zero => simp
    | succ m =>
      by_cases hm : m = n
      · subst m
        by_cases hn : n < t.rows.length <;> simp [Table.set, Table.find?, hn]
      · have hne : n ≠ m := fun h => hm h.symm
        simp [Table.set, Table.find?, List.getElem?_set_ne hne, hm]

theorem Table.find?_set_self {old : α} (row : α) (h : t.find? id = some old) :
    (t.set id row).find? id = some row := by
  simp [Table.find?_set, h]

theorem Table.find?_set_ne {id j : Nat} (row : α) (h : j ≠ id) :
    (t.set id row).find? j = t.find? j := by
  simp [Table.find?_set, h]

theorem Table.of_find?_insertAll {rows : List α} {row : α}
    (h : (t.insertAll rows).find? id = some row) :
    t.find? id = some row ∨ t.nextId ≤ id ∧ row ∈ rows := by
  rw [Table.find?_insertAll] at h
  split at h
  next => exact .inl h
  next beyond => exact .inr ⟨Nat.not_lt.mp beyond, List.mem_of_getElem? h⟩

theorem Table.of_find?_insert {row new : α} (h : (t.insert new).find? id = some row) :
    id = t.nextId ∧ row = new ∨ t.find? id = some row := by
  rw [Table.find?_insert] at h
  split at h
  next own => exact .inl ⟨own, (Option.some.inj h).symm⟩
  next => exact .inr h

theorem Table.of_find?_set {row new : α} {j : Nat} (h : (t.set id new).find? j = some row) :
    j = id ∧ row = new ∨ j ≠ id ∧ t.find? j = some row := by
  rw [Table.find?_set] at h
  split at h
  next own =>
    obtain ⟨_, -, same⟩ := Option.map_eq_some_iff.mp h
    exact .inl ⟨own, same.symm⟩
  next ne => exact .inr ⟨ne, h⟩

theorem Table.forall_insert {P : Nat → α → Prop} {new : α} (own : P t.nextId new)
    (rest : ∀ j row, t.find? j = some row → P j row) :
    ∀ j row, (t.insert new).find? j = some row → P j row := by
  intro j row found
  rcases Table.of_find?_insert found with ⟨rfl, rfl⟩ | found
  · exact own
  · exact rest j row found

theorem Table.forall_set {P : Nat → α → Prop} {new : α} (own : P id new)
    (rest : ∀ j row, t.find? j = some row → P j row) :
    ∀ j row, (t.set id new).find? j = some row → P j row := by
  intro j row found
  rcases Table.of_find?_set found with ⟨rfl, rfl⟩ | ⟨-, found⟩
  · exact own
  · exact rest j row found

theorem Table.find?_updateWhere (t : Table α) (p : α → Bool) (f : α → α) (id : Nat) :
    (t.updateWhere p f).find? id = (t.find? id).map fun row => if p row then f row else row := by
  cases id with
  | zero => rfl
  | succ n => simp [Table.updateWhere, Table.find?]

@[simp] theorem Table.nextId_insert (t : Table α) (row : α) :
    (t.insert row).nextId = t.nextId + 1 := by
  simp [Table.insert, Table.nextId]

@[simp] theorem Table.nextId_insertAll (t : Table α) (rows : List α) :
    (t.insertAll rows).nextId = t.nextId + rows.length := by
  simp [Table.insertAll, Table.nextId]
  omega

@[simp] theorem Table.nextId_set (t : Table α) (id : Nat) (row : α) :
    (t.set id row).nextId = t.nextId := by
  cases id <;> simp [Table.set, Table.nextId]

@[simp] theorem Table.nextId_updateWhere (t : Table α) (p : α → Bool) (f : α → α) :
    (t.updateWhere p f).nextId = t.nextId := by
  simp [Table.updateWhere, Table.nextId]

end Relational
