import MiniOgas.TableQuery
import MiniOgas.Serial

namespace Relational

open Serial

variable {α Fault : Type}

/-- `UPDATE .. SET f WHERE id = .. AND p`. -/
def Table.updateAt (t : Table α) (id : Nat) (p : α → Bool) (f : α → α) : Table α :=
  match t.find? id with
  | some row => if p row then t.set id (f row) else t
  | none => t

/-- `UPDATE .. SET f WHERE id = .. AND p`, which raises unless it changes a row. -/
def Table.updateOne (t : Table α) (id : Nat) (p : α → Bool) (f : α → α) (fault : Fault) :
    Except Fault (Table α) :=
  match t.find? id with
  | some row => if p row then .ok (t.set id (f row)) else .error fault
  | none => .error fault

theorem Table.updateOne_eq_ok {t t' : Table α} {id : Nat} {p : α → Bool} {f : α → α}
    {fault : Fault} :
    t.updateOne id p f fault = .ok t' ↔
      ∃ row, t.find? id = some row ∧ p row = true ∧ t.set id (f row) = t' := by
  unfold Table.updateOne
  cases hf : t.find? id with
  | none => simp
  | some row => by_cases hp : p row = true <;> simp [hp]

/-- An insertion that raises when a row is there that a unique constraint excludes. -/
def Table.insertUnique (t : Table α) (conflicts : α → Bool) (row : α) (fault : Fault) :
    Except Fault (Table α) :=
  if t.any conflicts then .error fault else .ok (t.insert row)

theorem Table.insertUnique_eq_ok {t t' : Table α} {conflicts : α → Bool} {row : α}
    {fault : Fault} :
    t.insertUnique conflicts row fault = .ok t' ↔ t.any conflicts = false ∧ t.insert row = t' := by
  unfold Table.insertUnique
  by_cases h : t.any conflicts = true <;> simp [h]

theorem Table.find?_updateAt (t : Table α) (id : Nat) (p : α → Bool) (f : α → α) (j : Nat) :
    (t.updateAt id p f).find? j =
      (t.find? j).map fun row => if j = id ∧ p row = true then f row else row := by
  unfold Table.updateAt
  cases hf : t.find? id with
  | none =>
    by_cases hj : j = id
    · subst j; simp [hf]
    · simp [hj]
  | some row =>
    by_cases hj : j = id
    · subst j
      by_cases hp : p row = true
      · simp [hp, Table.find?_set, hf]
      · simp [hp, hf]
    · by_cases hp : p row = true <;> simp [hp, hj, Table.find?_set]

@[simp] theorem Table.nextId_updateAt (t : Table α) (id : Nat) (p : α → Bool) (f : α → α) :
    (t.updateAt id p f).nextId = t.nextId := by
  unfold Table.updateAt
  cases t.find? id with
  | none => rfl
  | some row => by_cases hp : p row = true <;> simp [hp]

theorem Table.isSome_find?_set (t : Table α) (id : Nat) (row : α) (j : Nat) :
    ((t.set id row).find? j).isSome = (t.find? j).isSome := by
  rw [Table.find?_set]
  split
  next h => subst h; simp
  next => rfl

theorem Table.isSome_find?_updateAt (t : Table α) (id : Nat) (p : α → Bool) (f : α → α) (j : Nat) :
    ((t.updateAt id p f).find? j).isSome = (t.find? j).isSome := by
  rw [Table.find?_updateAt]
  simp

theorem Table.isSome_find?_insert {t : Table α} {row : α} {j : Nat}
    (h : (t.find? j).isSome = true) : ((t.insert row).find? j).isSome = true := by
  obtain ⟨old, hold⟩ := Option.isSome_iff_exists.mp h
  rw [Table.find?_insert_of_find? row hold]
  rfl

end Relational

namespace Relational

variable {α : Type}

def Table.Free (t : Table α) (p : α → Bool) : Prop :=
  ∀ id row, t.find? id = some row → p row = false

/-- One row of the table meets `p`, the given one. -/
def Table.Sole (t : Table α) (p : α → Bool) (id : Nat) (row : α) : Prop :=
  t.find? id = some row ∧ p row = true ∧ ∀ j y, t.find? j = some y → p y = true → j = id

variable {t : Table α} {p : α → Bool} {id j : Nat} {row new : α}

theorem Table.free_iff_any : t.Free p ↔ t.any p = false := Table.any_eq_false_iff.symm

theorem Table.free_iff_count : t.Free p ↔ t.count p = 0 := Table.count_eq_zero_iff.symm

theorem Table.free_empty : (Table.empty : Table α).Free p := fun _ _ h => by simp at h

theorem Table.Sole.count (h : t.Sole p id row) : t.count p = 1 :=
  Table.count_eq_one_iff.mpr ⟨id, row, h⟩

theorem Table.sole_of_count (h : t.count p = 1) : ∃ id row, t.Sole p id row :=
  Table.count_eq_one_iff.mp h

theorem Table.Sole.not_free (h : t.Sole p id row) : ¬t.Free p := fun free => by
  have := free id row h.1
  simp [h.2.1] at this

theorem Table.Sole.eq (h : t.Sole p id row) {y : α} (hy : t.find? j = some y) (hp : p y = true) :
    j = id ∧ y = row := by
  have hj := h.2.2 j y hy hp
  subst hj
  exact ⟨rfl, Option.some.inj (hy.symm.trans h.1)⟩

theorem Table.Sole.first? (h : t.Sole p id row) : t.first? p = some (id, row) := by
  cases hl : t.first? p with
  | none =>
    have := Table.first?_eq_none_iff.mp hl id row h.1
    simp [h.2.1] at this
  | some entry =>
    obtain ⟨hf, hp⟩ := Table.first?_spec hl
    obtain ⟨hid, hrow⟩ := h.eq hf hp
    rw [← hid, ← hrow]

theorem Table.Free.insert (h : t.Free p) (hnew : p new = false) : (t.insert new).Free p :=
  Table.forall_insert hnew h

theorem Table.Free.insert_sole (h : t.Free p) (hnew : p new = true) :
    (t.insert new).Sole p t.nextId new := by
  refine ⟨by simp [Table.find?_insert], hnew, Table.forall_insert (fun _ => rfl) ?_⟩
  intro j y hj hy
  simp [h j y hj] at hy

theorem Table.Sole.insert (h : t.Sole p id row) (hnew : p new = false) :
    (t.insert new).Sole p id row := by
  exact ⟨Table.find?_insert_of_find? new h.1, h.2.1, Table.forall_insert (by simp [hnew]) h.2.2⟩

theorem Table.Free.set (h : t.Free p) (hnew : p new = false) : (t.set id new).Free p :=
  Table.forall_set hnew h

theorem Table.Sole.set_free (h : t.Sole p id row) (hnew : p new = false) :
    (t.set id new).Free p := by
  intro j y hj
  rcases Table.of_find?_set hj with ⟨-, rfl⟩ | ⟨ne, hj⟩
  · exact hnew
  · by_contra hy
    exact ne (h.2.2 j y hj (by simpa using hy))

theorem Table.Sole.set_sole (h : t.Sole p id row) (hnew : p new = true) :
    (t.set id new).Sole p id new := by
  exact ⟨Table.find?_set_self new h.1, hnew, Table.forall_set (fun _ => rfl) h.2.2⟩

theorem Table.Sole.set_ne (h : t.Sole p id row) (hj : j ≠ id) (hnew : p new = false) :
    (t.set j new).Sole p id row := by
  exact ⟨(Table.find?_set_ne new (Ne.symm hj)).trans h.1, h.2.1,
    Table.forall_set (by simp [hnew]) h.2.2⟩

theorem Table.Sole.set_outside (h : t.Sole p id row) {old : α} (hold : t.find? j = some old)
    (hout : p old = false) (hnew : p new = false) : (t.set j new).Sole p id row := by
  refine h.set_ne ?_ hnew
  rintro rfl
  have hrow : old = row := Option.some.inj (hold.symm.trans h.1)
  simp [hrow, h.2.1] at hout

theorem Table.updateAt_eq_set {q : α → Bool} {f : α → α} (hf : t.find? id = some row)
    (hq : q row = true) : t.updateAt id q f = t.set id (f row) := by
  simp [Table.updateAt, hf, hq]

theorem Table.Sole.updateWhere_eq_set (h : t.Sole p id row) (f : α → α) :
    t.updateWhere p f = t.set id (f row) := by
  have hext : ∀ j, (t.updateWhere p f).find? j = (t.set id (f row)).find? j := by
    intro j
    rw [Table.find?_updateWhere, Table.find?_set]
    by_cases hj : j = id
    · subst j
      simp [h.1, h.2.1]
    · rw [if_neg hj]
      cases hf : t.find? j with
      | none => rfl
      | some y =>
        have hy : p y = false := by
          by_contra hy
          exact hj (h.2.2 j y hf (by simpa using hy))
        simp [hy]
  exact Table.ext_find? hext

variable {K : Type}

/-- A unique constraint: rows with one key are one row. -/
def Table.Keyed (t : Table α) (key : α → K) : Prop :=
  ∀ i j a b, t.find? i = some a → t.find? j = some b → key a = key b → i = j

def Table.lookup [DecidableEq K] (t : Table α) (key : α → K) (k : K) : Option α :=
  (t.first? (key · = k)).map (·.2)

variable {t : Table α} {key : α → K} {id : Nat} {row new : α} {k : K}

theorem Table.keyed_empty : (Table.empty : Table α).Keyed key :=
  fun _ _ _ _ found => by simp at found

theorem Table.Keyed.insert (h : t.Keyed key)
    (fresh : ∀ id row, t.find? id = some row → key row ≠ key new) :
    (t.insert new).Keyed key := by
  intro i j a b hi hj same
  rcases Table.of_find?_insert hi with ⟨one, rfl⟩ | one
  · rcases Table.of_find?_insert hj with ⟨two, rfl⟩ | two
    · rw [one, two]
    · exact absurd same.symm (fresh j b two)
  · rcases Table.of_find?_insert hj with ⟨-, rfl⟩ | two
    · exact absurd same (fresh i a one)
    · exact h i j a b one two same

theorem Table.Keyed.first? {p : α → Bool} (h : t.Keyed key) (found : t.find? id = some row)
    (meets : p row = true)
    (only : ∀ j y, t.find? j = some y → p y = true → key y = key row) :
    t.first? p = some (id, row) :=
  Table.Sole.first? ⟨found, meets, fun j y hj hy => h j id y row hj found (only j y hj hy)⟩

theorem Table.Keyed.insertAll {rows : List α} (h : t.Keyed key) (distinct : (rows.map key).Nodup)
    (fresh : ∀ id row, t.find? id = some row → key row ∉ rows.map key) :
    (t.insertAll rows).Keyed key := by
  induction rows generalizing t with
  | nil => simpa using h
  | cons first rows ih =>
    rw [List.map_cons, List.nodup_cons] at distinct
    rw [← Table.insertAll_insert]
    refine ih (h.insert fun id row found same => ?_) distinct.2 fun id row found => ?_
    · exact fresh id row found (by simp [same])
    · rcases Table.of_find?_insert found with ⟨-, rfl⟩ | found
      · exact distinct.1
      · exact fun member => fresh id row found (List.mem_cons_of_mem _ member)

theorem Table.Keyed.set (h : t.Keyed key) (found : t.find? id = some row)
    (same : key new = key row) : (t.set id new).Keyed key := by
  have old : ∀ j y, (t.set id new).find? j = some y → ∃ x, t.find? j = some x ∧ key y = key x := by
    intro j y hy
    rcases Table.of_find?_set hy with ⟨rfl, rfl⟩ | ⟨-, hy⟩
    · exact ⟨row, found, same⟩
    · exact ⟨y, hy, rfl⟩
  intro i j a b hi hj heq
  obtain ⟨x, hx, hxk⟩ := old i a hi
  obtain ⟨y, hy, hyk⟩ := old j b hj
  exact h i j x y hx hy (by rw [← hxk, ← hyk, heq])

/-- The rows that meet `p` are the same ones in both tables. -/
def Table.SameRows (p : α → Prop) (t t' : Table α) : Prop :=
  ∀ id row, p row → (t'.find? id = some row ↔ t.find? id = some row)

variable {p : α → Prop} {t' t'' : Table α}

theorem Table.SameRows.refl (t : Table α) : Table.SameRows p t t := fun _ _ _ => Iff.rfl

theorem Table.SameRows.trans (first : Table.SameRows p t t') (second : Table.SameRows p t' t'') :
    Table.SameRows p t t'' :=
  fun id row meets => (second id row meets).trans (first id row meets)

theorem Table.sameRows_insert (other : ¬ p new) : Table.SameRows p t (t.insert new) := by
  intro id row meets
  rw [Table.find?_insert]
  split
  next he =>
    rw [he, Table.find?_nextId]
    constructor
    · intro same
      exact absurd (Option.some.inj same ▸ meets) other
    · nofun
  next => exact Iff.rfl

theorem Table.sameRows_set (found : t.find? id = some row) (old : ¬ p row) (other : ¬ p new) :
    Table.SameRows p t (t.set id new) := by
  intro j y meets
  rw [Table.find?_set]
  split
  next he =>
    rw [he, found]
    constructor
    · intro same
      have same : new = y := Option.some.inj same
      exact absurd (same ▸ meets) other
    · intro same
      exact absurd (Option.some.inj same ▸ meets) old
  next => exact Iff.rfl

variable [DecidableEq K]

theorem Table.lookup_eq_some (h : t.lookup key k = some row) :
    ∃ id, t.find? id = some row ∧ key row = k := by
  obtain ⟨⟨id, found⟩, hfirst, rfl⟩ := Option.map_eq_some_iff.mp h
  obtain ⟨hfind, hkey⟩ := Table.first?_spec hfirst
  exact ⟨id, hfind, by simpa using hkey⟩

theorem Table.Keyed.lookup_eq (h : t.Keyed key) (found : t.find? id = some row) :
    t.lookup key (key row) = some row := by
  cases hl : t.lookup key (key row) with
  | none =>
    have := Table.first?_eq_none_iff.mp (Option.map_eq_none_iff.mp hl) id row found
    simp at this
  | some other =>
    obtain ⟨j, hj, same⟩ := Table.lookup_eq_some hl
    obtain rfl := h j id other row hj found same
    exact hj.symm.trans found

theorem Table.lookup_eq_none (h : ∀ id row, t.find? id = some row → key row ≠ k) :
    t.lookup key k = none := by
  rw [Table.lookup, Option.map_eq_none_iff, Table.first?_eq_none_iff]
  intro id row found
  simpa using h id row found

theorem Table.Keyed.lookup_insert (h : t.Keyed key)
    (fresh : ∀ id row, t.find? id = some row → key row ≠ key new) (k : K) :
    (t.insert new).lookup key k = if k = key new then some new else t.lookup key k := by
  split
  next he =>
    subst he
    have found : (t.insert new).find? t.nextId = some new := by simp [Table.find?_insert]
    exact (h.insert fresh).lookup_eq found
  next hne =>
    cases hl : t.lookup key k with
    | none =>
      refine Table.lookup_eq_none fun id row found => ?_
      rcases Table.of_find?_insert found with ⟨-, rfl⟩ | found
      · exact fun he => hne he.symm
      · rintro rfl
        simp [h.lookup_eq found] at hl
    | some row =>
      obtain ⟨id, found, rfl⟩ := Table.lookup_eq_some hl
      exact (h.insert fresh).lookup_eq (Table.find?_insert_of_find? _ found)

theorem Table.Keyed.lookup_set (h : t.Keyed key) (found : t.find? id = some row)
    (same : key new = key row) (k : K) :
    (t.set id new).lookup key k = if k = key row then some new else t.lookup key k := by
  have stored := h.set found same
  split
  next he =>
    rw [he, ← same]
    exact stored.lookup_eq (Table.find?_set_self new found)
  next hne =>
    cases hl : t.lookup key k with
    | none =>
      refine Table.lookup_eq_none fun j y hy => ?_
      rcases Table.of_find?_set hy with ⟨rfl, rfl⟩ | ⟨-, hy⟩
      · rw [same]
        exact fun he => hne he.symm
      · rintro rfl
        simp [h.lookup_eq hy] at hl
    | some y =>
      obtain ⟨j, hj, rfl⟩ := Table.lookup_eq_some hl
      have hji : j ≠ id := by
        rintro rfl
        rw [found] at hj
        cases hj
        exact hne rfl
      exact stored.lookup_eq ((Table.find?_set_ne new hji).trans hj)

end Relational
