import MiniOgas.Table
import Mathlib.Algebra.Order.BigOperators.Group.List

namespace Relational

variable {α M : Type} {t : Table α} {id : Nat} {row : α} {p : α → Bool}

theorem Table.mem_entries :
    (id, row) ∈ t.entries ↔ t.find? id = some row := by
  cases id with
  | zero => simp [Table.entries]
  | succ n =>
    simp only [Table.entries, List.mem_map, Prod.mk.injEq, Prod.exists, Table.find?]
    constructor
    · rintro ⟨a, k, hm, hk, rfl⟩
      have hn : k = n := by omega
      subst k
      simpa using List.mem_zipIdx_iff_getElem?.mp hm
    · intro h
      exact ⟨row, n, List.mem_zipIdx_iff_getElem?.mpr (by simpa using h), rfl, rfl⟩

theorem Table.mem_rows : row ∈ t.rows ↔ ∃ id, t.find? id = some row := by
  constructor
  · intro h
    obtain ⟨n, hn⟩ := List.mem_iff_getElem?.mp h
    exact ⟨n + 1, hn⟩
  · rintro ⟨id, h⟩
    cases id with
    | zero => simp at h
    | succ n => exact List.mem_iff_getElem?.mpr ⟨n, h⟩

theorem Table.mem_select :
    (id, row) ∈ t.select p ↔ t.find? id = some row ∧ p row = true := by
  simp only [Table.select, List.mem_filter, Table.mem_entries]

theorem Table.first?_spec (h : t.first? p = some (id, row)) :
    t.find? id = some row ∧ p row = true :=
  Table.mem_select.mp (List.mem_of_mem_head? h)

theorem Table.last?_spec (h : t.last? p = some (id, row)) : t.find? id = some row ∧ p row = true :=
  Table.mem_select.mp (List.mem_of_getLast? h)

theorem Table.select_eq_nil_iff :
    t.select p = [] ↔ ∀ id row, t.find? id = some row → p row = false := by
  constructor
  · intro h id row hf
    by_contra hp
    have hm : (id, row) ∈ t.select p := Table.mem_select.mpr ⟨hf, by simpa using hp⟩
    simp [h] at hm
  · intro h
    rw [List.eq_nil_iff_forall_not_mem]
    rintro ⟨id, row⟩ hm
    obtain ⟨hf, hp⟩ := Table.mem_select.mp hm
    simp [h id row hf] at hp

theorem Table.first?_eq_none_iff :
    t.first? p = none ↔ ∀ id row, t.find? id = some row → p row = false := by
  rw [Table.first?, List.head?_eq_none_iff, Table.select_eq_nil_iff]

theorem Table.last?_eq_none_iff :
    t.last? p = none ↔ ∀ id row, t.find? id = some row → p row = false := by
  rw [Table.last?, List.getLast?_eq_none_iff, Table.select_eq_nil_iff]

theorem Table.first?_congr {p q : α → Bool} (h : ∀ id row, t.find? id = some row → p row = q row) :
    t.first? p = t.first? q := by
  have hselect : t.select p = t.select q :=
    List.filter_congr fun entry hm => h entry.1 entry.2 (Table.mem_entries.mp hm)
  rw [Table.first?, Table.first?, hselect]

theorem Table.entries_insert (t : Table α) (row : α) :
    (t.insert row).entries = t.entries ++ [(t.nextId, row)] := by
  simp [Table.entries, Table.insert, Table.nextId, List.zipIdx_append]

theorem Table.first?_insert (t : Table α) (row : α) (p : α → Bool) :
    (t.insert row).first? p = (t.first? p).or (if p row then some (t.nextId, row) else none) := by
  rw [Table.first?, Table.select, Table.entries_insert, List.filter_append, List.head?_append]
  by_cases h : p row = true <;> simp [Table.first?, Table.select, h]

theorem Table.first?_set {new : α} (h : t.first? p = some (id, row)) (hp : p new = true) :
    (t.set id new).first? p = some (id, new) := by
  unfold Table.first? Table.select at h ⊢
  rw [List.head?_filter, List.find?_eq_some_iff_getElem] at h ⊢
  obtain ⟨-, i, hi, at', before⟩ := h
  simp only [Table.entries, List.getElem_map, List.getElem_zipIdx, Nat.zero_add,
    Prod.mk.injEq] at at' before
  obtain ⟨rfl, -⟩ := at'
  refine ⟨hp, i, by simpa [Table.entries, Table.set] using hi, by simp [Table.entries, Table.set],
    fun j lt => ?_⟩
  have other := before j lt
  simpa [Table.entries, Table.set, List.getElem_set_ne (Nat.ne_of_gt lt)] using other
theorem Table.last?_insert (t : Table α) (row : α) (p : α → Bool) :
    (t.insert row).last? p = if p row then some (t.nextId, row) else t.last? p := by
  rw [Table.last?, Table.select, Table.entries_insert, List.filter_append]
  by_cases h : p row = true <;> simp [Table.last?, Table.select, h]

theorem Table.any_iff :
    t.any p = true ↔ ∃ id row, t.find? id = some row ∧ p row = true := by
  simp only [Table.any, List.any_eq_true, Table.mem_rows]
  exact ⟨fun ⟨row, ⟨id, hf⟩, hp⟩ => ⟨id, row, hf, hp⟩, fun ⟨id, row, hf, hp⟩ => ⟨row, ⟨id, hf⟩, hp⟩⟩

theorem Table.any_eq_false_iff :
    t.any p = false ↔ ∀ id row, t.find? id = some row → p row = false := by
  rw [← Bool.not_eq_true, Table.any_iff]
  simp

theorem Table.count_eq_zero_iff :
    t.count p = 0 ↔ ∀ id row, t.find? id = some row → p row = false := by
  rw [Table.count, List.countP_eq_zero]
  constructor
  · intro h id row hf
    simpa using h row (Table.mem_rows.mpr ⟨id, hf⟩)
  · intro h row hm
    obtain ⟨id, hf⟩ := Table.mem_rows.mp hm
    simp [h id row hf]

theorem countP_le_one_iff {xs : List α} :
    xs.countP p ≤ 1 ↔ ∀ (i j : Nat) (x y : α), xs[i]? = some x → xs[j]? = some y → p x = true →
      p y = true → i = j := by
  induction xs with
  | nil => simp
  | cons a xs ih =>
    constructor
    · intro h i j x y hi hj hx hy
      rw [List.countP_cons] at h
      cases i with
      | zero =>
        cases j with
        | zero => rfl
        | succ j =>
          have ha : p a = true := by simpa [← Option.some.inj hi] using hx
          have hz : xs.countP p = 0 := by simp [ha] at h; simpa using h
          simpa [hy] using List.countP_eq_zero.mp hz y (List.mem_iff_getElem?.mpr ⟨j, hj⟩)
      | succ i =>
        cases j with
        | zero =>
          have ha : p a = true := by simpa [← Option.some.inj hj] using hy
          have hz : xs.countP p = 0 := by simp [ha] at h; simpa using h
          simpa [hx] using List.countP_eq_zero.mp hz x (List.mem_iff_getElem?.mpr ⟨i, hi⟩)
        | succ j =>
          have hle : xs.countP p ≤ 1 := by omega
          exact congrArg Nat.succ (ih.mp hle i j x y hi hj hx hy)
    · intro h
      by_cases ha : p a = true
      · have hz : xs.countP p = 0 := by
          rw [List.countP_eq_zero]
          intro y hy hp
          obtain ⟨j, hj⟩ := List.mem_iff_getElem?.mp hy
          exact absurd (h 0 (j + 1) a y rfl hj ha hp) (by omega)
        simp [hz, ha]
      · have hle := ih.mpr fun i j x y hi hj hx hy => by
          have := h (i + 1) (j + 1) x y hi hj hx hy
          omega
        simpa [ha] using hle

theorem Table.count_le_one_iff :
    t.count p ≤ 1 ↔ ∀ i j x y, t.find? i = some x → t.find? j = some y → p x = true →
      p y = true → i = j := by
  rw [Table.count, countP_le_one_iff]
  constructor
  · intro h i j x y hi hj hx hy
    cases i with
    | zero => simp at hi
    | succ i =>
      cases j with
      | zero => simp at hj
      | succ j => exact congrArg Nat.succ (h i j x y hi hj hx hy)
  · intro h i j x y hi hj hx hy
    have := h (i + 1) (j + 1) x y hi hj hx hy
    omega

theorem Table.count_eq_one_iff :
    t.count p = 1 ↔ ∃ id row, t.find? id = some row ∧ p row = true ∧
      ∀ j y, t.find? j = some y → p y = true → j = id := by
  constructor
  · intro h
    have hpos : 0 < t.rows.countP p := by rw [← Table.count, h]; omega
    obtain ⟨row, hm, hp⟩ := List.countP_pos_iff.mp hpos
    obtain ⟨id, hf⟩ := Table.mem_rows.mp hm
    have hle : t.count p ≤ 1 := by omega
    exact ⟨id, row, hf, hp, fun j y hj hy => Table.count_le_one_iff.mp hle j id y row hj hf hy hp⟩
  · rintro ⟨id, row, hf, hp, unique⟩
    have hle : t.count p ≤ 1 := Table.count_le_one_iff.mpr fun i j x y hi hj hx hy =>
      (unique i x hi hx).trans (unique j y hj hy).symm
    have hne : t.count p ≠ 0 := fun hz => by
      have := Table.count_eq_zero_iff.mp hz id row hf
      simp [hp] at this
    omega

@[simp] theorem Table.count_empty (p : α → Bool) : (Table.empty : Table α).count p = 0 := rfl

theorem Table.count_insert (t : Table α) (row : α) (p : α → Bool) :
    (t.insert row).count p = t.count p + if p row then 1 else 0 := by
  simp [Table.insert, Table.count, List.countP_append, List.countP_singleton]

theorem Table.count_updateWhere (t : Table α) (p q : α → Bool) (f : α → α) :
    (t.updateWhere p f).count q = t.count fun row => q (if p row then f row else row) := by
  simp [Table.updateWhere, Table.count, List.countP_map, Function.comp_def]

theorem Table.count_congr {p q : α → Bool} (h : ∀ row, p row = q row) :
    t.count p = t.count q := by
  rw [funext h]

@[simp] theorem Table.sum_empty [AddCommMonoid M] (p : α → Bool) (f : α → M) :
    (Table.empty : Table α).sum p f = 0 := rfl

theorem Table.sum_insert [AddCommMonoid M] (t : Table α) (row : α) (p : α → Bool) (f : α → M) :
    (t.insert row).sum p f = t.sum p f + if p row then f row else 0 := by
  by_cases hp : p row = true <;> simp [Table.insert, Table.sum, List.filter_append, hp]

theorem Table.sum_eq_map [AddCommMonoid M] (t : Table α) (p : α → Bool) (f : α → M) :
    t.sum p f = (t.rows.map fun row => if p row then f row else 0).sum := by
  unfold Table.sum
  induction t.rows with
  | nil => rfl
  | cons row rows ih => by_cases hp : p row = true <;> simp [hp, ih]

theorem Table.sum_eq_zero [AddCommMonoid M] (f : α → M) (h : t.any p = false) : t.sum p f = 0 := by
  have hnil : t.rows.filter p = [] := by
    rw [List.filter_eq_nil_iff]
    intro row hm
    simpa using List.any_eq_false.mp h row hm
  simp [Table.sum, hnil]

theorem filter_key {β : Type} [DecidableEq β] {f : α → β} {xs : List α}
    (distinct : (xs.map f).Nodup) {x : α} (hx : x ∈ xs) : xs.filter (f · = f x) = [x] := by
  induction xs with
  | nil => simp at hx
  | cons y ys ih =>
    obtain ⟨fresh, distinct⟩ := List.nodup_cons.mp distinct
    rcases List.mem_cons.mp hx with rfl | hx
    · rw [List.filter_cons_of_pos (by simp)]
      refine congrArg (x :: ·) (List.filter_eq_nil_iff.mpr fun z hz same => fresh ?_)
      rw [← of_decide_eq_true same]
      exact List.mem_map_of_mem hz
    · rw [List.filter_cons_of_neg, ih distinct hx]
      intro same
      refine fresh ?_
      rw [of_decide_eq_true same]
      exact List.mem_map_of_mem hx

theorem Table.entries_map {β : Type} (t : Table α) (f : Nat × α → β) :
    (Table.mk (t.entries.map f)).entries = t.entries.map fun entry => (entry.1, f entry) := by
  refine List.ext_getElem? fun i => ?_
  unfold Table.entries
  simp only [List.getElem?_map, List.getElem?_zipIdx]
  cases t.rows[i]? with
  | none => rfl
  | some row => simp

end Relational
