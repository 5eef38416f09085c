import Mathlib.Data.List.Basic
import Mathlib.Data.List.Nodup

namespace Relational

/-- A table with an auto-increment key and deletes: the entries are in the order of their
identifiers, and `seq` is the greatest identifier that was given. -/
structure SerialTable (α : Type) where
  entries : List (Nat × α)
  seq : Nat
  increasing : (entries.map Prod.fst).Pairwise (· < ·)
  given : ∀ entry ∈ entries, entry.1 ≤ seq

namespace SerialTable

variable {α : Type} {t : SerialTable α} {id : Nat} {row : α} {p : Nat × α → Bool} {f : α → α}
  {P : α → Prop}

def empty : SerialTable α := ⟨[], 0, List.Pairwise.nil, nofun⟩

def rows (t : SerialTable α) : List α := t.entries.map Prod.snd

def insert (t : SerialTable α) (row : α) : SerialTable α where
  entries := t.entries ++ [(t.seq + 1, row)]
  seq := t.seq + 1
  increasing := by
    rw [List.map_append, List.pairwise_append]
    refine ⟨t.increasing, List.pairwise_singleton _ _, ?_⟩
    intro id member last h
    obtain ⟨entry, there, rfl⟩ := List.mem_map.mp member
    rw [List.mem_singleton.mp h]
    exact Nat.lt_succ_of_le (t.given entry there)
  given entry there := by
    rcases List.mem_append.mp there with h | h
    · exact Nat.le_succ_of_le (t.given entry h)
    · cases List.mem_singleton.mp h
      exact Nat.le_refl _

/-- `UPDATE .. SET f WHERE p`. -/
def update (t : SerialTable α) (p : Nat × α → Bool) (f : α → α) : SerialTable α where
  entries := t.entries.map fun entry => if p entry then (entry.1, f entry.2) else entry
  seq := t.seq
  increasing := by
    have keys : (t.entries.map fun entry => if p entry then (entry.1, f entry.2) else entry).map
        Prod.fst = t.entries.map Prod.fst := by
      rw [List.map_map]
      refine List.map_congr_left fun entry _ => ?_
      rw [Function.comp_apply]
      split <;> rfl
    rw [keys]
    exact t.increasing
  given entry member := by
    obtain ⟨old, there, rfl⟩ := List.mem_map.mp member
    split
    · exact t.given old there
    · exact t.given old there

/-- `DELETE .. WHERE p`. -/
def delete (t : SerialTable α) (p : Nat × α → Bool) : SerialTable α where
  entries := t.entries.filter fun entry => !p entry
  seq := t.seq
  increasing := t.increasing.sublist (List.filter_sublist.map _)
  given entry there := t.given entry (List.mem_of_mem_filter there)

/-- `SELECT .. WHERE p ORDER BY id`. -/
def select (t : SerialTable α) (p : α → Bool) : List (Nat × α) :=
  t.entries.filter fun entry => p entry.2

def any (t : SerialTable α) (p : α → Bool) : Bool := t.entries.any fun entry => p entry.2

theorem forall_rows_insert (each : ∀ row ∈ t.rows, P row) (own : P row) :
    ∀ other ∈ (t.insert row).rows, P other := by
  intro other member
  unfold rows insert at member
  rw [List.map_append, List.mem_append] at member
  rcases member with h | h
  · exact each other h
  · rw [List.map_singleton, List.mem_singleton] at h
    rw [h]
    exact own

theorem forall_rows_update (each : ∀ row ∈ t.rows, P row) (keep : ∀ row, P row → P (f row)) :
    ∀ row ∈ (t.update p f).rows, P row := by
  intro row member
  unfold rows update at member
  rw [List.map_map] at member
  obtain ⟨entry, there, rfl⟩ := List.mem_map.mp member
  have old := each entry.2 (List.mem_map_of_mem there)
  rw [Function.comp_apply]
  split
  next => exact keep entry.2 old
  next => exact old

theorem forall_rows_delete (each : ∀ row ∈ t.rows, P row) :
    ∀ row ∈ (t.delete p).rows, P row := by
  intro row member
  obtain ⟨entry, there, rfl⟩ := List.mem_map.mp member
  exact each entry.2 (List.mem_map_of_mem (List.mem_of_mem_filter there))

theorem nodup_ids (t : SerialTable α) : (t.entries.map Prod.fst).Nodup :=
  t.increasing.imp Nat.ne_of_lt

theorem eq_of_id {first second : Nat × α} (one : first ∈ t.entries) (two : second ∈ t.entries)
    (same : first.1 = second.1) : first = second :=
  List.inj_on_of_nodup_map t.nodup_ids one two same

end SerialTable

end Relational
