import Mathlib.Data.List.Basic
import Mathlib.Data.List.Nodup

namespace RowLog

variable {α κ : Type} [DecidableEq κ] {key : α → κ} {rows new current current' : List α}
  {row : α} {k : κ}

/-- The last row that a log has for a key: what an upsert by key leaves of it. -/
def latest (key : α → κ) (rows : List α) (k : κ) : Option α :=
  rows.reverse.find? fun row => key row = k

theorem latest_append : latest key (rows ++ new) k = (latest key new k).or (latest key rows k) := by
  unfold latest
  rw [List.reverse_append, List.find?_append]

theorem mem_of_latest (h : latest key rows k = some row) : row ∈ rows ∧ key row = k :=
  ⟨List.mem_reverse.mp (List.mem_of_find?_eq_some h), by simpa using List.find?_some h⟩

theorem latest_eq_none_iff : latest key rows k = none ↔ ∀ row ∈ rows, key row ≠ k := by
  simp [latest]

/-- Each element of a list is what the log has for its key. -/
def Agrees (key : α → κ) (rows current : List α) : Prop :=
  ∀ x ∈ current, latest key rows (key x) = some x

theorem Agrees.mem (agrees : Agrees key rows current) {x : α} (h : x ∈ current) : x ∈ rows :=
  (mem_of_latest (agrees x h)).1

theorem Agrees.subset (agrees : Agrees key rows current) (sub : current' ⊆ current) :
    Agrees key rows current' :=
  fun x h => agrees x (sub h)

theorem Agrees.write (agrees : Agrees key rows current) (distinct : (current'.map key).Nodup)
    (kept : ∀ x ∈ new, x ∈ current') (changed : ∀ x ∈ current', x ∈ new ∨ x ∈ current) :
    Agrees key (rows ++ new) current' := by
  intro x there
  rw [latest_append]
  cases h : latest key new (key x) with
  | some row =>
    obtain ⟨member, same⟩ := mem_of_latest h
    exact congrArg some (List.inj_on_of_nodup_map distinct (kept row member) there same)
  | none =>
    rcases changed x there with written | old
    · exact absurd rfl (latest_eq_none_iff.mp h x written)
    · exact agrees x old

section Upsert

variable {β : Type} {update : α → α → α} {fact : α → β} {x : α}

/-- `INSERT .. ON CONFLICT DO UPDATE`: the row with the key is updated, or the row is put last. -/
def upsert (key : α → κ) (update : α → α → α) (rows : List α) (row : α) : List α :=
  if (rows.find? (key · = key row)).isSome then
    rows.map fun old => if key old = key row then update old row else old
  else rows ++ [row]

theorem exists_upsert (sticks : ∀ old new, fact (update old new) = fact old) (member : x ∈ rows) :
    ∃ y ∈ upsert key update rows row, fact y = fact x := by
  unfold upsert
  split
  next =>
    refine ⟨_, List.mem_map.mpr ⟨x, member, rfl⟩, ?_⟩
    split
    next => exact sticks x row
    next => rfl
  next => exact ⟨x, List.mem_append_left _ member, rfl⟩

theorem upsert_distinct
    (stable : ∀ old new, key old = key new → key (update old new) = key old)
    (distinct : (rows.map key).Nodup) : ((upsert key update rows row).map key).Nodup := by
  unfold upsert
  split
  next =>
    have same : (rows.map fun old => if key old = key row then update old row else old).map key =
        rows.map key := by
      rw [List.map_map]
      refine List.map_congr_left fun old _ => ?_
      rw [Function.comp_apply]
      split
      next own => exact stable old row own
      next => rfl
    rw [same]
    exact distinct
  next absent =>
    rw [List.map_append]
    exact List.Nodup.append distinct (List.nodup_singleton _) (by simpa using absent)

/-- An upsert that is not left out leaves a row for the new one, which agrees with an old one. -/
theorem upserted {blank : Prop} [Decidable blank] {P : α → Prop}
    (stable : ∀ old new, key old = key new → key (update old new) = key old)
    (sticks : ∀ old new, fact (update old new) = fact old)
    (transfers : ∀ old kept, fact kept = fact old → P old → P kept)
    (distinct : (rows.map key).Nodup) (new : P row)
    (agrees : ¬ blank → ∀ old, rows.find? (key · = key row) = some old → key old = key row →
      P old) :
    ((if blank then rows else upsert key update rows row).map key).Nodup ∧
      (∀ x ∈ rows, ∃ y ∈ if blank then rows else upsert key update rows row, fact y = fact x) ∧
      (¬ blank → ∃ y ∈ if blank then rows else upsert key update rows row, P y) := by
  split
  next unbound => exact ⟨distinct, fun x member => ⟨x, member, rfl⟩, (absurd unbound ·)⟩
  next bound =>
    refine ⟨upsert_distinct stable distinct, fun x member => exists_upsert sticks member,
      fun _ => ?_⟩
    cases found : rows.find? (key · = key row) with
    | none =>
      refine ⟨row, ?_, new⟩
      rw [upsert, found]
      exact List.mem_append_right _ List.mem_cons_self
    | some old =>
      obtain ⟨kept, there, same⟩ : ∃ y ∈ upsert key update rows row, fact y = fact old :=
        exists_upsert sticks (List.mem_of_find?_eq_some found)
      exact ⟨kept, there, transfers old kept same
        (agrees bound old found (by simpa using List.find?_some found))⟩

theorem map_upsert {key' : β → κ} {update' : β → β → β} (keys : ∀ x, key' (fact x) = key x)
    (updates : ∀ old new, fact (update old new) = update' (fact old) (fact new)) :
    (upsert key update rows row).map fact = upsert key' update' (rows.map fact) (fact row) := by
  have found : ((rows.map fact).find? (key' · = key' (fact row))).isSome =
      (rows.find? (key · = key row)).isSome := by
    rw [List.find?_map, Option.isSome_map]
    congr 2
    funext x
    rw [Function.comp_apply, keys, keys]
  unfold upsert
  rw [found]
  split
  next =>
    rw [List.map_map, List.map_map]
    refine List.map_congr_left fun old _ => ?_
    rw [Function.comp_apply, Function.comp_apply, keys, keys]
    split
    next => exact updates old row
    next => rfl
  next => rw [List.map_append, List.map_singleton]

theorem mem_replaced : row ∈ upsert key (fun _ new => new) rows row := by
  unfold upsert
  split
  next found =>
    obtain ⟨old, found⟩ := Option.isSome_iff_exists.mp found
    have same : key old = key row := by simpa using List.find?_some found
    refine List.mem_map.mpr ⟨old, List.mem_of_find?_eq_some found, ?_⟩
    rw [if_pos same]
  next => exact List.mem_append_right _ List.mem_cons_self

theorem mem_of_mem_replaced (member : x ∈ upsert key (fun _ new => new) rows row) :
    x = row ∨ x ∈ rows := by
  unfold upsert at member
  split at member
  next =>
    obtain ⟨old, there, same⟩ := List.mem_map.mp member
    split at same
    next => exact .inl same.symm
    next => exact .inr (same ▸ there)
  next =>
    rcases List.mem_append.mp member with old | new
    · exact .inr old
    · exact .inl (List.mem_singleton.mp new)

theorem mem_replaced_of_ne (member : x ∈ rows) (other : key x ≠ key row) :
    x ∈ upsert key (fun _ new => new) rows row := by
  unfold upsert
  split
  next =>
    refine List.mem_map.mpr ⟨x, member, ?_⟩
    rw [if_neg other]
  next => exact List.mem_append_left _ member

theorem find?_of_distinct (distinct : (rows.map key).Nodup) (member : x ∈ rows) :
    rows.find? (key · = key x) = some x := by
  have found : (rows.find? (key · = key x)).isSome = true := by
    rw [List.find?_isSome]
    exact ⟨x, member, by simp⟩
  obtain ⟨y, found⟩ := Option.isSome_iff_exists.mp found
  have same : key y = key x := by simpa using List.find?_some found
  rw [found, List.inj_on_of_nodup_map distinct (List.mem_of_find?_eq_some found) member same]

end Upsert

section Firsts

variable {p : α → Bool} {seen : List κ} {x y : α} {before : α → α → Prop}

/-- The first row of each key that is not seen before, among those that meet `p`. -/
def firsts (key : α → κ) (p : α → Bool) : List κ → List α → List α
  | _, [] => []
  | seen, row :: rest =>
    if p row && !seen.contains (key row) then row :: firsts key p (key row :: seen) rest
    else firsts key p seen rest

theorem firsts_sublist (seen : List κ) (rows : List α) : (firsts key p seen rows).Sublist rows := by
  induction rows generalizing seen with
  | nil => exact List.Sublist.refl []
  | cons row rest ih =>
    rw [firsts]
    split
    next => exact (ih _).cons_cons row
    next => exact (ih _).cons row

theorem mem_firsts_spec (h : x ∈ firsts key p seen rows) : p x = true ∧ key x ∉ seen := by
  induction rows generalizing seen with
  | nil => cases h
  | cons row rest ih =>
    rw [firsts] at h
    split at h
    next new =>
      simp only [Bool.and_eq_true, Bool.not_eq_true', List.contains_eq_mem, decide_eq_false_iff_not]
        at new
      rcases List.mem_cons.mp h with rfl | later
      · exact new
      · obtain ⟨meets, fresh⟩ := ih later
        exact ⟨meets, fun old => fresh (List.mem_cons_of_mem _ old)⟩
    next => exact ih h

theorem firsts_distinct (seen : List κ) (rows : List α) :
    ((firsts key p seen rows).map key).Nodup := by
  induction rows generalizing seen with
  | nil => exact List.nodup_nil
  | cons row rest ih =>
    rw [firsts]
    split
    next =>
      rw [List.map_cons, List.nodup_cons]
      refine ⟨fun again => ?_, ih _⟩
      obtain ⟨other, member, same⟩ := List.mem_map.mp again
      exact (mem_firsts_spec member).2 (same ▸ List.mem_cons_self)
    next => exact ih _

theorem exists_firsts (member : x ∈ rows) (meets : p x = true) (fresh : key x ∉ seen) :
    ∃ y ∈ firsts key p seen rows, key y = key x := by
  induction rows generalizing seen with
  | nil => cases member
  | cons row rest ih =>
    rw [firsts]
    split
    next =>
      by_cases own : key row = key x
      · exact ⟨row, List.mem_cons_self, own⟩
      · have there : x ∈ rest := by
          rcases List.mem_cons.mp member with rfl | there
          · exact absurd rfl own
          · exact there
        obtain ⟨y, first, same⟩ := @ih (key row :: seen) there (by simp [fresh, Ne.symm own])
        exact ⟨y, List.mem_cons_of_mem _ first, same⟩
    next passed =>
      rcases List.mem_cons.mp member with rfl | there
      · exact absurd (by simp [meets, fresh]) passed
      · exact ih there fresh

theorem firsts_before (refl : ∀ x, before x x) (ordered : rows.Pairwise before)
    (first : x ∈ firsts key p seen rows) (member : y ∈ rows) (meets : p y = true)
    (same : key y = key x) : before x y := by
  induction rows generalizing seen with
  | nil => cases member
  | cons row rest ih =>
    rw [List.pairwise_cons] at ordered
    rw [firsts] at first
    split at first
    next =>
      rcases List.mem_cons.mp first with rfl | later
      · rcases List.mem_cons.mp member with rfl | there
        · exact refl y
        · exact ordered.1 y there
      · rcases List.mem_cons.mp member with rfl | there
        · exact absurd List.mem_cons_self (same ▸ (mem_firsts_spec later).2)
        · exact ih ordered.2 later there
    next skipped =>
      rcases List.mem_cons.mp member with rfl | there
      · refine absurd ?_ skipped
        simp [meets, same, (mem_firsts_spec first).2]
      · exact ih ordered.2 first there

end Firsts

end RowLog
