import Mathlib.Data.List.Basic
import Mathlib.Data.List.Nodup

variable {κ ν : Type} [DecidableEq κ]

/-- A `dict`: its items in the order in which their keys were first set. -/
structure Dictionary (κ ν : Type) where
  items : List (κ × ν)
  distinct : (items.map Prod.fst).Nodup

namespace Dictionary

variable {dict : Dictionary κ ν} {key other : κ} {value : ν} {found : ν}

def empty : Dictionary κ ν := ⟨[], List.nodup_nil⟩

/-- `dict.get(key)`. -/
def get? (dict : Dictionary κ ν) (key : κ) : Option ν :=
  (dict.items.find? (·.1 = key)).map Prod.snd

def contains (dict : Dictionary κ ν) (key : κ) : Bool := (dict.get? key).isSome

def values (dict : Dictionary κ ν) : List ν := dict.items.map Prod.snd

theorem get?_eq_some_iff : dict.get? key = some value ↔ (key, value) ∈ dict.items := by
  unfold get?
  rw [Option.map_eq_some_iff]
  constructor
  · rintro ⟨item, found, rfl⟩
    have same : item.1 = key := by simpa using List.find?_some found
    rw [← same]
    exact List.mem_of_find?_eq_some found
  · intro member
    cases found : dict.items.find? (·.1 = key) with
    | none =>
      have absent := List.find?_eq_none.mp found _ member
      simp at absent
    | some item =>
      have there := List.mem_of_find?_eq_some found
      have same : item.1 = key := by simpa using List.find?_some found
      exact ⟨item, rfl, congrArg Prod.snd
        (List.inj_on_of_nodup_map dict.distinct there member same)⟩

theorem get?_eq_none_iff : dict.get? key = none ↔ key ∉ dict.items.map Prod.fst := by
  unfold get?
  simp only [Option.map_eq_none_iff, List.find?_eq_none, decide_eq_true_eq, List.mem_map,
    Prod.exists, exists_and_right, exists_eq_right, not_exists]
  constructor
  · exact fun absent value there => absent _ there rfl
  · rintro absent ⟨k, value⟩ there rfl
    exact absent value there

def mapValues (f : κ → ν → ν) (dict : Dictionary κ ν) : Dictionary κ ν where
  items := dict.items.map fun item => (item.1, f item.1 item.2)
  distinct := by simpa [List.map_map, Function.comp_def] using dict.distinct

@[simp] theorem get?_mapValues {f : κ → ν → ν} :
    (dict.mapValues f).get? key = (dict.get? key).map (f key) := by
  cases h : dict.get? key with
  | none =>
    rw [get?_eq_none_iff] at h
    rw [Option.map_none, get?_eq_none_iff]
    simpa [mapValues, List.map_map, Function.comp_def] using h
  | some value =>
    rw [get?_eq_some_iff] at h
    rw [Option.map_some, get?_eq_some_iff]
    exact List.mem_map.mpr ⟨_, h, rfl⟩

/-- `f` on the value of one key, if the key is there. -/
def modify (dict : Dictionary κ ν) (key : κ) (f : ν → ν) : Dictionary κ ν :=
  dict.mapValues fun k value => if k = key then f value else value

theorem get?_modify {f : ν → ν} : (dict.modify key f).get? other =
    if other = key then (dict.get? other).map f else dict.get? other := by
  unfold modify
  rw [get?_mapValues]
  split
  next => rfl
  next => simp

def add (dict : Dictionary κ ν) (key : κ) (value : ν) (absent : dict.get? key = none) :
    Dictionary κ ν where
  items := dict.items ++ [(key, value)]
  distinct := by
    rw [get?_eq_none_iff] at absent
    rw [List.map_append, List.map_singleton]
    exact List.Nodup.append dict.distinct (List.nodup_singleton _) (by simpa using absent)

theorem get?_add {absent : dict.get? key = none} : (dict.add key value absent).get? other =
    if other = key then some value else dict.get? other := by
  unfold get? add
  rw [List.find?_append]
  split
  next same =>
    subst same
    have none : dict.items.find? (·.1 = other) = none := by simpa [get?] using absent
    simp [none]
  next different =>
    have skip : [(key, value)].find? (fun item => item.1 = other) = none := by
      simpa using fun same => different same.symm
    rw [skip, Option.or_none]

def setDefault (dict : Dictionary κ ν) (key : κ) (value : ν) : Dictionary κ ν :=
  if absent : dict.get? key = none then dict.add key value absent else dict

theorem get?_setDefault : (dict.setDefault key value).get? other =
    if other = key then some ((dict.get? key).getD value) else dict.get? other := by
  unfold setDefault
  split
  next absent => rw [get?_add, absent, Option.getD_none]
  next present =>
    split
    next same =>
      subst same
      obtain ⟨old, found⟩ := Option.ne_none_iff_exists'.mp present
      rw [found, Option.getD_some]
    next => rfl

/-- `dict[key] = value`. -/
def set (dict : Dictionary κ ν) (key : κ) (value : ν) : Dictionary κ ν :=
  (dict.setDefault key value).modify key fun _ => value

theorem get?_set : (dict.set key value).get? other =
    if other = key then some value else dict.get? other := by
  unfold set
  rw [get?_modify, get?_setDefault]
  split <;> simp

theorem of_get?_set (h : (dict.set key value).get? other = some found) :
    other = key ∧ found = value ∨ other ≠ key ∧ dict.get? other = some found := by
  rw [get?_set] at h
  split at h
  next own => exact .inl ⟨own, (Option.some.inj h).symm⟩
  next ne => exact .inr ⟨ne, h⟩

theorem forall_set {P : κ → ν → Prop} (here : P key value)
    (rest : ∀ other found, dict.get? other = some found → P other found) :
    ∀ other found, (dict.set key value).get? other = some found → P other found := by
  intro other found h
  rcases of_get?_set h with ⟨rfl, rfl⟩ | ⟨-, h⟩
  · exact here
  · exact rest other found h

theorem get?_set_of_ne (h : dict.get? other = some found) (ne : other ≠ key) :
    (dict.set key value).get? other = some found := by
  rw [get?_set, if_neg ne, h]

def keepIf (p : κ → ν → Bool) (dict : Dictionary κ ν) : Dictionary κ ν where
  items := dict.items.filter fun item => p item.1 item.2
  distinct := dict.distinct.sublist (List.filter_sublist.map Prod.fst)

theorem get?_keepIf_eq_some_iff {p : κ → ν → Bool} :
    (dict.keepIf p).get? key = some value ↔ dict.get? key = some value ∧ p key value = true := by
  rw [get?_eq_some_iff, get?_eq_some_iff]
  exact List.mem_filter

def pop (dict : Dictionary κ ν) (key : κ) : Dictionary κ ν where
  items := dict.items.filter (·.1 ≠ key)
  distinct := dict.distinct.sublist (List.filter_sublist.map Prod.fst)

theorem get?_pop : (dict.pop key).get? other = if other = key then none else dict.get? other := by
  cases h : (dict.pop key).get? other with
  | none =>
    split
    next => rfl
    next different =>
      rw [get?_eq_none_iff] at h
      refine (get?_eq_none_iff.mpr fun member => h ?_).symm
      obtain ⟨item, there, rfl⟩ := List.mem_map.mp member
      exact List.mem_map_of_mem (List.mem_filter.mpr ⟨there, by simpa using different⟩)
  | some value =>
    obtain ⟨there, different⟩ := List.mem_filter.mp (get?_eq_some_iff.mp h)
    rw [if_neg (by simpa using different)]
    exact (get?_eq_some_iff.mpr there).symm

theorem of_get?_pop (h : (dict.pop key).get? other = some found) :
    other ≠ key ∧ dict.get? other = some found := by
  rw [get?_pop] at h
  split at h
  next => cases h
  next ne => exact ⟨ne, h⟩

theorem get?_pop_of_ne (h : dict.get? other = some found) (ne : other ≠ key) :
    (dict.pop key).get? other = some found := by
  rw [get?_pop, if_neg ne, h]

end Dictionary
