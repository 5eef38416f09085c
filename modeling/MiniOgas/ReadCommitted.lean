import Mathlib.Logic.Function.Basic
import Mathlib.Data.List.Basic

namespace ReadCommitted

variable {K S V : Type}

/-- A row under READ COMMITTED: its committed version, and the version that the
session holding its lock has written and not committed. -/
structure Version (S V : Type) where
  committed : V
  draft : Option (S × V)

def Version.write (x : Version S V) (s : S) (v : V) : Version S V := { x with draft := some (s, v) }

structure Relation (K S V : Type) where
  keys : List K
  row : K → Option (Version S V)

def Relation.empty : Relation K S V := ⟨[], fun _ => none⟩

section Rows

variable [DecidableEq K] {r : Relation K S V} {x : Version S V} {s : S} {k : K} {v : V}

/-- A committed insertion, which does nothing when the key is there. -/
def Relation.insert (r : Relation K S V) (k : K) (v : V) : Relation K S V :=
  match r.row k with
  | some _ => r
  | none => ⟨r.keys ++ [k], Function.update r.row k (some ⟨v, none⟩)⟩

def Relation.write (r : Relation K S V) (s : S) (k : K) (v : V) : Relation K S V :=
  { r with row := Function.update r.row k ((r.row k).map (·.write s v)) }

theorem Relation.row_write (h : r.row k = some x) (j : K) :
    (r.write s k v).row j = if j = k then some (x.write s v) else r.row j := by
  by_cases hj : j = k
  · subst hj
    simp [Relation.write, h]
  · simp [Relation.write, hj]

theorem Relation.insert_of_some (h : r.row k = some x) : r.insert k v = r := by
  simp [Relation.insert, h]

theorem Relation.insert_of_none (h : r.row k = none) :
    r.insert k v = ⟨r.keys ++ [k], Function.update r.row k (some ⟨v, none⟩)⟩ := by
  simp [Relation.insert, h]

theorem Relation.row_insert (h : r.row k = none) (j : K) :
    (r.insert k v).row j = if j = k then some ⟨v, none⟩ else r.row j := by
  rw [Relation.insert_of_none h]
  by_cases hj : j = k
  · subst hj
    simp
  · simp [hj]

end Rows

variable [DecidableEq S]

/-- The version that a statement of the session sees. -/
def Version.view (x : Version S V) (s : S) : V :=
  match x.draft with
  | some (owner, v) => if owner = s then v else x.committed
  | none => x.committed

def Version.free (x : Version S V) (s : S) : Bool := x.draft.all (·.1 = s)

def Version.commit (x : Version S V) (s : S) : Version S V :=
  match x.draft with
  | some (owner, v) => if owner = s then ⟨v, none⟩ else x
  | none => x

def Version.rollback (x : Version S V) (s : S) : Version S V :=
  match x.draft with
  | some (owner, _) => if owner = s then ⟨x.committed, none⟩ else x
  | none => x

variable {x : Version S V} {s owner : S} {v : V}

theorem Version.view_own (h : x.draft = some (s, v)) : x.view s = v := by
  simp [Version.view, h]

theorem Version.view_other (h : ∀ v, x.draft ≠ some (s, v)) : x.view s = x.committed := by
  unfold Version.view
  split
  next owner v hd =>
    rw [if_neg]
    rintro rfl
    exact h v hd
  next => rfl

theorem Version.view_cases (x : Version S V) (s : S) :
    x.draft = some (s, x.view s) ∨ x.view s = x.committed ∧ ∀ v, x.draft ≠ some (s, v) := by
  by_cases own : ∃ v, x.draft = some (s, v)
  · obtain ⟨v, hd⟩ := own
    exact .inl (by rw [Version.view_own hd, hd])
  · have other : ∀ v, x.draft ≠ some (s, v) := fun v hd => own ⟨v, hd⟩
    exact .inr ⟨Version.view_other other, other⟩

theorem Version.owner_of_free (h : x.free s = true) (hd : x.draft = some (owner, v)) :
    owner = s := by
  simpa [Version.free, hd] using h

theorem Version.commit_own (h : x.draft = some (s, v)) : x.commit s = ⟨v, none⟩ := by
  simp [Version.commit, h]

theorem Version.commit_other (h : ∀ v, x.draft ≠ some (s, v)) : x.commit s = x := by
  unfold Version.commit
  split
  next owner v hd =>
    rw [if_neg]
    rintro rfl
    exact h v hd
  next => rfl

theorem Version.rollback_own (h : x.draft = some (s, v)) : x.rollback s = ⟨x.committed, none⟩ := by
  simp [Version.rollback, h]

theorem Version.rollback_other (h : ∀ v, x.draft ≠ some (s, v)) : x.rollback s = x := by
  unfold Version.rollback
  split
  next owner v hd =>
    rw [if_neg]
    rintro rfl
    exact h v hd
  next => rfl

@[simp] theorem Version.rollback_committed (x : Version S V) (s : S) :
    (x.rollback s).committed = x.committed := by
  unfold Version.rollback
  split
  · split <;> rfl
  · rfl

theorem Version.commit_cases (x : Version S V) (s : S) :
    (∃ v, x.draft = some (s, v) ∧ x.commit s = ⟨v, none⟩) ∨
      x.commit s = x ∧ ∀ v, x.draft ≠ some (s, v) := by
  rcases x.view_cases s with own | ⟨-, other⟩
  · exact .inl ⟨_, own, Version.commit_own own⟩
  · exact .inr ⟨Version.commit_other other, other⟩

def Relation.read (r : Relation K S V) (s : S) (k : K) : Option V := (r.row k).map (·.view s)

def Relation.commit (r : Relation K S V) (s : S) : Relation K S V :=
  { r with row := fun k => (r.row k).map (·.commit s) }

def Relation.rollback (r : Relation K S V) (s : S) : Relation K S V :=
  { r with row := fun k => (r.row k).map (·.rollback s) }

/-- The session has written nothing that it has not committed. -/
def Relation.Undrafted (r : Relation K S V) (s : S) : Prop :=
  ∀ k x v, r.row k = some x → x.draft ≠ some (s, v)

theorem Relation.rollback_of_undrafted {r : Relation K S V} (h : r.Undrafted s) :
    r.rollback s = r := by
  have same : ∀ k, (r.row k).map (·.rollback s) = r.row k := by
    intro k
    cases hk : r.row k with
    | none => rfl
    | some x => simp [Version.rollback_other (fun v => h k x v hk)]
  simp [Relation.rollback, same]

theorem Relation.commit_of_undrafted {r : Relation K S V} (h : r.Undrafted s) : r.commit s = r := by
  have same : ∀ k, (r.row k).map (·.commit s) = r.row k := by
    intro k
    cases hk : r.row k with
    | none => rfl
    | some x => simp [Version.commit_other (fun v => h k x v hk)]
  simp [Relation.commit, same]

variable [DecidableEq K] {r r' : Relation K S V} {k : K} {p : V → Bool} {f : V → V}
  {changed : Bool}

theorem Relation.row_write_commit (h : r.Undrafted s) (found : r.row k = some x) (j : K) :
    ((r.write s k v).commit s).row j = if j = k then some ⟨v, none⟩ else r.row j := by
  simp only [Relation.commit, Relation.row_write found]
  split
  next => simp [Version.commit, Version.write]
  next =>
    cases hj : r.row j with
    | none => rfl
    | some y => simp [Version.commit_other (fun v => h j y v hj)]

/-- `UPDATE .. SET f WHERE key = .. AND p`: whether it changes a row, and what it leaves.
A row that meets the condition and is locked by another session has to be waited for. -/
def Relation.update (r : Relation K S V) (s : S) (k : K) (p : V → Bool) (f : V → V) :
    Option (Bool × Relation K S V) :=
  match r.row k with
  | none => some (false, r)
  | some x =>
    if p (x.view s) then
      if x.free s then some (true, r.write s k (f (x.view s))) else none
    else some (false, r)

/-- An update has matched nothing, or it has written the row, which was free. -/
theorem Relation.update_cases (h : r.update s k p f = some (changed, r')) :
    (changed = false ∧ r' = r ∧ ∀ x, r.row k = some x → p (x.view s) = false) ∨
      changed = true ∧ ∃ x, r.row k = some x ∧ p (x.view s) = true ∧ x.free s = true ∧
        r' = r.write s k (f (x.view s)) := by
  unfold Relation.update at h
  split at h
  next absent =>
    obtain ⟨rfl, rfl⟩ := Prod.mk.inj (Option.some.inj h)
    exact .inl ⟨rfl, rfl, fun x found => by simp [absent] at found⟩
  next x found =>
    split at h
    next meets =>
      split at h
      next isFree =>
        obtain ⟨rfl, rfl⟩ := Prod.mk.inj (Option.some.inj h)
        exact .inr ⟨rfl, x, found, meets, isFree, rfl⟩
      next => cases h
    next fails =>
      obtain ⟨rfl, rfl⟩ := Prod.mk.inj (Option.some.inj h)
      refine .inl ⟨rfl, rfl, fun y hy => ?_⟩
      rw [found] at hy
      cases hy
      simpa using fails

end ReadCommitted
