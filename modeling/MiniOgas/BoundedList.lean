import Mathlib.Data.List.Basic
import Mathlib.Data.List.Pairwise
import Mathlib.Data.List.Forall2

namespace Bounded

variable {α β : Type} {n : Nat} {xs : List α} {x : α} {R : α → α → Prop} {p : α → Bool} {f : α → α}
  {ys : List β} {keys : List Nat}

/-- `xs[-n:]`, the last elements of a list. -/
def keepLast (n : Nat) (xs : List α) : List α := xs.drop (xs.length - n)

theorem keepLast_sublist (n : Nat) (xs : List α) : (keepLast n xs).Sublist xs :=
  List.drop_sublist _ _

theorem mem_of_mem_keepLast (h : x ∈ keepLast n xs) : x ∈ xs :=
  (keepLast_sublist n xs).subset h

theorem of_mem_keepLast_append {y : α} (h : x ∈ keepLast n (xs ++ [y])) : x ∈ xs ∨ x = y := by
  simpa using mem_of_mem_keepLast h

theorem length_keepLast_le (n : Nat) (xs : List α) : (keepLast n xs).length ≤ n := by
  unfold keepLast
  rw [List.length_drop]
  omega

theorem keepLast_of_length_le (h : xs.length ≤ n) :
    keepLast n xs = xs := by
  unfold keepLast
  rw [Nat.sub_eq_zero_of_le h, List.drop_zero]

theorem keepLast_append (n : Nat) (full : xs.length ≤ n) :
    keepLast n (xs ++ [x]) = (if xs.length = n then (xs ++ [x]).tail else xs ++ [x]) := by
  unfold keepLast
  rw [List.length_append, List.length_singleton]
  split
  next h => rw [h, Nat.add_sub_cancel_left, List.drop_one]
  next h => rw [Nat.sub_eq_zero_of_le (by omega), List.drop_zero]

theorem keepLast_keepLast_append (n : Nat) (xs : List α) (x : α) :
    keepLast n (keepLast n xs ++ [x]) = keepLast n (xs ++ [x]) := by
  unfold keepLast
  rw [← List.drop_append_of_le_length (by omega), List.drop_drop]
  congr 1
  simp only [List.length_drop, List.length_append, List.length_singleton]
  omega

theorem mem_keepLast_cons {x y : α} :
    x ∈ keepLast n (y :: xs) ↔ x ∈ keepLast n xs ∨ x = y ∧ xs.length < n := by
  unfold keepLast
  rw [List.length_cons]
  by_cases room : xs.length < n
  · rw [Nat.sub_eq_zero_of_le (by omega), Nat.sub_eq_zero_of_le (by omega)]
    simp [room, or_comm]
  · have shift : xs.length + 1 - n = xs.length - n + 1 := by omega
    rw [shift, List.drop_succ_cons]
    simp [room]

theorem mem_keepLast_of_sublist {xs ys : List α} (distinct : xs.Nodup) (part : ys.Sublist xs)
    (kept : x ∈ keepLast n xs) (there : x ∈ ys) : x ∈ keepLast n ys := by
  induction part with
  | slnil => exact kept
  | cons y part ih =>
    obtain ⟨fresh, distinct⟩ := List.nodup_cons.mp distinct
    rcases mem_keepLast_cons.mp kept with kept | ⟨rfl, -⟩
    · exact ih distinct kept there
    · exact absurd (part.subset there) fresh
  | cons_cons y part ih =>
    obtain ⟨fresh, distinct⟩ := List.nodup_cons.mp distinct
    refine mem_keepLast_cons.mpr ?_
    rcases mem_keepLast_cons.mp kept with last | ⟨rfl, room⟩
    · rcases List.mem_cons.mp there with rfl | there
      · exact absurd (mem_of_mem_keepLast last) fresh
      · exact .inl (ih distinct last there)
    · exact .inr ⟨rfl, Nat.lt_of_le_of_lt part.length_le room⟩

theorem mem_keepLast_append (n : Nat) (xs : List α) (x : α) : x ∈ keepLast (n + 1) (xs ++ [x]) := by
  unfold keepLast
  rw [List.drop_append_of_le_length (by simp)]
  simp

theorem mem_keepLast_append_iff {x y : α} (full : xs.length ≤ n) (distinct : (xs ++ [x]).Nodup) :
    y ∈ keepLast n (xs ++ [x]) ↔ y ∈ xs ++ [x] ∧ (xs.length = n → (xs ++ [x]).head? ≠ some y) := by
  rw [keepLast_append n full]
  split
  next h =>
    cases hs : xs ++ [x] with
    | nil => simp at hs
    | cons z zs =>
      rw [hs] at distinct
      have fresh := (List.nodup_cons.mp distinct).1
      simp only [List.tail_cons, List.mem_cons, List.head?_cons, Option.some.injEq, ne_eq]
      constructor
      · intro member
        exact ⟨.inr member, fun _ same => fresh (same ▸ member)⟩
      · rintro ⟨rfl | member, ne⟩
        · exact absurd rfl (ne h)
        · exact member
  next h => simp [h]

theorem keepLast_append_right (n : Nat) (xs ys : List α) :
    keepLast n (xs ++ ys) = keepLast (n - ys.length) xs ++ keepLast n ys := by
  unfold keepLast
  rw [List.length_append, List.drop_append]
  by_cases fits : ys.length ≤ n
  · rw [show xs.length + ys.length - n = xs.length - (n - ys.length) by omega,
      show xs.length - (n - ys.length) - xs.length = ys.length - n by omega]
  · rw [List.drop_of_length_le (l := xs) (by omega), List.drop_of_length_le (l := xs) (by omega),
      show xs.length + ys.length - n - xs.length = ys.length - n by omega]

theorem keepLast_map (n : Nat) (f : α → β) (xs : List α) :
    (keepLast n xs).map f = keepLast n (xs.map f) := by
  unfold keepLast
  rw [List.map_drop, List.length_map]

/-- The first element that meets a condition is overwritten. -/
def modifyFirst (p : α → Bool) (f : α → α) : List α → List α
  | [] => []
  | x :: xs => if p x then f x :: xs else x :: modifyFirst p f xs

theorem forall₂_modifyFirst (refl : ∀ x, R x x) (first : ∀ x, xs.find? p = some x → R x (f x)) :
    List.Forall₂ R xs (modifyFirst p f xs) := by
  induction xs with
  | nil => exact .nil
  | cons x xs ih =>
    rw [modifyFirst]
    split
    next h =>
      refine .cons (first x (by simp [h])) (List.forall₂_same.mpr fun y _ => refl y)
    next h =>
      refine .cons (refl x) (ih fun y found => first y ?_)
      rw [List.find?_cons, eq_false_of_ne_true h]
      exact found

theorem mem_modifyFirst {p : α → Bool} {f : α → α} {xs : List α} {x : α}
    (first : xs.find? p = some x) : f x ∈ modifyFirst p f xs := by
  induction xs with
  | nil => cases first
  | cons y ys ih =>
    rw [modifyFirst]
    rw [List.find?_cons] at first
    split
    next h =>
      rw [h] at first
      cases first
      exact List.mem_cons_self
    next h =>
      rw [eq_false_of_ne_true h] at first
      exact List.mem_cons_of_mem _ (ih first)

theorem find?_modifyFirst {p : α → Bool} {f : α → α} {xs : List α} {x : α}
    (first : xs.find? p = some x) (meets : p (f x) = true) :
    (modifyFirst p f xs).find? p = some (f x) := by
  induction xs with
  | nil => cases first
  | cons y rest ih =>
    rw [List.find?_cons] at first
    rw [modifyFirst]
    split
    next h =>
      rw [h] at first
      cases first
      rw [List.find?_cons, meets]
    next h =>
      rw [eq_false_of_ne_true h] at first
      rw [List.find?_cons, eq_false_of_ne_true h]
      exact ih first

theorem mem_modifyFirst_cases {x y : α} (first : xs.find? p = some x) (h : y ∈ modifyFirst p f xs) :
    y = f x ∨ y ∈ xs := by
  induction xs with
  | nil => cases first
  | cons z zs ih =>
    rw [modifyFirst] at h
    rw [List.find?_cons] at first
    split at h
    next hz =>
      rw [hz] at first
      cases first
      rcases List.mem_cons.mp h with rfl | h
      · exact .inl rfl
      · exact .inr (List.mem_cons_of_mem _ h)
    next hz =>
      rw [eq_false_of_ne_true hz] at first
      rcases List.mem_cons.mp h with rfl | h
      · exact .inr List.mem_cons_self
      · rcases ih first h with rfl | h
        · exact .inl rfl
        · exact .inr (List.mem_cons_of_mem _ h)

theorem mem_modifyFirst_of_ne {x y : α} (first : xs.find? p = some x) (h : y ∈ xs) (ne : y ≠ x) :
    y ∈ modifyFirst p f xs := by
  induction xs with
  | nil => cases first
  | cons z zs ih =>
    rw [modifyFirst]
    rw [List.find?_cons] at first
    split
    next hz =>
      rw [hz] at first
      cases first
      rcases List.mem_cons.mp h with rfl | h
      · exact absurd rfl ne
      · exact List.mem_cons_of_mem _ h
    next hz =>
      rw [eq_false_of_ne_true hz] at first
      rcases List.mem_cons.mp h with rfl | h
      · exact List.mem_cons_self
      · exact List.mem_cons_of_mem _ (ih first h)

theorem forall₂_trans (trans : ∀ x y z, R x y → R y z → R x z) {xs ys zs : List α}
    (one : List.Forall₂ R xs ys) (two : List.Forall₂ R ys zs) :
    List.Forall₂ R xs zs := by
  induction one generalizing zs with
  | nil =>
    cases two
    exact .nil
  | cons first _ ih =>
    cases two with
    | cons second rest => exact .cons (trans _ _ _ first second) (ih rest)

theorem forall₂_map_right (each : ∀ x ∈ xs, R x (f x)) : List.Forall₂ R xs (xs.map f) := by
  rw [List.forall₂_map_right_iff]
  exact List.forall₂_same.mpr each

theorem exists_left_of_forall₂ {R : α → β → Prop} (related : List.Forall₂ R xs ys) {y : β}
    (h : y ∈ ys) : ∃ x ∈ xs, R x y := by
  induction related with
  | nil => cases h
  | cons first _ ih =>
    rcases List.mem_cons.mp h with rfl | h
    · exact ⟨_, List.mem_cons_self, first⟩
    · obtain ⟨x, member, holds⟩ := ih h
      exact ⟨x, List.mem_cons_of_mem _ member, holds⟩

theorem exists_right_of_forall₂ {R : α → β → Prop} (related : List.Forall₂ R xs ys) (h : x ∈ xs) :
    ∃ y ∈ ys, R x y := by
  induction related with
  | nil => cases h
  | cons first _ ih =>
    rcases List.mem_cons.mp h with rfl | h
    · exact ⟨_, List.mem_cons_self, first⟩
    · obtain ⟨y, member, holds⟩ := ih h
      exact ⟨y, List.mem_cons_of_mem _ member, holds⟩

theorem forall₂_keepLast {R : α → β → Prop} (n : Nat) (related : List.Forall₂ R xs ys) :
    List.Forall₂ R (keepLast n xs) (keepLast n ys) := by
  unfold keepLast
  rw [related.length_eq]
  exact List.forall₂_drop _ related

theorem forall₂_map_eq {γ : Type} {R : α → β → Prop} {f : α → γ} {g : β → γ}
    (same : ∀ x y, R x y → f x = g y) (related : List.Forall₂ R xs ys) : xs.map f = ys.map g := by
  induction related with
  | nil => rfl
  | cons first _ ih => rw [List.map_cons, List.map_cons, same _ _ first, ih]

theorem map_eq_of_forall₂ {g : α → β} (same : ∀ x y, R x y → g y = g x) {xs ys : List α}
    (related : List.Forall₂ R xs ys) : ys.map g = xs.map g := by
  induction related with
  | nil => rfl
  | cons first _ ih => rw [List.map_cons, List.map_cons, same _ _ first, ih]

theorem countP_le_of_forall₂ (back : ∀ x y, R x y → p y = true → p x = true) {xs ys : List α}
    (related : List.Forall₂ R xs ys) : ys.countP p ≤ xs.countP p := by
  induction related with
  | nil => exact Nat.le_refl _
  | @cons x y _ _ first _ ih =>
    rw [List.countP_cons, List.countP_cons]
    by_cases h : p y = true
    · simp [h, back x y first h]
      exact ih
    · simp [h]
      omega

theorem append_cons_inj {xs zs ds es : List α} {mark : α}
    (same : xs ++ mark :: ds = zs ++ mark :: es) (first : mark ∉ xs) (second : mark ∉ zs) :
    xs = zs ∧ ds = es := by
  rcases List.append_eq_append_iff.mp same with ⟨mid, rfl, tail⟩ | ⟨mid, rfl, tail⟩
  · cases mid with
    | nil => exact ⟨(List.append_nil _).symm, (List.cons.inj tail).2⟩
    | cons y mid =>
      obtain ⟨rfl, -⟩ := List.cons.inj tail
      exact absurd (List.mem_append_right _ List.mem_cons_self) second
  · cases mid with
    | nil => exact ⟨List.append_nil _, (List.cons.inj tail).2.symm⟩
    | cons y mid =>
      obtain ⟨rfl, -⟩ := List.cons.inj tail
      exact absurd (List.mem_append_right _ List.mem_cons_self) first

/-- `max(keys, default=0)`. -/
def greatest (keys : List Nat) : Nat := keys.foldl max 0

theorem foldl_max_le_iff {start bound : Nat} :
    keys.foldl max start ≤ bound ↔ start ≤ bound ∧ ∀ key ∈ keys, key ≤ bound := by
  induction keys generalizing start with
  | nil => simp
  | cons key keys ih =>
    rw [List.foldl_cons, ih, Nat.max_le, List.forall_mem_cons, and_assoc]

theorem greatest_le_iff {bound : Nat} :
    greatest keys ≤ bound ↔ ∀ key ∈ keys, key ≤ bound := by
  rw [greatest, foldl_max_le_iff]
  simp

theorem le_greatest {key : Nat} (h : key ∈ keys) : key ≤ greatest keys :=
  greatest_le_iff.mp (Nat.le_refl _) key h

theorem increasing_append {key : Nat} (increasing : keys.Pairwise (· < ·))
    (above : greatest keys < key) : (keys ++ [key]).Pairwise (· < ·) := by
  rw [List.pairwise_append]
  refine ⟨increasing, List.pairwise_singleton _ _, fun x hx y hy => ?_⟩
  rw [List.mem_singleton] at hy
  have := le_greatest hx
  omega

end Bounded
