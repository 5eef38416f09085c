import Mathlib.Data.List.Nodup
import Mathlib.Data.List.TakeWhile
import Mathlib.Logic.Function.Iterate

namespace Backlog

variable {α : Type} {keeps accepts stops : α → Bool} {k n : Nat} {xs : List α} {x : α}

/-- A round takes the elements out of the first `k` that it does not keep. -/
def sweep (keeps : α → Bool) (k : Nat) (xs : List α) : List α :=
  (xs.take k).filter keeps ++ xs.drop k

/-- Before each element that a round would take out, fewer than `k` elements stay. -/
def Reachable (keeps : α → Bool) (k : Nat) (xs : List α) : Prop :=
  ∀ pre x post, xs = pre ++ x :: post → keeps x = false → pre.countP keeps < k

theorem countP_filter_keeps : (xs.filter keeps).countP keeps = xs.countP keeps := by
  rw [List.countP_filter]
  simp only [Bool.and_self]

/-- Enough kept elements before a cut keep all that comes after it. -/
theorem sweep_append_of_countP {pre post : List α} (blocked : k ≤ pre.countP keeps) :
    sweep keeps k (pre ++ post) = sweep keeps k pre ++ post ∧
      k ≤ (sweep keeps k pre).countP keeps := by
  have long : k ≤ pre.length := Nat.le_trans blocked List.countP_le_length
  constructor
  · unfold sweep
    rw [List.take_append_of_le_length long, List.drop_append_of_le_length long, List.append_assoc]
  · have split : pre.countP keeps = (pre.take k).countP keeps + (pre.drop k).countP keeps := by
      rw [← List.countP_append, List.take_append_drop]
    unfold sweep
    rw [List.countP_append, countP_filter_keeps]
    omega

theorem mem_iterate_sweep {pre post : List α} (blocked : k ≤ pre.countP keeps) (n : Nat) :
    ∃ pre', (sweep keeps k)^[n] (pre ++ post) = pre' ++ post := by
  induction n generalizing pre with
  | zero => exact ⟨pre, rfl⟩
  | succ n ih =>
    obtain ⟨swept, still⟩ := @sweep_append_of_countP α keeps k pre post blocked
    obtain ⟨pre', rest⟩ := ih still
    exact ⟨pre', by rw [Function.iterate_succ_apply, swept, rest]⟩

theorem reachable_sweep (h : Reachable keeps k xs) : Reachable keeps k (sweep keeps k xs) := by
  intro pre x post same taken
  by_contra blocked
  rcases List.append_eq_append_iff.mp same with ⟨mid, rest, tail⟩ | ⟨mid, rest, tail⟩
  · have whole : xs = (xs.take k ++ mid) ++ x :: post := by
      rw [List.append_assoc, ← tail, List.take_append_drop]
    have before := h _ x post whole taken
    rw [rest, List.countP_append, countP_filter_keeps] at blocked
    rw [List.countP_append] at before
    omega
  · cases mid with
    | nil =>
      rw [List.nil_append] at tail
      have whole : xs = xs.take k ++ x :: post := by
        rw [tail, List.take_append_drop]
      have before := h _ x post whole taken
      rw [List.append_nil] at rest
      rw [← rest, countP_filter_keeps] at blocked
      omega
    | cons y mid =>
      rw [List.cons_append, List.cons.injEq] at tail
      have there : x ∈ (xs.take k).filter keeps := by
        rw [rest, tail.1]
        exact List.mem_append_right _ List.mem_cons_self
      rw [(List.mem_filter.mp there).2] at taken
      cases taken

theorem length_sweep_lt (h : Reachable keeps k xs) (left : ∃ x ∈ xs, keeps x = false) :
    (sweep keeps k xs).length < xs.length := by
  obtain ⟨x, there, taken⟩ := left
  obtain ⟨pre, post, rfl⟩ := List.append_of_mem there
  have short := h pre x post rfl taken
  have window : ((pre ++ x :: post).take k).length =
      min k (pre ++ x :: post).length := List.length_take
  have rest : ((pre ++ x :: post).drop k).length = (pre ++ x :: post).length - k :=
    List.length_drop
  have less : (((pre ++ x :: post).take k).filter keeps).length <
      ((pre ++ x :: post).take k).length := by
    by_contra all
    rw [Nat.not_lt] at all
    have kept : ∀ y ∈ (pre ++ x :: post).take k, keeps y = true :=
      List.filter_eq_self.mp (List.filter_sublist.eq_of_length_le all)
    have beyond : k ≤ pre.length := by
      by_contra inside
      have member : x ∈ (pre ++ x :: post).take k := by
        rw [List.take_append]
        refine List.mem_append_right _ ?_
        rw [List.take_cons (by omega)]
        exact List.mem_cons_self
      rw [kept x member] at taken
      cases taken
    rw [List.take_append_of_le_length beyond] at kept
    have count : (pre.take k).countP keeps = k := by
      rw [List.countP_eq_length.mpr kept, List.length_take, Nat.min_eq_left beyond]
    have part : (pre.take k).countP keeps ≤ pre.countP keeps :=
      (List.take_sublist k pre).countP_le
    omega
  unfold sweep
  rw [List.length_append, rest]
  omega

/-- Rounds come to leave only what they keep, if and only if every element is reachable. -/
theorem sweep_iff : (∃ n, ∀ x ∈ (sweep keeps k)^[n] xs, keeps x = true) ↔
    Reachable keeps k xs := by
  constructor
  · rintro ⟨n, kept⟩ pre x post rfl taken
    by_contra blocked
    rw [Nat.not_lt] at blocked
    obtain ⟨pre', rest⟩ := @mem_iterate_sweep α keeps k pre (x :: post) blocked n
    have there : x ∈ (sweep keeps k)^[n] (pre ++ x :: post) := by
      rw [rest]
      exact List.mem_append_right _ List.mem_cons_self
    rw [kept x there] at taken
    cases taken
  · intro reachable
    induction length : xs.length using Nat.strongRecOn generalizing xs with
    | _ m ih =>
      by_cases left : ∃ x ∈ xs, keeps x = false
      · have less := length_sweep_lt reachable left
        obtain ⟨n, kept⟩ := ih _ (length ▸ less) (reachable_sweep reachable) rfl
        exact ⟨n + 1, kept⟩
      · refine ⟨0, fun x there => ?_⟩
        by_contra taken
        exact left ⟨x, there, by simpa using taken⟩

theorem reachable_map {β : Type} {f : β → α} {ys : List β} :
    Reachable keeps k (ys.map f) ↔ Reachable (fun y => keeps (f y)) k ys := by
  constructor
  · rintro reachable pre y post rfl taken
    have before := reachable (pre.map f) (f y) (post.map f) (by rw [List.map_append]; rfl) taken
    rwa [List.countP_map] at before
  · intro reachable pre x post same taken
    obtain ⟨pre', rest, rfl, rfl, tail⟩ := List.map_eq_append_iff.mp same
    obtain ⟨y, post', rfl, rfl, -⟩ := List.map_eq_cons_iff.mp tail
    have before := reachable pre' y post' rfl taken
    rw [List.countP_map]
    exact before

theorem filter_eq_sweep [DecidableEq α] (distinct : xs.Nodup) :
    xs.filter (fun x => decide (x ∉ xs.take k) || keeps x) = sweep keeps k xs := by
  have parts := List.take_append_drop k xs
  have apart : ∀ x ∈ xs.drop k, x ∉ xs.take k := by
    intro x there first
    rw [← parts, List.nodup_append'] at distinct
    exact distinct.2.2 first there
  have whole : xs.filter (fun x => decide (x ∉ xs.take k) || keeps x) =
      (xs.take k ++ xs.drop k).filter (fun x => decide (x ∉ xs.take k) || keeps x) := by
    rw [parts]
  have first : (xs.take k).filter (fun x => decide (x ∉ xs.take k) || keeps x) =
      (xs.take k).filter keeps :=
    List.filter_congr fun x there => by simp [there]
  have later : (xs.drop k).filter (fun x => decide (x ∉ xs.take k) || keeps x) = xs.drop k :=
    List.filter_eq_self.mpr fun x there => by simp [apart x there]
  rw [whole, List.filter_append, first, later]
  rfl

/-- A round takes elements off the front, `k` at most, until one stops it. -/
def drain (stops : α → Bool) (k : Nat) (xs : List α) : List α :=
  (xs.take k).dropWhile (fun x => !stops x) ++ xs.drop k

theorem drain_cons (stopped : stops x = true) : drain stops k (x :: xs) = x :: xs := by
  unfold drain
  cases k with
  | zero => rfl
  | succ k =>
    rw [List.take_succ_cons, List.dropWhile_cons_of_neg (by simp [stopped]), List.drop_succ_cons,
      List.cons_append, List.take_append_drop]

theorem drain_succ_cons (goes : stops x = false) : drain stops (k + 1) (x :: xs) =
    drain stops k xs := by
  unfold drain
  rw [List.take_succ_cons, List.drop_succ_cons, List.dropWhile_cons_of_pos (by simp [goes])]

theorem dropWhile_dropWhile_append (p : α → Bool) (xs ys : List α) :
    (xs.dropWhile p ++ ys).dropWhile p = (xs ++ ys).dropWhile p := by
  induction xs with
  | nil => rfl
  | cons x xs ih =>
    by_cases h : p x = true
    · rw [List.dropWhile_cons_of_pos h, List.cons_append, List.dropWhile_cons_of_pos h, ih]
    · rw [List.dropWhile_cons_of_neg h]

theorem dropWhile_drain (k : Nat) (xs : List α) :
    (drain stops k xs).dropWhile (fun x => !stops x) = xs.dropWhile fun x => !stops x := by
  unfold drain
  rw [dropWhile_dropWhile_append, List.take_append_drop]

theorem length_drain_lt (pos : 0 < k) (goes : stops x = false) :
    (drain stops k (x :: xs)).length < (x :: xs).length := by
  obtain ⟨k, rfl⟩ := Nat.exists_eq_succ_of_ne_zero (Nat.ne_of_gt pos)
  rw [Nat.succ_eq_add_one, drain_succ_cons goes, List.length_cons]
  unfold drain
  rw [List.length_append]
  have shorter := (List.dropWhile_sublist (fun x => !stops x) (l := xs.take k)).length_le
  rw [List.length_take] at shorter
  rw [List.length_drop]
  omega

theorem exists_drain_dropWhile (pos : 0 < k) (xs : List α) :
    ∃ n, (drain stops k)^[n] xs = xs.dropWhile fun x => !stops x := by
  induction length : xs.length using Nat.strongRecOn generalizing xs with
  | _ m ih =>
    cases xs with
    | nil => exact ⟨0, rfl⟩
    | cons x xs =>
      cases goes : stops x with
      | true => exact ⟨0, (List.dropWhile_cons_of_neg (by simp [goes])).symm⟩
      | false =>
        obtain ⟨n, drained⟩ := ih _ (length ▸ @length_drain_lt α stops k xs x pos goes) _ rfl
        exact ⟨n + 1, by rw [Function.iterate_succ_apply, drained, dropWhile_drain]⟩

/-- What the rounds leave of a list is what comes after the first element that stops them. -/
theorem iterate_drain_dropWhile (n : Nat) (xs : List α) :
    ((drain stops k)^[n] xs).dropWhile (fun x => !stops x) = xs.dropWhile fun x => !stops x := by
  induction n generalizing xs with
  | zero => rfl
  | succ n ih => rw [Function.iterate_succ_apply, ih, dropWhile_drain]

theorem mem_dropWhile_of_stops {pre post : List α} {y : α} (before : y ∈ pre)
    (stopped : stops y = true) : x ∈ (pre ++ x :: post).dropWhile fun x => !stops x := by
  rw [List.dropWhile_append]
  split
  next all =>
    have passed := List.dropWhile_eq_nil_iff.mp (List.isEmpty_iff.mp all) y before
    rw [stopped] at passed
    cases passed
  next => exact List.mem_append_right _ List.mem_cons_self

/-- Rounds come to take off all that is accepted, if and only if nothing that stops a round is
before it. -/
theorem drain_iff (pos : 0 < k) (goes : ∀ x, accepts x = true → stops x = false) :
    (∃ n, ∀ x ∈ (drain stops k)^[n] xs, accepts x = false) ↔
      ∀ pre x post, xs = pre ++ x :: post → accepts x = true → ∀ y ∈ pre, stops y = false := by
  constructor
  · rintro ⟨n, none⟩ pre x post rfl accepted y before
    by_contra stopped
    have left := @mem_dropWhile_of_stops α stops x pre post y before
      (Bool.not_eq_false _ ▸ stopped)
    rw [← iterate_drain_dropWhile n] at left
    rw [none x ((List.dropWhile_sublist _).subset left)] at accepted
    cases accepted
  · intro clear
    obtain ⟨n, drained⟩ := exists_drain_dropWhile pos xs
    refine ⟨n, fun x left => ?_⟩
    rw [drained] at left
    by_contra accepted
    have accepted : accepts x = true := Bool.not_eq_false _ ▸ accepted
    obtain ⟨front, post, split⟩ := List.append_of_mem left
    have whole : xs = (xs.takeWhile (fun x => !stops x) ++ front) ++ x :: post := by
      rw [List.append_assoc, ← split, List.takeWhile_append_dropWhile]
    cases front with
    | nil =>
      have head := List.head?_dropWhile_not (fun x => !stops x) xs
      rw [split, List.nil_append, List.head?_cons] at head
      have stopped : stops x = true := by simpa using head
      rw [goes x accepted] at stopped
      cases stopped
    | cons y front =>
      have head := List.head?_dropWhile_not (fun x => !stops x) xs
      rw [split, List.cons_append, List.head?_cons] at head
      have stopped : stops y = true := by simpa using head
      rw [clear _ x post whole accepted y (List.mem_append_right _ List.mem_cons_self)] at stopped
      cases stopped

/-- A round takes the first `k` elements off if all of them are accepted. -/
def release (accepts : α → Bool) (k : Nat) (xs : List α) : List α :=
  if (xs.take k).all accepts then xs.drop k else xs

/-- The elements of each group of `k` and of all groups before it are accepted, if one of the
group is. -/
def Grouped (accepts : α → Bool) (k : Nat) (xs : List α) : Prop :=
  ∀ i x, xs[i]? = some x → accepts x = true → ∀ y ∈ xs.take (k * (i / k + 1)), accepts y = true

theorem grouped_drop (pos : 0 < k) (whole : (xs.take k).all accepts = true) :
    Grouped accepts k (xs.drop k) ↔ Grouped accepts k xs := by
  have first : ∀ y ∈ xs.take k, accepts y = true := List.all_eq_true.mp whole
  have shift (i : Nat) : k * ((k + i) / k + 1) = k + k * (i / k + 1) := by
    rw [Nat.add_div_left i pos, Nat.mul_add, Nat.mul_one, Nat.add_comm k]
  constructor
  · intro grouped i x there accepted
    by_cases later : i < k
    · rw [Nat.div_eq_of_lt later, Nat.zero_add, Nat.mul_one]
      exact first
    · obtain ⟨j, rfl⟩ := Nat.exists_eq_add_of_le (Nat.not_lt.mp later)
      rw [shift, List.take_add]
      intro y h
      rcases List.mem_append.mp h with h | h
      · exact first y h
      · exact grouped j x (by rw [List.getElem?_drop, there]) accepted y h
  · intro grouped i x there accepted y h
    rw [List.getElem?_drop] at there
    refine grouped (k + i) x there accepted y ?_
    rw [shift, List.take_add]
    exact List.mem_append_right _ h

/-- Rounds come to take off all that is accepted, if and only if no group that has such an
element waits for one that is not accepted. -/
theorem release_iff (pos : 0 < k) :
    (∃ n, ∀ x ∈ (release accepts k)^[n] xs, accepts x = false) ↔ Grouped accepts k xs := by
  constructor
  · rintro ⟨n, none⟩
    induction n generalizing xs with
    | zero =>
      intro i x there accepted
      rw [none x (List.mem_of_getElem? there)] at accepted
      cases accepted
    | succ n ih =>
      rw [Function.iterate_succ_apply] at none
      unfold release at none
      split at none
      next whole => exact (grouped_drop pos whole).mp (ih none)
      next => exact ih none
  · intro grouped
    induction length : xs.length using Nat.strongRecOn generalizing xs with
    | _ m ih =>
      by_cases whole : (xs.take k).all accepts = true
      · cases xs with
        | nil => exact ⟨0, nofun⟩
        | cons x xs =>
          have less : ((x :: xs).drop k).length < m := by
            rw [List.length_drop, ← length, List.length_cons]
            omega
          obtain ⟨n, none⟩ := ih _ less ((grouped_drop pos whole).mpr grouped) rfl
          refine ⟨n + 1, ?_⟩
          rw [Function.iterate_succ_apply, release, if_pos whole]
          exact none
      · refine ⟨0, fun x there => ?_⟩
        by_contra accepted
        obtain ⟨i, found⟩ := List.mem_iff_getElem?.mp there
        refine whole (List.all_eq_true.mpr fun y h => ?_)
        refine grouped i x found (Bool.not_eq_false _ ▸ accepted) y ?_
        refine (List.take_sublist_take_left ?_).subset h
        exact Nat.le_mul_of_pos_right k (Nat.succ_pos _)

theorem sweep_subset : sweep keeps k xs ⊆ xs := by
  intro x there
  rw [← List.take_append_drop k xs]
  rcases List.mem_append.mp there with h | h
  · exact List.mem_append_left _ (List.mem_of_mem_filter h)
  · exact List.mem_append_right _ h

theorem drain_subset : drain stops k xs ⊆ xs := by
  intro x there
  rw [← List.take_append_drop k xs]
  rcases List.mem_append.mp there with h | h
  · exact List.mem_append_left _ ((List.dropWhile_sublist _).subset h)
  · exact List.mem_append_right _ h

theorem release_subset : release accepts k xs ⊆ xs := by
  unfold release
  split
  · exact List.drop_subset k xs
  · exact List.Subset.refl xs

theorem iterate_subset {round : List α → List α} (subset : ∀ xs, round xs ⊆ xs) {m : Nat}
    (le : n ≤ m) : round^[m] xs ⊆ round^[n] xs := by
  obtain ⟨more, rfl⟩ := Nat.exists_eq_add_of_le le
  induction more with
  | zero => exact List.Subset.refl _
  | succ more ih =>
    rw [← Nat.add_assoc, Function.iterate_succ_apply']
    exact List.Subset.trans (subset _) (ih (Nat.le_add_right n more))

end Backlog
