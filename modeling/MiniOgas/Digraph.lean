import Mathlib.Logic.Relation
import Mathlib.Data.List.Basic
import Mathlib.Data.Finset.Card
import Mathlib.Data.Finset.Dedup
import Mathlib.Logic.Function.Iterate

namespace Digraph

open Relation

variable {α : Type}

def Acyclic (r : α → α → Prop) : Prop := ∀ a, ¬ TransGen r a a

/-- The relation with an edge from every `a` of `I` to every `b` of `O`. -/
def Extend (r : α → α → Prop) (I O : α → Prop) (a b : α) : Prop := r a b ∨ I a ∧ O b

variable {r : α → α → Prop} {I O : α → Prop} {a b : α} {xs : List α}

/-- A path of the extension is an old path, or leaves by an old path to its first new edge
and arrives by an old path from its last one. -/
theorem transGen_extend (h : TransGen (Extend r I O) a b) :
    TransGen r a b ∨ ∃ i o, I i ∧ O o ∧ ReflTransGen r a i ∧ ReflTransGen r o b := by
  induction h with
  | single edge =>
    rcases edge with edge | ⟨hi, ho⟩
    · exact .inl (.single edge)
    · exact .inr ⟨_, _, hi, ho, .refl, .refl⟩
  | tail _ edge ih =>
    rcases edge with edge | ⟨hi, ho⟩
    · rcases ih with path | ⟨i, o, hi, ho, first, last⟩
      · exact .inl (path.tail edge)
      · exact .inr ⟨i, o, hi, ho, first, last.tail edge⟩
    · rcases ih with path | ⟨i, o, hi', ho', first, last⟩
      · exact .inr ⟨_, _, hi, ho, path.to_reflTransGen, .refl⟩
      · exact .inr ⟨i, _, hi', ho, first, .refl⟩

/-- New edges, however many, close no cycle together when no old path leads from one of their
heads to one of their tails. -/
theorem Acyclic.extend (h : Acyclic r) (apart : ∀ i o, I i → O o → ¬ ReflTransGen r o i) :
    Acyclic (Extend r I O) := by
  intro a cycle
  rcases transGen_extend cycle with cycle | ⟨i, o, hi, ho, first, last⟩
  · exact h a cycle
  · exact apart i o hi ho (last.trans first)

theorem not_acyclic_extend {i o : α} (hi : I i) (ho : O o) (path : ReflTransGen r o i) :
    ¬ Acyclic (Extend r I O) := fun h =>
  h i (TransGen.trans_left (.single (.inr ⟨hi, ho⟩))
    (ReflTransGen.mono (fun _ _ => Or.inl) _ _ path))

theorem acyclic_extend_iff (h : Acyclic r) :
    Acyclic (Extend r I O) ↔ ∀ i o, I i → O o → ¬ ReflTransGen r o i :=
  ⟨fun acyclic _ _ hi ho path => not_acyclic_extend hi ho path acyclic, h.extend⟩

theorem Acyclic.exists_minimal (h : Acyclic r) (nonempty : xs ≠ []) :
    ∃ a ∈ xs, ∀ b ∈ xs, ¬ TransGen r a b := by
  induction xs with
  | nil => exact absurd rfl nonempty
  | cons x xs ih =>
    by_cases last : xs = []
    · refine ⟨x, List.mem_cons_self, fun b member path => ?_⟩
      rw [last, List.mem_singleton] at member
      exact h x (member ▸ path)
    · obtain ⟨a, there, minimal⟩ := ih last
      by_cases below : TransGen r a x
      · refine ⟨x, List.mem_cons_self, fun b member path => ?_⟩
        rcases List.mem_cons.mp member with rfl | member
        · exact h b path
        · exact minimal b member (below.trans path)
      · refine ⟨a, List.mem_cons_of_mem x there, fun b member path => ?_⟩
        rcases List.mem_cons.mp member with rfl | member
        · exact below path
        · exact minimal b member path

theorem split_append {xs ys before after : List α}
    (split : xs ++ ys = before ++ a :: after) :
    (∃ rest, xs = before ++ a :: rest) ∨ ∃ mid, before = xs ++ mid ∧ ys = mid ++ a :: after := by
  rcases List.append_eq_append_iff.mp split with ⟨mid, first, second⟩ | ⟨mid, first, second⟩
  · exact .inr ⟨mid, first, second⟩
  · cases mid with
    | nil =>
      refine .inr ⟨[], ?_, second.symm⟩
      rw [first, List.append_nil, List.append_nil]
    | cons x rest =>
      cases second
      exact .inl ⟨rest, first⟩

/-- Every edge leads to an earlier element of the list. -/
def Ordered (r : α → α → Prop) (xs : List α) : Prop :=
  ∀ before a after, xs = before ++ a :: after → ∀ b, r a b → b ∈ before

theorem Ordered.nil : Ordered r [] := by
  intro before a after split
  cases before <;> cases split

theorem Ordered.concat (ordered : Ordered r xs) (a : α) (earlier : ∀ b, r a b → b ∈ xs) :
    Ordered r (xs ++ [a]) := by
  intro before x after split b edge
  rcases split_append split with ⟨rest, old⟩ | ⟨mid, rfl, new⟩
  · exact ordered before x rest old b edge
  · cases mid with
    | nil =>
      cases new
      rw [List.append_nil]
      exact earlier b edge
    | cons y mid => simp at new

theorem Ordered.earlier {xs before after : List α} (ordered : Ordered r xs)
    (split : xs = before ++ a :: after) (path : TransGen r a b) : b ∈ before := by
  induction path with
  | single edge => exact ordered before a after split _ edge
  | @tail c d path edge ih =>
    obtain ⟨first, rest, rfl⟩ := List.append_of_mem ih
    have deeper : xs = first ++ c :: (rest ++ a :: after) := by
      simpa [List.append_assoc] using split
    exact List.mem_append_left _ (ordered first c _ deeper d edge)

/-- What can be listed so that every edge leads to an earlier element has no cycle. -/
theorem Ordered.acyclic (ordered : Ordered r xs) (distinct : xs.Nodup)
    (all : ∀ a b, r a b → a ∈ xs) : Acyclic r := by
  intro a cycle
  obtain ⟨b, edge, -⟩ := TransGen.head'_iff.mp cycle
  obtain ⟨before, after, split⟩ := List.append_of_mem (all a b edge)
  have own := ordered.earlier split cycle
  rw [split] at distinct
  exact (List.nodup_append.mp distinct).2.2 a own a List.mem_cons_self rfl

def Edge (edges : List (α × α)) (a b : α) : Prop := (a, b) ∈ edges

variable {edges : List (α × α)} {f : List α → List α} {found start : List α} {x : α}

/-- A round adds the heads of the edges that leave what has been found. -/
def IsRound (edges : List (α × α)) (f : List α → List α) : Prop :=
  ∀ found x, x ∈ f found ↔ x ∈ found ∨ ∃ p ∈ found, Edge edges p x

theorem mem_of_iterate (round : IsRound edges f) {n : Nat} (h : x ∈ f^[n] start) :
    ∃ s ∈ start, ReflTransGen (Edge edges) s x := by
  induction n generalizing x with
  | zero => exact ⟨x, h, .refl⟩
  | succ n ih =>
    rw [Function.iterate_succ_apply'] at h
    rcases (round _ x).mp h with h | ⟨p, hp, edge⟩
    · exact ih h
    · obtain ⟨s, hs, path⟩ := ih hp
      exact ⟨s, hs, path.tail edge⟩

theorem mem_of_closed (closed : ∀ p ∈ found, ∀ x, Edge edges p x → x ∈ found) {s : α}
    (hs : s ∈ found) (path : ReflTransGen (Edge edges) s x) : x ∈ found := by
  induction path with
  | refl => exact hs
  | tail _ edge ih => exact closed _ ih _ edge

theorem closed_round (round : IsRound edges f)
    (closed : ∀ p ∈ found, ∀ x, Edge edges p x → x ∈ found) :
    ∀ p ∈ f found, ∀ x, Edge edges p x → x ∈ f found := by
  have same : ∀ x, x ∈ f found → x ∈ found := by
    intro x hx
    rcases (round found x).mp hx with hx | ⟨p, hp, edge⟩
    · exact hx
    · exact closed p hp x edge
  intro p hp x edge
  exact (round found x).mpr (.inl (closed p (same p hp) x edge))

variable [DecidableEq α]

theorem closed_or_larger (round : IsRound edges f) (found : List α) :
    (∀ p ∈ found, ∀ x, Edge edges p x → x ∈ found) ∨
      found.toFinset.card < (f found).toFinset.card := by
  by_cases closed : ∀ p ∈ found, ∀ x, Edge edges p x → x ∈ found
  · exact .inl closed
  · push Not at closed
    obtain ⟨p, hp, x, edge, hx⟩ := closed
    refine .inr (Finset.card_lt_card ⟨fun y hy => ?_, fun subset => ?_⟩)
    · rw [List.mem_toFinset] at hy ⊢
      exact (round found y).mpr (.inl hy)
    · have := subset (List.mem_toFinset.mpr ((round found x).mpr (.inr ⟨p, hp, edge⟩)))
      exact hx (List.mem_toFinset.mp this)

theorem closed_or_many (round : IsRound edges f) (start : List α) (n : Nat) :
    (∀ p ∈ f^[n] start, ∀ x, Edge edges p x → x ∈ f^[n] start) ∨
      n ≤ (f^[n] start).toFinset.card := by
  induction n with
  | zero => exact .inr (Nat.zero_le _)
  | succ n ih =>
    rw [Function.iterate_succ_apply']
    rcases ih with closed | many
    · exact .inl (closed_round round closed)
    · rcases closed_or_larger round (f^[n] start) with closed | larger
      · exact .inl (closed_round round closed)
      · exact .inr (by omega)

/-- As many rounds as there are edges suffice, from a start that lies at heads of edges. -/
theorem mem_rounds_iff (round : IsRound edges f) (heads : ∀ x ∈ start, ∃ p, Edge edges p x) :
    x ∈ f^[edges.length] start ↔ ∃ s ∈ start, ReflTransGen (Edge edges) s x := by
  refine ⟨mem_of_iterate round, ?_⟩
  rintro ⟨s, hs, path⟩
  have grows : ∀ n, s ∈ f^[n] start := by
    intro n
    induction n with
    | zero => exact hs
    | succ n ih =>
      rw [Function.iterate_succ_apply']
      exact (round _ s).mpr (.inl ih)
  have head : ∀ n y, y ∈ f^[n] start → y ∈ edges.map (·.2) := by
    intro n y hy
    obtain ⟨t, ht, path⟩ := mem_of_iterate round hy
    have entered : ∃ p, Edge edges p y := by
      rcases ReflTransGen.cases_tail path with same | ⟨p, -, edge⟩
      · exact same ▸ heads t ht
      · exact ⟨p, edge⟩
    obtain ⟨p, edge⟩ := entered
    exact List.mem_map.mpr ⟨(p, y), edge, rfl⟩
  have bounded : ∀ n, (f^[n] start).toFinset.card ≤ edges.length := by
    intro n
    have subset : (f^[n] start).toFinset ⊆ (edges.map (·.2)).toFinset := by
      intro y hy
      rw [List.mem_toFinset] at hy ⊢
      exact head n y hy
    calc (f^[n] start).toFinset.card
        ≤ (edges.map (·.2)).toFinset.card := Finset.card_le_card subset
      _ ≤ (edges.map (·.2)).length := List.toFinset_card_le _
      _ = edges.length := List.length_map _
  rcases closed_or_larger round (f^[edges.length] start) with closed | larger
  · exact mem_of_closed closed (grows _) path
  · rcases closed_or_many round start edges.length with closed | many
    · exact mem_of_closed closed (grows _) path
    · have := bounded (edges.length + 1)
      rw [Function.iterate_succ_apply'] at this
      omega

end Digraph
