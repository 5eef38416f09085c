import MiniOgas.Serial

open Serial

namespace TwoRuns

variable {Fault α β γ δ ι : Type}

inductive Alike (R : α → β → Prop) : Except Fault α → Except Fault β → Prop
  | ok {a : α} {b : β} (related : R a b) : Alike R (.ok a) (.ok b)
  | error (fault : Fault) : Alike R (.error fault) (.error fault)

section Outcomes

variable {R : α → β → Prop} {S : γ → δ → Prop} {x : Except Fault α} {y : Except Fault β}

theorem alike_eq (x : Except Fault α) : Alike Eq x x := by
  cases x with
  | ok a => exact .ok rfl
  | error fault => exact .error fault

theorem Alike.bind {f : α → Except Fault γ} {g : β → Except Fault δ} (alike : Alike R x y)
    (next : ∀ a b, R a b → Alike S (f a) (g b)) : Alike S (x >>= f) (y >>= g) := by
  cases alike with
  | ok related => exact next _ _ related
  | error fault => exact .error fault

theorem Alike.map {f : α → γ} {g : β → δ} (alike : Alike R x y)
    (next : ∀ a b, R a b → S (f a) (g b)) : Alike S (x.map f) (y.map g) := by
  cases alike with
  | ok related => exact .ok (next _ _ related)
  | error fault => exact .error fault

theorem Alike.mapError {Raised : Type} {f : Fault → Raised} (alike : Alike R x y) :
    Alike R (x.mapError f) (y.mapError f) := by
  cases alike with
  | ok related => exact .ok related
  | error fault => exact .error (f fault)

theorem alike_check {p q : Prop} [Decidable p] [Decidable q] (same : p ↔ q) (fault : Fault) :
    Alike Eq (check p fault) (check q fault) := by
  have equal : check p fault = check q fault := by
    exact if_congr same rfl rfl
  rw [equal]
  exact alike_eq _

theorem alike_foldlM {I : List ι → α → β → Prop} {f : α → ι → Except Fault α}
    {g : β → ι → Except Fault β} {items : List ι} {a : α} {b : β}
    (step : ∀ item items a b, I (item :: items) a b → Alike (I items) (f a item) (g b item))
    (init : I items a b) : Alike (I []) (items.foldlM f a) (items.foldlM g b) := by
  induction items generalizing a b with
  | nil => exact .ok init
  | cons item items ih =>
    exact (step item items a b init).bind fun _ _ related => ih related

end Outcomes

section Runs

variable {Call State Reply : Type} (A : Authority Call State Reply Fault)

def answer (s : State) (call : Call) : Except Fault Reply := (A.attempt call s).map Prod.fst

def answersTo (p : Call → Bool) : State → List Call → List (Except Fault Reply)
  | _, [] => []
  | s, call :: calls =>
    if p call then answer A s call :: answersTo p (A.serve s call) calls
    else answersTo p (A.serve s call) calls

variable {A} {p : Call → Bool} {R : State → State → Prop} {E : Reply → Reply → Prop}
  {P Q : State → Call → Prop} {s t : State} {call : Call} {calls : List Call}

theorem alike_serve (related : R s t)
    (alike : Alike (fun x y => E x.1 y.1 ∧ R x.2 y.2) (A.attempt call s) (A.attempt call t)) :
    Alike E (answer A s call) (answer A t call) ∧ R (A.serve s call) (A.serve t call) := by
  refine ⟨alike.map fun _ _ both => both.1, ?_⟩
  unfold Authority.serve
  generalize A.attempt call s = x at alike
  generalize A.attempt call t = y at alike
  cases alike with
  | ok both => exact both.2
  | error fault => exact related

/-- A run in which the other calls change nothing that is related, and which serves its own calls
under `P` alike, answers them as the run without the others. -/
theorem alike_answersTo (unseen : ∀ {s t call}, R s t → p call = false → R (A.serve s call) t)
    (seen : ∀ {s t call}, R s t → p call = true → P s call →
      Alike (fun x y => E x.1 y.1 ∧ R x.2 y.2) (A.attempt call s) (A.attempt call t))
    (init : R s t) (along : A.Along (fun s call => p call = true → P s call) s calls) :
    List.Forall₂ (Alike E) (answersTo A p s calls) (answersTo A p t (calls.filter p)) ∧
      R (A.run s calls) (A.run t (calls.filter p)) := by
  induction calls generalizing s t with
  | nil => exact ⟨.nil, init⟩
  | cons call calls ih =>
    cases own : p call with
    | false =>
      rw [List.filter_cons_of_neg (by simp [own]), answersTo, if_neg (by simp [own])]
      exact ih (unseen init own) along.2
    | true =>
      obtain ⟨answers, left⟩ := alike_serve init (seen init own (along.1 own))
      obtain ⟨rest, ends⟩ := ih left along.2
      rw [List.filter_cons_of_pos own, answersTo, if_pos own, answersTo, if_pos own]
      exact ⟨.cons answers rest, ends⟩

/-- Where a call that is answered alike is one under `P`, a run whose own calls are answered as
without the others makes all of them under `P`. -/
theorem along_of_answersTo (unseen : ∀ {s t call}, R s t → p call = false → R (A.serve s call) t)
    (seen : ∀ {s t call}, R s t → p call = true → P s call →
      Alike (fun x y => E x.1 y.1 ∧ R x.2 y.2) (A.attempt call s) (A.attempt call t))
    (apart : ∀ {s t call}, R s t → p call = true → Q s call →
      Alike E (answer A s call) (answer A t call) → P s call)
    (init : R s t) (along : A.Along (fun s call => p call = true → Q s call) s calls)
    (answers : List.Forall₂ (Alike E) (answersTo A p s calls)
      (answersTo A p t (calls.filter p))) :
    A.Along (fun s call => p call = true → P s call) s calls := by
  induction calls generalizing s t with
  | nil => trivial
  | cons call calls ih =>
    cases own : p call with
    | false =>
      rw [List.filter_cons_of_neg (by simp [own]), answersTo, if_neg (by simp [own])] at answers
      refine ⟨fun given => ?_, ih (unseen init own) along.2 answers⟩
      rw [own] at given
      cases given
    | true =>
      rw [List.filter_cons_of_pos own, answersTo, if_pos own, answersTo, if_pos own] at answers
      obtain ⟨first, rest⟩ := List.forall₂_cons.mp answers
      have meets := apart init own (along.1 own) first
      obtain ⟨-, left⟩ := alike_serve init (seen init own meets)
      exact ⟨fun _ => meets, ih left along.2 rest⟩

end Runs

end TwoRuns
