import Mathlib.Data.List.Basic
import Mathlib.Data.List.Forall2

namespace Serial

variable {Fault α β Call State Reply : Type} {x : Except Fault α} {f : α → Except Fault β}
  {xs : List α} {b : β} {fault : Fault}

theorem bind_eq_ok :
    (x >>= f) = .ok b ↔ ∃ a, x = .ok a ∧ f a = .ok b := by
  cases x with
  | ok a => simp [bind, Except.bind]
  | error fault => simp [bind, Except.bind]

theorem of_bind (h : (x >>= f) = .ok b) : ∃ a, x = .ok a ∧ f a = .ok b :=
  bind_eq_ok.mp h

theorem of_then {y : Except Fault β} (h : (x >>= fun _ => y) = .ok b) : y = .ok b :=
  (of_bind h).choose_spec.2

theorem of_mem_concat {x y : α} (h : x ∈ xs ++ [y]) : x ∈ xs ∨ x = y := by
  simpa using h

theorem ok_bind (a : α) (f : α → Except Fault β) : (Except.ok a >>= f) = f a := rfl

theorem bind_eq_error :
    (x >>= f) = .error fault ↔ x = .error fault ∨ ∃ a, x = .ok a ∧ f a = .error fault := by
  cases x with
  | ok a => simp [bind, Except.bind]
  | error raised => simp [bind, Except.bind]

theorem map_eq_ok {f : α → β} :
    (f <$> x) = .ok b ↔ ∃ a, x = .ok a ∧ f a = b := by
  cases x with
  | ok a => simp [Functor.map, Except.map]
  | error fault => simp [Functor.map, Except.map]

theorem exists_ok (h : x.isOk = true) : ∃ a, x = .ok a := by
  cases x with
  | ok a => exact ⟨a, rfl⟩
  | error fault => cases h

theorem mapM_forall₂ {ys : List β} (h : xs.mapM f = .ok ys) :
    List.Forall₂ (fun x y => f x = .ok y) xs ys := by
  induction xs generalizing ys with
  | nil =>
    cases h
    exact .nil
  | cons x xs ih =>
    rw [List.mapM_cons] at h
    obtain ⟨z, first, h⟩ := of_bind h
    obtain ⟨zs, rest, h⟩ := of_bind h
    cases h
    exact .cons first (ih rest)

/-- A guard that raises when its condition fails. -/
def check (p : Prop) [Decidable p] (fault : Fault) : Except Fault Unit :=
  if p then .ok () else .error fault

@[simp] theorem check_eq_ok {p : Prop} [Decidable p] {u : Unit} :
    check p fault = .ok u ↔ p := by
  unfold check
  split <;> simp [*]

theorem check_eq_error {p : Prop} [Decidable p] {raised : Fault}
    (h : check p fault = .error raised) : raised = fault := by
  unfold check at h
  split at h
  next => cases h
  next => exact (Except.error.inj h).symm

/-- A look-up that raises when nothing is found. -/
def orFault (x : Option α) (fault : Fault) : Except Fault α :=
  match x with
  | some a => .ok a
  | none => .error fault

@[simp] theorem orFault_eq_ok {x : Option α} {a : α} :
    orFault x fault = .ok a ↔ x = some a := by
  cases x <;> simp [orFault]

theorem forM_eq_ok {f : α → Except Fault Unit} {u : Unit} :
    xs.forM f = .ok u ↔ ∀ x ∈ xs, f x = .ok () := by
  induction xs with
  | nil => simp [pure, Except.pure]
  | cons x xs ih =>
    change (f x >>= fun _ => xs.forM f) = .ok u ↔ _
    rw [bind_eq_ok]
    simp only [List.mem_cons, forall_eq_or_imp, ← ih]
    exact ⟨fun ⟨_, first, rest⟩ => ⟨first, rest⟩, fun ⟨first, rest⟩ => ⟨(), first, rest⟩⟩

theorem forM_error {f : α → Except Fault Unit} (h : xs.forM f = .error fault) :
    ∃ x ∈ xs, f x = .error fault := by
  induction xs with
  | nil => cases h
  | cons x xs ih =>
    rcases bind_eq_error.mp h with first | ⟨_, -, rest⟩
    · exact ⟨x, List.mem_cons_self, first⟩
    · obtain ⟨y, hy, hf⟩ := ih rest
      exact ⟨y, List.mem_cons_of_mem x hy, hf⟩

theorem foldlM_invariant {I : State → Prop} {f : State → α → Except Fault State}
    (step : ∀ s x s', x ∈ xs → I s → f s x = .ok s' → I s') {s s' : State} (init : I s)
    (h : xs.foldlM f s = .ok s') : I s' := by
  induction xs generalizing s with
  | nil =>
    cases h
    exact init
  | cons x xs ih =>
    obtain ⟨mid, first, rest⟩ := of_bind h
    refine ih (fun s y s' hy => step s y s' (List.mem_cons_of_mem x hy)) ?_ rest
    exact step s x mid List.mem_cons_self init first

theorem mapM_mem {ys : List β} (h : xs.mapM f = .ok ys) {y : β} (hy : y ∈ ys) :
    ∃ x ∈ xs, f x = .ok y := by
  induction xs generalizing ys with
  | nil =>
    cases h
    simp at hy
  | cons x xs ih =>
    rw [List.mapM_cons] at h
    obtain ⟨z, first, h⟩ := of_bind h
    obtain ⟨zs, rest, h⟩ := of_bind h
    cases h
    rcases List.mem_cons.mp hy with rfl | hy
    · exact ⟨x, List.mem_cons_self, first⟩
    · obtain ⟨w, hw, hf⟩ := ih rest hy
      exact ⟨w, List.mem_cons_of_mem x hw, hf⟩

/-- An authority used serially: a call is one transaction, which replies and
commits a state, or raises. -/
structure Authority (Call State Reply Fault : Type) where
  attempt : Call → State → Except Fault (Reply × State)

/-- The state a call leaves behind: a raising transaction is rolled back. -/
def Authority.serve (A : Authority Call State Reply Fault) (s : State) (call : Call) : State :=
  match A.attempt call s with
  | .ok (_, s') => s'
  | .error _ => s

def Authority.run (A : Authority Call State Reply Fault) (s : State) (calls : List Call) : State :=
  calls.foldl A.serve s

/-- Every call of the run is made in a state that meets `P`. -/
def Authority.Along (A : Authority Call State Reply Fault) (P : State → Call → Prop) :
    State → List Call → Prop
  | _, [] => True
  | s, call :: calls => P s call ∧ A.Along P (A.serve s call) calls

variable {A : Authority Call State Reply Fault} {I : State → Prop} {P : State → Call → Prop}
  {s : State} {Q : State → Call → Prop} {calls : List Call} {R : State → State → Prop}

@[simp] theorem Authority.run_nil (s : State) : A.run s [] = s := rfl

@[simp] theorem Authority.run_cons (s : State) (call : Call) (calls : List Call) :
    A.run s (call :: calls) = A.run (A.serve s call) calls := rfl

theorem Authority.run_append (s : State) (xs ys : List Call) :
    A.run s (xs ++ ys) = A.run (A.run s xs) ys :=
  List.foldl_append

theorem Authority.along_append {xs ys : List Call} :
    A.Along P s (xs ++ ys) ↔ A.Along P s xs ∧ A.Along P (A.run s xs) ys := by
  induction xs generalizing s with
  | nil => simp [Authority.Along]
  | cons x xs ih => simp [Authority.Along, ih, and_assoc]

theorem Authority.along_mono (weaken : ∀ s call, P s call → Q s call) (along : A.Along P s calls) :
    A.Along Q s calls := by
  induction calls generalizing s with
  | nil => trivial
  | cons call calls ih => exact ⟨weaken s call along.1, ih along.2⟩

theorem Authority.along_and :
    A.Along (fun s call => P s call ∧ Q s call) s calls ↔
      A.Along P s calls ∧ A.Along Q s calls := by
  induction calls generalizing s with
  | nil => simp [Authority.Along]
  | cons call calls ih =>
    rw [Authority.Along, Authority.Along, Authority.Along, ih]
    exact and_and_and_comm

instance Authority.decidableAlong [∀ s call, Decidable (P s call)] :
    (s : State) → (calls : List Call) → Decidable (A.Along P s calls)
  | _, [] => inferInstanceAs (Decidable True)
  | s, call :: calls =>
    have := Authority.decidableAlong (A.serve s call) calls
    inferInstanceAs (Decidable (P s call ∧ A.Along P (A.serve s call) calls))

theorem Authority.serve_of_ok {s s' : State} {call : Call} {reply : Reply}
    (h : A.attempt call s = .ok (reply, s')) : A.serve s call = s' := by
  simp [Authority.serve, h]

theorem Authority.serve_cases (s : State) (call : Call) :
    A.serve s call = s ∨ ∃ reply, A.attempt call s = .ok (reply, A.serve s call) := by
  unfold Authority.serve
  cases h : A.attempt call s with
  | ok result => exact .inr ⟨result.1, rfl⟩
  | error fault => exact .inl rfl

/-- An invariant kept by every successful call made under `P` holds after
every run whose calls are all made under `P`. -/
theorem Authority.invariant_along
    (preserved : ∀ {s call reply s'}, I s → P s call → A.attempt call s = .ok (reply, s') → I s')
    (init : I s) (along : A.Along P s calls) :
    I (A.run s calls) := by
  induction calls generalizing s with
  | nil => exact init
  | cons call calls ih =>
    refine ih ?_ along.2
    rcases A.serve_cases s call with same | ⟨reply, h⟩
    · rw [same]; exact init
    · exact preserved init along.1 h

/-- What every call made under `P` in a state that meets the invariant meets holds along
every run whose calls are all made under `P`. -/
theorem Authority.along_invariant
    (preserved : ∀ {s call reply s'}, I s → P s call → A.attempt call s = .ok (reply, s') → I s')
    (meets : ∀ {s call}, I s → P s call → Q s call) (init : I s) (along : A.Along P s calls) :
    A.Along Q s calls := by
  induction calls generalizing s with
  | nil => trivial
  | cons call calls ih =>
    refine ⟨meets init along.1, ih ?_ along.2⟩
    have single : A.Along P s [call] := ⟨along.1, trivial⟩
    exact Authority.invariant_along preserved init single

/-- Two conditions that agree in every state that meets an invariant hold along the same runs. -/
theorem Authority.along_iff {Q : State → Call → Prop}
    (preserved : ∀ {s call reply s'}, I s → P s call → A.attempt call s = .ok (reply, s') → I s')
    (agree : ∀ {s call}, I s → (P s call ↔ Q s call))
    {s : State} {calls : List Call} (init : I s) : A.Along P s calls ↔ A.Along Q s calls := by
  constructor
  · intro along
    exact Authority.along_invariant preserved (fun holds meets => (agree holds).mp meets) init along
  · intro along
    exact Authority.along_invariant
      (fun holds meets h => preserved holds ((agree holds).mpr meets) h)
      (fun holds meets => (agree holds).mpr meets) init along

theorem Authority.along_congr (same : A.Along (fun s call => P s call ↔ Q s call) s calls) :
    A.Along P s calls ↔ A.Along Q s calls := by
  induction calls generalizing s with
  | nil => exact Iff.rfl
  | cons call calls ih => exact and_congr same.1 (ih same.2)

/-- What only some calls bring about, and no call undoes, comes from one of them. -/
theorem Authority.run_iff {F : State → Prop} {G : State → Call → Prop}
    (preserved : ∀ {s call}, I s → P s call → I (A.serve s call))
    (arises : ∀ {s call}, I s → P s call → (F (A.serve s call) ↔ F s ∨ G s call))
    (init : I s) (along : A.Along P s calls) :
    F (A.run s calls) ↔ F s ∨ ∃ before call later, calls = before ++ call :: later ∧
      G (A.run s before) call := by
  induction calls generalizing s with
  | nil => simp
  | cons call calls ih =>
    rw [Authority.run_cons, ih (preserved init along.1) along.2, arises init along.1, or_assoc]
    refine or_congr_right ⟨?_, ?_⟩
    · rintro (first | ⟨before, cause, later, rfl, met⟩)
      · exact ⟨[], call, calls, rfl, first⟩
      · exact ⟨call :: before, cause, later, rfl, met⟩
    · rintro ⟨before, cause, later, split, met⟩
      cases before with
      | nil =>
        cases split
        exact .inl met
      | cons first before =>
        cases split
        exact .inr ⟨before, cause, later, rfl, met⟩

/-- A reflexive and transitive relation that every call made under `P` in a state that meets
the invariant meets relates the two ends of every run whose calls are all made under `P`. -/
theorem Authority.related_along
    (preserved : ∀ {s call reply s'}, I s → P s call → A.attempt call s = .ok (reply, s') → I s')
    (refl : ∀ s, R s s) (trans : ∀ {a b c}, R a b → R b c → R a c)
    (step : ∀ {s call reply s'}, I s → P s call → A.attempt call s = .ok (reply, s') → R s s')
    (init : I s) (along : A.Along P s calls) :
    R s (A.run s calls) := by
  induction calls generalizing s with
  | nil => exact refl s
  | cons call calls ih =>
    rcases A.serve_cases s call with same | ⟨reply, h⟩
    · rw [Authority.run_cons, same]
      exact ih init (by rw [← same]; exact along.2)
    · exact trans (step init along.1 h) (ih (preserved init along.1 h) along.2)

theorem Authority.along_true (s : State) (calls : List Call) :
    A.Along (fun _ _ => True) s calls := by
  induction calls generalizing s with
  | nil => trivial
  | cons call calls ih => exact ⟨trivial, ih _⟩

theorem Authority.invariant
    (preserved : ∀ {s call reply s'}, I s → A.attempt call s = .ok (reply, s') → I s')
    (calls : List Call) (init : I s) : I (A.run s calls) :=
  Authority.invariant_along (P := fun _ _ => True) (fun hi _ h => preserved hi h) init
    (A.along_true s calls)

/-- A reflexive and transitive relation that every successful call from an
invariant state meets relates the two ends of every run. -/
theorem Authority.related
    (preserved : ∀ {s call reply s'}, I s → A.attempt call s = .ok (reply, s') → I s')
    (refl : ∀ s, R s s) (trans : ∀ {a b c}, R a b → R b c → R a c)
    (step : ∀ {s call reply s'}, I s → A.attempt call s = .ok (reply, s') → R s s')
    (calls : List Call) (init : I s) : R s (A.run s calls) :=
  Authority.related_along (P := fun _ _ => True) (fun hi _ h => preserved hi h) refl trans
    (fun hi _ h => step hi h) init (A.along_true s calls)

end Serial
