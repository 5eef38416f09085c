import MiniOgas.Serial

/-- A procedure that can raise, and that leaves what it has changed behind when it does. -/
abbrev Procedure (ε σ α : Type) := EStateM ε σ α

namespace Procedure

variable {ε σ α β : Type} {R : σ → σ → Prop} {s s' s'' : σ} {a : α} {b : β} {fault : ε}
  {p : Procedure ε σ α} {f : α → Procedure ε σ β} {x : Except ε α} {rest : Bool}

/-- What a procedure leaves behind, whether it returns or raises. -/
def after (p : Procedure ε σ α) (s : σ) : σ :=
  match p s with
  | .ok _ s' => s'
  | .error _ s' => s'

/-- What a procedure returns or raises. -/
def reply (p : Procedure ε σ α) (s : σ) : Except ε α :=
  match p s with
  | .ok a _ => .ok a
  | .error fault _ => .error fault

theorem bind_ok (h : p s = .ok a s') :
    (p >>= f) s = f a s' := by
  simp [bind, EStateM.bind, h]

theorem bind_error (h : p s = .error fault s') : (p >>= f) s = .error fault s' := by
  simp [bind, EStateM.bind, h]

theorem of_bind (h : (p >>= f) s = .ok b s'') :
    ∃ a s', p s = .ok a s' ∧ f a s' = .ok b s'' := by
  cases first : p s with
  | ok a s' => exact ⟨a, s', rfl, by rw [← h, bind_ok first]⟩
  | error fault s' => cases (bind_error first).symm.trans h

theorem after_ok (h : p s = .ok a s') : after p s = s' := by
  simp [after, h]

theorem after_error (h : p s = .error fault s') : after p s = s' := by
  simp [after, h]

/-- Whatever the procedure does, it relates the state before it to the state after it. -/
def Keeps (R : σ → σ → Prop) (p : Procedure ε σ α) : Prop := ∀ s, R s (after p s)

theorem keeps_modify {f : σ → σ} (step : ∀ s, R s (f s)) :
    Keeps R (modify f : Procedure ε σ Unit) := step

instance {P : σ → Prop} : IsPreorder σ fun s s' => P s → P s' where
  refl _ h := h
  trans _ _ _ one two h := two (one h)

/-- What both procedures keep, their sequence keeps, also when the first one fails. -/
theorem keeps_bind [IsTrans σ R] (first : Keeps R p) (rest : ∀ a, Keeps R (f a)) :
    Keeps R (p >>= f) := by
  intro s
  have one := first s
  cases h : p s with
  | ok a s' =>
    rw [after_ok h] at one
    have two := rest a s'
    unfold after at two ⊢
    rw [bind_ok h]
    exact IsTrans.trans _ _ _ one two
  | error fault s' =>
    rw [after_error h] at one
    rwa [after_error (bind_error h)]

theorem keeps_answer [IsPreorder σ R] {f : α → β} (keeps : Keeps R p) :
    Keeps R (p >>= fun a => pure (f a)) := keeps_bind keeps fun _ => refl

theorem keeps_forM [IsPreorder σ R] {f : α → Procedure ε σ PUnit} {xs : List α}
    (each : ∀ x ∈ xs, Keeps R (f x)) : Keeps R (xs.forM f) := by
  induction xs with
  | nil => exact refl
  | cons x xs ih =>
    refine keeps_bind (each x List.mem_cons_self) fun _ => ?_
    exact ih fun y hy => each y (List.mem_cons_of_mem x hy)

/-- A computation that reads nothing of the state and changes nothing. -/
def lift (x : Except ε α) : Procedure ε σ α :=
  match x with
  | .ok a => pure a
  | .error fault => throw fault

theorem lift_ok (h : x = .ok a) : (lift x : Procedure ε σ α) s = .ok a s := by
  rw [h]
  rfl

theorem lift_error (h : x = .error fault) :
    (lift x : Procedure ε σ α) s = .error fault s := by
  rw [h]
  rfl

theorem lift_eq_ok :
    (lift x : Procedure ε σ α) s = .ok a s' ↔ x = .ok a ∧ s = s' := by
  cases x with
  | ok b =>
    rw [lift_ok rfl]
    simp
  | error fault =>
    rw [lift_error rfl]
    simp

/-- A step that changes nothing when it raises. -/
def transact (f : σ → Except ε (α × σ)) : Procedure ε σ α := fun s =>
  match f s with
  | .ok (a, s') => .ok a s'
  | .error fault => .error fault s

theorem transact_ok {f : σ → Except ε (α × σ)} (h : f s = .ok (a, s')) :
    transact f s = .ok a s' := by
  simp [transact, h]

theorem transact_error {f : σ → Except ε (α × σ)} (h : f s = .error fault) :
    transact f s = .error fault s := by
  simp [transact, h]

theorem keeps_transact [Std.Refl R] {f : σ → Except ε (α × σ)}
    (step : ∀ s a s', f s = .ok (a, s') → R s s') : Keeps R (transact f) := by
  intro s
  cases h : f s with
  | ok result =>
    rw [after_ok (transact_ok h)]
    exact step s _ _ h
  | error fault =>
    rw [after_error (transact_error h)]
    exact refl s

theorem keeps_lift [Std.Refl R] (x : Except ε α) : Keeps R (lift x : Procedure ε σ α) := by
  cases x with
  | ok a => exact refl
  | error fault => exact refl

/-- A transaction: what a procedure has changed is lost when it raises. -/
def transaction (p : Procedure ε σ α) : Procedure ε σ α := fun s =>
  match p s with
  | .ok a s' => .ok a s'
  | .error fault _ => .error fault s

theorem transaction_ok (h : p s = .ok a s') :
    transaction p s = .ok a s' := by
  simp [transaction, h]

theorem transaction_error (h : p s = .error fault s') :
    transaction p s = .error fault s := by
  simp [transaction, h]

theorem transaction_eq_error (h : transaction p s = .error fault s') : s = s' := by
  unfold transaction at h
  split at h <;> cases h
  rfl

theorem transaction_eq_ok :
    transaction p s = .ok a s' ↔ p s = .ok a s' := by
  cases h : p s with
  | ok b t => rw [transaction_ok h]
  | error fault t => simp [transaction_error h]

/-- Whether a procedure returns. -/
def returns (p : Procedure ε σ α) (s : σ) : Bool :=
  match p s with
  | .ok _ _ => true
  | .error _ _ => false

/-- Whether a procedure returns does not depend on the state. -/
def Decided (p : Procedure ε σ α) (returned : Bool) : Prop := ∀ s, returns p s = returned

theorem decided_congr {first second : Bool} (decided : Decided p first) (same : first = second) :
    Decided p second :=
  same ▸ decided

theorem decided_bind {first rest : Bool} (one : Decided p first) (two : ∀ a, Decided (f a) rest) :
    Decided (p >>= f) (first && rest) := by
  intro s
  have returned := one s
  cases h : p s with
  | ok a s' =>
    have next := two a s'
    unfold returns at returned next ⊢
    rw [h] at returned
    rw [bind_ok h, ← returned, next, Bool.true_and]
  | error fault s' =>
    unfold returns at returned ⊢
    rw [h] at returned
    rw [bind_error h, ← returned, Bool.false_and]

theorem decided_modify_bind (g : σ → σ) {f : Unit → Procedure ε σ β}
    (two : ∀ a, Decided (f a) rest) : Decided (modify g >>= f) rest :=
  fun s => two () (g s)

theorem decided_lift (x : Except ε α) : Decided (lift x : Procedure ε σ α) x.isOk := by
  cases x with
  | ok a => exact fun _ => rfl
  | error fault => exact fun _ => rfl

theorem decided_lift_bind (x : Except ε α) (two : ∀ a, Decided (f a) rest) :
    Decided (lift x >>= f) (x.isOk && rest) :=
  decided_bind (decided_lift x) two

theorem decided_lift_modify (x : Except ε α) (g : α → σ → σ) :
    Decided (lift x >>= fun a => modify (g a) : Procedure ε σ Unit) x.isOk :=
  decided_congr (decided_lift_bind x fun _ _ => rfl) (Bool.and_true _)

theorem returns_lift_bind (x : Except ε α) (two : ∀ a, x = .ok a → returns (f a) s = rest) :
    returns (lift x >>= f) s = (x.isOk && rest) := by
  cases x with
  | ok a => exact (two a rfl).trans (Bool.true_and _).symm
  | error fault => rfl

/-- Whether a procedure returns, or what it raises. -/
def outcome (p : Procedure ε σ α) (s : σ) : Except ε Unit := (reply p s).map fun _ => ()

/-- What a procedure raises does not depend on the state. -/
def Settled (p : Procedure ε σ α) (raised : Except ε Unit) : Prop := ∀ s, outcome p s = raised

theorem outcome_of_ok (h : p s = .ok a s') : outcome p s = .ok () := by
  simp [outcome, reply, h, Except.map]

theorem outcome_of_error (h : p s = .error fault s') :
    outcome p s = .error fault := by
  simp [outcome, reply, h, Except.map]

theorem outcome_lift_bind (x : Except ε α) (f : α → Procedure ε σ β) :
    outcome (lift x >>= f) s = x >>= fun a => outcome (f a) s := by
  cases x with
  | ok a => rfl
  | error fault => rfl

theorem settled_lift_bind (x : Except ε α) {rest : Except ε Unit} (two : ∀ a, Settled (f a) rest) :
    Settled (lift x >>= f) (x >>= fun _ => rest) := by
  intro s
  cases x with
  | ok a => exact two a s
  | error fault => rfl

theorem settled_modify_bind (g : σ → σ) {f : Unit → Procedure ε σ β} {rest : Except ε Unit}
    (two : ∀ a, Settled (f a) rest) : Settled (modify g >>= f) rest :=
  fun s => two () (g s)

theorem outcome_bind_ok (h : p s = .ok a s') :
    outcome (p >>= f) s = outcome (f a) s' := by
  unfold outcome reply
  rw [bind_ok h]

theorem outcome_bind_settled (fine : ∀ a, Settled (f a) (.ok ())) :
    outcome (p >>= f) s = outcome p s := by
  cases h : p s with
  | ok a s' => rw [outcome_of_ok h, outcome_bind_ok h, fine a s']
  | error fault s' => rw [outcome_of_error h, outcome_of_error (bind_error h)]

theorem outcome_eq_error :
    outcome p s = .error fault ↔ reply p s = .error fault := by
  unfold outcome
  cases reply p s with
  | ok a => exact iff_of_false nofun nofun
  | error raised => exact ⟨fun h => by rw [Except.error.inj h], fun h => by rw [h]; rfl⟩

section Within

variable {τ φ : Type} (view : σ → τ) (put : σ → τ → σ) (wrap : φ → ε)

/-- A procedure on a part of the state, with what it raises. -/
def within (p : Procedure φ τ α) : Procedure ε σ α := fun s =>
  match p (view s) with
  | .ok a t => .ok a (put s t)
  | .error fault t => .error (wrap fault) (put s t)

theorem within_ok {p : Procedure φ τ α} {t : τ} (h : p (view s) = .ok a t) :
    within view put wrap p s = .ok a (put s t) := by
  simp [within, h]

theorem within_error {p : Procedure φ τ α} {t : τ} {fault : φ} (h : p (view s) = .error fault t) :
    within view put wrap p s = .error (wrap fault) (put s t) := by
  simp [within, h]

theorem after_within (p : Procedure φ τ α) (s : σ) :
    after (within view put wrap p) s = put s (after p (view s)) := by
  cases h : p (view s) with
  | ok a t => rw [after_ok h, after_ok (within_ok view put wrap h)]
  | error fault t => rw [after_error h, after_error (within_error view put wrap h)]

theorem outcome_within (p : Procedure φ τ α) (s : σ) :
    outcome (within view put wrap p) s = (outcome p (view s)).mapError wrap := by
  cases h : p (view s) with
  | ok a t =>
    rw [outcome_of_ok h, outcome_of_ok (within_ok view put wrap h)]
    rfl
  | error fault t =>
    rw [outcome_of_error h, outcome_of_error (within_error view put wrap h)]
    rfl

/-- A procedure on a part of the state keeps what every change of that part keeps. -/
theorem keeps_within {R : σ → σ → Prop} (kept : ∀ s t, R s (put s t)) (p : Procedure φ τ α) :
    Keeps R (within view put wrap p) := by
  intro s
  rw [after_within]
  exact kept s _

end Within

theorem exists_ok_of_returns (h : returns p s = true) :
    ∃ a, p s = .ok a (after p s) := by
  cases result : p s with
  | ok a s' => exact ⟨a, by rw [after_ok result]⟩
  | error fault s' => simp [returns, result] at h

theorem exists_error_of_not_returns (h : returns p s = false) :
    ∃ fault, p s = .error fault (after p s) := by
  cases result : p s with
  | ok a s' => simp [returns, result] at h
  | error fault s' => exact ⟨fault, by rw [after_error result]⟩

theorem after_bind_ok (h : p s = .ok a s') :
    after (p >>= f) s = after (f a) s' := by
  unfold after
  rw [bind_ok h]

theorem after_modify_bind (g : σ → σ) (f : Unit → Procedure ε σ β) :
    after (modify g >>= f) s = after (f ()) (g s) := rfl

theorem after_bind_error (h : p s = .error fault s') : after (p >>= f) s = s' :=
  after_error (bind_error h)

theorem after_bind_pure (p : Procedure ε σ α) (f : α → β) :
    after (p >>= fun a => pure (f a)) s = after p s := by
  cases h : p s with
  | ok a s' =>
    rw [after_bind_ok h, after_ok h]
    rfl
  | error fault s' => rw [after_bind_error h, after_error h]

theorem forM_cons {f : α → Procedure ε σ PUnit} {x : α} {xs : List α} :
    (x :: xs).forM f = (f x >>= fun _ => xs.forM f) := rfl

/-- Procedures used serially, each of which keeps what it has changed when it raises. -/
def serially {Call : Type} (perform : Call → Procedure ε σ α) :
    Serial.Authority Call σ (Except ε α) Empty where
  attempt call s := .ok (reply (perform call) s, after (perform call) s)

end Procedure
