import Mathlib.Data.List.Basic

namespace Steps

variable {σ ε : Type} (step : σ → ε → σ)

def exec (s : σ) (events : List ε) : σ := events.foldl step s

def Throughout (P : σ → Prop) : σ → List ε → Prop
  | s, [] => P s
  | s, event :: events => P s ∧ Throughout P (step s event) events

/-- Every event of the run meets a condition on the state that it occurs in. -/
def Meets (C : σ → ε → Prop) : σ → List ε → Prop
  | _, [] => True
  | s, event :: events => C s event ∧ Meets C (step s event) events

variable {step} {P Q I : σ → Prop} {C : σ → ε → Prop} {s : σ} {events later : List ε}

@[simp] theorem exec_nil : exec step s [] = s := rfl

@[simp] theorem exec_cons {event : ε} :
    exec step s (event :: events) = exec step (step s event) events := rfl

theorem exec_append : exec step s (events ++ later) = exec step (exec step s events) later :=
  List.foldl_append

theorem Throughout.first (holds : Throughout step P s events) : P s := by
  cases events with
  | nil => exact holds
  | cons event events => exact holds.1

theorem Throughout.last (holds : Throughout step P s events) : P (exec step s events) := by
  induction events generalizing s with
  | nil => exact holds
  | cons event events ih => exact ih holds.2

theorem meets_append : Meets step C s (events ++ later) ↔
    Meets step C s events ∧ Meets step C (exec step s events) later := by
  induction events generalizing s with
  | nil => simp [Meets]
  | cons event events ih => simp [Meets, ih, and_assoc]

theorem Throughout.mono (holds : Throughout step P s events) (weaken : ∀ s, P s → Q s) :
    Throughout step Q s events := by
  induction events generalizing s with
  | nil => exact weaken s holds
  | cons event events ih => exact ⟨weaken s holds.1, ih holds.2⟩

/-- An invariant that every event keeps under the condition holds in every state of a run that
meets it. -/
theorem throughout_of_meets (keeps : ∀ s event, I s → C s event → I (step s event)) (init : I s)
    (meets : Meets step C s events) : Throughout step I s events := by
  induction events generalizing s with
  | nil => exact init
  | cons event events ih => exact ⟨init, ih (keeps s event init meets.1) meets.2⟩

theorem throughout (keeps : ∀ s event, I s → I (step s event)) (init : I s) (events : List ε) :
    Throughout step I s events := by
  induction events generalizing s with
  | nil => exact init
  | cons event events ih => exact ⟨init, ih (keeps s event init)⟩

theorem invariant (keeps : ∀ s event, I s → I (step s event)) (init : I s) (events : List ε) :
    I (exec step s events) :=
  (throughout keeps init events).last

/-- When every event outside the condition leaves a state without the property, the runs whose
states all have it are those that meet the condition. -/
theorem throughout_iff_meets (keeps : ∀ s event, I s → C s event → I (step s event))
    (sound : ∀ s, I s → P s) (breaks : ∀ s event, I s → ¬ C s event → ¬ P (step s event))
    (init : I s) : Throughout step P s events ↔ Meets step C s events := by
  constructor
  · intro holds
    induction events generalizing s with
    | nil => trivial
    | cons event events ih =>
      by_cases meets : C s event
      · exact ⟨meets, ih (keeps s event init meets) holds.2⟩
      · exact absurd holds.2.first (breaks s event init meets)
  · exact fun meets => (throughout_of_meets keeps init meets).mono sound

instance decidableMeets [∀ s event, Decidable (C s event)] :
    ∀ s events, Decidable (Meets step C s events)
  | _, [] => inferInstanceAs (Decidable True)
  | s, event :: events =>
    have := decidableMeets (step s event) events
    inferInstanceAs (Decidable (C s event ∧ Meets step C (step s event) events))

end Steps
