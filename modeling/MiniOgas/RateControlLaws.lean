import MiniOgas.RateControl
import MiniOgas.RoundingLaws

namespace MiniOgas

open Bounded Throttle

section Shares

variable (profile : MachineProfile) (targetRate : Option ℚ) (state : MachineState)

def controlShare : ℚ :=
  match targetRate with
  | none => 1
  | some targetRate =>
    min 1 (targetRate * min 1 (max 0 state.load) * (1 - min 1 (max 0 state.defectRate)) /
      (profile.nominalCapacityPerHour / 60))

def controlReading : Reading := ⟨state.finishedQuantity, controlShare profile targetRate state⟩

end Shares

structure RateControl.Counts (control : RateControl) (counter : Counter) : Prop where
  last : control.lastRawFinished = counter.last
  controlled : control.controlledFinished = counter.passed

abbrev RateMemory.Counts (profile : MachineProfile) (memory : RateMemory)
    (counter : Option Counter) : Prop :=
  Option.Rel RateControl.Counts (memory.rateControlState.get? profile.workshopType) counter

def AdjustedState.quantities (adjusted : AdjustedState) : Int × Int :=
  (adjusted.finishedQuantity, adjusted.defectQuantity)

variable {profile : MachineProfile} {state : MachineState} {memory : RateMemory}
  {counter : Option Counter} {targetRate : Option ℚ} {rate : ℚ}
  {steps : List (Option ℚ × MachineState)} {later : List MachineState}

theorem truncate_of_nonneg {q : ℚ} (nonneg : 0 ≤ q) : truncate q = ⌊q⌋ := by
  unfold truncate
  rw [if_pos nonneg]
  rfl

theorem controlShare_fair (positive : ∀ rate ∈ targetRate, 0 < rate) :
    (controlReading profile targetRate state).Fair := by
  have capacity := nominalCapacityPerHour_pos profile
  cases targetRate with
  | none => exact ⟨zero_le_one, le_rfl⟩
  | some rate =>
    have above := positive rate rfl
    have good : (0 : ℚ) ≤ 1 - min 1 (max 0 state.defectRate) := sub_nonneg.mpr (min_le_left _ _)
    exact ⟨le_min zero_le_one (by positivity), min_le_left _ _⟩

theorem controlShare_nominal :
    controlShare profile (some (profile.nominalCapacityPerHour / 60)) state = 1 ↔
      1 ≤ state.load ∧ state.defectRate = 0 := by
  have capacity := nominalCapacityPerHour_pos profile
  have nonzero : profile.nominalCapacityPerHour / 60 ≠ 0 := by positivity
  unfold controlShare
  dsimp only
  rw [mul_assoc, mul_div_cancel_left₀ _ nonzero]
  have load : (0 : ℚ) ≤ min 1 (max 0 state.load) := le_min zero_le_one (le_max_left _ _)
  have most : min 1 (max 0 state.load) ≤ (1 : ℚ) := min_le_left _ _
  have spoils : (0 : ℚ) ≤ min 1 (max 0 state.defectRate) := le_min zero_le_one (le_max_left _ _)
  rw [min_eq_left_iff]
  constructor
  · intro all
    have loaded : (1 : ℚ) ≤ min 1 (max 0 state.load) := by nlinarith
    have clean : min 1 (max 0 state.defectRate) ≤ (0 : ℚ) := by nlinarith
    refine ⟨?_, le_antisymm ?_ state.measured⟩
    · rcases le_max_iff.mp (le_min_iff.mp loaded).2 with none | full
      · norm_num at none
      · exact full
    · rcases min_le_iff.mp clean with one | none
      · norm_num at one
      · exact (max_le_iff.mp none).2
  · rintro ⟨full, clean⟩
    rw [clean, max_self, min_eq_right zero_le_one, sub_zero, mul_one]
    exact le_min le_rfl (full.trans (le_max_right _ _))

theorem rateControl_counts (counts : memory.Counts profile counter) :
    (rateControl profile state memory).Counts (resumed counter state.finishedQuantity) := by
  unfold RateMemory.Counts at counts
  unfold rateControl resumed
  generalize memory.rateControlState.get? profile.workshopType = known at counts ⊢
  cases counts with
  | none => exact ⟨rfl, rfl⟩
  | @some control old same =>
    have whole : truncate control.lastRawFinished = old.last := by
      rw [same.last, truncate_of_nonneg (Nat.cast_nonneg _), Int.floor_natCast]
    dsimp only
    by_cases below : state.finishedQuantity < old.last
    · rw [if_pos below, if_pos (by rw [whole]; exact_mod_cast below)]
      exact ⟨rfl, rfl⟩
    · rw [if_neg below, if_neg (by rw [whole]; exact_mod_cast below)]
      exact same

theorem controlledDelta_eq (profile : MachineProfile) (state : MachineState) (memory : RateMemory)
    (rawDelta : ℚ) : controlledDelta profile state memory rawDelta =
      rawDelta * controlShare profile memory.commandTargetRate state := by
  unfold controlledDelta controlShare
  cases memory.commandTargetRate with
  | none => exact (mul_one _).symm
  | some rate => rfl

structure AdjustedState.Shows (adjusted : AdjustedState) (counter : Counter) : Prop where
  raw : adjusted.rawFinishedQuantity = counter.last
  finished : adjusted.finishedQuantity = truncate counter.passed
  defects : adjusted.defectQuantity = min adjusted.finishedQuantity
    (roundHalfEven (adjusted.finishedQuantity * adjusted.state.defectRate))

theorem applyRateControlToState_counts (counts : memory.Counts profile counter) :
    (applyRateControlToState profile state memory).2.Counts profile
        (some (after counter (controlReading profile memory.commandTargetRate state))) ∧
      (applyRateControlToState profile state memory).1.Shows
        (after counter (controlReading profile memory.commandTargetRate state)) := by
  have resumes := @rateControl_counts profile state memory counter counts
  have least := resumed_last_le counter state.finishedQuantity
  have grows :
      (0 : ℚ) ≤ state.finishedQuantity - (resumed counter state.finishedQuantity).last := by
    rw [sub_nonneg]
    exact_mod_cast least
  have passed : (rateControl profile state memory).controlledFinished +
      controlledDelta profile state memory
        (max 0 (state.finishedQuantity - (rateControl profile state memory).lastRawFinished)) =
      (after counter (controlReading profile memory.commandTargetRate state)).passed := by
    rw [controlledDelta_eq, resumes.last, resumes.controlled, max_eq_right grows]
    rfl
  unfold applyRateControlToState
  dsimp only
  rw [passed]
  refine ⟨?_, rfl, rfl, rfl⟩
  unfold RateMemory.Counts
  rw [Dictionary.get?_set, if_pos rfl]
  exact .some ⟨rfl, rfl⟩

def controlReadings (profile : MachineProfile) (steps : List (Option ℚ × MachineState)) :
    List Reading :=
  steps.map fun step => controlReading profile step.1 step.2

theorem controlReadings_fair (positive : ∀ step ∈ steps, ∀ rate ∈ step.1, 0 < rate) :
    ∀ reading ∈ controlReadings profile steps, reading.Fair := by
  intro reading member
  obtain ⟨step, taken, rfl⟩ := List.mem_map.mp member
  exact controlShare_fair (positive step taken)

theorem controlledStates_shows (counts : memory.Counts profile counter) :
    List.Forall₂ AdjustedState.Shows (controlledStates profile memory steps)
      (trace counter (controlReadings profile steps)) := by
  induction steps generalizing memory counter with
  | nil => exact .nil
  | cons step steps ih =>
    obtain ⟨targetRate, state⟩ := step
    obtain ⟨next, shows⟩ := @applyRateControlToState_counts profile state
      (memory.command targetRate) counter counts
    exact .cons shows (ih next)

theorem controlledStates_states (profile : MachineProfile) (memory : RateMemory)
    (steps : List (Option ℚ × MachineState)) :
    (controlledStates profile memory steps).map (fun adjusted =>
      (adjusted.state, adjusted.rawFinishedQuantity)) =
        steps.map fun step => (step.2, (step.2.finishedQuantity : Int)) := by
  induction steps generalizing memory with
  | nil => rfl
  | cons step steps ih => exact congrArg _ (ih _)

theorem AdjustedState.Shows.sound {adjusted : AdjustedState} {shown : Counter}
    (shows : adjusted.Shows shown) (sound : shown.Sound) :
    0 ≤ adjusted.defectQuantity ∧ adjusted.defectQuantity ≤ adjusted.finishedQuantity ∧
      adjusted.finishedQuantity ≤ adjusted.rawFinishedQuantity := by
  have floor := sound.floor
  rw [← truncate_of_nonneg sound.nonneg, ← shows.finished, ← shows.raw] at floor
  have measured : (0 : ℚ) ≤ adjusted.finishedQuantity * adjusted.state.defectRate :=
    mul_nonneg (by exact_mod_cast floor.1) adjusted.state.measured
  have rounded := roundHalfEven_nonneg measured
  rw [shows.defects]
  exact ⟨le_min floor.1 rounded, min_le_left _ _, floor.2⟩

/-- The reports of a later state: more, but by no more than the machines have made since. -/
def AdjustedState.Grows (earlier later : AdjustedState) : Prop :=
  earlier.finishedQuantity ≤ later.finishedQuantity ∧
    later.finishedQuantity - earlier.finishedQuantity ≤
      later.rawFinishedQuantity - earlier.rawFinishedQuantity

theorem controlledStates_grow (counts : memory.Counts profile counter)
    (sound : ∀ old ∈ counter, old.Sound)
    (positive : ∀ step ∈ steps, ∀ rate ∈ step.1, 0 < rate)
    (grows : (steps.map (·.2.finishedQuantity)).Pairwise (· ≤ ·)) :
    (controlledStates profile memory steps).Pairwise AdjustedState.Grows := by
  have fair := @controlReadings_fair profile steps positive
  have raws : (controlReadings profile steps).map (·.raw) =
      steps.map (·.2.finishedQuantity) := by
    unfold controlReadings
    rw [List.map_map]
    rfl
  have moves := (@trace_advances counter _ fair (raws ▸ grows)).2
  have sounds := trace_sound fair sound
  have shows := @controlledStates_shows profile _ _ steps counts
  have pairs := forall₂_map_eq (f := fun adjusted : AdjustedState =>
    (adjusted.finishedQuantity, adjusted.rawFinishedQuantity))
    (g := fun shown : Counter => (truncate shown.passed, (shown.last : Int)))
    (fun adjusted shown same => by rw [same.finished, same.raw]) shows
  have advanced : ((trace counter (controlReadings profile steps)).map fun shown =>
      (truncate shown.passed, (shown.last : Int))).Pairwise fun earlier later =>
        earlier.1 ≤ later.1 ∧ later.1 - earlier.1 ≤ later.2 - earlier.2 := by
    rw [List.pairwise_map]
    refine List.Pairwise.imp_of_mem (fun {old new} first second advances => ?_) moves
    rw [truncate_of_nonneg (sounds old first).nonneg, truncate_of_nonneg (sounds new second).nonneg]
    exact advances.floor
  rw [← pairs, List.pairwise_map] at advanced
  exact advanced

/-- Whatever the target rates, an agent that starts reports quantities that never fall, never pass
those of its machines and grow with them at most, and a part of them as defects. -/
theorem controlledStates_sound (profile : MachineProfile)
    (steps : List (Option ℚ × MachineState))
    (rates : ∀ step ∈ steps, ∀ rate ∈ step.1,
      0 < rate ∧ rate ≤ profile.nominalCapacityPerHour / 60)
    (grows : (steps.map (·.2.finishedQuantity)).Pairwise (· ≤ ·)) :
    let reports := controlledStates profile {} steps
    reports.map (fun adjusted => (adjusted.state, adjusted.rawFinishedQuantity)) =
        steps.map (fun step => (step.2, (step.2.finishedQuantity : Int))) ∧
      reports.Pairwise AdjustedState.Grows ∧
      ∀ adjusted ∈ reports, 0 ≤ adjusted.defectQuantity ∧
        adjusted.defectQuantity ≤ adjusted.finishedQuantity ∧
        adjusted.finishedQuantity ≤ adjusted.rawFinishedQuantity := by
  have counts : (RateMemory.mk none .empty).Counts profile none := .none
  have positive : ∀ step ∈ steps, ∀ rate ∈ step.1, 0 < rate := fun step member rate given =>
    (rates step member rate given).1
  have none : ∀ old ∈ (none : Option Counter), old.Sound := by
    intro old absent
    cases absent
  refine ⟨controlledStates_states profile _ steps,
    controlledStates_grow counts none positive grows, ?_⟩
  intro adjusted member
  have shows := @controlledStates_shows profile _ _ steps counts
  obtain ⟨shown, traced, same⟩ := exists_right_of_forall₂ shows member
  exact same.sound (trace_sound (controlReadings_fair positive) none shown traced)

def laterStates (profile : MachineProfile) (memory : RateMemory) (later : List MachineState) :
    List AdjustedState :=
  controlledStates profile memory (later.map fun state => (memory.commandTargetRate, state))

/-- Whatever the machines make, they make at full load and without a defect. -/
def RunsFull : Option ℚ → List MachineState → Prop
  | _, [] => True
  | last, state :: rest =>
    (∀ n ∈ last, n < state.finishedQuantity → 1 ≤ state.load ∧ state.defectRate = 0) ∧
      RunsFull (some state.finishedQuantity) rest

def laterReadings (profile : MachineProfile) (targetRate : Option ℚ)
    (later : List MachineState) : List Reading :=
  later.map (controlReading profile targetRate)

theorem laterReadings_fair (positive : ∀ rate ∈ targetRate, 0 < rate) :
    ∀ reading ∈ laterReadings profile targetRate later, reading.Fair := by
  intro reading member
  obtain ⟨state, -, rfl⟩ := List.mem_map.mp member
  exact controlShare_fair positive

theorem laterReadings_raw :
    (laterReadings profile targetRate later).map (fun reading => (reading.raw : Int)) =
      later.map fun state => (state.finishedQuantity : Int) := by
  unfold laterReadings
  rw [List.map_map]
  rfl

theorem unthrottled_free {last : Option Nat} :
    Unthrottled last (laterReadings profile none later) := by
  refine unthrottled_of_one fun reading member => ?_
  obtain ⟨state, -, rfl⟩ := List.mem_map.mp member
  rfl

theorem unthrottled_nominal {last : Option Nat} {whole : Option ℚ}
    (same : whole = last.map fun n : Nat => (n : ℚ)) :
    Unthrottled last (laterReadings profile (some (profile.nominalCapacityPerHour / 60)) later) ↔
      RunsFull whole later := by
  induction later generalizing last whole with
  | nil => exact Iff.rfl
  | cons state later ih =>
    unfold RunsFull laterReadings
    refine and_congr ?_ (@ih (some state.finishedQuantity) _ rfl)
    rw [same]
    unfold controlReading
    rw [controlShare_nominal]
    cases last with
    | none => exact iff_of_true (by intro n absent; cases absent) (by intro n absent; cases absent)
    | some n => simp

theorem RateMemory.Reached.counts (reached : RateMemory.Reached profile memory) :
    ∃ counter, memory.Counts profile counter ∧
      (memory.commandTargetRate = none → ∀ old ∈ counter, old.passed = old.last) := by
  induction reached with
  | started restored =>
    refine ⟨none, .none, fun _ old absent => ?_⟩
    cases absent
  | commanded before rate ih =>
    obtain ⟨counter, counts, -⟩ := ih
    refine ⟨counter, counts, fun absent => ?_⟩
    cases absent
  | @reported memory before state ih =>
    obtain ⟨counter, counts, whole⟩ := ih
    refine ⟨_, (applyRateControlToState_counts counts).1, fun absent old taken => ?_⟩
    cases taken
    have absent : memory.commandTargetRate = none := absent
    rw [absent]
    have all : (controlReading profile none state).Fair := controlShare_fair (by
      intro rate given
      cases given)
    have sound : (after counter (controlReading profile none state)).Sound := by
      refine after_sound (fun old member => ?_) all
      have same := whole absent old member
      exact ⟨same ▸ Nat.cast_nonneg _, same.le⟩
    refine passed_eq_of_floor sound ((after_whole (whole absent) all).mpr ?_)
    intro _ _ _
    rfl

theorem laterStates_quantities (profile : MachineProfile) (memory : RateMemory)
    (later : List MachineState) :
    (laterStates profile memory later).map AdjustedState.quantities =
      List.zipWith (fun finished state => (finished,
          min finished (roundHalfEven (finished * MachineState.defectRate state))))
        ((laterStates profile memory later).map (·.finishedQuantity)) later := by
  induction later generalizing memory with
  | nil => rfl
  | cons state later ih => exact congrArg _ (ih _)

theorem laterStates_finished (counts : memory.Counts profile counter)
    (whole : ∀ old ∈ counter, old.passed = old.last)
    (positive : ∀ rate ∈ memory.commandTargetRate, 0 < rate) :
    (laterStates profile memory later).map (·.finishedQuantity) =
      (trace counter (laterReadings profile memory.commandTargetRate later)).map (⌊·.passed⌋) := by
  have sounds := trace_sound (@laterReadings_fair profile _ later positive)
    fun old member => (⟨whole old member ▸ Nat.cast_nonneg _, (whole old member).le⟩ : old.Sound)
  have readings :
      controlReadings profile (later.map fun state => (memory.commandTargetRate, state)) =
        laterReadings profile memory.commandTargetRate later := by
    unfold controlReadings laterReadings
    rw [List.map_map]
    rfl
  have shows := @controlledStates_shows profile _ _
    (later.map fun state => (memory.commandTargetRate, state)) counts
  rw [readings] at shows
  rw [← List.map_congr_left fun old member => truncate_of_nonneg (sounds old member).nonneg]
  exact forall₂_map_eq (fun adjusted shown same => same.finished) shows

theorem laterStates_quantities_eq_iff {memory' : RateMemory} :
    (laterStates profile memory' later).map AdjustedState.quantities =
        (laterStates profile memory later).map AdjustedState.quantities ↔
      (laterStates profile memory' later).map (·.finishedQuantity) =
        (laterStates profile memory later).map (·.finishedQuantity) := by
  constructor
  · intro same
    have firsts := congrArg (List.map Prod.fst) same
    rwa [List.map_map, List.map_map] at firsts
  · intro same
    rw [laterStates_quantities, laterStates_quantities, same]

/-- A command for the rate in force leaves the quantities as they are exactly when a rate has been
commanded before or the machines run at full load without a defect whenever they make anything. -/
theorem rateInForce_neutral_iff (reached : RateMemory.Reached profile memory)
    (later : List MachineState) :
    (laterStates profile (memory.command (some (reportedTargetRate profile memory))) later).map
          AdjustedState.quantities =
        (laterStates profile memory later).map AdjustedState.quantities ↔
      memory.commandTargetRate.isSome = true ∨
        RunsFull ((memory.rateControlState.get? profile.workshopType).map (·.lastRawFinished))
          later := by
  obtain ⟨counter, counts, whole⟩ := reached.counts
  cases inForce : memory.commandTargetRate with
  | some rate =>
    have same : memory.command (some (reportedTargetRate profile memory)) = memory := by
      unfold RateMemory.command reportedTargetRate
      rw [inForce, Option.getD_some, ← inForce]
    rw [same]
    exact iff_of_true rfl (.inl rfl)
  | none =>
    have whole := whole inForce
    have capacity := nominalCapacityPerHour_pos profile
    have nominal : reportedTargetRate profile memory = profile.nominalCapacityPerHour / 60 := by
      unfold reportedTargetRate
      rw [inForce, Option.getD_none]
    have positive : ∀ rate ∈ some (profile.nominalCapacityPerHour / 60), 0 < rate := by
      intro rate given
      cases given
      positivity
    have free : ∀ rate ∈ (none : Option ℚ), 0 < rate := by
      intro rate given
      cases given
    have last : (memory.rateControlState.get? profile.workshopType).map (·.lastRawFinished) =
        (counter.map (·.last)).map fun n : Nat => (n : ℚ) := by
      unfold RateMemory.Counts at counts
      generalize memory.rateControlState.get? profile.workshopType = known at counts ⊢
      cases counts with
      | none => rfl
      | some same => exact congrArg some same.last
    have all := (trace_whole_iff (laterReadings_fair free) whole).mpr
      (@unthrottled_free profile later _)
    have part := trace_whole_iff (@laterReadings_fair profile _ later positive) whole
    rw [laterReadings_raw] at all part
    have commanded := @laterStates_finished profile (memory.command
      (some (profile.nominalCapacityPerHour / 60))) counter later counts whole positive
    have uncommanded := @laterStates_finished profile memory counter later counts whole
      (inForce ▸ free)
    rw [inForce] at uncommanded
    rw [nominal, laterStates_quantities_eq_iff, commanded, uncommanded, all]
    refine part.trans ((unthrottled_nominal last).trans ?_)
    simp

def turningProfile : SimulatedProfile where
  code := "LATHE-01"
  workshopType := "turning"
  machineCount := 3
  cycleTimeSec := 135
  manned := by omega
  timed := by omega
  baseYieldRate := 975 / 1000
  tempFault := 84
  toolWearWarning := 70

def turningStates : List MachineState :=
  [machineState {} turningProfile 1 0, machineState {} turningProfile 27 0]

/-- The machines have finished three parts, of which the command for the rate in force lets two
be reported. -/
theorem nominal_command_slows_output :
    RateMemory.Reached turningProfile.toMachineProfile {} ∧
    ((laterStates turningProfile.toMachineProfile {} turningStates).map
      (·.finishedQuantity) = [0, 3]) ∧
    (laterStates turningProfile.toMachineProfile (RateMemory.command {}
        (some (reportedTargetRate turningProfile.toMachineProfile {}))) turningStates).map
      (·.finishedQuantity) = [0, 2] :=
  ⟨.started none, by decide +kernel, by decide +kernel⟩

theorem turningStates_neutral_iff :
    (laterStates turningProfile.toMachineProfile (RateMemory.command {}
          (some (reportedTargetRate turningProfile.toMachineProfile {}))) turningStates).map
          AdjustedState.quantities =
        (laterStates turningProfile.toMachineProfile {} turningStates).map
          AdjustedState.quantities ↔
      (none : Option ℚ).isSome = true ∨ RunsFull none turningStates :=
  rateInForce_neutral_iff (.started none) turningStates

theorem turningStates_sound :
    (controlledStates turningProfile.toMachineProfile {}
      (turningStates.zip [none, some 1] |>.map Prod.swap)).Pairwise AdjustedState.Grows :=
  (controlledStates_sound turningProfile.toMachineProfile _ (by decide +kernel)
    (by decide +kernel)).2.1

end MiniOgas
