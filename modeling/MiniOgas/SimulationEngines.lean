import MiniOgas.RateControl
import Mathlib.Algebra.BigOperators.Group.List.Lemmas

namespace MiniOgas

/-- A `simpy.Environment` with machine processes: the times of their next events in the order in
which these were scheduled, and the `state` that the processes share. -/
structure SimpyEnvironment where
  queue : List ℚ
  finished : Nat
  defects : Nat

section Engine

variable (profile : SimulatedProfile)

/-- The first `timeout` of each machine. -/
def steadyStatePhase (machineIndex : Nat) : ℚ :=
  profile.cycleTimeSec * (machineIndex + 1) / profile.machineCount

def simpyStart : SimpyEnvironment :=
  ⟨(List.range profile.machineCount).map (steadyStatePhase profile), 0, 0⟩

/-- A machine process goes on at its event, with what `rng.random()` gives. -/
def resumeMachine (draw time : ℚ) (env : SimpyEnvironment) : SimpyEnvironment where
  queue := env.queue.erase time ++ [time + profile.cycleTimeSec]
  finished := env.finished + 1
  defects := env.defects + if profile.baseYieldRate < draw then 1 else 0

/-- `env.run(until=until)`, which takes the events before `until` by their times. -/
def simpyRun (draws : Nat → ℚ) (horizon : ℚ) : Nat → SimpyEnvironment → Option SimpyEnvironment
  | 0, _ => none
  | fuel + 1, env =>
    match env.queue.min? with
    | some time =>
      if time < horizon then
        simpyRun draws horizon fuel (resumeMachine profile (draws env.finished) time env)
      else some env
    | none => some env

/-- The environment when `simpy_machine_state` reads it. -/
def simpyAt (settings : SimulationSettings) (tick : Nat) (draws : Nat → ℚ) (fuel : Nat) :
    Option SimpyEnvironment :=
  let untilSec := tick * settings.heartbeatSec * settings.simulationSpeed
  if untilSec = 0 then some (simpyStart profile)
  else simpyRun profile draws (untilSec + 1 / 10000) fuel (simpyStart profile)

end Engine

section Counting

variable {profile : SimulatedProfile} {elapsed : Nat} {draws : Nat → ℚ} {env : SimpyEnvironment}
  {slots : List Nat} {fuel : Nat} {slot : Nat}

/-- The parts that the machines finish until an elapsed time. -/
def partsBy (profile : SimulatedProfile) (elapsed : Nat) : Nat :=
  elapsed * profile.machineCount / profile.cycleTimeSec

/-- The time at which the part with a number is finished. -/
def slotTime (profile : SimulatedProfile) (slot : Nat) : ℚ :=
  profile.cycleTimeSec * slot / profile.machineCount

/-- The parts that the machine of a slot is to finish from it on. -/
def partsDue (profile : SimulatedProfile) (elapsed slot : Nat) : Nat :=
  (partsBy profile elapsed + profile.machineCount - slot) / profile.machineCount

theorem machineCount_pos (profile : SimulatedProfile) : (0 : ℚ) < profile.machineCount := by
  exact_mod_cast profile.manned

theorem slotTime_injective : Function.Injective (slotTime profile) := by
  intro first second same
  have cycle : (profile.cycleTimeSec : ℚ) ≠ 0 := by
    exact_mod_cast (Nat.lt_of_lt_of_le Nat.zero_lt_one profile.timed).ne'
  have machines := (machineCount_pos profile).ne'
  have same : (first : ℚ) = second := by
    rw [slotTime, slotTime, div_left_inj' machines] at same
    exact mul_left_cancel₀ cycle same
  exact_mod_cast same

theorem slotTime_add (slot : Nat) :
    slotTime profile (slot + profile.machineCount) =
      slotTime profile slot + profile.cycleTimeSec := by
  have machines := (machineCount_pos profile).ne'
  rw [slotTime, slotTime]
  push_cast
  field_simp

/-- The margin of the horizon takes in the parts that are finished at the tick itself. -/
theorem slotTime_lt_iff (few : (profile.machineCount : ℚ) * (1 / 10000) < 1) (slot : Nat) :
    slotTime profile slot < elapsed + 1 / 10000 ↔ slot ≤ partsBy profile elapsed := by
  have machines := machineCount_pos profile
  have timed := profile.timed
  rw [slotTime, div_lt_iff₀ machines, partsBy, Nat.le_div_iff_mul_le (by omega)]
  constructor
  · intro before
    have less : ((slot * profile.cycleTimeSec : Nat) : ℚ) <
        ((elapsed * profile.machineCount + 1 : Nat) : ℚ) := by
      push_cast
      linarith
    exact Nat.lt_succ_iff.mp (by exact_mod_cast less)
  · intro within
    have within : ((slot * profile.cycleTimeSec : Nat) : ℚ) ≤
        ((elapsed * profile.machineCount : Nat) : ℚ) := by exact_mod_cast within
    push_cast at within
    linarith

theorem partsDue_next (due : slot ≤ partsBy profile elapsed) :
    partsDue profile elapsed slot = partsDue profile elapsed (slot + profile.machineCount) + 1 := by
  have machines := profile.manned
  rw [partsDue, partsDue, Nat.add_sub_add_right, Nat.sub_add_comm due,
    Nat.add_div_right _ (by omega)]

theorem partsDue_over (beyond : partsBy profile elapsed < slot) :
    partsDue profile elapsed slot = 0 :=
  Nat.div_eq_of_lt (by have := profile.manned; omega)

theorem sum_partsDue (machines parts : Nat) (manned : 1 ≤ machines) :
    ((List.range machines).map fun i => (parts + machines - (i + 1)) / machines).sum = parts := by
  induction parts with
  | zero =>
    refine List.sum_eq_zero fun share member => ?_
    obtain ⟨i, -, rfl⟩ := List.mem_map.mp member
    exact Nat.div_eq_of_lt (by omega)
  | succ parts ih =>
    let share (i : Nat) : Nat := (parts + machines - i) / machines
    have shifted : ((List.range machines).map fun i =>
        (parts + 1 + machines - (i + 1)) / machines) = (List.range machines).map share := by
      refine List.map_congr_left fun i _ => ?_
      rw [show parts + 1 + machines - (i + 1) = parts + machines - i by omega]
    have ends : share 0 = share machines + 1 := by
      simp only [share, Nat.sub_zero, Nat.add_sub_cancel]
      exact Nat.add_div_right _ (by omega)
    have first : ((List.range (machines + 1)).map share).sum =
        share 0 + ((List.range machines).map (share ∘ Nat.succ)).sum := by
      rw [List.range_succ_eq_map, List.map_cons, List.map_map, List.sum_cons]
    have last : ((List.range (machines + 1)).map share).sum =
        ((List.range machines).map share).sum + share machines := by
      simp [List.range_succ]
    rw [shifted]
    have rest : ((List.range machines).map (share ∘ Nat.succ)).sum = parts := ih
    omega

theorem simpyRun_finished (few : (profile.machineCount : ℚ) * (1 / 10000) < 1)
    (queue : env.queue = slots.map (slotTime profile))
    (enough : (slots.map (partsDue profile elapsed)).sum < fuel) :
    ∃ later, simpyRun profile draws (elapsed + 1 / 10000) fuel env = some later ∧
      later.finished = env.finished + (slots.map (partsDue profile elapsed)).sum := by
  induction fuel generalizing env slots with
  | zero => omega
  | succ fuel ih =>
    rw [simpyRun]
    cases next : env.queue.min? with
    | none =>
      rw [List.min?_eq_none_iff, queue, List.map_eq_nil_iff] at next
      exact ⟨env, rfl, by simp [next]⟩
    | some time =>
      obtain ⟨member, least⟩ := List.min?_eq_some_iff.mp next
      dsimp only
      split
      next before =>
        rw [queue] at member
        obtain ⟨slot, pending, rfl⟩ := List.mem_map.mp member
        have due := (slotTime_lt_iff few slot).mp before
        have split : (slots.map (partsDue profile elapsed)).sum = _ :=
          ((List.perm_cons_erase pending).map _).sum_eq
        rw [List.map_cons, List.sum_cons, partsDue_next due] at split
        have resumed : (resumeMachine profile (draws env.finished) (slotTime profile slot)
            env).queue = (slots.erase slot ++ [slot + profile.machineCount]).map
              (slotTime profile) := by
          simp [resumeMachine, queue, List.map_erase slotTime_injective, slotTime_add]
        obtain ⟨later, ran, finished⟩ := ih resumed (by simp; omega)
        refine ⟨later, ran, ?_⟩
        rw [finished, split]
        simp [resumeMachine]
        omega
      next reached =>
        refine ⟨env, rfl, ?_⟩
        rw [List.sum_eq_zero, Nat.add_zero]
        intro due member
        obtain ⟨slot, pending, rfl⟩ := List.mem_map.mp member
        refine partsDue_over (Nat.lt_of_not_le fun early => reached ?_)
        have later := least (slotTime profile slot) (by
          rw [queue]
          exact List.mem_map_of_mem pending)
        exact later.trans_lt ((slotTime_lt_iff few slot).mpr early)

end Counting

/-- The two engines count the same parts at every tick. -/
theorem engines_agree (settings : SimulationSettings) (profile : SimulatedProfile) (tick : Nat)
    (noise : ℚ) (draws : Nat → ℚ) (scenario : String)
    (few : (profile.machineCount : ℚ) * (1 / 10000) < 1) :
    ∃ enough, ∀ fuel, enough ≤ fuel → ∃ env, simpyAt profile settings tick draws fuel = some env ∧
      (simpyMachineState profile scenario env.finished env.defects).finishedQuantity =
        (machineState settings profile tick noise).finishedQuantity := by
  let elapsed := tick * settings.heartbeatSec * settings.simulationSpeed
  have total : (((List.range profile.machineCount).map (· + 1)).map
      (partsDue profile elapsed)).sum = partsBy profile elapsed := by
    rw [List.map_map]
    exact sum_partsDue _ _ profile.manned
  refine ⟨partsBy profile elapsed + 1, fun fuel enough => ?_⟩
  unfold simpyAt
  by_cases idle : elapsed = 0
  · refine ⟨simpyStart profile, if_pos idle, ?_⟩
    show 0 = elapsed * profile.machineCount / profile.cycleTimeSec
    rw [idle, Nat.zero_mul, Nat.zero_div]
  · have queue : (simpyStart profile).queue =
        ((List.range profile.machineCount).map (· + 1)).map (slotTime profile) := by
      simp [simpyStart, slotTime, steadyStatePhase]
    rw [← total, Nat.succ_le_iff] at enough
    obtain ⟨env, ran, finished⟩ : ∃ env, simpyRun profile draws (elapsed + 1 / 10000) fuel
      (simpyStart profile) = some env ∧ _ := simpyRun_finished few queue enough
    refine ⟨env, (if_neg idle).trans ran, ?_⟩
    show env.finished = partsBy profile elapsed
    rw [finished, total]
    exact Nat.zero_add _

def sampleLathe : SimulatedProfile :=
  ⟨⟨"LATHE-01", "turning", 3, 135, Nat.le_add_left 1 2, Nat.le_add_left 1 134⟩, 975 / 1000, 84, 70⟩

/-- A part that is finished at the tick itself counts in both engines. -/
theorem engines_agree_tie : ∃ enough, ∀ fuel, enough ≤ fuel → ∃ env,
    simpyAt sampleLathe ⟨"normal", 5, 1⟩ 27 (fun _ => 0) fuel = some env ∧
      (simpyMachineState sampleLathe "SCN" env.finished env.defects).finishedQuantity =
        (machineState ⟨"normal", 5, 1⟩ sampleLathe 27 0).finishedQuantity :=
  engines_agree _ _ _ _ _ _ (by norm_num [sampleLathe])

end MiniOgas
