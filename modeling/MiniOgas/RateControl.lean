import MiniOgas.RateAgreement
import MiniOgas.ThrottledCounter

namespace MiniOgas

structure MachineAlarm where
  type : String
  severity : String
  status : String := "open"

structure MachineState where
  status : String
  finishedQuantity : Nat
  defectQuantity : Int
  toolWearLevel : ℚ
  spindleTemp : ℚ
  load : ℚ
  defectRate : ℚ
  alarms : List MachineAlarm
  syncPressure : Bool
  measured : 0 ≤ defectRate

structure SimulatedProfile extends MachineProfile where
  baseYieldRate : ℚ
  tempFault : ℚ
  toolWearWarning : ℚ

theorem roundFourth_nonneg {q : ℚ} (nonneg : 0 ≤ q) : 0 ≤ roundFourth q := by
  have rounded : (0 : ℚ) ≤ roundHalfEven (q * 10000) := by
    exact_mod_cast roundHalfEven_nonneg (by linarith)
  unfold roundFourth
  linarith

structure SimulationSettings where
  simulationMode : String := "normal"
  heartbeatSec : Nat := 5
  simulationSpeed : Nat := 1

section Simulation

variable (settings : SimulationSettings) (profile : SimulatedProfile) (tick : Nat)

def SimulationSettings.stressMode : Bool := settings.simulationMode = "demo_stress"

def stressPhase : Nat :=
  let offset := match settings.stressMode, profile.workshopType with
    | true, "turning" => 10
    | true, "milling" => 6
    | true, "grinding" => 52
    | _, _ => 0
  (tick + offset) % 72

def inFaultWindow (workshopType : String) (first last : Nat) (normal : Bool) : Bool :=
  profile.workshopType = workshopType &&
    if settings.stressMode then
      first ≤ stressPhase settings profile tick && stressPhase settings profile tick < last
    else normal

def tempFaultWindow : Bool :=
  inFaultWindow settings profile tick "turning" 34 46 (620 ≤ tick && tick < 644)

def syncPressureWindow : Bool :=
  inFaultWindow settings profile tick "milling" 18 34 (180 ≤ tick && tick < 210)

def wearWarningWindow : Bool :=
  inFaultWindow settings profile tick "grinding" 24 46 (900 ≤ tick)

def coolantWindow : Bool :=
  inFaultWindow settings profile tick "milling" 8 16 (260 ≤ tick && tick < 276)

def qualityWindow : Bool :=
  inFaultWindow settings profile tick "turning" 12 20 (340 ≤ tick && tick < 356)

def vibrationWindow : Bool :=
  inFaultWindow settings profile tick "grinding" 54 62 (720 ≤ tick && tick < 732)

def simulatedFinished : Nat :=
  tick * settings.heartbeatSec * settings.simulationSpeed * profile.machineCount /
    profile.cycleTimeSec

def simulatedToolWear : ℚ :=
  let wearStart := match profile.workshopType with
    | "milling" => 18
    | "turning" => 16
    | "grinding" => 14
    | _ => 18
  let wearRate := if settings.stressMode then 22 / 100 else 35 / 1000
  min 95 (wearStart + simulatedFinished settings profile tick * wearRate +
    if wearWarningWindow settings profile tick && settings.stressMode then 28 else 0)

def simulatedLoad : ℚ :=
  72 / 100 + min (18 / 100) (simulatedFinished settings profile tick * (4 / 1000))

/-- The temperature, with what `random.uniform(-1.2, 1.2)` gives. -/
def simulatedSpindleTemp (noise : ℚ) : ℚ :=
  54 + simulatedLoad settings profile tick * 18 +
    simulatedToolWear settings profile tick * (18 / 100) + noise +
    (if tempFaultWindow settings profile tick then 12 else 0) +
    (if syncPressureWindow settings profile tick || coolantWindow settings profile tick then 3
      else 0) +
    if vibrationWindow settings profile tick then 5 else 0

def simulatedDefectRate : ℚ :=
  max (1 / 100) (1 - profile.baseYieldRate) +
    (if profile.toolWearWarning < simulatedToolWear settings profile tick then
      (simulatedToolWear settings profile tick - profile.toolWearWarning) * (4 / 1000) else 0) +
    (if syncPressureWindow settings profile tick then 18 / 1000 else 0) +
    if qualityWindow settings profile tick then 35 / 1000 else 0

theorem simulatedDefectRate_nonneg : 0 ≤ simulatedDefectRate settings profile tick := by
  have base : (0 : ℚ) ≤ max (1 / 100) (1 - profile.baseYieldRate) :=
    le_max_of_le_left (by norm_num)
  refine add_nonneg (add_nonneg (add_nonneg base ?_) ?_) ?_
  · split
    next worn =>
      positivity
    next => rfl
  · split <;> norm_num
  · split <;> norm_num

def machineState (noise : ℚ) : MachineState :=
  let finished := simulatedFinished settings profile tick
  let toolWear := simulatedToolWear settings profile tick
  let spindleTemp := simulatedSpindleTemp settings profile tick noise
  let defectRate := simulatedDefectRate settings profile tick
  let worn := decide (profile.toolWearWarning ≤ toolWear)
  let overheated :=
    tempFaultWindow settings profile tick && decide (profile.tempFault ≤ spindleTemp)
  { status :=
      if overheated || vibrationWindow settings profile tick then "fault"
      else if worn || qualityWindow settings profile tick || coolantWindow settings profile tick ||
        syncPressureWindow settings profile tick then "warning"
      else "running"
    finishedQuantity := finished
    defectQuantity := truncate (finished * defectRate)
    toolWearLevel := roundHundredth toolWear
    spindleTemp := roundHundredth spindleTemp
    load := roundHundredth (simulatedLoad settings profile tick)
    defectRate := roundFourth defectRate
    alarms :=
      (if coolantWindow settings profile tick then [⟨"COOLANT_FLOW_LOW", "medium", "open"⟩]
        else []) ++
      (if qualityWindow settings profile tick then [⟨"QUALITY_DRIFT", "medium", "open"⟩] else []) ++
      (if worn then [⟨"TOOL_WEAR_WARNING", "medium", "open"⟩] else []) ++
      (if vibrationWindow settings profile tick then [⟨"VIBRATION_HIGH", "high", "open"⟩]
        else []) ++
      if overheated then [⟨"SPINDLE_TEMP_HIGH", "high", "open"⟩] else []
    syncPressure := syncPressureWindow settings profile tick
    measured := roundFourth_nonneg (simulatedDefectRate_nonneg settings profile tick) }

end Simulation

/-- `simpy_machine_state`, with the parts that the machines have finished and spoiled until the
tick and the scenario in upper case. -/
def simpyMachineState (profile : SimulatedProfile) (scenario : String) (finished spoiled : Nat) :
    MachineState :=
  let quality := containsText "QUALITY" scenario
  let wear := containsText "WEAR" scenario
  let hot := containsText "SPINDLE" scenario || containsText "TEMP" scenario
  let defects := if quality then max spoiled (max 1 (finished / 12)) else spoiled
  let load : ℚ := min (94 / 100) (62 / 100 + finished * (6 / 1000))
  let cutting : ℚ := min 95 (14 + finished * (45 / 1000))
  let toolWear := if wear then max cutting (profile.toolWearWarning + 2) else cutting
  let running : ℚ := 52 + load * 18 + cutting * (12 / 100) +
    (if containsText "COOLANT" scenario then 4 else 0) +
    if containsText "VIBRATION" scenario then 5 else 0
  { status :=
      if hot || containsText "VIBRATION" scenario then "fault"
      else if wear || quality || containsText "COOLANT" scenario || containsText "SYNC" scenario
        then "warning"
      else "running"
    finishedQuantity := finished
    defectQuantity := defects
    toolWearLevel := roundHundredth toolWear
    spindleTemp := roundHundredth (if hot then max running (profile.tempFault + 6) else running)
    load := roundHundredth load
    defectRate := roundFourth (if finished ≠ 0 then defects / finished else 0)
    alarms :=
      (if containsText "COOLANT" scenario then [⟨"COOLANT_FLOW_LOW", "medium", "open"⟩] else []) ++
      (if quality then [⟨"QUALITY_DRIFT", "medium", "open"⟩] else []) ++
      (if wear then [⟨"TOOL_WEAR_WARNING", "medium", "open"⟩] else []) ++
      (if containsText "VIBRATION" scenario then [⟨"VIBRATION_HIGH", "high", "open"⟩] else []) ++
      if hot then [⟨"SPINDLE_TEMP_HIGH", "high", "open"⟩] else []
    syncPressure := containsText "SYNC" scenario
    measured := by
      refine roundFourth_nonneg ?_
      split
      next => positivity
      next => exact le_rfl }

structure RateControl where
  lastRawFinished : ℚ
  controlledFinished : ℚ

/-- `COMMAND_TARGET_RATE` and `RATE_CONTROL_STATE`. -/
structure RateMemory where
  commandTargetRate : Option ℚ := none
  rateControlState : Dictionary String RateControl := .empty

structure AdjustedState where
  state : MachineState
  rawFinishedQuantity : Int
  finishedQuantity : Int
  defectQuantity : Int

section Control

variable (profile : MachineProfile) (state : MachineState) (memory : RateMemory)

def rateControl : RateControl :=
  match memory.rateControlState.get? profile.workshopType with
  | some control =>
    if (state.finishedQuantity : Int) < truncate control.lastRawFinished then
      ⟨state.finishedQuantity, state.finishedQuantity⟩
    else control
  | none => ⟨state.finishedQuantity, state.finishedQuantity⟩

def controlledDelta (rawDelta : ℚ) : ℚ :=
  match memory.commandTargetRate with
  | none => rawDelta
  | some targetRate =>
    let nominalPerMinute := profile.nominalCapacityPerHour / 60
    let utilization := min 1 (max 0 state.load)
    let defectRate := min 1 (max 0 state.defectRate)
    let effectiveTarget := targetRate * utilization * (1 - defectRate)
    rawDelta * min 1 (effectiveTarget / nominalPerMinute)

def applyRateControlToState : AdjustedState × RateMemory :=
  let control := rateControl profile state memory
  let rawDelta := max 0 (state.finishedQuantity - control.lastRawFinished)
  let controlled := control.controlledFinished + controlledDelta profile state memory rawDelta
  let finished := truncate controlled
  let defects := min finished (roundHalfEven (finished * state.defectRate))
  (⟨state, state.finishedQuantity, finished, defects⟩,
    { memory with
      rateControlState :=
        memory.rateControlState.set profile.workshopType ⟨state.finishedQuantity, controlled⟩ })

end Control

/-- The target rate of `production_flow_metrics`, before it is rounded. -/
def reportedTargetRate (profile : MachineProfile) (memory : RateMemory) : ℚ :=
  memory.commandTargetRate.getD (profile.nominalCapacityPerHour / 60)

def RateMemory.command (memory : RateMemory) (targetRate : Option ℚ) : RateMemory :=
  { memory with commandTargetRate := targetRate }

def controlledStates (profile : MachineProfile) :
    RateMemory → List (Option ℚ × MachineState) → List AdjustedState
  | _, [] => []
  | memory, (targetRate, state) :: rest =>
    let (adjusted, memory) := applyRateControlToState profile state (memory.command targetRate)
    adjusted :: controlledStates profile memory rest

inductive RateMemory.Reached (profile : MachineProfile) : RateMemory → Prop
  | started (restored : Option ℚ) : Reached profile { commandTargetRate := restored }
  | commanded {memory : RateMemory} (before : Reached profile memory) (targetRate : ℚ) :
      Reached profile (memory.command (some targetRate))
  | reported {memory : RateMemory} (before : Reached profile memory) (state : MachineState) :
      Reached profile (applyRateControlToState profile state memory).2

end MiniOgas
