import MiniOgas.CommandDelivery
import MiniOgas.ApprovalGate

namespace MiniOgas

open Procedure Serial CommandControlService DispatchControlService

structure MachineProfile where
  code : String
  workshopType : String
  machineCount : Nat
  cycleTimeSec : Nat
  manned : 1 ≤ machineCount
  timed : 1 ≤ cycleTimeSec

def MachineProfile.nominalCapacityPerHour (profile : MachineProfile) : ℚ :=
  profile.machineCount * 3600 / profile.cycleTimeSec

/-- `round(q, 1)`. -/
def roundTenth (q : ℚ) : ℚ := roundHalfEven (q * 10) / 10

/-- `round(q, 2)`. -/
def roundHundredth (q : ℚ) : ℚ := roundHalfEven (q * 100) / 100

/-- `round(q, 4)`. -/
def roundFourth (q : ℚ) : ℚ := roundHalfEven (q * 10000) / 10000

structure MachineReading where
  load : ℚ
  defectRate : ℚ
  finishedQuantity : Int
  rawFinishedQuantity : Int
  defectQuantity : Int
  toolWearLevel : ℚ
  spindleTemp : ℚ
  syncPressure : Bool

section Metrics

variable (profile : MachineProfile) (commandTargetRate : Option ℚ) (reading : MachineReading)
  (tick : Nat)

def productionFlowMetrics : Fields :=
  let nominal := profile.nominalCapacityPerHour
  let targetRate := commandTargetRate.getD (nominal / 60)
  let utilization := min (98 / 100) (max 0 reading.load)
  let defectRate := min 1 (max 0 reading.defectRate)
  let actualRate := targetRate * utilization * max 0 (1 - defectRate)
  let queuePressure : Int := if reading.syncPressure then 4 else 0
  let wipInput := max 0 (6 + (tick % 9 : Nat) + queuePressure)
  let wipOutput := max 0 (min wipInput (roundHalfEven (actualRate * 4)))
  [("wip_input", .int wipInput), ("wip_output", .int wipOutput),
    ("target_rate", .float (roundRate targetRate)),
    ("actual_rate", .float (roundRate actualRate)), ("rate_unit", .str "parts_per_minute"),
    ("machine_count", .int profile.machineCount), ("process_time_sec", .int profile.cycleTimeSec),
    ("nominal_capacity_per_hour", .float (roundTenth nominal)),
    ("target_rate_per_hour", .float (roundTenth (targetRate * 60))),
    ("actual_rate_per_hour", .float (roundTenth (actualRate * 60))),
    ("utilization", .float (roundRate utilization)),
    ("defect_rate",
      .float (roundFourth (if reading.finishedQuantity ≠ 0 then defectRate else 0)))]

/-- The `production` of `heartbeat_payload`. -/
def heartbeatProduction (activeOrder activePartId dispatchPolicy : String) : Fields :=
  [("active_order", .str activeOrder), ("active_part_id", .str activePartId),
    ("dispatch_policy", .str dispatchPolicy), ("machine_code", .str profile.code),
    ("workshop_type", .str profile.workshopType),
    ("finished_quantity", .int reading.finishedQuantity),
    ("raw_finished_quantity", .int reading.rawFinishedQuantity),
    ("defect_quantity", .int reading.defectQuantity),
    ("tool_wear_level", .float reading.toolWearLevel),
    ("spindle_temp", .float reading.spindleTemp)] ++
    productionFlowMetrics profile commandTargetRate reading tick

end Metrics

def MachineProfile.settings (profile : MachineProfile) (builtins : Builtins)
    (parseTime : String → Option Timestamp) : AgentSettings :=
  ⟨builtins, parseTime, profile.nominalCapacityPerHour / 60⟩

/-- `float(value)` keeps the value of a number. -/
structure Builtins.ExactFloat (builtins : Builtins) : Prop where
  float : ∀ q, builtins.float (.float q) = some q
  int : ∀ n, builtins.float (.int n) = some n

/-- The latest heartbeat of a node is one that an agent with a profile has sent. -/
def MemoryStore.Reports (store : MemoryStore) (nodeCode : String) (profile : MachineProfile) :
    Prop :=
  ∃ commandTargetRate reading tick activeOrder activePartId dispatchPolicy,
    ((store.nodeHeartbeatsV2.get? nodeCode).getD []).get "production" =
      .obj (heartbeatProduction profile commandTargetRate reading tick activeOrder activePartId
        dispatchPolicy)

inductive RateAccepted (env : ControlEnv) (state : ControlState) (nodeCode : String) : ℚ → Prop
  | issued {issue : TargetRateIssue} (node : issue.nodeCode = nodeCode)
      (positive : 0 < issue.targetRate)
      (passes : requireCapacity env issue state = .ok () state) :
      RateAccepted env state nodeCode issue.targetRate
  | proposed {order : AllocationOrder} {limit : ℚ}
      (passes : validate env state order nodeCode = .ok limit) :
      RateAccepted env state nodeCode (requestedRate order)

structure NodeCommand.Applicable (settings : AgentSettings) (db : LocalDatabase)
    (memory : CommandMemory) (now : Timestamp) (targetRate : ℚ) (command : NodeCommand) : Prop where
  kind : command.commandType = "set_target_rate"
  rate : command.parameters.get "target_rate" = .float targetRate
  numbered : 1 ≤ command.id
  version : command.version = 1
  fresh : appliedCommandRecord db command.id (command.localKey settings) = none
  unknown : (command.id : Int) ∉ memory.appliedCommandIds
  timely : ∀ t, command.expiresAt = some t → now < t

/-- The agent executes every command for a rate, and restores the rate when no later command has
set another. -/
def RateHonoured (settings : AgentSettings) (targetRate : ℚ) : Prop :=
  ∀ (command : NodeCommand) (db : LocalDatabase) (memory : CommandMemory)
    (now storedAt : Timestamp), command.Applicable settings db memory now targetRate →
    ∃ message db',
      applyAgentCommand settings command.payload db memory now storedAt =
        some (("executed", message), db',
          ⟨some (roundRate targetRate), command.id :: memory.appliedCommandIds⟩) ∧
      ((∀ item ∈ db.localCommands.items, item.2.setsRate = true →
          reportKey item ≤ toLex (storedAt, (command.id : Int))) →
        restoreLocalCommandState settings db' = ⟨some (roundRate targetRate), []⟩)

def MachineProfile.reportedLimit (profile : MachineProfile) : ℚ :=
  if roundTenth profile.nominalCapacityPerHour = 0 then profile.nominalCapacityPerHour / 60
  else roundTenth profile.nominalCapacityPerHour / 60

section Reported

variable {env : ControlEnv} {state : ControlState} {nodeCode : String} {profile : MachineProfile}
  {targetRate : ℚ} {q : ℚ}

theorem nominalCapacityPerHour_pos (profile : MachineProfile) :
    0 < profile.nominalCapacityPerHour := by
  have machines : (0 : ℚ) < profile.machineCount := by exact_mod_cast profile.manned
  have cycle : (0 : ℚ) < profile.cycleTimeSec := by exact_mod_cast profile.timed
  unfold MachineProfile.nominalCapacityPerHour
  positivity

theorem roundHalfEven_nonneg (nonneg : 0 ≤ q) : 0 ≤ roundHalfEven q := by
  have floor : 0 ≤ q.floor := Rat.le_floor_iff.mpr (by exact_mod_cast nonneg)
  unfold roundHalfEven
  dsimp only
  split
  next => exact floor
  split
  next => omega
  split <;> omega

theorem roundTenth_nonneg (nonneg : 0 ≤ q) : 0 ≤ roundTenth q := by
  have rounded : (0 : ℚ) ≤ roundHalfEven (q * 10) := by
    exact_mod_cast roundHalfEven_nonneg (by linarith)
  unfold roundTenth
  linarith

theorem capacityField_int {builtins : Builtins} {fields : Fields} {key : String} {n : Int}
    (exact : builtins.ExactFloat) (found : fields.get key = .int n) :
    capacityField builtins fields key = some (n : ℚ) := by
  unfold capacityField
  rw [found]
  by_cases zero : n = 0 <;> simp [Json.or, Json.truthy, zero, exact.int]

theorem capacityField_float {builtins : Builtins} {fields : Fields} {key : String}
    (exact : builtins.ExactFloat) (found : fields.get key = .float q) :
    capacityField builtins fields key = some q := by
  unfold capacityField
  rw [found]
  by_cases zero : q = 0 <;> simp [Json.or, Json.truthy, zero, exact.float, exact.int]

theorem reportedPhysicalRateLimitPerMinute_eq (exact : env.store.builtins.ExactFloat)
    (reported : state.store.Reports nodeCode profile) :
    reportedPhysicalRateLimitPerMinute env.store.builtins state.store nodeCode =
      some profile.reportedLimit := by
  obtain ⟨commandTargetRate, reading, tick, order, part, policy, reported⟩ := reported
  have rounded := roundTenth_nonneg (nominalCapacityPerHour_pos profile).le
  unfold reportedPhysicalRateLimitPerMinute
  rw [reported]
  dsimp only [Json.dict]
  rw [capacityField_float exact (q := roundTenth profile.nominalCapacityPerHour)
      (by simp [Fields.get, heartbeatProduction, productionFlowMetrics]),
    capacityField_int exact (n := profile.machineCount)
      (by simp [Fields.get, heartbeatProduction, productionFlowMetrics]),
    capacityField_int exact (n := profile.cycleTimeSec)
      (by simp [Fields.get, heartbeatProduction, productionFlowMetrics])]
  unfold MachineProfile.reportedLimit
  by_cases zero : roundTenth profile.nominalCapacityPerHour = 0
  · have machines : profile.machineCount ≠ 0 := by
      have := profile.manned
      omega
    have cycle : profile.cycleTimeSec ≠ 0 := by
      have := profile.timed
      omega
    simp only [Option.getD_some, zero, lt_irrefl, if_false, if_true]
    simp [machines, cycle, MachineProfile.nominalCapacityPerHour]
  · have positive : 0 < roundTenth profile.nominalCapacityPerHour :=
      lt_of_le_of_ne rounded (Ne.symm zero)
    simp [zero, positive]

theorem requireCapacity_eq {issue : TargetRateIssue} {limit : ℚ}
    (reported : reportedPhysicalRateLimitPerMinute env.store.builtins state.store issue.nodeCode =
      some limit) :
    (requireCapacity env issue state = .ok () state ↔
      issue.targetRate ≤ limit + 1 / 1000000000) := by
  unfold requireCapacity
  rw [bind_ok (show (get : ControlProcedure ControlState) state = .ok state state from rfl),
    reported]
  dsimp only
  constructor
  · intro passes
    by_contra above
    unfold check at passes
    rw [if_neg above] at passes
    cases passes
  · exact fun below => lift_ok (check_eq_ok.mpr below)

theorem requestedRate_pos (order : AllocationOrder) : 0 < requestedRate order := by
  exact lt_of_lt_of_le (by norm_num) (le_max_left _ _)

theorem rateAccepted_iff (exact : env.store.builtins.ExactFloat)
    (reported : state.store.Reports nodeCode profile) :
    RateAccepted env state nodeCode targetRate ↔
      0 < targetRate ∧ targetRate ≤ profile.reportedLimit + 1 / 1000000000 := by
  have limit := reportedPhysicalRateLimitPerMinute_eq exact reported
  constructor
  · intro accepted
    cases accepted with
    | @issued issue node positive passes =>
      refine ⟨positive, ?_⟩
      exact (requireCapacity_eq (node ▸ limit)).mp passes
    | @proposed order limit' passes =>
      refine ⟨requestedRate_pos order, ?_⟩
      unfold validate at passes
      rw [limit] at passes
      obtain ⟨found, given, passes⟩ := of_bind passes
      cases orFault_eq_ok.mp given
      obtain ⟨_, below, -⟩ := of_bind passes
      exact check_eq_ok.mp below
  · rintro ⟨positive, below⟩
    obtain ⟨issue, rfl, rfl⟩ : ∃ issue : TargetRateIssue,
        issue.nodeCode = nodeCode ∧ issue.targetRate = targetRate :=
      ⟨⟨nodeCode, targetRate, ⟨"", "human", "", "", ""⟩, "low", .pending, [], false⟩, rfl, rfl⟩
    exact .issued rfl positive ((requireCapacity_eq limit).mpr below)

end Reported

section Applied

variable {settings : AgentSettings} {db : LocalDatabase} {memory : CommandMemory}
  {command : NodeCommand} {now storedAt : Timestamp} {targetRate : ℚ}

theorem agentCommandExpiry_payload (settings : AgentSettings) (command : NodeCommand) :
    agentCommandExpiry settings command.payload =
      (command.expiresAt.map CommandExpiry.instant).getD .absent := by
  have field : command.payload.get "expires_at" = jsonTime command.expiresAt := by
    simp [NodeCommand.payload, Fields.get]
  unfold agentCommandExpiry
  rw [field]
  cases command.expiresAt with
  | none => rfl
  | some t => rfl

theorem checkAgentCommand_applicable (exact : settings.builtins.ExactFloat)
    (applicable : command.Applicable settings db memory now targetRate) :
    checkAgentCommand settings command.payload db memory command.id 1 now =
      if 0 < targetRate ∧ targetRate ≤ settings.physicalLimit then .ok targetRate
      else .error ("failed",
        s!"target_rate out of safe range: {settings.builtins.text (.float targetRate)}") := by
  have unapplied : checkApplied settings command.payload db memory command.id = .ok () := by
    have fresh := applicable.fresh
    unfold NodeCommand.localKey at fresh
    unfold checkApplied
    rw [fresh]
    exact check_eq_ok.mpr applicable.unknown
  have timely : checkExpiry settings command.payload now = .ok () := by
    unfold checkExpiry
    rw [agentCommandExpiry_payload]
    cases given : command.expiresAt with
    | none => rfl
    | some t => exact check_eq_ok.mpr (applicable.timely t given)
  have kind : agentCommandType settings command.payload = "set_target_rate" := by
    simp [agentCommandType, NodeCommand.payload, Fields.get, applicable.kind, Json.or,
      Json.truthy, Builtins.text]
  have rate : settings.builtins.number
      ((agentCommandParameters command.payload).get "target_rate") = some targetRate := by
    have parameters : agentCommandParameters command.payload = command.parameters := by
      simp [agentCommandParameters, NodeCommand.payload, Fields.get, Json.dict]
    rw [parameters, applicable.rate]
    exact exact.float targetRate
  unfold checkAgentCommand
  rw [unapplied, timely, kind, rate]
  by_cases range : 0 < targetRate ∧ targetRate ≤ settings.physicalLimit <;>
    simp [check, orFault, range, bind, Except.bind, pure, Except.pure]

theorem lastRateCommand_addCommand {commandId : Int} {row : LocalCommand}
    (fresh : db.localCommands.get? commandId = none) (sets : row.setsRate = true)
    (latest : ∀ item ∈ db.localCommands.items, item.2.setsRate = true →
      reportKey item ≤ reportKey (commandId, row)) :
    lastRateCommand (db.addCommand commandId row) = some (commandId, row) := by
  have own : [(commandId, row)].filter (·.2.setsRate) = [(commandId, row)] := by simp [sets]
  unfold lastRateCommand
  rw [addCommand_items fresh, List.filter_append, own]
  generalize rated : db.localCommands.items.filter (·.2.setsRate) = rows
  have members : ∀ item, item ∈ (rows ++ [(commandId, row)]).insertionSort
      (fun first second => reportKey first ≤ reportKey second) ↔
      item ∈ rows ++ [(commandId, row)] := fun item => List.mem_insertionSort _
  have sorted := List.pairwise_insertionSort
    (fun first second => reportKey first ≤ reportKey second) (rows ++ [(commandId, row)])
  cases last : ((rows ++ [(commandId, row)]).insertionSort
      fun first second => reportKey first ≤ reportKey second).getLast? with
  | none =>
    have empty := (members (commandId, row)).mpr (by simp)
    rw [List.getLast?_eq_none_iff.mp last] at empty
    cases empty
  | some item =>
    have member : item ∈ rows ++ [(commandId, row)] :=
      (members item).mp (List.mem_of_getLast? last)
    rcases List.mem_append.mp member with old | new
    · have there : item ∈ db.localCommands.items ∧ item.2.setsRate = true := by
        rw [← rated] at old
        simpa using old
      have below := latest item there.1 there.2
      obtain ⟨front, split⟩ := List.getLast?_eq_some_iff.mp last
      rw [split] at members sorted
      have newest : reportKey (commandId, row) ≤ reportKey item := by
        rcases List.mem_append.mp ((members (commandId, row)).mpr (by simp)) with before | same
        · exact (List.pairwise_append.mp sorted).2.2 _ before item (by simp)
        · rw [List.mem_singleton.mp same]
      have keys : item.1 = commandId := by
        have same := le_antisymm below newest
        exact congrArg (fun key => (ofLex key).2) same
      have absent := (Dictionary.get?_eq_none_iff).mp fresh
      exact absurd (List.mem_map.mpr ⟨item, there.1, keys⟩) absent
    · rw [List.mem_singleton.mp new]

def rateCommand (targetRate : ℚ) : NodeCommand where
  id := 1
  nodeCode := ""
  commandType := "set_target_rate"
  riskLevel := "low"
  status := .pending
  operator := ""
  parameters := [("target_rate", .float targetRate)]
  createdAt := 0
  updatedAt := 0

theorem rateCommand_applicable (settings : AgentSettings) (targetRate : ℚ) :
    (rateCommand targetRate).Applicable settings .empty {} 0 targetRate :=
  ⟨rfl, by simp [rateCommand, Fields.get], le_refl 1, rfl, rfl, by simp, by simp [rateCommand]⟩

theorem agentCommandVersion_applicable
    (applicable : command.Applicable settings db memory now targetRate) :
    agentCommandVersion settings command.payload = some 1 := by
  simp [agentCommandVersion, NodeCommand.payload, Fields.get, Json.or, Json.truthy,
    applicable.version, Builtins.integer]

theorem applyAgentCommand_applicable (exact : settings.builtins.ExactFloat)
    (applicable : command.Applicable settings db memory now targetRate) :
    (0 < targetRate ∧ targetRate ≤ settings.physicalLimit →
      ∃ message row, row.setsRate = true ∧ row.appliedAt = storedAt ∧
        row.rate settings = some (roundRate targetRate) ∧
        applyAgentCommand settings command.payload db memory now storedAt =
          some (("executed", message), db.addCommand command.id row,
            ⟨some (roundRate targetRate), command.id :: memory.appliedCommandIds⟩)) ∧
    (¬ (0 < targetRate ∧ targetRate ≤ settings.physicalLimit) →
      ∃ message, applyAgentCommand settings command.payload db memory now storedAt =
        some (("failed", message), db, memory)) := by
  have checked := checkAgentCommand_applicable exact applicable
  have nonzero : (command.id : Int) ≠ 0 := by
    have := applicable.numbered
    omega
  unfold applyAgentCommand
  rw [agentCommandId_payload, Option.bind_eq_bind, Option.bind_some, if_neg nonzero,
    agentCommandVersion_applicable applicable, Option.bind_eq_bind, Option.bind_some]
  refine ⟨fun range => ?_, fun range => ?_⟩
  · rw [if_pos range] at checked
    obtain ⟨-, kind, restores⟩ := checkAgentCommand_ok checked
    have fresh := applicable.fresh
    rw [checked]
    dsimp only
    rw [persistAppliedCommand_of_fresh fresh]
    refine ⟨_, _, ?_, ?_, (restores _ _ _ _ _).2, rfl⟩
    · simp [LocalCommand.setsRate, agentCommandRow, kind]
    · rfl
  · rw [if_neg range] at checked
    rw [checked]
    exact ⟨_, rfl⟩

theorem rateHonoured_iff (exact : settings.builtins.ExactFloat) :
    RateHonoured settings targetRate ↔ 0 < targetRate ∧ targetRate ≤ settings.physicalLimit := by
  constructor
  · intro honoured
    by_contra range
    have applicable := rateCommand_applicable settings targetRate
    obtain ⟨message, db', applied, -⟩ := honoured _ _ _ 0 0 applicable
    obtain ⟨reason, refused⟩ := (applyAgentCommand_applicable exact applicable).2 range
    rw [refused] at applied
    simp at applied
  · intro range command db memory now storedAt applicable
    obtain ⟨message, row, sets, stored, rate, applied⟩ :=
      (applyAgentCommand_applicable exact applicable).1 range
    refine ⟨message, _, applied, fun latest => ?_⟩
    have last : lastRateCommand (db.addCommand command.id row) =
        some ((command.id : Int), row) := by
      refine lastRateCommand_addCommand (get?_eq_none_of_fresh applicable.fresh) sets ?_
      intro item there rated
      have below := latest item there rated
      rwa [← stored] at below
    unfold restoreLocalCommandState
    rw [last, Option.bind_some, rate]

end Applied

section Agreement

variable {env : ControlEnv} {state : ControlState} {nodeCode : String} {profile : MachineProfile}
  {builtins : Builtins} {parseTime : String → Option Timestamp} {targetRate : ℚ}

/-- A rate that the centre accepts is honoured by the node, unless it is between the capacity of
the profile and the limit that the centre makes of the rounded one. -/
theorem accepted_rate_honoured_iff (central : env.store.builtins.ExactFloat)
    (own : builtins.ExactFloat) (reported : state.store.Reports nodeCode profile) :
    (RateAccepted env state nodeCode targetRate →
        RateHonoured (profile.settings builtins parseTime) targetRate) ↔
      (targetRate ≤ profile.nominalCapacityPerHour / 60 ∨
        profile.reportedLimit + 1 / 1000000000 < targetRate) := by
  have capacity := nominalCapacityPerHour_pos profile
  rw [rateAccepted_iff central reported,
    @rateHonoured_iff (profile.settings builtins parseTime) targetRate own]
  unfold MachineProfile.settings
  constructor
  · intro agrees
    by_contra gap
    obtain ⟨above, below⟩ := not_or.mp gap
    have positive : 0 < targetRate := by linarith
    exact above (agrees ⟨positive, by linarith⟩).2
  · rintro (below | above) ⟨positive, accepted⟩
    · exact ⟨positive, below⟩
    · linarith

end Agreement

theorem sampleBuiltins_exactFloat : sampleBuiltins.ExactFloat := ⟨fun _ => rfl, fun _ => rfl⟩

theorem grinding_manned : 1 ≤ 2 := by decide

theorem grinding_timed : 1 ≤ 111 := by decide

def grindingProfile : MachineProfile :=
  ⟨"GRIND-01", "grinding", 2, 111, grinding_manned, grinding_timed⟩

def grindingState : ControlState :=
  { ControlState.empty with
    store := { MemoryStore.empty with
      nodeHeartbeatsV2 := Dictionary.empty.set "grinding-workshop-01"
        [("production", .obj (heartbeatProduction grindingProfile none
          ⟨3 / 4, 0, 40, 40, 0, 12, 35, false⟩ 7 "WO-20260530-004" "" "local_fallback"))] } }

theorem grindingState_reports :
    grindingState.store.Reports "grinding-workshop-01" grindingProfile :=
  ⟨none, ⟨3 / 4, 0, 40, 40, 0, 12, 35, false⟩, 7, "WO-20260530-004", "", "local_fallback", by
    simp [grindingState, Dictionary.get?_set, Fields.get]⟩

/-- The centre takes 64.9 parts an hour for the capacity of a node that makes 64.86. -/
theorem rate_above_capacity_accepted :
    RateAccepted sampleControlEnv grindingState "grinding-workshop-01" (10815 / 10000) ∧
      ¬ RateHonoured (grindingProfile.settings sampleBuiltins fun _ => none) (10815 / 10000) := by
  have limit : grindingProfile.reportedLimit = 649 / 600 := by decide +kernel
  have capacity : grindingProfile.nominalCapacityPerHour = 2400 / 37 := by decide +kernel
  refine ⟨?_, fun honoured => ?_⟩
  · refine (rateAccepted_iff sampleBuiltins_exactFloat grindingState_reports).mpr ?_
    rw [limit]
    norm_num
  · have range := (rateHonoured_iff sampleBuiltins_exactFloat).mp honoured
    unfold MachineProfile.settings at range
    rw [capacity] at range
    norm_num at range

theorem accepted_rate_honoured_below_capacity :
    (RateAccepted sampleControlEnv grindingState "grinding-workshop-01" 1 →
        RateHonoured (grindingProfile.settings sampleBuiltins fun _ => none) 1) ↔
      ((1 : ℚ) ≤ grindingProfile.nominalCapacityPerHour / 60 ∨
        grindingProfile.reportedLimit + 1 / 1000000000 < 1) :=
  accepted_rate_honoured_iff sampleBuiltins_exactFloat sampleBuiltins_exactFloat
    grindingState_reports

end MiniOgas
