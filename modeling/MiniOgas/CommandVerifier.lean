import MiniOgas.CommandManager

namespace MiniOgas

open Bounded Serial

variable (builtins : Builtins) (now : Timestamp)

/-- `DOWNSTREAM_NODE.get(node_code, "")`. -/
def downstreamNode : String → String
  | "turning-workshop-01" => "milling-workshop-01"
  | "milling-workshop-01" => "grinding-workshop-01"
  | _ => ""

def number : Json → Option ℚ
  | .null => none
  | value => builtins.float value

def backlog (production : Fields) : Option ℚ := do
  let incoming ← number builtins (production.get "wip_input")
  let outgoing ← number builtins (production.get "wip_output")
  return incoming - outgoing

def productionOf (production : List (String × Fields)) (nodeCode : String) : Option Fields :=
  (production.find? (·.1 = nodeCode)).map (·.2)

def downstreamProduction (production : List (String × Fields)) (nodeCode : String) :
    Option Fields :=
  if downstreamNode nodeCode = "" then none else productionOf production (downstreamNode nodeCode)

inductive RateDirection where
  | unchanged
  | decrease
  | increase
deriving DecidableEq

def RateDirection.text : RateDirection → String
  | .unchanged => "unchanged"
  | .decrease => "decrease"
  | .increase => "increase"

def rateDirection : Option ℚ → Option ℚ → RateDirection
  | some expected, some requested =>
    if expected < requested - 1 / 1000 then .decrease
    else if requested + 1 / 1000 < expected then .increase
    else .unchanged
  | _, _ => .unchanged

def ownRateMoved : Option ℚ → Option ℚ → Option ℚ → Option ℚ → Bool
  | some expected, some requested, some before, some current =>
    if expected < requested then decide (current ≤ before - 2 / 100)
    else if requested < expected then decide (before + 2 / 100 ≤ current)
    else false
  | _, _, _, _ => false

/-- The `evidence` of an observation. -/
structure CommandEvidence where
  expectedTargetRate : Option ℚ
  observedTargetRate : Option ℚ
  targetApplied : Bool
  downstreamNode : String
  baselineDownstreamBacklog : Option ℚ
  downstreamBacklogDelta : Option ℚ
  postCommandBacklogDelta : Option ℚ
  flowImproved : Bool
  rateDirection : RateDirection
  ownRateMoved : Bool
  severeStarvation : Bool
  sinkExpectedRate : Option ℚ
  throughputFloorRate : Option ℚ
  throughputFloorOk : Bool
  observations : List Json

def jsonRate (rate : Option ℚ) : Json := (rate.map Json.float).getD .null

/-- `list(command.verification_evidence.get("observations") or [])`. -/
def pastObservations (evidence : Fields) : Except ControlFault (List Json) :=
  match evidence.get "observations" with
  | .arr items => .ok items
  | value => if value.truthy then .error (.typeError "object is not a list") else .ok []

def backlogValues : List Json → Except ControlFault (List ℚ)
  | [] => .ok []
  | .obj fields :: rest => do
    let values ← backlogValues rest
    match Fields.get fields "downstream_backlog" with
    | .null => return values
    | value => do
      let backlog ← orFault (builtins.float value) (.typeError "float() argument is not a number")
      return backlog :: values
  | _ :: _ => .error (.typeError "object has no attribute 'get'")

structure CommandVerifier where
  minObservations : Nat
  maxObservations : Nat
  window : 1 ≤ minObservations ∧ minObservations ≤ maxObservations

def CommandVerifier.standard : CommandVerifier := ⟨3, 5, by decide⟩

/-- The sample that `observe` appends. -/
def observation (command : NodeCommand) (systemProduction : List (String × Fields)) : Json :=
  let target := (productionOf systemProduction command.nodeCode).getD []
  let downstream := (downstreamProduction systemProduction command.nodeCode).getD []
  let sink := (productionOf systemProduction "grinding-workshop-01").getD []
  .obj [("observed_at", .time now),
    ("target_rate", jsonRate (number builtins (target.get "target_rate"))),
    ("actual_rate", jsonRate (number builtins (target.get "actual_rate"))),
    ("downstream_node", .str (downstreamNode command.nodeCode)),
    ("downstream_backlog", jsonRate (backlog builtins downstream)),
    ("downstream_wip_input", jsonRate (number builtins (downstream.get "wip_input"))),
    ("downstream_utilization", jsonRate (number builtins (downstream.get "utilization"))),
    ("sink_actual_rate", jsonRate (number builtins (sink.get "actual_rate")))]

def backlogDelta : List ℚ → Option ℚ
  | first :: second :: rest => some ((second :: rest).getLast (by simp) - first)
  | _ => none

def gatherEvidence (command : NodeCommand) (systemProduction : List (String × Fields))
    (observations : List Json) (backlogs : List ℚ) : CommandEvidence :=
  let expected := number builtins (command.parameters.get "target_rate")
  let target := (productionOf systemProduction command.nodeCode).getD []
  let observed := number builtins (target.get "target_rate")
  let downstream := (downstreamProduction systemProduction command.nodeCode).getD []
  let sink := (productionOf systemProduction "grinding-workshop-01").getD []
  let baseline := command.verificationBaseline
  let baselineTarget := (productionOf baseline command.nodeCode).getD []
  let baselineDownstream := (downstreamProduction baseline command.nodeCode).getD []
  let baselineSink := (productionOf baseline "grinding-workshop-01").getD []
  let baselineBacklog := backlog builtins baselineDownstream
  let postCommandDelta := backlogDelta backlogs
  let delta :=
    match backlogs.getLast?, baselineBacklog with
    | some last, some before => some (last - before)
    | _, _ => postCommandDelta
  let wip := number builtins (downstream.get "wip_input")
  let utilization := number builtins (downstream.get "utilization")
  let baselineSinkRate := number builtins (baselineSink.get "actual_rate")
  let currentSinkRate := number builtins (sink.get "actual_rate")
  let requested := number builtins (baselineTarget.get "target_rate")
  let sinkExpected :=
    match expected, requested, baselineSinkRate with
    | some expected, some requested, some rate =>
      if command.nodeCode = "grinding-workshop-01" ∧ 0 < requested then
        some (rate * expected / requested)
      else none
    | _, _, _ => none
  let floor :=
    match sinkExpected with
    | some rate => some (rate * 9 / 10)
    | none => baselineSinkRate.map (· * 7 / 10)
  { expectedTargetRate := expected
    observedTargetRate := observed
    targetApplied := match expected, observed with
      | some expected, some observed => decide (|observed - expected| ≤ 1 / 1000)
      | _, _ => false
    downstreamNode := downstreamNode command.nodeCode
    baselineDownstreamBacklog := baselineBacklog
    downstreamBacklogDelta := delta
    postCommandBacklogDelta := postCommandDelta
    flowImproved := delta.any fun delta => decide (delta ≤ -1 / 2)
    rateDirection := rateDirection expected requested
    ownRateMoved := ownRateMoved expected requested
      (number builtins (baselineTarget.get "actual_rate"))
      (number builtins (target.get "actual_rate"))
    severeStarvation := match wip, utilization with
      | some wip, some utilization => decide (wip ≤ 2 ∧ utilization ≤ 45 / 100)
      | _, _ => false
    sinkExpectedRate := sinkExpected
    throughputFloorRate := floor
    throughputFloorOk := match baselineSinkRate with
      | none => true
      | some rate => decide (rate ≤ 0) || (match currentSinkRate, floor with
        | some current, some floor => decide (floor ≤ current)
        | _, _ => false)
    observations }

def CommandVerifier.fields (verifier : CommandVerifier) (evidence : CommandEvidence) : Fields :=
  [("expected_target_rate", jsonRate evidence.expectedTargetRate),
    ("observed_target_rate", jsonRate evidence.observedTargetRate),
    ("target_applied", .bool evidence.targetApplied),
    ("observation_count", .int evidence.observations.length),
    ("min_observations", .int verifier.minObservations),
    ("max_observations", .int verifier.maxObservations),
    ("downstream_node", .str evidence.downstreamNode),
    ("baseline_downstream_backlog", jsonRate evidence.baselineDownstreamBacklog),
    ("downstream_backlog_delta", jsonRate evidence.downstreamBacklogDelta),
    ("post_command_backlog_delta", jsonRate evidence.postCommandBacklogDelta),
    ("flow_improved", .bool evidence.flowImproved),
    ("rate_direction", .str evidence.rateDirection.text),
    ("own_rate_moved", .bool evidence.ownRateMoved),
    ("severe_starvation", .bool evidence.severeStarvation),
    ("sink_expected_rate", jsonRate evidence.sinkExpectedRate),
    ("throughput_floor_rate", jsonRate evidence.throughputFloorRate),
    ("throughput_floor_ok", .bool evidence.throughputFloorOk),
    ("observations", .arr evidence.observations)]

def CommandEvidence.effectProven (evidence : CommandEvidence) : Bool :=
  match evidence.rateDirection with
  | .increase => evidence.ownRateMoved
  | .unchanged => evidence.targetApplied
  | .decrease =>
    if evidence.downstreamNode = "" then evidence.ownRateMoved else evidence.flowImproved

def CommandEvidence.effectMessage (evidence : CommandEvidence) : String :=
  match evidence.rateDirection with
  | .increase => "target applied and observed node production rate increased"
  | .unchanged => "requested target was already applied"
  | .decrease =>
    if evidence.downstreamNode = "" then
      "target applied and observed node production rate decreased"
    else "target applied and observed downstream flow improved"

/-- What `observe` concludes from the evidence; `observing` when it waits. -/
def CommandVerifier.conclude (verifier : CommandVerifier) (evidence : CommandEvidence)
    (downstream : Option Fields) : VerificationStatus × String :=
  let count := evidence.observations.length
  if count < verifier.minObservations then
    (.observing, "waiting for more production observations")
  else if evidence.targetApplied = false then
    if count < verifier.maxObservations then
      (.observing, "target rate has not appeared in heartbeat yet")
    else (.failed, "target rate was not applied within the verification window")
  else if evidence.severeStarvation || !evidence.throughputFloorOk then
    (.failed, "command caused an unacceptable downstream production effect")
  else if evidence.effectProven then (.effective, evidence.effectMessage)
  else if count < verifier.maxObservations then
    (.observing, "target applied; waiting for downstream trend")
  else if evidence.downstreamNode ≠ "" ∧ downstream = none then
    (.inconclusive, "downstream observations were unavailable")
  else (.partlyEffective, "target applied but downstream flow did not improve")

/-- `VerificationResult` of a command. -/
structure CommandVerification where
  status : VerificationStatus
  message : String
  evidence : Fields
  terminal : Bool

def NodeCommand.finish (command : NodeCommand) (status : VerificationStatus) (message : String) :
    NodeCommand :=
  { command with
    verificationStatus := status
    verifiedAt := some now
    updatedAt := now
    resultMessage := message
    status :=
      if status = .effective ∨ status = .partlyEffective then .verified
      else if status = .failed then .failed
      else .applied }

/-- `observe`: the result, and the command as it leaves it. -/
def CommandVerifier.observe (verifier : CommandVerifier) (command : NodeCommand)
    (systemProduction : List (String × Fields)) :
    Except ControlFault (CommandVerification × NodeCommand) := do
  if command.verificationStatus.terminal then
    return (⟨command.verificationStatus, command.resultMessage, command.verificationEvidence, true⟩,
      command)
  if command.commandType ≠ "set_target_rate" ∨
      (command.status ≠ .applied ∧ command.status ≠ .executed) then
    return (⟨.notStarted, "command is not ready for verification", [], false⟩, command)
  let past ← pastObservations command.verificationEvidence
  let observations := keepLast verifier.maxObservations
    (past ++ [observation builtins now command systemProduction])
  let backlogs ← backlogValues builtins observations
  let evidence := gatherEvidence builtins command systemProduction observations backlogs
  let fields := verifier.fields evidence
  let observed := { command with
    verificationEvidence := fields, verificationStatus := .observing, updatedAt := now }
  let (status, message) := verifier.conclude evidence
    (downstreamProduction systemProduction command.nodeCode)
  if status = .observing then
    return (⟨.observing, message, fields, false⟩, observed)
  return (⟨status, message, fields, true⟩, observed.finish now status message)

end MiniOgas
