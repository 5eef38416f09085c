import MiniOgas.RateAgreement

namespace MiniOgas

namespace Rules

inductive RuleFault where
  | typeError (message : String)

structure IsoTime where
  microseconds : Int
  aware : Bool

/-- What the rules take from their surroundings: `str` and `float`, the digest of a text and
`datetime.fromisoformat`. -/
structure RuleEnv where
  builtins : Builtins
  digest : String → String
  fromIsoFormat : String → Option IsoTime

structure Evidence where
  field : String
  operator : String
  value : Json
  threshold : Json
  detail : String

structure RuleSource where
  dataSource : Json
  runId : Json
  scenarioId : Json
  simulationTime : Json
  simulationEngine : Json

structure Conclusion where
  schemaVersion : String := "2.2"
  conclusionId : String
  ruleId : String
  type : String
  nodeCode : String
  machineCode : String
  riskLevel : String
  title : String
  summary : String
  evidence : List Evidence
  recommendedActions : List String
  triggerData : Dictionary String Json
  thresholds : Dictionary String Json
  result : String := "triggered"
  calculationSummary : String
  source : RuleSource
  readOnly : Bool := true

variable (env : RuleEnv) (snapshot node : Fields)

def number (value : Json) : ℚ := (MiniOgas.number env.builtins value).getD 0

def text (value : Json) (absent : String := "") : String :=
  match value with
  | .null => absent
  | value => env.builtins.text value

/-- `fields.get(key, default)`. -/
def getOr (fields : Fields) (key : String) (absent : Json) : Json :=
  ((fields.find? (·.1 = key)).map (·.2)).getD absent

def asObject : Json → Option Fields
  | .obj fields => some fields
  | _ => none

def objects : Json → Except RuleFault (List Fields)
  | .arr items => .ok (items.filterMap asObject)
  | .obj _ => .ok []
  | .str _ => .ok []
  | _ => .error (.typeError "object is not iterable")

def source : RuleSource :=
  let run := (snapshot.get "run").dict
  let runtime := (node.get "runtime").dict
  { dataSource := getOr snapshot "data_source" (.str "unknown")
    runId := ((run.get "run_id").or (runtime.get "run_id")).or (.str "RUN-UNKNOWN")
    scenarioId :=
      ((run.get "scenario_id").or (runtime.get "scenario_id")).or (.str "SCN-UNKNOWN")
    simulationTime := (run.get "simulation_time").or (runtime.get "simulation_time")
    simulationEngine := (run.get "simulation_engine").or (runtime.get "simulation_engine") }

def conclusionId (ruleId nodeCode : String) (source : RuleSource) : String :=
  "CONC-" ++ env.digest (ruleId ++ ":" ++ nodeCode ++ ":" ++ env.builtins.text source.runId ++
    ":" ++ env.builtins.text source.scenarioId)

def bottleneckActions (workshopType machineCode : String) : List String :=
  if workshopType = "milling" then
    ["Keep " ++ machineCode ++
        " online, then reduce upstream release rate for one simulation window.",
      "Check coolant flow and tool compensation before moving blocked orders.",
      "If backlog remains after the next heartbeat, " ++
        "ask dispatch to shift overflow to an idle node."]
  else if workshopType = "grinding" then
    ["Inspect abrasive wheel load on " ++ machineCode ++ " before increasing feed.",
      "Hold upstream WIP release until output WIP recovers.",
      "Prepare a wheel dressing task if utilization stays high with low output."]
  else
    ["Review spindle load and fixture cycle time on " ++ machineCode ++ ".",
      "Throttle upstream WIP release for one simulation window.",
      "Escalate to maintenance only if throughput gap widens on the next heartbeat."]

def starvationActions (workshopType machineCode : String) : List String :=
  let routeHint := match workshopType with
    | "turning" => "upstream raw-material release"
    | "milling" => "turning-to-milling transfer"
    | "grinding" => "milling-to-grinding transfer"
    | _ => "upstream transfer"
  ["Check " ++ routeHint ++ " before changing machine parameters on " ++ machineCode ++ ".",
    "Keep the node running if health metrics are stable; this is a flow problem first.",
    "Ask dispatch to release or reroute the next batch if WIP input is still empty next heartbeat."]

def buildConclusion (ruleId ruleType riskLevel title summary : String)
    (evidence : List Evidence) (recommendedActions : List String) : Conclusion :=
  let nodeCode := text env (node.get "node_code") "unknown-node"
  let source := source snapshot node
  let observed := fun item : Evidence => item.field ++ " " ++ item.operator ++ " " ++
    env.builtins.text item.threshold ++ " (observed=" ++ env.builtins.text item.value ++ ")"
  { conclusionId := conclusionId env ruleId nodeCode source
    ruleId := ruleId
    type := ruleType
    nodeCode := nodeCode
    machineCode := text env (node.get "machine_code") nodeCode
    riskLevel := riskLevel
    title := title
    summary := summary
    evidence := evidence
    recommendedActions := recommendedActions
    triggerData := evidence.foldl (fun data item => data.set item.field item.value) .empty
    thresholds := evidence.foldl (fun data item => data.set item.field item.threshold) .empty
    calculationSummary := String.intercalate "; " (evidence.map observed)
    source := source }

def offline : Bool := ["offline", "missing"].contains (text env (node.get "status"))

def production : Fields := (node.get "production").dict

def nodeCode : String := text env (node.get "node_code") "unknown-node"

def machineCode : String := text env (node.get "machine_code") (nodeCode env node)

/-- `_number` of a field of the production of a node. -/
def produced (key : String) : ℚ := number env ((production node).get key)

def nodeBacklog : ℚ := produced env node "wip_input" - produced env node "wip_output"

def throughputGap : ℚ :=
  let targetRate := produced env node "target_rate"
  if 0 < targetRate then (targetRate - produced env node "actual_rate") / targetRate else 0

def rateRatio : ℚ :=
  let targetRate := produced env node "target_rate"
  if targetRate ≠ 0 then produced env node "actual_rate" / targetRate else 0

def backlogTrigger : Bool := 12 ≤ nodeBacklog env node

def rateTrigger : Bool :=
  decide (82 / 100 ≤ produced env node "utilization") &&
    decide (25 / 100 ≤ throughputGap env node) && decide (6 ≤ produced env node "wip_input")

/-- The evidence of `_bottleneck_rule`. -/
def bottleneckEvidence : List Evidence :=
  (if backlogTrigger env node then
    [⟨"production.wip_input - production.wip_output", ">=",
      .float (roundRate (nodeBacklog env node)), .int 12,
      "Input WIP is accumulating faster than output WIP."⟩] else []) ++
  (if 82 / 100 ≤ produced env node "utilization" then
    [⟨"production.utilization", ">=", .float (roundRate (produced env node "utilization")),
      .float (82 / 100), "The node is heavily loaded."⟩] else []) ++
  (if 0 < produced env node "target_rate" ∧ rateRatio env node ≤ 75 / 100 then
    [⟨"production.actual_rate / production.target_rate", "<=",
      .float (roundRate (rateRatio env node)), .float (75 / 100),
      "Actual throughput is below the target rate."⟩] else []) ++
  if rateTrigger env node then
    [⟨"production.wip_input", ">=", .float (roundRate (produced env node "wip_input")), .int 6,
      "Input WIP is available while throughput lags."⟩] else []

def bottleneckRule : Option Conclusion :=
  if offline env node then none
  else if !backlogTrigger env node && !rateTrigger env node then none
  else
    let riskLevel :=
      if 14 ≤ nodeBacklog env node ∨ (92 / 100 ≤ produced env node "utilization" ∧
        4 / 10 ≤ throughputGap env node) then "high"
      else "medium"
    let summary :=
      if backlogTrigger env node && rateTrigger env node then
        nodeCode env node ++ " is accumulating WIP while output rate is below target."
      else if rateTrigger env node then
        nodeCode env node ++ " is heavily loaded while output rate is below target."
      else nodeCode env node ++ " WIP accumulation is above the operating threshold."
    some (buildConclusion env snapshot node "RULE-BOTTLENECK-LOW-OUTPUT" "bottleneck_alert"
      riskLevel (machineCode env node ++ " flow bottleneck")
      (summary ++ " Treat this as a flow bottleneck before creating a repair command.")
      (bottleneckEvidence env node)
      (bottleneckActions (text env (node.get "workshop_type")) (machineCode env node)))

/-- The trigger of `_starvation_rule`. -/
def starving : Bool :=
  decide (produced env node "wip_input" ≤ 2) &&
    decide (produced env node "utilization" ≤ 45 / 100) &&
    (decide (produced env node "target_rate" ≤ 0) ||
      decide (produced env node "actual_rate" ≤ produced env node "target_rate" * (55 / 100)))

def starvationRule : Option Conclusion :=
  if offline env node then none
  else if starving env node then
    let wipInput := produced env node "wip_input"
    let targetRate := produced env node "target_rate"
    let actualRate := produced env node "actual_rate"
    let utilization := produced env node "utilization"
    let riskLevel := if wipInput = 0 ∧ utilization ≤ 25 / 100 then "high" else "medium"
    let evidence : List Evidence :=
      [⟨"production.wip_input", "<=", .float (roundRate wipInput), .int 2,
          "The node has little or no input WIP."⟩,
        ⟨"production.utilization", "<=", .float (roundRate utilization), .float (45 / 100),
          "The machine is under-used."⟩,
        ⟨"production.actual_rate", "<=", .float (roundRate actualRate),
          .float (roundRate (targetRate * (55 / 100))),
          "Actual output is too low for the planned target."⟩]
    some (buildConclusion env snapshot node "RULE-STARVATION-LOW-WIP" "starvation_alert"
      riskLevel (machineCode env node ++ " input starvation")
      (nodeCode env node ++ " is under-utilized because input WIP is too low; " ++
        "diagnose upstream flow before changing equipment settings.")
      evidence
      (starvationActions (text env (node.get "workshop_type")) (machineCode env node)))
  else none

def offlineRule : Option Conclusion :=
  let status := text env (node.get "status")
  if offline env node then
    some (buildConclusion env snapshot node "RULE-NODE-HEARTBEAT-LOST" "heartbeat_loss_alert"
      "critical" (text env (node.get "node_code") ++ " heartbeat lost")
      "The expected edge node is offline; production facts are no longer current."
      [⟨"node.status", "in", .str status, .arr [.str "offline", .str "missing"],
        "Heartbeat supervision marked the node unavailable."⟩]
      ["Freeze new dispatch to this node.",
        "Preserve local buffer and inspect process/network health.",
        "Require fresh heartbeat identity before restore."])
  else none

/-- `text.replace("Z", "+00:00")`. -/
def offsetForZ (text : String) : String :=
  String.ofList (text.toList.flatMap fun c => if c = 'Z' then "+00:00".toList else [c])

def staleRule : Except RuleFault (Option Conclusion) :=
  let generated := text env (snapshot.get "generated_at")
  let received := text env ((node.get "received_at").or (node.get "last_heartbeat"))
  if generated = "" ∨ received = "" then .ok none
  else
    match env.fromIsoFormat (offsetForZ generated), env.fromIsoFormat (offsetForZ received) with
    | some written, some heard =>
      if written.aware ≠ heard.aware then
        .error (.typeError "can't subtract offset-naive and offset-aware datetimes")
      else
        let ageSeconds : ℚ := (written.microseconds - heard.microseconds : Int) / 1000000
        if ageSeconds < 20 then .ok none
        else .ok (some (buildConclusion env snapshot node "RULE-NODE-DATA-STALE"
          "stale_data_alert" (if 60 ≤ ageSeconds then "high" else "medium")
          (text env (node.get "node_code") ++ " data is stale")
          "The node has not produced a fresh operational fact within the allowed window."
          [⟨"heartbeat.age_seconds", ">=", .float (roundTenth ageSeconds), .int 20,
            "Snapshot generation time exceeds the last ingest time."⟩]
          ["Stop using stale values for dispatch decisions.",
            "Check edge connectivity and local outbox depth.",
            "Resume only after monotonic sequence recovery."]))
    | _, _ => .ok none

/-- The trigger of `_defect_rule`. -/
def defective : Bool :=
  decide (5 / 100 ≤ produced env node "defect_rate") ||
    decide (2 / 100 ≤ produced env node "defect_rate_delta")

def defectRule : Option Conclusion :=
  let defectRate := produced env node "defect_rate"
  let defectDelta := produced env node "defect_rate_delta"
  if defective env node then
    some (buildConclusion env snapshot node "RULE-QUALITY-DEFECT-RISE" "defect_rate_alert"
      (if 8 / 100 ≤ defectRate then "high" else "medium")
      (text env (node.get "machine_code") ++ " defect rate rising")
      "Observed defect rate or its latest change exceeds the deterministic quality threshold."
      [⟨"production.defect_rate", ">=", .float (roundFourth defectRate), .float (5 / 100),
          "Current defect share is elevated."⟩,
        ⟨"production.defect_rate_delta", ">=", .float (roundFourth defectDelta), .float (2 / 100),
          "Latest heartbeat shows an upward quality shift."⟩]
      ["Hold suspect output for quality review.", "Inspect tooling and process compensation.",
        "Resume normal release after two stable observations."])
  else none

def toolWearRule : Option Conclusion :=
  let wear := produced env node "tool_wear_level"
  if wear < 65 then none
  else
    some (buildConclusion env snapshot node "RULE-TOOL-WEAR-LIMIT" "tool_wear_alert"
      (if 80 ≤ wear then "high" else "medium")
      (text env (node.get "machine_code") ++ " tool wear limit")
      "Tool wear exceeded the preventive-maintenance threshold."
      [⟨"production.tool_wear_level", ">=", .float (roundHundredth wear), .int 65,
        "Wear index crossed the maintenance threshold."⟩]
      ["Create a controlled tool inspection task.",
        "Reduce release rate if quality is also drifting.",
        "Require human approval before stopping a critical machine."])

def latency : ℚ :=
  let metrics := (node.get "metrics").dict
  number env ((metrics.get "network_latency_ms").or (metrics.get "api_latency_ms"))

def networkTotal : ℚ :=
  let metrics := (node.get "metrics").dict
  number env (metrics.get "network_in") + number env (metrics.get "network_out")

/-- The trigger of `_network_rule`. -/
def networkStrained : Bool :=
  decide (250 ≤ latency env node) || decide (50000000 ≤ networkTotal env node)

def networkRule : Option Conclusion :=
  let latency := latency env node
  let total := networkTotal env node
  if networkStrained env node then
    some (buildConclusion env snapshot node "RULE-NETWORK-ANOMALY" "network_anomaly_alert"
      (if 1000 ≤ latency ∨ 200000000 ≤ total then "high" else "medium")
      (text env (node.get "node_code") ++ " network anomaly")
      "Latency or traffic volume exceeds the edge communication threshold."
      [⟨"metrics.network_latency_ms", ">=", .float (roundTenth latency), .int 250,
          "Control-plane latency is elevated."⟩,
        ⟨"metrics.network_bytes_total", ">=", .float (roundTenth total), .int 50000000,
          "Observed traffic is unusually high."⟩]
      ["Preserve traffic evidence and validate node identity.",
        "Throttle nonessential synchronization.",
        "Escalate isolation only through Safety Governor."])
  else none

def nodeOfType (nodes : List Fields) (workshopType : String) : Fields :=
  ((nodes.reverse.find? fun node => text env (node.get "workshop_type") = workshopType)).getD []

/-- The trigger of `_turning_overproduction_rule`. -/
def overproducing (turning milling : Fields) : Bool :=
  !turning.isEmpty && !milling.isEmpty && decide (0 < produced env milling "target_rate") &&
    decide (produced env milling "target_rate" * (12 / 10) <
      produced env turning "target_rate") &&
    decide (8 ≤ nodeBacklog env milling)

def turningOverproductionRule : Except RuleFault (Option Conclusion) := do
  let nodes ← objects (getOr snapshot "nodes" (.arr []))
  let turning := nodeOfType env nodes "turning"
  let milling := nodeOfType env nodes "milling"
  let backlog := nodeBacklog env milling
  if overproducing env turning milling then
    return some (buildConclusion env snapshot turning "RULE-TURNING-OVERPRODUCTION"
      "overproduction_alert" (if 14 ≤ backlog then "high" else "medium")
      "Turning release exceeds milling capacity"
      "Turning target rate is creating sustained WIP growth before milling."
      [⟨"turning.target_rate / milling.target_rate", ">",
          .float (roundRate (produced env turning "target_rate" /
            produced env milling "target_rate")), .float (12 / 10),
          "Upstream release exceeds milling capacity."⟩,
        ⟨"milling.wip_input - milling.wip_output", ">=", .float (roundRate backlog), .int 8,
          "Milling-front WIP is accumulating."⟩]
      ["Propose a temporary Turning target-rate reduction.",
        "Send the proposal through Safety Governor.",
        "Verify milling backlog trend and grinding starvation after execution."])
  else return none

/-- Whether a verification status is among those that `_ineffective_command_rules` reports. -/
def ineffective : Json → Except RuleFault Bool
  | .str status => .ok (["failed", "partial", "inconclusive"].contains status)
  | .arr _ => .error (.typeError "unhashable type: 'list'")
  | .obj _ => .error (.typeError "unhashable type: 'dict'")
  | _ => .ok false

/-- What `_ineffective_command_rules` concludes from the last command of a kind for a node. -/
def ineffectiveCommandRule (nodes : List Fields) (command : Fields) :
    Except RuleFault (Option Conclusion) := do
  let reported ← ineffective (command.get "verification_status")
  if reported then
    let nodeCode := env.builtins.text ((command.get "node_code").or (.str "central-api"))
    let known := nodes.reverse.find? fun node => env.builtins.text (node.get "node_code") = nodeCode
    let node := known.getD
      [("node_code", .str nodeCode), ("machine_code", .str nodeCode), ("runtime", .obj [])]
    let status := env.builtins.text (command.get "verification_status")
    return some (buildConclusion env snapshot node "RULE-COMMAND-INEFFECTIVE"
      "command_effect_alert" (if status = "failed" then "high" else "medium")
      ("Command " ++ env.builtins.text (command.get "id") ++ " effect is " ++ status)
      "Verifier did not confirm the requested operational improvement."
      [⟨"command.verification_status", "in", .str status,
        .arr [.str "failed", .str "partial", .str "inconclusive"],
        "Post-command facts did not prove the intended effect."⟩]
      ["Do not retry automatically without reviewing evidence.",
        "Inspect verifier observations and downstream impact.",
        "Create a revised proposal with a new idempotency key."])
  else return none

def latestByEffect (commands : List Fields) : Dictionary (String × String) Fields :=
  commands.foldl (fun latest command =>
    latest.set (env.builtins.text ((command.get "node_code").or (.str "central-api")),
      env.builtins.text ((command.get "command_type").or (.str "unknown"))) command) .empty

def ineffectiveCommandRules : Except RuleFault (List Conclusion) := do
  let nodes ← objects (getOr snapshot "nodes" (.arr []))
  let commands ← objects (getOr snapshot "commands" (.arr []))
  let conclusions ← (latestByEffect env commands).values.mapM
    (ineffectiveCommandRule env snapshot nodes)
  return conclusions.reduceOption

def nodeRules : Except RuleFault (List Conclusion) := do
  let stale ← staleRule env snapshot node
  return [offlineRule env snapshot node, stale, bottleneckRule env snapshot node,
    starvationRule env snapshot node, defectRule env snapshot node,
    toolWearRule env snapshot node, networkRule env snapshot node].reduceOption

def ruleNodes : List Fields := (snapshot.get "nodes").list.filterMap asObject

def severityRank : String → Nat
  | "critical" => 0
  | "high" => 1
  | "medium" => 2
  | "low" => 3
  | _ => 4

def precedes (first second : Conclusion) : Bool :=
  decide (severityRank first.riskLevel < severityRank second.riskLevel) ||
    (severityRank first.riskLevel == severityRank second.riskLevel &&
      (decide (first.nodeCode < second.nodeCode) ||
        (first.nodeCode == second.nodeCode && decide (first.ruleId ≤ second.ruleId))))

def evaluateSnapshotRules : Except RuleFault (List Conclusion) := do
  let concluded ← (ruleNodes snapshot).mapM (nodeRules env snapshot)
  let overproduction ← turningOverproductionRule env snapshot
  let ineffective ← ineffectiveCommandRules env snapshot
  return (concluded.flatten ++ overproduction.toList ++ ineffective).mergeSort precedes

end Rules

end MiniOgas
