import MiniOgas.StoreTables

namespace MiniOgas

def confirmationCode : String := "CONFIRM"

def highRiskActions : List String :=
  ["isolate_node", "restore_node", "retire_node", "emergency_stop", "simulate_hostile_attack",
    "dispatch_plan_approve", "escalation_approve"]

def controlPlaneNodes : List String := ["cloud-workshop-01", "cloud-db-01"]

structure SafetyDecision where
  allow : Bool
  requiresHuman : Bool := false
  confirmationRequired : Bool := false
  reasonCode : String
  message : String
  action : String
  targetNode : String := ""
  riskLevel : String := "low"
  actorRole : String := ""
  actorId : String := ""
  runMode : String := "normal"

/-- The arguments of `review_control_action`. -/
structure SafetyReview where
  action : String
  targetNode : String
  riskLevel : String
  actorRole : String
  actorId : String := ""
  knownNodes : List String
  confirmationCode : Option String := none
  runMode : String := "normal"

namespace SafetyGovernor

def normalizeRisk (action riskLevel : String) : String :=
  let risk := (if riskLevel = "" then "low" else riskLevel).toLower
  if action ∈ highRiskActions then "high"
  else if risk ∉ ["low", "medium", "high", "critical"] then "low"
  else if risk = "critical" then "high" else risk

def decision (review : SafetyReview) (allow requiresHuman confirmationRequired : Bool)
    (reasonCode message : String) : SafetyDecision where
  allow := allow
  requiresHuman := requiresHuman
  confirmationRequired := confirmationRequired
  reasonCode := reasonCode
  message := message
  action := review.action
  targetNode := review.targetNode
  riskLevel := normalizeRisk review.action review.riskLevel
  actorRole := review.actorRole
  actorId := review.actorId
  runMode := review.runMode

def confirmationGate (review : SafetyReview) : SafetyDecision :=
  let requiresConfirmation := normalizeRisk review.action review.riskLevel = "high" ∨
    review.action ∈ highRiskActions
  if review.runMode = "emergency_containment" ∧ review.actorRole = "safety_automation" ∧
      review.action = "isolate_node" then
    decision review true false false "emergency_containment_allowed"
      "Emergency containment policy approved automatic production-node isolation."
  else if requiresConfirmation ∧ review.confirmationCode ≠ some confirmationCode then
    decision review false true true "confirmation_code_required"
      s!"高风险动作 {review.action} 需要确认码 {confirmationCode}。"
  else if requiresConfirmation ∧ review.actorRole ≠ "system_admin" then
    decision review false true false "insufficient_role"
      s!"High-risk action {review.action} requires the system_admin role."
  else
    decision review true (decide requiresConfirmation) false "allowed" "安全闸门已批准该动作。"

def reviewControlAction (review : SafetyReview) : SafetyDecision :=
  if review.targetNode ≠ "" ∧ review.targetNode ∉ review.knownNodes then
    decision review false true false "target_node_not_found"
      s!"目标节点 {review.targetNode} 未注册，命令已被安全闸门拦截。"
  else if review.action = "isolate_node" ∧ review.targetNode ∈ controlPlaneNodes then
    decision review false true false "control_plane_isolation_blocked"
      s!"{review.targetNode} 是控制平面逻辑节点，不能通过生产处置命令隔离。"
  else confirmationGate review

def containment (targetNode : String) (knownNodes : List String) : SafetyReview where
  action := "isolate_node"
  targetNode := targetNode
  riskLevel := "high"
  actorRole := "safety_automation"
  knownNodes := knownNodes
  runMode := "emergency_containment"

/-- The containment of a known production node needs no approval. -/
theorem containment_allowed {targetNode : String} {knownNodes : List String}
    (known : targetNode ∈ knownNodes) (production : targetNode ∉ controlPlaneNodes) :
    reviewControlAction (containment targetNode knownNodes) =
      decision (containment targetNode knownNodes) true false false
        "emergency_containment_allowed"
        "Emergency containment policy approved automatic production-node isolation." := by
  unfold reviewControlAction
  rw [if_neg (fun h => h.2 known), if_neg (fun h => production h.2)]
  unfold confirmationGate
  exact if_pos ⟨rfl, rfl, rfl⟩

end SafetyGovernor

open Bounded Serial

section Heartbeats

variable (env : StoreEnv) (now : Timestamp)

/-- The arguments of `record_heartbeat`. -/
structure HeartbeatReport where
  nodeCode : String
  agentVersion : String
  uptimeSeconds : Int
  localDbSizeBytes : Int
  status : String := "online"
  sessionToken : String := ""
  dbSizeSource : String := "reported"

structure HeartbeatReply where
  nodeCode : String
  agentVersion : String
  uptimeSeconds : Int
  localDbSizeBytes : Int
  dbSizeSource : String
  status : String
  sessionVerified : Bool

/-- The status that `record_heartbeat` gives a node. -/
def NodeStatus.afterHeartbeat (status : NodeStatus) (reported : String) : NodeStatus :=
  if reported = "shutting_down" then if status ≠ .isolated then .offline else status
  else if status = .degraded then if reported = "online" then .online else status
  else if status = .offline ∧ reported = "online" then .online
  else status

def Node.new (nodeCode workshopType : String) : Node where
  nodeCode := nodeCode
  nodeName := nodeDisplayName nodeCode workshopType
  workshopType := workshopType
  lastHeartbeat := now

/-- `f` on a node, which is registered first if it is not there. -/
def MemoryStore.updateNode (store : MemoryStore) (nodeCode workshopType : String)
    (f : Node → Node) : MemoryStore :=
  { store with nodes :=
      (store.nodes.setDefault nodeCode (Node.new now nodeCode workshopType)).modify nodeCode f }

def Node.heartbeat (workshopType reported : String) (node : Node) : Node :=
  { node with
    workshopType := workshopType
    lastHeartbeat := now
    status := node.status.afterHeartbeat reported }

def recordHeartbeat (report : HeartbeatReport) (store : MemoryStore) :
    HeartbeatReply × MemoryStore :=
  let workshopType := inferWorkshopType report.nodeCode
  let mismatch := report.sessionToken ≠ "" ∧ env.sessionToken ≠ "" ∧
    report.sessionToken ≠ env.sessionToken
  ({ nodeCode := report.nodeCode
     agentVersion := report.agentVersion
     uptimeSeconds := report.uptimeSeconds
     localDbSizeBytes := report.localDbSizeBytes
     dbSizeSource := if report.dbSizeSource = "" then "reported" else report.dbSizeSource
     status := report.status
     sessionVerified := !decide mismatch },
    store.updateNode now report.nodeCode workshopType (·.heartbeat now workshopType report.status))

def requiresAgentHeartbeat (store : MemoryStore) (nodeCode workshopType : String) : Bool :=
  if isControlPlaneNode nodeCode workshopType then false
  else if store.nodeHeartbeatsV2.contains nodeCode then true
  else ["turning", "milling", "grinding"].contains workshopType

def Node.timedOut (store : MemoryStore) (node : Node) : Bool :=
  requiresAgentHeartbeat store node.nodeCode node.workshopType &&
    (node.status = .online || node.status = .degraded) &&
    node.lastHeartbeat < now - env.settings.heartbeatTimeoutSeconds * second

def checkHeartbeatTimeout (store : MemoryStore) : Nat × MemoryStore :=
  (store.nodes.values.countP (Node.timedOut env now store),
    { store with nodes := store.nodes.mapValues fun _ node =>
        if node.timedOut env now store then { node with status := .offline } else node })

end Heartbeats

section Isolation

variable (now : Timestamp)

def requireSafetyDecision (decision : Option SafetyDecision) (action nodeCode actor : String) :
    Except StoreFault SafetyDecision := do
  let decision ← orFault (decision.filter (·.allow))
    (.permissionError s!"approved safety decision required for {action}")
  check (decision.action = action ∧ decision.targetNode = nodeCode)
    (.permissionError "safety decision does not match the requested action and target")
  check ((if decision.actorId = "" then decision.actorRole else decision.actorId) = actor)
    (.permissionError "safety decision actor does not match the executing actor")
  return decision

def setStatus (nodeCode : String) (status : NodeStatus) (store : MemoryStore) : MemoryStore :=
  { store with nodes := store.nodes.modify nodeCode fun node => { node with status := status } }

def isolateNode (nodeCode actor : String) (decision : Option SafetyDecision) :
    StoreProcedure Unit :=
  Procedure.transact fun store => do
    let _ ← requireSafetyDecision decision "isolate_node" nodeCode actor
    let _ ← orFault (store.nodes.get? nodeCode) (.keyError nodeCode)
    return ((), setStatus nodeCode .isolated store)

def Node.restore (node : Node) : Node := { node with status := .online, lastHeartbeat := now }

def restoreNode (nodeCode actor : String) (decision : Option SafetyDecision) :
    StoreProcedure Unit :=
  Procedure.transact fun store => do
    let _ ← requireSafetyDecision decision "restore_node" nodeCode actor
    let _ ← orFault (store.nodes.get? nodeCode) (.keyError nodeCode)
    return ((), { store with nodes := store.nodes.modify nodeCode (·.restore now) })

/-- What `retire_node` removes. -/
def MemoryStore.retire (store : MemoryStore) (nodeCode : String) : MemoryStore :=
  { store with
    nodes := store.nodes.pop nodeCode
    nodeHeartbeatsV2 := store.nodeHeartbeatsV2.pop nodeCode
    metrics := store.metrics.filter (·.nodeCode ≠ nodeCode)
    machines := store.machines.filter (·.nodeCode ≠ nodeCode)
    partQueue := store.partQueue.filter fun part =>
      part.sourceNode ≠ nodeCode && part.targetNode ≠ nodeCode && part.claimedBy ≠ nodeCode }

def retireNode (nodeCode actor : String) (decision : Option SafetyDecision) :
    StoreProcedure Unit :=
  Procedure.transact fun store => do
    let _ ← requireSafetyDecision decision "retire_node" nodeCode actor
    let _ ← orFault (store.nodes.get? nodeCode) (.keyError nodeCode)
    return ((), store.retire nodeCode)

end Isolation

section Metrics

variable (env : StoreEnv) (now : Timestamp)

/-- The status that `record_metric` gives a node before its rules. -/
def NodeStatus.afterMetric (status : NodeStatus) (cpuUsage : ℚ) : NodeStatus :=
  if status = .degraded ∧ cpuUsage < 92 then .online
  else if status ≠ .isolated ∧ status ≠ .degraded then .online
  else status

def MetricIn.workshop (metric : MetricIn) : String :=
  match metric.workshopType with
  | some workshopType =>
    if workshopType = "" then inferWorkshopType metric.nodeCode else workshopType
  | none => inferWorkshopType metric.nodeCode

def Node.sampled (metric : MetricIn) (node : Node) : Node :=
  { node with
    workshopType := metric.workshop
    status := node.status.afterMetric metric.cpuUsage
    lastHeartbeat := now }

def metricCapacity : Nat := 300

def MemoryStore.sampleMetric (store : MemoryStore) (metric : MetricIn) : MemoryStore :=
  let store := store.updateNode now metric.nodeCode metric.workshop (·.sampled now metric)
  { store with metrics := keepLast metricCapacity (store.metrics ++ [metric]) }

/-- Rule L2 of `record_metric`. -/
def MetricIn.overloaded (metric : MetricIn) : Bool :=
  92 ≤ metric.cpuUsage.val && 800 ≤ metric.apiLatencyMs

/-- Rule L3 of `record_metric`. -/
def MetricIn.hostile (metric : MetricIn) : Bool := 100000000 ≤ metric.networkIn

/-- The types of the alerts that `record_metric` returns. -/
def MetricIn.alertTypes (metric : MetricIn) : List String :=
  (if 90 ≤ metric.diskUsage.val then ["disk_pressure"] else []) ++
    (if metric.overloaded then ["cpu_latency_correlation"] else []) ++
    (if metric.hostile then ["hostile_traffic"] else [])

def MetricIn.degrade (metric : MetricIn) (store : MemoryStore) : MemoryStore :=
  if metric.overloaded then setStatus metric.nodeCode .degraded store else store

def MetricIn.contain (metric : MetricIn) : StoreProcedure Unit := do
  let store ← get
  let decision := SafetyGovernor.reviewControlAction
    (SafetyGovernor.containment metric.nodeCode (store.nodes.items.map Prod.fst))
  isolateNode metric.nodeCode "safety_automation" (some decision)

def recordMetric (metric : MetricIn) (evaluate : Bool) : StoreProcedure (List String) := do
  modify fun store => store.sampleMetric now metric
  if isControlPlaneNode metric.nodeCode metric.workshop || !evaluate then return []
  else
    modify metric.degrade
    if metric.hostile && env.settings.controlMode ≠ .readOnly then
      metric.contain
      return metric.alertTypes
    else return metric.alertTypes

end Metrics

end MiniOgas
