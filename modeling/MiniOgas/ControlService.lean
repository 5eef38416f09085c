import MiniOgas.ControlTables

namespace MiniOgas

open Procedure Serial

variable (env : ControlEnv) (now : Timestamp)

namespace CommandControlService

def requireControlEnabled : ControlProcedure Unit :=
  lift (check (env.store.settings.controlMode ≠ .readOnly) (.http 409
    (.obj [("code", .str "control_mode_read_only"),
      ("message", .str "The configured CONTROL_MODE does not permit control actions.")])))

def requireNode (nodeCode : String) : ControlProcedure Unit := do
  let state ← get
  lift (check (state.store.nodes.contains nodeCode = true) (.http 404 (.str "node not found")))

def command (commandId : Nat) : ControlProcedure NodeCommand := do
  let state ← get
  lift (orFault (state.commands.find? (·.id = commandId)) (.http 404 (.str "command not found")))

/-- `review_control_action` on a command or on the node of a new one, with `known_nodes`. -/
def review (actor : ActorInfo) (action nodeCode riskLevel : String)
    (confirmationCode : Option String) (state : ControlState) : SafetyDecision :=
  SafetyGovernor.reviewControlAction
    { action
      targetNode := nodeCode
      riskLevel
      actorRole := actor.role
      actorId := actorIdentity actor
      knownNodes := state.store.nodes.items.map Prod.fst
      confirmationCode }

/-- The arguments of `_issue_target_rate`. -/
structure TargetRateIssue where
  nodeCode : String
  targetRate : ℚ
  actor : ActorInfo
  riskLevel : String
  status : CommandStatus
  parameters : Fields
  allowConfirmationPending : Bool := false

def TargetRateIssue.request (issue : TargetRateIssue) : CommandRequest where
  nodeCode := issue.nodeCode
  commandType := "set_target_rate"
  riskLevel := issue.riskLevel
  status := issue.status
  operator := actorIdentity issue.actor
  parameters := ("target_rate", .float issue.targetRate) :: issue.parameters

def requireCapacity (issue : TargetRateIssue) : ControlProcedure Unit := do
  let state ← get
  match reportedPhysicalRateLimitPerMinute env.store.builtins state.store issue.nodeCode with
  | none => pure ()
  | some limit => lift (check (issue.targetRate ≤ limit + 1 / 1000000000) (.http 422
      (.obj [("code", .str "target_exceeds_physical_capacity"),
        ("message", .str "target_rate exceeds the latest node-reported physical capacity"),
        ("requested_rate", .float issue.targetRate), ("maximum_rate", .float (roundRate limit)),
        ("rate_unit", .str "parts_per_minute"), ("node_code", .str issue.nodeCode)])))

/-- `_issue_target_rate`. -/
def issue (issue : TargetRateIssue) : ControlProcedure NodeCommand := do
  requireControlEnabled env
  requireNode issue.nodeCode
  requireCapacity env issue
  let state ← get
  let decision := review issue.actor "set_target_rate" issue.nodeCode issue.riskLevel none state
  recordSafetyDecision { decision }
  if issue.allowConfirmationPending = false ∨
      decision.reasonCode ≠ "confirmation_code_required" then
    requireAllowed decision
  addCommand env now issue.request

def issueTargetRate (nodeCode : String) (targetRate : ℚ) (actor : ActorInfo) :
    ControlProcedure NodeCommand :=
  issue env now
    { nodeCode, targetRate, actor, riskLevel := "low", status := .pending, parameters := [] }

/-- The arguments of `issue_dispatch_target_rate`. -/
structure DispatchIssue where
  nodeCode : String
  targetRate : ℚ
  actor : ActorInfo
  orderId : String
  productCode : String
  planTargetQuantity : Nat
  dispatchTaskIds : List Int
  planningHorizonMinutes : Nat
  physicalLimit : ℚ

def DispatchIssue.key (dispatch : DispatchIssue) : String :=
  s!"dispatch:{dispatch.orderId}:{dispatch.nodeCode}:{dispatch.planTargetQuantity}:" ++
    s!"{dispatch.planningHorizonMinutes}"

def DispatchIssue.parameters (dispatch : DispatchIssue) : Fields :=
  [("workflow_kind", .str "dispatch_target_rate"), ("node_executable", .bool true),
    ("source_order_id", .str dispatch.orderId), ("product_code", .str dispatch.productCode),
    ("plan_target_quantity", .int dispatch.planTargetQuantity),
    ("dispatch_task_ids", .arr (dispatch.dispatchTaskIds.map Json.int)),
    ("planning_horizon_minutes", .int dispatch.planningHorizonMinutes),
    ("physical_limit", .float (roundRate dispatch.physicalLimit)),
    ("rate_unit", .str "parts_per_minute"), ("idempotency_key", .str dispatch.key),
    ("ttl_seconds", .int 1800)]

def DispatchIssue.targetRateIssue (dispatch : DispatchIssue) : TargetRateIssue where
  nodeCode := dispatch.nodeCode
  targetRate := dispatch.targetRate
  actor := dispatch.actor
  riskLevel := "high"
  status := .waitingApproval
  parameters := dispatch.parameters
  allowConfirmationPending := true

def issueDispatchTargetRate (dispatch : DispatchIssue) : ControlProcedure NodeCommand :=
  issue env now dispatch.targetRateIssue

/-- The arguments of `issue_ai_review`. -/
structure ReviewIssue where
  suggestionId : String
  nodeCode : String
  riskLevel : String
  recommendation : String
  evidence : Fields
  actor : ActorInfo

def ReviewIssue.request (review : ReviewIssue) : CommandRequest where
  nodeCode := review.nodeCode
  commandType := "review_ai_recommendation"
  riskLevel := review.riskLevel
  status := .waitingApproval
  operator := actorIdentity review.actor
  parameters := [("workflow_kind", .str "ai_suggestion_review"), ("node_executable", .bool false),
    ("suggestion_id", .str review.suggestionId), ("recommendation", .str review.recommendation),
    ("evidence", .obj review.evidence),
    ("idempotency_key", .str ("ai-suggestion:" ++ review.suggestionId)),
    ("ttl_seconds", .int 86400)]

def issueAiReview (issue : ReviewIssue) : ControlProcedure NodeCommand := do
  requireControlEnabled env
  requireNode issue.nodeCode
  lift (check (issue.actor.principalType = "ai_agent")
    (.http 403 (.str "AI review requires an AI Agent principal")))
  let state ← get
  let decision := review issue.actor "review_ai_recommendation" issue.nodeCode issue.riskLevel
    none state
  recordSafetyDecision { decision }
  if decision.reasonCode ≠ "confirmation_code_required" then
    requireAllowed decision
  addCommand env now issue.request

def setStatusForCommand (commandId : Nat) (status : SuggestionStatus) :
    ControlProcedure (Option String) := do
  let state ← get
  match state.suggestions.find? (·.commandId = some commandId) with
  | none => return none
  | some row =>
    modify fun state => { state with
      suggestions := state.suggestions.map fun other =>
        if other.commandId = some commandId then { other with status } else other }
    return some row.suggestionId

inductive Outcome where
  | blocked (commandId : Nat) (decision : SafetyDecision)
  | decided (command : NodeCommand) (suggestionId : Option String) (decision : SafetyDecision)

def lifecycleDecision (action : String) (about : NodeCommand) (actor : ActorInfo) :
    RecordedDecision where
  decision := SafetyGovernor.confirmationGate
    { action
      targetNode := about.nodeCode
      riskLevel := "low"
      actorRole := actor.role
      actorId := actorIdentity actor
      knownNodes := []
      confirmationCode := some "" }
  about := some about.id
  confirmationCode := some ""

def reviewLifecycleAction (action : String) (about : NodeCommand) (actor : ActorInfo) :
    ControlProcedure SafetyDecision := do
  let recorded := lifecycleDecision action about actor
  recordSafetyDecision recorded
  requireAllowed recorded.decision
  return recorded.decision

def reviewCommand (action : String) (about : NodeCommand) (actor : ActorInfo)
    (confirmationCode : String) : ControlProcedure SafetyDecision := do
  let state ← get
  let decision := review actor action about.nodeCode about.riskLevel (some confirmationCode) state
  recordSafetyDecision { decision, about := some about.id, confirmationCode := confirmationCode }
  return decision

def approve (commandId : Nat) (actor : ActorInfo) (confirmationCode : String) :
    ControlProcedure Outcome := do
  let about ← command commandId
  let decision ← reviewCommand about.commandType about actor confirmationCode
  if decision.allow = false then
    return .blocked commandId decision
  if about.isAiSuggestionReview then
    let accepted ← onCommands fun commands =>
      approveHumanReview commands now commandId (actorIdentity actor)
    let suggestionId ← setStatusForCommand commandId .accepted
    return .decided accepted suggestionId decision
  let approved ← onCommands fun commands =>
    MiniOgas.approve commands now commandId (actorIdentity actor)
  modify (updateDispatchControlStatus env.store.builtins about .approved)
  return .decided approved none decision

def rejectSuggestion (about : NodeCommand) : ControlProcedure (Option String) :=
  if about.isAiSuggestionReview then setStatusForCommand about.id .rejected else return none

def reject (commandId : Nat) (actor : ActorInfo) : ControlProcedure Outcome := do
  let about ← command commandId
  let decision ← reviewLifecycleAction "reject_command" about actor
  let rejected ← onCommands fun commands =>
    MiniOgas.reject commands now commandId (actorIdentity actor)
  let suggestionId ← rejectSuggestion about
  modify (updateDispatchControlStatus env.store.builtins about .rejected)
  return .decided rejected suggestionId decision

def cancel (commandId : Nat) (actor : ActorInfo) (reason : String) :
    ControlProcedure Outcome := do
  let about ← command commandId
  let decision ← reviewLifecycleAction "cancel_command" about actor
  let cancelled ← onCommands fun commands =>
    MiniOgas.cancel commands now commandId (actorIdentity actor) reason
  let suggestionId ← rejectSuggestion about
  modify (updateDispatchControlStatus env.store.builtins about .cancelled)
  return .decided cancelled.1 suggestionId decision

def retry (commandId : Nat) (actor : ActorInfo) (confirmationCode : String) :
    ControlProcedure Outcome := do
  let about ← command commandId
  lift (check (about.isAiSuggestionReview = false) (.http 409
    (.str "AI suggestion review commands cannot be retried as node commands")))
  let decision ← reviewCommand ("retry_" ++ about.commandType) about actor confirmationCode
  if decision.allow = false then
    return .blocked commandId decision
  let retried ← onCommands fun commands =>
    MiniOgas.retry env.store.builtins commands now commandId (actorIdentity actor)
  return .decided retried.1 none decision

end CommandControlService

/-- The arguments of `_persist_ai_suggestion`; `stored` says whether the database takes the
row. -/
structure SuggestionInput where
  actor : ActorInfo
  nodeCode : String
  riskLevel : String
  recommendation : String
  evidence : Fields
  requireHumanReview : Bool := false
  stored : Bool := true

def SuggestionInput.needsReview (input : SuggestionInput) : Bool :=
  input.requireHumanReview || ["high", "critical"].contains input.riskLevel

def SuggestionInput.row (input : SuggestionInput) (suggestionId : String)
    (commandId : Option Nat) : AiSuggestion where
  suggestionId
  principalId := input.actor.principalId
  nodeCode := input.nodeCode
  riskLevel := input.riskLevel
  recommendation := input.recommendation
  evidence := input.evidence
  status := if input.needsReview then .pendingHumanReview else .submitted
  commandId

/-- The keys and the check of `ai_suggestions` let the row in. -/
def AiSuggestion.storable (rows : List AiSuggestion) (row : AiSuggestion) : Bool :=
  ["low", "medium", "high", "critical"].contains row.riskLevel &&
    rows.all fun other => other.suggestionId ≠ row.suggestionId &&
      (row.commandId = none || other.commandId ≠ row.commandId)

def SuggestionInput.reviewIssue (input : SuggestionInput) (suggestionId : String) :
    CommandControlService.ReviewIssue where
  suggestionId
  nodeCode := input.nodeCode
  riskLevel := input.riskLevel
  recommendation := input.recommendation
  evidence := input.evidence
  actor := input.actor

/-- The rest of `_persist_ai_suggestion`, from the insertion on. -/
def storeSuggestion (input : SuggestionInput) (row : AiSuggestion) :
    ControlProcedure AiSuggestion := do
  let state ← get
  if input.stored && row.storable state.suggestions then
    modify fun state => { state with suggestions := state.suggestions ++ [row] }
    return row
  if let some commandId := row.commandId then
    let _ ← onCommands fun commands => cancel commands now commandId (actorIdentity input.actor)
      "AI suggestion persistence failed"
  throw .database

def persistAiSuggestion (input : SuggestionInput) : ControlProcedure AiSuggestion := do
  let state ← get
  let suggestionId := "ais_" ++ env.token state.tokens
  modify fun state => { state with tokens := state.tokens + 1 }
  if input.needsReview then
    let command ← CommandControlService.issueAiReview env now (input.reviewIssue suggestionId)
    storeSuggestion now input (input.row suggestionId (some command.id))
  else
    storeSuggestion now input (input.row suggestionId none)

namespace DispatchControlService

open CommandControlService

def findOrder (orders : List AllocationOrder) (orderId : String) :
    Except ServiceFault AllocationOrder :=
  orFault (if orderId ≠ "" then orders.find? (·.orderId = orderId)
    else orders.reverse.find? fun order =>
      order.status = .received || order.status = .planned || order.status = .awaitingApproval)
    (.http 404 (.str "allocation order not found"))

def findPlan (plans : List ProductionPlan) (order : AllocationOrder) :
    Except ServiceFault ProductionPlan := do
  let plan ← orFault (plans.find? (·.productCode = order.productCode)) (.http 409
    (.obj [("code", .str "production_plan_missing"),
      ("message", .str "Regenerate the production plan before proposing dispatch control."),
      ("order_id", .str order.orderId), ("product_code", .str order.productCode)]))
  check (order.requiredQuantity ≤ plan.targetQuantity) (.http 409
    (.obj [("code", .str "production_plan_does_not_cover_order"),
      ("message", .str "The generated plan does not cover the accepted order quantity."),
      ("order_id", .str order.orderId), ("required_quantity", .int order.requiredQuantity),
      ("plan_target_quantity", .int plan.targetQuantity)]))
  return plan

def executableTasks (tasks : List DispatchTask) (order : AllocationOrder) (nodeCode : String) :
    List DispatchTask :=
  tasks.filter fun task => task.productCode = order.productCode && task.assignedNode ≠ "" &&
    task.status ≠ "blocked" && (nodeCode = "" || task.assignedNode = nodeCode)

def planningHorizonMinutes (order : AllocationOrder) : Nat := max 1 (order.deadlineHours * 60)

def requestedRate (order : AllocationOrder) : ℚ :=
  max (1 / 1000) (roundRate (order.requiredQuantity / planningHorizonMinutes order))

def validate (state : ControlState) (order : AllocationOrder) (nodeCode : String) :
    Except ServiceFault ℚ := do
  let limit ← orFault
    (reportedPhysicalRateLimitPerMinute env.store.builtins state.store nodeCode) (.http 409
    (.obj [("code", .str "node_capacity_not_reported"),
      ("message", .str ("A fresh node heartbeat must report physical capacity before " ++
        "dispatch control.")),
      ("node_code", .str nodeCode), ("order_id", .str order.orderId)]))
  check (requestedRate order ≤ limit + 1 / 1000000000) (.http 422
    (.obj [("code", .str "order_rate_exceeds_physical_capacity"),
      ("message", .str ("The order cannot meet its deadline within the reported physical " ++
        "capacity.")),
      ("order_id", .str order.orderId), ("node_code", .str nodeCode),
      ("requested_rate", .float (requestedRate order)),
      ("maximum_rate", .float (roundRate limit)), ("rate_unit", .str "parts_per_minute")]))
  return limit

def dispatchIssue (actor : ActorInfo) (order : AllocationOrder) (plan : ProductionPlan)
    (tasks : List DispatchTask) (nodeCode : String) (physicalLimit : ℚ) : DispatchIssue where
  nodeCode
  targetRate := requestedRate order
  actor
  orderId := order.orderId
  productCode := order.productCode
  planTargetQuantity := plan.targetQuantity
  dispatchTaskIds := (tasks.filter (·.assignedNode = nodeCode)).map (·.id)
  planningHorizonMinutes := planningHorizonMinutes order
  physicalLimit

/-- `tasks_by_node`, in the order in which the loop takes the nodes. -/
def taskNodes (tasks : List DispatchTask) : List String :=
  (tasks.map (·.assignedNode)).dedup.insertionSort (· ≤ ·)

/-- What `propose_target_rates` issues, when the checks before it pass. -/
def proposal (actor : ActorInfo) (orderId nodeCode : String) (state : ControlState) :
    Except ServiceFault (AllocationOrder × List DispatchIssue) := do
  let order ← findOrder state.orders orderId
  let plan ← findPlan state.plans order
  let tasks := executableTasks state.tasks order nodeCode
  check (tasks ≠ []) (.http 409
    (.obj [("code", .str "dispatch_has_no_executable_task"),
      ("message", .str "The selected order has no dispatch task bound to an online node."),
      ("order_id", .str order.orderId), ("node_code", .str nodeCode)]))
  let validated ← (taskNodes tasks).mapM fun target => do
    let limit ← validate env state order target
    return dispatchIssue actor order plan tasks target limit
  return (order, validated)

def issueEach : List DispatchIssue → ControlProcedure (List NodeCommand)
  | [] => return []
  | dispatch :: rest => do
    let command ← issueDispatchTargetRate env now dispatch
    let commands ← issueEach rest
    return command :: commands

def proposeTargetRates (actor : ActorInfo) (orderId nodeCode : String) :
    ControlProcedure (List NodeCommand) := do
  let state ← get
  let (order, dispatches) ← lift (proposal env actor orderId nodeCode state)
  let commands ← issueEach env now dispatches
  modify (·.setOrderStatus order.orderId .awaitingApproval)
  return commands

end DispatchControlService

end MiniOgas
