import MiniOgas.OrderOperations

namespace MiniOgas

open Relational Serial

def taskKey (taskId : Nat) (action : String) (idempotencyKey : Text 1 128) : ActionKey :=
  ⟨"operation_task", toString taskId, action, idempotencyKey.value⟩

/-- What an action on a task comes to before it changes the status: the row that it read, the
side tables with its writes, and the arguments of `_change_task_status`. -/
structure StatusStep where
  taskId : Nat
  task : OperationTask
  toStatus : TaskStatus
  action : String
  change : StatusChange
  setups : Table OperationSetup
  holds : Table OperationHold
  downtimes : Table OperationDowntime

def ExecutionFacts.sideTables (facts : ExecutionFacts) (step : StatusStep) : ExecutionFacts :=
  { facts with setups := step.setups, holds := step.holds, downtimes := step.downtimes }

/-- `_change_task_status` of the step. -/
def StatusStep.record (step : StatusStep) (env : ExecutionEnv) (actor : String)
    (key : Text 1 128) (facts : ExecutionFacts) : Except Fault ExecutionFacts :=
  changeTaskStatus env (facts.sideTables step) step.taskId step.task step.toStatus step.action
    actor key step.change

@[simp] def ExecutionFacts.step (facts : ExecutionFacts) (taskId : Nat) (task : OperationTask)
    (toStatus : TaskStatus) (action : String) (change : StatusChange) : StatusStep :=
  ⟨taskId, task, toStatus, action, change, facts.setups, facts.holds, facts.downtimes⟩

section Preparations

variable (env : ExecutionEnv) (actor : String) (facts : ExecutionFacts)

def prepareStartSetup (taskId : Nat) (payload : ExecutionActionIn) : Except Fault StatusStep := do
  let task ← requireTask facts taskId
  requireTransition taskId task [.dispatched] "start setup"
  validatePredecessors facts task
  check (facts.setups.any (·.isOf taskId) = false)
    (.database "duplicate key value violates unique constraint on operation_setups")
  let setups := facts.setups.insert
    { operationTaskId := taskId, status := .inProgress, parametersJson := [.openObj, .closeObj]
      evidenceReference := none, startedBy := actor, startedAt := env.now
      completedBy := none, completedAt := none }
  let step := facts.step taskId task .setup "setup-start" { reason := payload.reason.value }
  return { step with setups }

def prepareCompleteSetup (taskId : Nat) (payload : SetupCompleteIn) : Except Fault StatusStep := do
  let task ← requireTask facts taskId
  requireTransition taskId task [.setup] "complete setup"
  let active := fun setup : OperationSetup => setup.isOf taskId && setup.status = .inProgress
  check (facts.setups.count active = 1) (executionError 409 "SETUP_RECORD_NOT_ACTIVE"
    "operation task has no active setup record" [("task_id", .int taskId)])
  let setups := facts.setups.updateWhere active fun setup => { setup with
    status := .completed, parametersJson := canonicalJson (.obj payload.parameters)
    evidenceReference := some payload.evidenceReference.value
    completedBy := some actor, completedAt := some env.now }
  let step := facts.step taskId task .ready "setup-complete"
    { evidenceReference := payload.evidenceReference.value }
  return { step with setups }

def prepareStart (taskId : Nat) (payload : ExecutionActionIn) : Except Fault StatusStep := do
  let task ← requireTask facts taskId
  requireTransition taskId task [.ready] "start"
  requireMaintenanceReadiness env facts taskId
  return facts.step taskId task .running "start"
    { reason := payload.reason.value, setStarted := true }

def preparePause (taskId : Nat) (payload : ExecutionActionIn) : Except Fault StatusStep := do
  let task ← requireTask facts taskId
  requireTransition taskId task [.running] "pause"
  return facts.step taskId task .paused "pause" { reason := payload.reason.value }

def prepareResume (taskId : Nat) (payload : ExecutionActionIn) : Except Fault StatusStep := do
  let task ← requireTask facts taskId
  requireTransition taskId task [.paused] "resume"
  check (facts.downtimes.any (·.isOpenOf taskId) = false) (executionError 409
    "OPEN_DOWNTIME_BLOCKS_RESUME"
    "operation cannot resume until its open downtime record is closed" [("task_id", .int taskId)])
  requireMaintenanceReadiness env facts taskId
  return facts.step taskId task .running "resume" { reason := payload.reason.value }

def prepareHold (taskId : Nat) (payload : HoldActionIn) : Except Fault StatusStep := do
  let task ← requireTask facts taskId
  requireTransition taskId task [.dispatched, .setup, .ready, .running, .paused] "hold"
  check (facts.holds.any (·.isOpenOf taskId) = false)
    (.database "duplicate key value violates unique constraint uq_operation_hold_open")
  let holds := facts.holds.insert
    { operationTaskId := taskId, priorStatus := task.status, status := .open
      reason := payload.reason.value, heldBy := actor, heldAt := env.now
      releasedBy := none, releasedAt := none, releaseReason := none }
  let step := facts.step taskId task .held "hold"
    { reason := payload.reason.value, holdReturnStatus := some task.status }
  return { step with holds }

def prepareRelease (taskId : Nat) (payload : HoldActionIn) : Except Fault StatusStep := do
  let task ← requireTask facts taskId
  requireTransition taskId task [.held] "release hold"
  let (holdId, hold) ← orFault (facts.holds.last? (·.isOpenOf taskId)) (executionError 409
    "OPEN_HOLD_NOT_FOUND" "held task has no durable open hold record" [("task_id", .int taskId)])
  let holds := facts.holds.updateAt holdId (·.status = .open) fun row => { row with
    status := .released, releasedBy := some actor, releasedAt := some env.now
    releaseReason := some payload.reason.value }
  let step := facts.step taskId task hold.priorStatus "release-hold"
    { reason := payload.reason.value, clearHoldReturn := true }
  return { step with holds }

def prepareComplete (taskId : Nat) (payload : CompleteTaskIn) : Except Fault StatusStep := do
  let task ← requireTask facts taskId
  requireTransition taskId task [.running] "complete"
  check (sameQuantity (facts.accounted taskId) task.plannedQuantity = true) (executionError 409
    "QUANTITY_NOT_CONSERVED"
    "operation cannot complete until accepted reports exactly conserve planned quantity"
    [("planned_quantity", .float task.plannedQuantity),
      ("accounted_quantity", .float (facts.accounted taskId))])
  check (strip payload.evidenceReference.value ≠ "") (executionError 409
    "COMPLETION_EVIDENCE_REQUIRED"
    "operation completion requires a durable evidence reference" [("task_id", .int taskId)])
  return facts.step taskId task .completed "complete"
    { evidenceReference := strip payload.evidenceReference.value, setCompleted := true }

def prepareStartDowntime (taskId : Nat) (payload : DowntimeStartIn) : Except Fault StatusStep := do
  let task ← requireTask facts taskId
  requireTransition taskId task [.running] "start downtime"
  check (facts.downtimes.any (fun other => other.downtimeCode = payload.downtimeCode.value ||
      other.isOpenOf taskId) = false) (executionError 409 "DOWNTIME_ALREADY_OPEN"
    "task already has open downtime or the downtime code already exists")
  let downtimes := facts.downtimes.insert
    { operationTaskId := taskId, downtimeCode := payload.downtimeCode.value, status := .open
      reason := payload.reason.value, startEvidenceReference := payload.evidenceReference.value
      endEvidenceReference := none, startedBy := actor, startedAt := env.now
      endedBy := none, endedAt := none }
  let step := facts.step taskId task .paused "downtime-start"
    { reason := payload.reason.value, evidenceReference := payload.evidenceReference.value }
  return { step with downtimes }

def prepareEndDowntime (downtimeId : Nat) (payload : DowntimeEndIn) : Except Fault StatusStep := do
  let downtime ← orFault (facts.downtimes.find? downtimeId)
    (executionError 404 "DOWNTIME_NOT_FOUND" "downtime record was not found")
  check (downtime.status = .open) (executionError 409 "DOWNTIME_NOT_OPEN"
    "only open downtime can be ended" [("downtime_id", .int downtimeId)])
  let taskId := downtime.operationTaskId
  let task ← requireTask facts taskId
  requireTransition taskId task [.paused] "end downtime"
  requireMaintenanceReadiness env facts taskId
  let downtimes ← facts.downtimes.updateOne downtimeId (·.status = .open)
    (fun row => { row with
      status := .closed, endEvidenceReference := some payload.evidenceReference.value
      endedBy := some actor, endedAt := some env.now })
    (executionError 409 "DOWNTIME_CLOSE_CONFLICT" "downtime changed while it was being closed")
  let step := facts.step taskId task .running "downtime-end"
    { evidenceReference := payload.evidenceReference.value }
  return { step with downtimes }

def prepareClose (taskId : Nat) (payload : ExecutionActionIn) : Except Fault StatusStep := do
  let task ← requireTask facts taskId
  requireTransition taskId task [.completed] "close"
  return facts.step taskId task .closed "close"
    { reason := payload.reason.value, setClosed := true }

end Preparations

/-- The body of an action on a task: its checks and side writes, `_change_task_status`, and the end
of the action, which sees the facts before and after. -/
def StatusStep.body (prepare : ExecutionFacts → Except Fault StatusStep) (env : ExecutionEnv)
    (actor : String) (key : Text 1 128)
    (finish : StatusStep → ExecutionFacts → ExecutionFacts → Except Fault Outcome)
    (facts : ExecutionFacts) : Except Fault Outcome := do
  let step ← prepare facts
  let changed ← step.record env actor key facts
  finish step facts changed

def concludeTask (env : ExecutionEnv) (auditAction : String) (detail : Json) (step : StatusStep)
    (facts : ExecutionFacts) : Except Fault Outcome := do
  let response ← formatTask env facts step.taskId
  return ⟨response, facts, auditAction, "operation_task", toString step.taskId, detail⟩

def ExecutionFacts.startExecution (facts : ExecutionFacts) (executionId : Nat) : ExecutionFacts :=
  { facts with
    executions := facts.executions.updateAt executionId
      (fun row => row.status = .released || row.status = .dispatched)
      fun row => { row with status := .inProgress } }

/-- The end of `start_task`, which also starts the execution of the work order. -/
def concludeStart (env : ExecutionEnv) (step : StatusStep) (facts : ExecutionFacts) :
    Except Fault Outcome :=
  concludeTask env "execution:operation-started"
    (.obj [("work_order_id", .int step.task.workOrderId), ("sequence", .int step.task.sequence)])
    step (facts.startExecution step.task.workOrderExecutionId)

def startSetup (env : ExecutionEnv) (db : ExecutionTables) (taskId : Nat)
    (payload : ExecutionActionIn) (actor : String) : Except Fault (Json × ExecutionTables) :=
  idempotent env db (taskKey taskId "setup-start" payload.idempotencyKey) payload.json actor <|
    StatusStep.body (prepareStartSetup env actor · taskId payload) env actor payload.idempotencyKey
      fun step _ changed => concludeTask env "execution:setup-started"
        (.obj [("work_order_id", .int step.task.workOrderId),
          ("sequence", .int step.task.sequence)]) step changed

def completeSetup (env : ExecutionEnv) (db : ExecutionTables) (taskId : Nat)
    (payload : SetupCompleteIn) (actor : String) : Except Fault (Json × ExecutionTables) :=
  idempotent env db (taskKey taskId "setup-complete" payload.idempotencyKey) payload.json actor <|
    StatusStep.body (prepareCompleteSetup env actor · taskId payload) env actor
      payload.idempotencyKey fun step _ changed => concludeTask env "execution:setup-completed"
        (.obj [("evidence_reference", .str payload.evidenceReference.value),
          ("parameters", .obj payload.parameters)]) step changed

def startTask (env : ExecutionEnv) (db : ExecutionTables) (taskId : Nat)
    (payload : ExecutionActionIn) (actor : String) : Except Fault (Json × ExecutionTables) :=
  idempotent env db (taskKey taskId "start" payload.idempotencyKey) payload.json actor <|
    StatusStep.body (prepareStart env · taskId payload) env actor payload.idempotencyKey
      fun step _ changed => concludeStart env step changed

/-- `_simple_task_transition` with the values of `pause_task`. -/
def pauseTask (env : ExecutionEnv) (db : ExecutionTables) (taskId : Nat)
    (payload : ExecutionActionIn) (actor : String) : Except Fault (Json × ExecutionTables) :=
  idempotent env db (taskKey taskId "pause" payload.idempotencyKey) payload.json actor <|
    StatusStep.body (preparePause · taskId payload) env actor payload.idempotencyKey
      fun step _ changed => concludeTask env "execution:operation-paused"
        (.obj [("from_status", .str step.task.status.text),
          ("to_status", .str TaskStatus.paused.text), ("reason", .str payload.reason.value)])
        step changed

def resumeTask (env : ExecutionEnv) (db : ExecutionTables) (taskId : Nat)
    (payload : ExecutionActionIn) (actor : String) : Except Fault (Json × ExecutionTables) :=
  idempotent env db (taskKey taskId "resume" payload.idempotencyKey) payload.json actor <|
    StatusStep.body (prepareResume env · taskId payload) env actor payload.idempotencyKey
      fun step _ changed => concludeTask env "execution:operation-resumed"
        (.obj [("reason", .str payload.reason.value)]) step changed

def holdTask (env : ExecutionEnv) (db : ExecutionTables) (taskId : Nat) (payload : HoldActionIn)
    (actor : String) : Except Fault (Json × ExecutionTables) :=
  idempotent env db (taskKey taskId "hold" payload.idempotencyKey) payload.json actor <|
    StatusStep.body (prepareHold env actor · taskId payload) env actor payload.idempotencyKey
      fun step _ changed => concludeTask env "execution:operation-held"
        (.obj [("prior_status", .str step.task.status.text),
          ("reason", .str payload.reason.value)]) step changed

def releaseHold (env : ExecutionEnv) (db : ExecutionTables) (taskId : Nat) (payload : HoldActionIn)
    (actor : String) : Except Fault (Json × ExecutionTables) :=
  idempotent env db (taskKey taskId "release-hold" payload.idempotencyKey) payload.json actor <|
    StatusStep.body (prepareRelease env actor · taskId payload) env actor payload.idempotencyKey
      fun step _ changed => concludeTask env "execution:operation-hold-released"
        (.obj [("restored_status", .str step.toStatus.text),
          ("reason", .str payload.reason.value)]) step changed

def QuantityReport.json (report : QuantityReport) (id : Nat) : Json :=
  .obj [("id", .int id), ("operation_task_id", .int report.operationTaskId),
    ("report_id", .str report.reportId), ("good_quantity", .float report.goodQuantity),
    ("scrap_quantity", .float report.scrapQuantity),
    ("rework_quantity", .float report.reworkQuantity),
    ("evidence_reference", .str report.evidenceReference),
    ("occurred_at", .time report.occurredAt), ("reported_by", .str report.reportedBy),
    ("created_at", .time report.createdAt)]

def QuantityReport.same (existing : QuantityReport) (taskId : Nat) (payload : QuantityReportIn) :
    Bool :=
  existing.operationTaskId = taskId && sameQuantity existing.goodQuantity payload.goodQuantity &&
    sameQuantity existing.scrapQuantity payload.scrapQuantity &&
    sameQuantity existing.reworkQuantity payload.reworkQuantity &&
    existing.evidenceReference = payload.evidenceReference.value &&
    existing.occurredAt = payload.occurredAt

/-- `trg_operation_quantity_conservation`. -/
def guardOperationQuantity (facts : ExecutionFacts) (report : QuantityReport) :
    Except Fault Unit :=
  check (∀ task, facts.tasks.find? report.operationTaskId = some task →
      facts.accounted report.operationTaskId + report.accounted ≤
        task.plannedQuantity + 1 / 1000000000)
    (.database "quantity reports exceed operation plan")

def reportedQuantity (env : ExecutionEnv) (taskId : Nat) (payload : QuantityReportIn)
    (actor : String) : QuantityReport where
  operationTaskId := taskId
  reportId := payload.reportId.value
  goodQuantity := payload.goodQuantity
  scrapQuantity := payload.scrapQuantity
  reworkQuantity := payload.reworkQuantity
  evidenceReference := payload.evidenceReference.value
  occurredAt := payload.occurredAt
  reportedBy := actor
  createdAt := env.now

/-- A report with a known identifier is answered before the status is looked at. -/
def reportQuantity (env : ExecutionEnv) (db : ExecutionTables) (taskId : Nat)
    (payload : QuantityReportIn) (actor : String) : Except Fault (Json × ExecutionTables) := do
  let task ← requireTask db.facts taskId
  match db.facts.reports.first? (·.reportId = payload.reportId.value) with
  | some (id, existing) =>
    check (existing.same taskId payload = true) (executionError 409 "IDEMPOTENCY_KEY_REUSED"
      "report_id already identifies a different quantity report"
      [("report_id", .str payload.reportId.value)])
    return (existing.json id, db)
  | none => audited env db actor fun facts => do
    requireTransition taskId task [.running, .paused] "report quantity"
    let report := reportedQuantity env taskId payload actor
    check (facts.accounted taskId + report.accounted ≤ task.plannedQuantity + 1 / 1000000000)
      (executionError 409 "QUANTITY_EXCEEDS_PLAN"
        "accepted quantity reports cannot exceed the operation plan"
        [("planned_quantity", .float task.plannedQuantity),
          ("already_accounted", .float (facts.accounted taskId)),
          ("attempted_quantity", .float report.accounted)])
    guardOperationQuantity facts report
    check (facts.reports.any (·.reportId = report.reportId) = false) (executionError 409
      "DUPLICATE_QUANTITY_REPORT" "quantity report identifier already exists")
    return ⟨report.json facts.reports.nextId,
      { facts with reports := facts.reports.insert report },
      "execution:quantity-reported", "operation_task", toString taskId,
      .obj [("report_id", .str report.reportId), ("good_quantity", .float report.goodQuantity),
        ("scrap_quantity", .float report.scrapQuantity),
        ("rework_quantity", .float report.reworkQuantity),
        ("evidence_reference", .str report.evidenceReference)]⟩

/-- The end of `complete_task`, with the roll-up to the execution and the production order. -/
def concludeComplete (env : ExecutionEnv) (step : StatusStep) (facts changed : ExecutionFacts) :
    Except Fault Outcome := do
  let rolledUp ← updateCompletionAggregates env changed step.task
  concludeTask env "execution:operation-completed"
    (.obj [("accounted_quantity", .float (facts.accounted step.taskId)),
      ("evidence_reference", .str step.change.evidenceReference)]) step rolledUp

def completeTask (env : ExecutionEnv) (db : ExecutionTables) (taskId : Nat)
    (payload : CompleteTaskIn) (actor : String) : Except Fault (Json × ExecutionTables) :=
  idempotent env db (taskKey taskId "complete" payload.idempotencyKey) payload.json actor <|
    StatusStep.body (prepareComplete · taskId payload) env actor payload.idempotencyKey
      (concludeComplete env)

def formatDowntime (facts : ExecutionFacts) (downtimeId : Nat) : Except Fault Json := do
  let downtime ← orFault (facts.downtimes.find? downtimeId)
    (executionError 404 "DOWNTIME_NOT_FOUND" "downtime record was not found")
  return .obj [("id", .int downtimeId), ("operation_task_id", .int downtime.operationTaskId),
    ("downtime_code", .str downtime.downtimeCode), ("status", .str downtime.status.text),
    ("reason", .str downtime.reason),
    ("start_evidence_reference", .str downtime.startEvidenceReference),
    ("end_evidence_reference", jsonText downtime.endEvidenceReference),
    ("started_by", .str downtime.startedBy), ("started_at", .time downtime.startedAt),
    ("ended_by", jsonText downtime.endedBy), ("ended_at", jsonTime downtime.endedAt)]

def concludeDowntime (downtimeId : Nat) (auditAction : String) (detail : Json) (step : StatusStep)
    (facts : ExecutionFacts) : Except Fault Outcome := do
  let response ← formatDowntime facts downtimeId
  return ⟨response, facts, auditAction, "operation_task", toString step.taskId, detail⟩

def startDowntime (env : ExecutionEnv) (db : ExecutionTables) (taskId : Nat)
    (payload : DowntimeStartIn) (actor : String) : Except Fault (Json × ExecutionTables) :=
  idempotent env db (taskKey taskId "downtime-start" payload.idempotencyKey) payload.json actor <|
    StatusStep.body (prepareStartDowntime env actor · taskId payload) env actor
      payload.idempotencyKey fun step facts changed => concludeDowntime facts.downtimes.nextId
        "execution:downtime-started" (.obj [("downtime_id", .int facts.downtimes.nextId),
          ("downtime_code", .str payload.downtimeCode.value),
          ("reason", .str payload.reason.value),
          ("evidence_reference", .str payload.evidenceReference.value)]) step changed

def endDowntime (env : ExecutionEnv) (db : ExecutionTables) (downtimeId : Nat)
    (payload : DowntimeEndIn) (actor : String) : Except Fault (Json × ExecutionTables) :=
  idempotent env db ⟨"downtime", toString downtimeId, "end", payload.idempotencyKey.value⟩
    payload.json actor <|
    StatusStep.body (prepareEndDowntime env actor · downtimeId payload) env actor
      payload.idempotencyKey fun step _ changed => concludeDowntime downtimeId
        "execution:downtime-ended" (.obj [("downtime_id", .int downtimeId),
          ("evidence_reference", .str payload.evidenceReference.value)]) step changed

def closeTask (env : ExecutionEnv) (db : ExecutionTables) (taskId : Nat)
    (payload : ExecutionActionIn) (actor : String) : Except Fault (Json × ExecutionTables) :=
  idempotent env db (taskKey taskId "close" payload.idempotencyKey) payload.json actor <|
    StatusStep.body (prepareClose · taskId payload) env actor payload.idempotencyKey
      fun step _ changed => concludeTask env "execution:operation-closed"
        (.obj [("reason", .str payload.reason.value)]) step changed

end MiniOgas
