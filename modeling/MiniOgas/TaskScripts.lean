import MiniOgas.TaskOperations
import MiniOgas.Interleaving

namespace MiniOgas

open Relational Serial Interleaving

inductive FactWrite where
  | task (id : Nat) (row : OperationTask)
  | history (row : TaskHistory)
  | newSetup (row : OperationSetup)
  | setup (id : Nat) (row : OperationSetup)
  | newHold (row : OperationHold)
  | hold (id : Nat) (row : OperationHold)
  | newDowntime (row : OperationDowntime)
  | downtime (id : Nat) (row : OperationDowntime)
  | execution (id : Nat) (row : WorkOrderExecution)
  | order (id : Nat) (row : ProductionOrder)

inductive TaskWrite where
  | facts (write : FactWrite)
  | auditLogs (row : AuditLog)
  | idempotency (row : IdempotencyRecord)

def ExecutionFacts.put (facts : ExecutionFacts) : FactWrite → ExecutionFacts
  | .task id row => { facts with tasks := facts.tasks.set id row }
  | .history row => { facts with history := facts.history.insert row }
  | .newSetup row => { facts with setups := facts.setups.insert row }
  | .setup id row => { facts with setups := facts.setups.set id row }
  | .newHold row => { facts with holds := facts.holds.insert row }
  | .hold id row => { facts with holds := facts.holds.set id row }
  | .newDowntime row => { facts with downtimes := facts.downtimes.insert row }
  | .downtime id row => { facts with downtimes := facts.downtimes.set id row }
  | .execution id row => { facts with executions := facts.executions.set id row }
  | .order id row => { facts with productionOrders := facts.productionOrders.set id row }

def ExecutionTables.put (db : ExecutionTables) : TaskWrite → ExecutionTables
  | .facts write => { db with facts := db.facts.put write }
  | .auditLogs row => { db with auditLogs := db.auditLogs.insert row }
  | .idempotency row => { db with idempotency := db.idempotency.insert row }

/-- Locks of rows, and of keys that are being inserted; `newDowntime` keeps the id of a downtime
that is being inserted. -/
inductive TaskLock where
  | task (id : Nat)
  | setup (id : Nat)
  | hold (id : Nat)
  | downtime (id : Nat)
  | execution (id : Nat)
  | order (id : Nat)
  | history (taskId : Nat) (key : String)
  | setupOf (taskId : Nat)
  | openHold (taskId : Nat)
  | newDowntime
  | idempotency (key : ActionKey)
deriving DecidableEq

abbrev TaskScript (α : Type) := Script ExecutionTables TaskWrite TaskLock Fault α

def selectFacts {α : Type} (query : ExecutionFacts → Except Fault α) : TaskScript α :=
  .select (fun db => query db.facts) []

def updateFacts {α : Type}
    (query : ExecutionFacts → Except Fault (α × List TaskLock × List FactWrite)) : TaskScript α :=
  .execute fun db => (query db.facts).map fun result =>
    (result.1, result.2.1, result.2.2.map .facts)

def checkRead (p : Prop) [Decidable p] (fault : Fault) : TaskScript Unit :=
  if p then pure () else .raise fault

/-- `_require_task` with `lock=True`. -/
def lockTask (taskId : Nat) : TaskScript OperationTask :=
  updateFacts fun facts => do
    let task ← requireTask facts taskId
    return (task, [.task taskId], [])

/-- `_require_transition`. -/
def checkTransition (taskId : Nat) (task : OperationTask) (allowed : List TaskStatus)
    (action : String) : TaskScript Unit :=
  match requireTransition taskId task allowed action with
  | .ok _ => pure ()
  | .error fault => .raise fault

/-- The `UPDATE` of `_change_task_status`. -/
def updateTaskStatus (env : ExecutionEnv) (taskId : Nat) (task : OperationTask)
    (toStatus : TaskStatus) (change : StatusChange) : TaskScript Unit :=
  updateFacts fun facts => do
    let old ← orFault ((facts.tasks.find? taskId).filter (·.status = task.status))
      (executionError 409 "OPERATION_TRANSITION_CONFLICT"
        "operation task changed while the transition was being applied" [("task_id", .int taskId)])
    let new := change.apply env.now toStatus old
    guardOperationTransition facts taskId old new
    guardOperationTaskMaintenance env facts taskId old new
    return ((), [.task taskId], [.task taskId new])

def insertHistory (row : TaskHistory) : TaskScript Unit :=
  updateFacts fun facts => do
    let _ ← recordHistory facts row
    return ((), [.history row.operationTaskId row.idempotencyKey], [.history row])

/-- `_change_task_status`. -/
def changeStatus (env : ExecutionEnv) (taskId : Nat) (task : OperationTask)
    (toStatus : TaskStatus) (action actor : String) (idempotencyKey : Text 1 128)
    (change : StatusChange) : TaskScript OperationTask := do
  updateTaskStatus env taskId task toStatus change
  insertHistory ⟨taskId, some task.status, toStatus, action, change.reason,
    change.evidenceReference, actor, env.now, idempotencyKey.value⟩
  selectFacts fun facts => requireTask facts taskId

/-- An `UPDATE` of one row, if it is as the statement says. -/
def updateIf {α : Type} (rows : ExecutionFacts → Table α) (id : Nat) (p : α → Bool) (f : α → α)
    (lock : TaskLock) (write : α → FactWrite) : TaskScript Unit :=
  updateFacts fun facts =>
    match ((rows facts).find? id).filter p with
    | some row => .ok ((), [lock], [write (f row)])
    | none => .ok ((), [], [])

structure ActionReply where
  response : Json
  auditAction : String
  auditResourceId : String
  auditDetail : Json

def insertAudit (env : ExecutionEnv) (actor : String) (reply : ActionReply) : TaskScript Json :=
  .execute fun db => do
    let log : AuditLog := ⟨"execution", actor, reply.auditAction, "operation_task",
      reply.auditResourceId, canonicalJson reply.auditDetail, env.now⟩
    let _ ← audit env db.auditLogs actor reply.auditAction "operation_task"
      reply.auditResourceId reply.auditDetail
    return (reply.response, [], [.auditLogs log])

/-- `_idempotent_store`. -/
def insertIdempotency (key : ActionKey) (request response : Json) : TaskScript Json :=
  .execute fun db => do
    let _ ← idempotentStore db.idempotency key request response
    return (response, [.idempotency key], [.idempotency ⟨key.resourceType, key.resourceId,
      key.action, key.idempotencyKey, requestHash request, response⟩])

def idempotentScript (env : ExecutionEnv) (actor : String) (key : ActionKey) (request : Json)
    (body : TaskScript ActionReply) : TaskScript Json := do
  let replay ← .select (fun db => idempotentGet db.idempotency key request) []
  match replay with
  | some response => pure response
  | none =>
    let response ← body >>= insertAudit env actor
    insertIdempotency key request response

inductive TaskRequest where
  | startSetup (taskId : Nat) (payload : ExecutionActionIn)
  | completeSetup (taskId : Nat) (payload : SetupCompleteIn)
  | startTask (taskId : Nat) (payload : ExecutionActionIn)
  | pauseTask (taskId : Nat) (payload : ExecutionActionIn)
  | resumeTask (taskId : Nat) (payload : ExecutionActionIn)
  | holdTask (taskId : Nat) (payload : HoldActionIn)
  | releaseHold (taskId : Nat) (payload : HoldActionIn)
  | completeTask (taskId : Nat) (payload : CompleteTaskIn)
  | startDowntime (taskId : Nat) (payload : DowntimeStartIn)
  | endDowntime (downtimeId : Nat) (payload : DowntimeEndIn)
  | closeTask (taskId : Nat) (payload : ExecutionActionIn)

def TaskRequest.key : TaskRequest → ActionKey
  | .startSetup taskId payload => taskKey taskId "setup-start" payload.idempotencyKey
  | .completeSetup taskId payload => taskKey taskId "setup-complete" payload.idempotencyKey
  | .startTask taskId payload => taskKey taskId "start" payload.idempotencyKey
  | .pauseTask taskId payload => taskKey taskId "pause" payload.idempotencyKey
  | .resumeTask taskId payload => taskKey taskId "resume" payload.idempotencyKey
  | .holdTask taskId payload => taskKey taskId "hold" payload.idempotencyKey
  | .releaseHold taskId payload => taskKey taskId "release-hold" payload.idempotencyKey
  | .completeTask taskId payload => taskKey taskId "complete" payload.idempotencyKey
  | .startDowntime taskId payload => taskKey taskId "downtime-start" payload.idempotencyKey
  | .endDowntime downtimeId payload =>
    ⟨"downtime", toString downtimeId, "end", payload.idempotencyKey.value⟩
  | .closeTask taskId payload => taskKey taskId "close" payload.idempotencyKey

def TaskRequest.json : TaskRequest → Json
  | .startSetup _ payload => payload.json
  | .completeSetup _ payload => payload.json
  | .startTask _ payload => payload.json
  | .pauseTask _ payload => payload.json
  | .resumeTask _ payload => payload.json
  | .holdTask _ payload => payload.json
  | .releaseHold _ payload => payload.json
  | .completeTask _ payload => payload.json
  | .startDowntime _ payload => payload.json
  | .endDowntime _ payload => payload.json
  | .closeTask _ payload => payload.json

section Bodies

variable (env : ExecutionEnv) (actor : String)

/-- `_format_task`, and what the audit log says. -/
def replyTask (taskId : Nat) (auditAction : String) (auditDetail : Json) :
    TaskScript ActionReply := do
  let response ← selectFacts fun facts => formatTask env facts taskId
  return ⟨response, auditAction, toString taskId, auditDetail⟩

def startSetupScript (taskId : Nat) (payload : ExecutionActionIn) : TaskScript ActionReply := do
  let task ← lockTask taskId
  checkTransition taskId task [.dispatched] "start setup"
  selectFacts fun facts => validatePredecessors facts task
  updateFacts fun facts => do
    check (facts.setups.any (·.isOf taskId) = false)
      (.database "duplicate key value violates unique constraint on operation_setups")
    return ((), [.setupOf taskId], [.newSetup
      { operationTaskId := taskId, status := .inProgress, parametersJson := [.openObj, .closeObj]
        evidenceReference := none, startedBy := actor, startedAt := env.now
        completedBy := none, completedAt := none }])
  let _ ← changeStatus env taskId task .setup "setup-start" actor payload.idempotencyKey
    { reason := payload.reason.value }
  replyTask env taskId "execution:setup-started"
    (.obj [("work_order_id", .int task.workOrderId), ("sequence", .int task.sequence)])

def completeSetupScript (taskId : Nat) (payload : SetupCompleteIn) : TaskScript ActionReply := do
  let task ← lockTask taskId
  checkTransition taskId task [.setup] "complete setup"
  updateFacts fun facts => do
    let active := facts.setups.select fun setup => setup.isOf taskId && setup.status = .inProgress
    check (active.length = 1) (executionError 409 "SETUP_RECORD_NOT_ACTIVE"
      "operation task has no active setup record" [("task_id", .int taskId)])
    return ((), active.map fun setup => .setup setup.1, active.map fun setup => .setup setup.1
      { setup.2 with
        status := .completed, parametersJson := canonicalJson (.obj payload.parameters)
        evidenceReference := some payload.evidenceReference.value
        completedBy := some actor, completedAt := some env.now })
  let _ ← changeStatus env taskId task .ready "setup-complete" actor payload.idempotencyKey
    { evidenceReference := payload.evidenceReference.value }
  replyTask env taskId "execution:setup-completed"
    (.obj [("evidence_reference", .str payload.evidenceReference.value),
      ("parameters", .obj payload.parameters)])

def startTaskScript (taskId : Nat) (payload : ExecutionActionIn) : TaskScript ActionReply := do
  let task ← lockTask taskId
  checkTransition taskId task [.ready] "start"
  selectFacts fun facts => requireMaintenanceReadiness env facts taskId
  let _ ← changeStatus env taskId task .running "start" actor payload.idempotencyKey
    { reason := payload.reason.value, setStarted := true }
  updateIf (·.executions) task.workOrderExecutionId
    (fun row => row.status = .released || row.status = .dispatched)
    (fun row => { row with status := .inProgress })
    (.execution task.workOrderExecutionId) (.execution task.workOrderExecutionId)
  replyTask env taskId "execution:operation-started"
    (.obj [("work_order_id", .int task.workOrderId), ("sequence", .int task.sequence)])

/-- `_simple_task_transition`. -/
def simpleTaskScript (taskId : Nat) (payload : ExecutionActionIn) (action : String)
    (allowed : List TaskStatus) (target : TaskStatus) (auditAction : String) :
    TaskScript ActionReply := do
  let task ← lockTask taskId
  checkTransition taskId task allowed action
  let _ ← changeStatus env taskId task target action actor payload.idempotencyKey
    { reason := payload.reason.value }
  replyTask env taskId auditAction
    (.obj [("from_status", .str task.status.text), ("to_status", .str target.text),
      ("reason", .str payload.reason.value)])

def resumeTaskScript (taskId : Nat) (payload : ExecutionActionIn) : TaskScript ActionReply := do
  let task ← lockTask taskId
  checkTransition taskId task [.paused] "resume"
  selectFacts fun facts => check (facts.downtimes.any (·.isOpenOf taskId) = false)
    (executionError 409 "OPEN_DOWNTIME_BLOCKS_RESUME"
      "operation cannot resume until its open downtime record is closed" [("task_id", .int taskId)])
  selectFacts fun facts => requireMaintenanceReadiness env facts taskId
  let _ ← changeStatus env taskId task .running "resume" actor payload.idempotencyKey
    { reason := payload.reason.value }
  replyTask env taskId "execution:operation-resumed" (.obj [("reason", .str payload.reason.value)])

def holdTaskScript (taskId : Nat) (payload : HoldActionIn) : TaskScript ActionReply := do
  let task ← lockTask taskId
  checkTransition taskId task [.dispatched, .setup, .ready, .running, .paused] "hold"
  updateFacts fun facts => do
    check (facts.holds.any (·.isOpenOf taskId) = false)
      (.database "duplicate key value violates unique constraint uq_operation_hold_open")
    return ((), [.openHold taskId], [.newHold
      { operationTaskId := taskId, priorStatus := task.status, status := .open
        reason := payload.reason.value, heldBy := actor, heldAt := env.now
        releasedBy := none, releasedAt := none, releaseReason := none }])
  let _ ← changeStatus env taskId task .held "hold" actor payload.idempotencyKey
    { reason := payload.reason.value, holdReturnStatus := some task.status }
  replyTask env taskId "execution:operation-held"
    (.obj [("prior_status", .str task.status.text), ("reason", .str payload.reason.value)])

def releaseHoldScript (taskId : Nat) (payload : HoldActionIn) : TaskScript ActionReply := do
  let task ← lockTask taskId
  checkTransition taskId task [.held] "release hold"
  let (holdId, hold) ← selectFacts fun facts => orFault (facts.holds.last? (·.isOpenOf taskId))
    (executionError 409 "OPEN_HOLD_NOT_FOUND" "held task has no durable open hold record"
      [("task_id", .int taskId)])
  updateIf (·.holds) holdId (·.status = .open) (fun row => { row with
    status := .released, releasedBy := some actor, releasedAt := some env.now
    releaseReason := some payload.reason.value }) (.hold holdId) (.hold holdId)
  let _ ← changeStatus env taskId task hold.priorStatus "release-hold" actor
    payload.idempotencyKey { reason := payload.reason.value, clearHoldReturn := true }
  replyTask env taskId "execution:operation-hold-released"
    (.obj [("restored_status", .str hold.priorStatus.text), ("reason", .str payload.reason.value)])

/-- `_update_completion_aggregates`. -/
def completionAggregatesScript (executionId : Nat) : TaskScript Unit := do
  let remaining ← selectFacts fun facts => .ok
    (facts.tasks.count fun other => other.isOf executionId && !other.status.done)
  if remaining ≠ 0 then pure ()
  else do
    updateIf (·.executions) executionId
      (fun row => row.status = .released || row.status = .dispatched || row.status = .inProgress)
      (fun row => { row with status := .completed, completedAt := some env.now })
      (.execution executionId) (.execution executionId)
    let execution ← selectFacts fun facts => orFault (facts.executions.find? executionId)
      (.runtime "'NoneType' object is not iterable")
    let rows ← selectFacts fun facts => .ok (linkedExecutions facts execution.productionOrderId)
    if rows.length = rows.countP (·.any (·.status.done)) then
      updateIf (·.productionOrders) execution.productionOrderId (·.status = .inProgress)
        (fun row => { row with status := .completed, completedAt := some env.now })
        (.order execution.productionOrderId) (.order execution.productionOrderId)
    else pure ()

def completeTaskScript (taskId : Nat) (payload : CompleteTaskIn) : TaskScript ActionReply := do
  let task ← lockTask taskId
  checkTransition taskId task [.running] "complete"
  let accounted ← selectFacts fun facts => .ok (facts.accounted taskId)
  checkRead (sameQuantity accounted task.plannedQuantity = true) (executionError 409
    "QUANTITY_NOT_CONSERVED"
    "operation cannot complete until accepted reports exactly conserve planned quantity"
    [("planned_quantity", .float task.plannedQuantity),
      ("accounted_quantity", .float accounted)])
  let evidence := strip payload.evidenceReference.value
  checkRead (evidence ≠ "") (executionError 409 "COMPLETION_EVIDENCE_REQUIRED"
    "operation completion requires a durable evidence reference" [("task_id", .int taskId)])
  let changed ← changeStatus env taskId task .completed "complete" actor payload.idempotencyKey
    { evidenceReference := evidence, setCompleted := true }
  completionAggregatesScript env changed.workOrderExecutionId
  replyTask env taskId "execution:operation-completed"
    (.obj [("accounted_quantity", .float accounted), ("evidence_reference", .str evidence)])

def startDowntimeScript (taskId : Nat) (payload : DowntimeStartIn) : TaskScript ActionReply := do
  let task ← lockTask taskId
  checkTransition taskId task [.running] "start downtime"
  let downtimeId ← updateFacts fun facts => do
    check (facts.downtimes.any (fun other => other.downtimeCode = payload.downtimeCode.value ||
        other.isOpenOf taskId) = false) (executionError 409 "DOWNTIME_ALREADY_OPEN"
      "task already has open downtime or the downtime code already exists")
    return (facts.downtimes.nextId, [.newDowntime], [.newDowntime
        { operationTaskId := taskId, downtimeCode := payload.downtimeCode.value, status := .open
          reason := payload.reason.value
          startEvidenceReference := payload.evidenceReference.value
          endEvidenceReference := none, startedBy := actor, startedAt := env.now
          endedBy := none, endedAt := none }])
  let _ ← changeStatus env taskId task .paused "downtime-start" actor payload.idempotencyKey
    { reason := payload.reason.value, evidenceReference := payload.evidenceReference.value }
  let response ← selectFacts fun facts => formatDowntime facts downtimeId
  return ⟨response, "execution:downtime-started", toString taskId,
    .obj [("downtime_id", .int downtimeId), ("downtime_code", .str payload.downtimeCode.value),
      ("reason", .str payload.reason.value),
      ("evidence_reference", .str payload.evidenceReference.value)]⟩

def endDowntimeScript (downtimeId : Nat) (payload : DowntimeEndIn) : TaskScript ActionReply := do
  let downtime ← updateFacts fun facts => do
    let downtime ← orFault (facts.downtimes.find? downtimeId)
      (executionError 404 "DOWNTIME_NOT_FOUND" "downtime record was not found")
    return (downtime, [.downtime downtimeId], [])
  checkRead (downtime.status = .open) (executionError 409 "DOWNTIME_NOT_OPEN"
    "only open downtime can be ended" [("downtime_id", .int downtimeId)])
  let taskId := downtime.operationTaskId
  let task ← lockTask taskId
  checkTransition taskId task [.paused] "end downtime"
  selectFacts fun facts => requireMaintenanceReadiness env facts taskId
  updateFacts fun facts => do
    let row ← orFault ((facts.downtimes.find? downtimeId).filter (·.status = .open))
      (executionError 409 "DOWNTIME_CLOSE_CONFLICT" "downtime changed while it was being closed")
    return ((), [.downtime downtimeId], [.downtime downtimeId { row with
      status := .closed, endEvidenceReference := some payload.evidenceReference.value
      endedBy := some actor, endedAt := some env.now }])
  let _ ← changeStatus env taskId task .running "downtime-end" actor payload.idempotencyKey
    { evidenceReference := payload.evidenceReference.value }
  let response ← selectFacts fun facts => formatDowntime facts downtimeId
  return ⟨response, "execution:downtime-ended", toString taskId,
    .obj [("downtime_id", .int downtimeId),
      ("evidence_reference", .str payload.evidenceReference.value)]⟩

def closeTaskScript (taskId : Nat) (payload : ExecutionActionIn) : TaskScript ActionReply := do
  let task ← lockTask taskId
  checkTransition taskId task [.completed] "close"
  let _ ← changeStatus env taskId task .closed "close" actor payload.idempotencyKey
    { reason := payload.reason.value, setClosed := true }
  replyTask env taskId "execution:operation-closed" (.obj [("reason", .str payload.reason.value)])

def TaskRequest.body : TaskRequest → TaskScript ActionReply
  | .startSetup taskId payload => startSetupScript env actor taskId payload
  | .completeSetup taskId payload => completeSetupScript env actor taskId payload
  | .startTask taskId payload => startTaskScript env actor taskId payload
  | .pauseTask taskId payload => simpleTaskScript env actor taskId payload "pause" [.running]
    .paused "execution:operation-paused"
  | .resumeTask taskId payload => resumeTaskScript env actor taskId payload
  | .holdTask taskId payload => holdTaskScript env actor taskId payload
  | .releaseHold taskId payload => releaseHoldScript env actor taskId payload
  | .completeTask taskId payload => completeTaskScript env actor taskId payload
  | .startDowntime taskId payload => startDowntimeScript env actor taskId payload
  | .endDowntime downtimeId payload => endDowntimeScript env actor downtimeId payload
  | .closeTask taskId payload => closeTaskScript env actor taskId payload

end Bodies

structure TaskCall where
  env : ExecutionEnv
  actor : String
  request : TaskRequest

def TaskCall.script (call : TaskCall) : TaskScript Json :=
  idempotentScript call.env call.actor call.request.key call.request.json
    (call.request.body call.env call.actor)

def taskProtocol {S : Type} (calls : S → TaskCall) :
    Protocol S (TaskScript Json) ExecutionTables TaskWrite TaskLock Json Fault :=
  scriptProtocol (fun s => (calls s).script) ExecutionTables.put

end MiniOgas
