import MiniOgas.TaskOperations

namespace MiniOgas

open Relational Serial

/-- `assignment_by_sequence.get`: a later assignment of a sequence wins. -/
def assignmentFor (workOrder : WorkOrder) (sequence : Int) : Option OperationAssignment :=
  workOrder.operationAssignments.reverse.find? (·.sequence = sequence)

def routingOperations (env : ExecutionEnv) (workOrder : WorkOrder) : List RoutingOperation :=
  ((env.master.routingRevisions.find? workOrder.routingRevisionId).map (·.operations)).getD []

def dispatchedTask (env : ExecutionEnv) (executionId workOrderId : Nat) (workOrder : WorkOrder)
    (operation : RoutingOperation) : OperationTask where
  workOrderExecutionId := executionId
  workOrderId
  routingRevisionId := workOrder.routingRevisionId
  sequence := operation.sequence
  operationCode := operation.operationCode
  name := operation.name
  plannedQuantity := workOrder.quantity
  status := .dispatched
  holdReturnStatus := none
  completionEvidenceReference := none
  startedAt := none
  completedAt := none
  closedAt := none
  createdAt := env.now

def dispatchOperation (env : ExecutionEnv) (executionId workOrderId : Nat) (workOrder : WorkOrder)
    (payload : ExecutionActionIn) (actor : String) (facts : ExecutionFacts)
    (operation : RoutingOperation) : Except Fault ExecutionFacts := do
  let assignment ← orFault (assignmentFor workOrder operation.sequence)
    (executionError 409 "OPERATION_ASSIGNMENT_INCOMPLETE"
      "released work order is missing an operation assignment"
      [("sequence", .int operation.sequence)])
  let (equipmentId, _) ← requireCode env.master.equipment (·.equipmentCode)
    assignment.equipmentCode "equipment"
  let (personnelId, _) ← requireCode env.master.personnel (·.personnelCode)
    assignment.personnelCode "personnel"
  let task := dispatchedTask env executionId workOrderId workOrder operation
  check (1 ≤ task.sequence ∧ 0 < task.plannedQuantity)
    (.database "new row for relation operation_tasks violates check constraint")
  check (facts.tasks.any (fun other => other.workOrderId = workOrderId &&
      other.sequence = task.sequence) = false)
    (executionError 409 "DUPLICATE_OPERATION_TASK"
      "routing operation was already materialized for this work order")
  let taskId := facts.tasks.nextId
  recordHistory
    { facts with
      tasks := facts.tasks.insert task
      assignments := facts.assignments.insert ⟨taskId, equipmentId, personnelId, actor, env.now⟩ }
    ⟨taskId, none, .dispatched, "dispatch", payload.reason.value, "", actor, env.now,
      payload.idempotencyKey.value⟩

def dispatchWorkOrder (env : ExecutionEnv) (db : ExecutionTables) (workOrderCode : String)
    (payload : ExecutionActionIn) (actor : String) : Except Fault (Json × ExecutionTables) :=
  idempotent env db ⟨"work_order", workOrderCode, "dispatch", payload.idempotencyKey.value⟩
    payload.json actor fun facts => do
    let (workOrderId, workOrder) ← requireWorkOrder env workOrderCode
    check (workOrder.status = .released) (executionError 409 "WORK_ORDER_NOT_RELEASED"
      "only a released work order can be dispatched" [("status", .str workOrder.status.text)])
    let notAttached := executionError 409 "WORK_ORDER_NOT_ATTACHED"
      "work order must belong to a production order before dispatch"
    let (_, link) ← orFault (facts.links.first? (·.workOrderId = workOrderId)) notAttached
    let order ← orFault (facts.productionOrders.find? link.productionOrderId) notAttached
    check (order.status = .released ∨ order.status = .inProgress) (executionError 409
      "PRODUCTION_ORDER_NOT_RELEASED"
      "production order must be released before work-order dispatch"
      [("status", .str order.status.text)])
    check (facts.executions.any (·.workOrderId = workOrderId) = false) (executionError 409
      "WORK_ORDER_ALREADY_DISPATCHED" "work order already has an execution record"
      [("work_order_code", .str workOrderCode)])
    let executionId := facts.executions.nextId
    let operations := routingOperations env workOrder
    check (operations ≠ []) (executionError 409 "ROUTING_OPERATIONS_MISSING"
      "released work order has no bound routing operations")
    let dispatched ← (operations.insertionSort fun x y => x.sequence ≤ y.sequence).foldlM
      (dispatchOperation env executionId workOrderId workOrder payload actor)
      { facts with
        executions := facts.executions.insert
          { productionOrderId := link.productionOrderId, workOrderId, status := .dispatched
            dispatchedBy := actor, dispatchedAt := env.now, completedAt := none
            closedBy := none, closedAt := none, createdAt := env.now } }
    let facts' := { dispatched with
      productionOrders := dispatched.productionOrders.updateAt link.productionOrderId
        (·.status = .released) fun row => { row with status := .inProgress } }
    let taskIds := (List.range operations.length).map (facts.tasks.nextId + ·)
    let tasks ← taskIds.mapM (formatTask env facts')
    return ⟨.obj [("work_order_code", .str workOrderCode), ("execution_status", .str "dispatched"),
        ("tasks", .arr tasks)],
      facts', "execution:work-order-dispatched", "work_order", workOrderCode,
      .obj [("task_ids", .arr (taskIds.map fun id => .int id)),
        ("routing_revision_id", .int workOrder.routingRevisionId)]⟩

def formatWorkOrderExecution (env : ExecutionEnv) (facts : ExecutionFacts) (workOrderId : Nat)
    (workOrderCode : String) (quantity : Quantity) : Except Fault Json := do
  let notFound := executionError 404 "WORK_ORDER_EXECUTION_NOT_FOUND"
    "work order has not been dispatched" [("work_order_code", .str workOrderCode)]
  let (id, execution) ← orFault (facts.executions.first? (·.workOrderId = workOrderId)) notFound
  let order ← orFault (facts.productionOrders.find? execution.productionOrderId) notFound
  let tasks := (facts.tasks.select (·.isOf id)).insertionSort fun x y => x.2.sequence ≤ y.2.sequence
  let formatted ← tasks.mapM fun task => formatTask env facts task.1
  return .obj [("id", .int id), ("execution_status", .str execution.status.text),
    ("work_order_code", .str workOrderCode), ("quantity", .float quantity),
    ("production_order_code", .str order.productionOrderCode),
    ("production_order_status", .str order.status.text), ("tasks", .arr formatted)]

def closeWorkOrder (env : ExecutionEnv) (db : ExecutionTables) (workOrderCode : String)
    (payload : ExecutionActionIn) (actor : String) : Except Fault (Json × ExecutionTables) :=
  idempotent env db ⟨"work_order", workOrderCode, "close", payload.idempotencyKey.value⟩
    payload.json actor fun facts => do
    let (workOrderId, workOrder) ← requireWorkOrder env workOrderCode
    let (executionId, execution) ← orFault (facts.executions.first? (·.workOrderId = workOrderId))
      (executionError 409 "WORK_ORDER_NOT_COMPLETE"
        "work order cannot close before execution is completed"
        [("work_order_code", .str workOrderCode)])
    check (execution.status = .completed) (executionError 409 "WORK_ORDER_NOT_COMPLETE"
      "work order cannot close before every operation is completed"
      [("work_order_code", .str workOrderCode), ("execution_status", .str execution.status.text)])
    check (facts.tasks.count (fun task => task.isOf executionId && task.status ≠ .closed) = 0)
      (executionError 409 "WORK_ORDER_TASKS_NOT_CLOSED"
        "every completed operation task must be explicitly closed first"
        [("work_order_code", .str workOrderCode)])
    let executions ← facts.executions.updateOne executionId (·.status = .completed)
      (fun row => { row with status := .closed, closedBy := some actor, closedAt := some env.now })
      (executionError 409 "WORK_ORDER_CLOSE_CONFLICT"
        "work-order execution changed while closing")
    let facts := { facts with executions }
    let response ← formatWorkOrderExecution env facts workOrderId workOrderCode workOrder.quantity
    return ⟨response, facts, "execution:work-order-closed", "work_order", workOrderCode,
      .obj [("reason", .str payload.reason.value)]⟩

def closeProductionOrder (env : ExecutionEnv) (db : ExecutionTables) (productionOrderCode : String)
    (payload : ExecutionActionIn) (actor : String) : Except Fault (Json × ExecutionTables) :=
  idempotent env db ⟨"production_order", productionOrderCode, "close",
    payload.idempotencyKey.value⟩ payload.json actor fun facts => do
    let (orderId, order) ← requireProductionOrder facts productionOrderCode
    check (order.status = .completed) (executionError 409 "PRODUCTION_ORDER_NOT_COMPLETE"
      "production order cannot close before all work orders complete"
      [("production_order_code", .str productionOrderCode), ("status", .str order.status.text)])
    let rows := linkedExecutions facts orderId
    check (rows ≠ [] ∧ rows.length = rows.countP (·.any (·.status = .closed))) (executionError 409
      "PRODUCTION_ORDER_WORK_ORDERS_NOT_CLOSED"
      "all attached work orders must be explicitly closed"
      [("production_order_code", .str productionOrderCode)])
    let productionOrders ← facts.productionOrders.updateOne orderId (·.status = .completed)
      (fun row => { row with status := .closed, closedBy := some actor, closedAt := some env.now })
      (executionError 409 "PRODUCTION_ORDER_CLOSE_CONFLICT"
        "production order changed while closing")
    let facts := { facts with productionOrders }
    let response ← formatProductionOrder env facts orderId
    return ⟨response, facts, "execution:production-order-closed", "production_order",
      productionOrderCode, .obj [("reason", .str payload.reason.value)]⟩

/-- The operations of `ExecutionRepository` that write. -/
inductive ExecutionOperation where
  | createProductionOrder (payload : ProductionOrderIn)
  | attachWorkOrder (productionOrderCode workOrderCode : String) (payload : ExecutionActionIn)
  | releaseProductionOrder (productionOrderCode : String) (payload : ExecutionActionIn)
  | dispatchWorkOrder (workOrderCode : String) (payload : ExecutionActionIn)
  | startSetup (taskId : Nat) (payload : ExecutionActionIn)
  | completeSetup (taskId : Nat) (payload : SetupCompleteIn)
  | startTask (taskId : Nat) (payload : ExecutionActionIn)
  | pauseTask (taskId : Nat) (payload : ExecutionActionIn)
  | resumeTask (taskId : Nat) (payload : ExecutionActionIn)
  | holdTask (taskId : Nat) (payload : HoldActionIn)
  | releaseHold (taskId : Nat) (payload : HoldActionIn)
  | reportQuantity (taskId : Nat) (payload : QuantityReportIn)
  | completeTask (taskId : Nat) (payload : CompleteTaskIn)
  | startDowntime (taskId : Nat) (payload : DowntimeStartIn)
  | endDowntime (downtimeId : Nat) (payload : DowntimeEndIn)
  | closeTask (taskId : Nat) (payload : ExecutionActionIn)
  | closeWorkOrder (workOrderCode : String) (payload : ExecutionActionIn)
  | closeProductionOrder (productionOrderCode : String) (payload : ExecutionActionIn)

def ExecutionOperation.perform (operation : ExecutionOperation) (env : ExecutionEnv)
    (actor : String) (db : ExecutionTables) : Except Fault (Json × ExecutionTables) :=
  match operation with
  | .createProductionOrder payload => MiniOgas.createProductionOrder env db payload actor
  | .attachWorkOrder order workOrder payload =>
    MiniOgas.attachWorkOrder env db order workOrder payload actor
  | .releaseProductionOrder order payload =>
    MiniOgas.releaseProductionOrder env db order payload actor
  | .dispatchWorkOrder workOrder payload =>
    MiniOgas.dispatchWorkOrder env db workOrder payload actor
  | .startSetup taskId payload => MiniOgas.startSetup env db taskId payload actor
  | .completeSetup taskId payload => MiniOgas.completeSetup env db taskId payload actor
  | .startTask taskId payload => MiniOgas.startTask env db taskId payload actor
  | .pauseTask taskId payload => MiniOgas.pauseTask env db taskId payload actor
  | .resumeTask taskId payload => MiniOgas.resumeTask env db taskId payload actor
  | .holdTask taskId payload => MiniOgas.holdTask env db taskId payload actor
  | .releaseHold taskId payload => MiniOgas.releaseHold env db taskId payload actor
  | .reportQuantity taskId payload => MiniOgas.reportQuantity env db taskId payload actor
  | .completeTask taskId payload => MiniOgas.completeTask env db taskId payload actor
  | .startDowntime taskId payload => MiniOgas.startDowntime env db taskId payload actor
  | .endDowntime downtimeId payload => MiniOgas.endDowntime env db downtimeId payload actor
  | .closeTask taskId payload => MiniOgas.closeTask env db taskId payload actor
  | .closeWorkOrder workOrder payload => MiniOgas.closeWorkOrder env db workOrder payload actor
  | .closeProductionOrder order payload =>
    MiniOgas.closeProductionOrder env db order payload actor

structure ExecutionCall where
  env : ExecutionEnv
  actor : String
  operation : ExecutionOperation

def executionAuthority : Authority ExecutionCall ExecutionTables Json Fault where
  attempt call db := call.operation.perform call.env call.actor db

end MiniOgas
