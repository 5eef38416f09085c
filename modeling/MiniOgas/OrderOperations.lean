import MiniOgas.ExecutionStore

namespace MiniOgas

open Relational Serial

variable {α : Type}

def requireCode (table : Table α) (codeOf : α → String) (code resource : String) :
    Except Fault (Nat × α) :=
  orFault (table.first? (codeOf · = code))
    (executionError 409 "REFERENCE_NOT_FOUND" s!"assigned {resource} was not found"
      [("resource_type", .str resource), ("resource_code", .str code)])

def requireProduct (env : ExecutionEnv) (productCode : String) : Except Fault (Nat × Product) :=
  orFault (env.master.products.first? (·.productCode = productCode))
    (executionError 409 "REFERENCE_NOT_FOUND"
      "production order product does not exist in the active tenant/site"
      [("product_code", .str productCode)])

def requireProductionOrder (facts : ExecutionFacts) (code : String) :
    Except Fault (Nat × ProductionOrder) :=
  orFault (facts.productionOrders.first? (·.productionOrderCode = code))
    (executionError 404 "PRODUCTION_ORDER_NOT_FOUND" "production order was not found"
      [("production_order_code", .str code)])

def requireWorkOrder (env : ExecutionEnv) (code : String) : Except Fault (Nat × WorkOrder) :=
  orFault (env.master.workOrders.first? (·.workOrderCode = code))
    (executionError 404 "WORK_ORDER_NOT_FOUND" "work order was not found"
      [("work_order_code", .str code)])

def formatProductionOrder (env : ExecutionEnv) (facts : ExecutionFacts) (id : Nat) :
    Except Fault Json := do
  let notFound := executionError 404 "PRODUCTION_ORDER_NOT_FOUND" "production order was not found"
  let order ← orFault (facts.productionOrders.find? id) notFound
  let product ← orFault (env.master.products.find? order.productId) notFound
  return .obj [("id", .int id), ("production_order_code", .str order.productionOrderCode),
    ("product_id", .int order.productId), ("quantity", .float order.quantity),
    ("priority", .int order.priority), ("due_at", .time order.dueAt),
    ("status", .str order.status.text), ("created_by", .str order.createdBy),
    ("released_by", jsonText order.releasedBy), ("released_at", jsonTime order.releasedAt),
    ("completed_at", jsonTime order.completedAt), ("closed_by", jsonText order.closedBy),
    ("closed_at", jsonTime order.closedAt), ("created_at", .time order.createdAt),
    ("product_code", .str product.productCode)]

def createProductionOrder (env : ExecutionEnv) (db : ExecutionTables) (payload : ProductionOrderIn)
    (actor : String) : Except Fault (Json × ExecutionTables) :=
  audited env db actor fun facts => do
    let (productId, _) ← requireProduct env payload.productCode.value
    check (facts.productionOrders.any
        (·.productionOrderCode = payload.productionOrderCode.value) = false)
      (executionError 409 "DUPLICATE_EXECUTION_RESOURCE" "production order code already exists")
    let facts' := { facts with
      productionOrders := facts.productionOrders.insert
        { productionOrderCode := payload.productionOrderCode.value
          productId, quantity := payload.quantity, priority := payload.priority
          dueAt := payload.dueAt, status := .draft, createdBy := actor, releasedBy := none
          releasedAt := none, completedAt := none, closedBy := none, closedAt := none
          createdAt := env.now } }
    let response ← formatProductionOrder env facts' facts.productionOrders.nextId
    return ⟨response, facts', "execution:production-order-created", "production_order",
      payload.productionOrderCode.value, payload.json⟩

def attachWorkOrder (env : ExecutionEnv) (db : ExecutionTables)
    (productionOrderCode workOrderCode : String) (payload : ExecutionActionIn) (actor : String) :
    Except Fault (Json × ExecutionTables) :=
  idempotent env db ⟨"production_order_work_order", s!"{productionOrderCode}:{workOrderCode}",
    "attach", payload.idempotencyKey.value⟩ payload.json actor fun facts => do
    let (orderId, order) ← requireProductionOrder facts productionOrderCode
    let (workOrderId, workOrder) ← requireWorkOrder env workOrderCode
    check (order.status = .draft) (executionError 409 "PRODUCTION_ORDER_NOT_EDITABLE"
      "work orders can only be attached while the production order is draft"
      [("status", .str order.status.text)])
    check (workOrder.status = .released) (executionError 409 "WORK_ORDER_NOT_RELEASED"
      "only a validated and released work order can be attached"
      [("work_order_code", .str workOrderCode), ("status", .str workOrder.status.text)])
    check (workOrder.productId = order.productId) (executionError 409
      "PRODUCTION_ORDER_PRODUCT_MISMATCH"
      "attached work order must use the production-order product")
    check (facts.links.any (·.workOrderId = workOrderId) = false) (executionError 409
      "WORK_ORDER_ALREADY_ATTACHED" "work order is already attached to a production order"
      [("work_order_code", .str workOrderCode)])
    return ⟨.obj [("id", .int facts.links.nextId),
        ("production_order_code", .str productionOrderCode),
        ("work_order_code", .str workOrderCode), ("status", .str "attached")],
      { facts with links := facts.links.insert ⟨orderId, workOrderId, actor, env.now⟩ },
      "execution:work-order-attached", "production_order", productionOrderCode,
      .obj [("work_order_code", .str workOrderCode)]⟩

def attachedWorkOrders (env : ExecutionEnv) (facts : ExecutionFacts) (orderId : Nat) :
    List (Nat × WorkOrder) :=
  env.master.workOrders.entries.filter fun workOrder =>
    facts.links.any fun link => link.productionOrderId = orderId && link.workOrderId = workOrder.1

def releaseProductionOrder (env : ExecutionEnv) (db : ExecutionTables)
    (productionOrderCode : String) (payload : ExecutionActionIn) (actor : String) :
    Except Fault (Json × ExecutionTables) :=
  idempotent env db ⟨"production_order", productionOrderCode, "release",
    payload.idempotencyKey.value⟩ payload.json actor fun facts => do
    let (orderId, order) ← requireProductionOrder facts productionOrderCode
    check (order.status = .draft) (executionError 409 "INVALID_PRODUCTION_ORDER_TRANSITION"
      "production order can only be released from draft" [("status", .str order.status.text)])
    let workOrders := attachedWorkOrders env facts orderId
    check (workOrders ≠ []) (executionError 409 "PRODUCTION_ORDER_EMPTY"
      "production order must contain at least one released work order")
    check (∀ workOrder ∈ workOrders, workOrder.2.status = .released) (executionError 409
      "WORK_ORDER_NOT_RELEASED"
      "every attached work order must be released before production-order release")
    check (∀ workOrder ∈ workOrders, workOrder.2.productId = order.productId) (executionError 409
      "PRODUCTION_ORDER_PRODUCT_MISMATCH"
      "all attached work orders must use the production-order product")
    let planned := (workOrders.map (·.2.quantity)).sum
    check (sameQuantity planned order.quantity = true) (executionError 409
      "PRODUCTION_ORDER_QUANTITY_MISMATCH"
      "attached work-order quantity must exactly equal production-order quantity"
      [("production_order_quantity", .float order.quantity),
        ("work_order_quantity", .float planned)])
    let productionOrders ← facts.productionOrders.updateOne orderId (·.status = .draft)
      (fun row => { row with
        status := .released, releasedBy := some actor, releasedAt := some env.now })
      (executionError 409 "PRODUCTION_ORDER_RELEASE_CONFLICT"
        "production order changed during release validation")
    let facts := { facts with productionOrders }
    let response ← formatProductionOrder env facts orderId
    return ⟨response, facts, "execution:production-order-released", "production_order",
      productionOrderCode, .obj [("reason", .str payload.reason.value),
        ("work_order_codes", .arr (workOrders.map fun item => .str item.2.workOrderCode)),
        ("quantity", .float planned)]⟩

def linkedExecutions (facts : ExecutionFacts) (orderId : Nat) : List (Option WorkOrderExecution) :=
  (facts.links.select (·.productionOrderId = orderId)).flatMap fun link =>
    match facts.executions.select (·.workOrderId = link.2.workOrderId) with
    | [] => [none]
    | executions => executions.map fun execution => some execution.2

/-- `_update_completion_aggregates`, for the execution of the completed task. -/
def updateCompletionAggregates (env : ExecutionEnv) (facts : ExecutionFacts)
    (task : OperationTask) :
    Except Fault ExecutionFacts := do
  let executionId := task.workOrderExecutionId
  if facts.tasks.count (fun other => other.isOf executionId && !other.status.done) ≠ 0 then
    return facts
  let executions := facts.executions.updateAt executionId
    (fun row => row.status = .released || row.status = .dispatched || row.status = .inProgress)
    (fun row => { row with status := .completed, completedAt := some env.now })
  let facts := { facts with executions }
  let execution ← orFault (executions.find? executionId)
    (.runtime "'NoneType' object is not iterable")
  let rows := linkedExecutions facts execution.productionOrderId
  if rows.length = rows.countP (·.any (·.status.done)) then
    return { facts with
      productionOrders := facts.productionOrders.updateAt execution.productionOrderId
        (·.status = .inProgress)
        fun row => { row with status := .completed, completedAt := some env.now } }
  return facts

end MiniOgas
