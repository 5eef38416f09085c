import MiniOgas.MaintenanceRegistration

namespace MiniOgas

open Relational Serial

variable (env : MaintenanceEnv) (db : MaintenanceStore) (actor : String)

def assignedTask (execution : ExecutionFacts) (taskId : Nat) :
    Option (OperationTask × TaskAssignment) := do
  let task ← execution.tasks.find? taskId
  let (_, assignment) ← execution.assignments.first? (·.operationTaskId = taskId)
  return (task, assignment)

def validateTaskBinding (asset : MaintenanceAsset) (taskId downtimeId : Option Nat) :
    Except Fault Unit :=
  match taskId with
  | none => .ok ()
  | some taskId => do
    let (_, assignment) ← orFault (assignedTask env.execution taskId)
      (maintenanceError 409 "REFERENCE_NOT_FOUND" "operation task does not exist")
    check (assignment.equipmentId = asset.equipmentId) (maintenanceError 409 "ASSET_TASK_MISMATCH"
      "maintenance asset is not the equipment assigned to the operation task")
    match downtimeId with
    | none => return ()
    | some downtimeId =>
      let downtime ← orFault (env.execution.downtimes.find? downtimeId)
        (maintenanceError 409 "REFERENCE_NOT_FOUND" "operation downtime does not exist")
      check (downtime.operationTaskId = taskId ∧ downtime.status = .open)
        (maintenanceError 409 "DOWNTIME_TASK_MISMATCH"
          "maintenance order must reference the open downtime for its operation task")

/-- The columns that an order is inserted with; the others are empty. -/
def draftOrder (now : Timestamp) (orderCode : String) (requestId assetId : Nat)
    (orderType : MaintenanceOrderType) (priority : Criticality)
    (assignedPersonnelId checklistId : Nat) (operationTaskId operationDowntimeId : Option Nat)
    (productionImpact : ProductionImpact) (plannedStartAt plannedEndAt : Timestamp)
    (createdBy : String) : MaintenanceOrder where
  orderCode := orderCode
  requestId := requestId
  assetId := assetId
  orderType := orderType
  priority := priority
  assignedPersonnelId := assignedPersonnelId
  checklistId := checklistId
  operationTaskId := operationTaskId
  operationDowntimeId := operationDowntimeId
  productionImpact := productionImpact
  plannedStartAt := plannedStartAt
  plannedEndAt := plannedEndAt
  status := .draft
  createdBy := createdBy
  createdAt := now
  approvedBy := none
  approvalEvidenceReference := none
  approvedAt := none
  startedBy := none
  startEvidenceReference := none
  startedAt := none
  failureCodeId := none
  causeCodeId := none
  remedyCodeId := none
  workEvidenceReference := none
  completedBy := none
  workCompletedAt := none
  verificationResult := none
  verificationReference := none
  verifiedBy := none
  verifiedAt := none

/-- The unique constraints of `maintenance_orders`. -/
def MaintenanceOrder.conflicts (order row : MaintenanceOrder) : Bool :=
  row.orderCode = order.orderCode ||
    (row.operationDowntimeId.isSome && row.operationDowntimeId = order.operationDowntimeId)

def createOrder (payload : MaintenanceOrderIn) : Except Fault (Json × MaintenanceStore) :=
  maintained env db actor fun tables => do
    let (requestId, request) ← requireMaintenanceCode tables.requests (·.requestCode)
      payload.requestCode.value "maintenance request"
    check (request.status = .open) (maintenanceError 409 "REQUEST_NOT_OPEN"
      "only an open request can be converted")
    let (assetId, asset) ← requireAsset tables payload.assetCode.value
    check (request.assetId = assetId) (maintenanceError 409 "REQUEST_ASSET_MISMATCH"
      "request and order asset differ")
    let (checklistId, _) ← requireChecklistRevision tables payload.checklistCode.value
      payload.checklistRevision
    let (personnelId, personnel) ← requirePersonnel env payload.assignedPersonnelCode.value
    check (personnel.active = true) (maintenanceError 409 "PERSONNEL_INACTIVE"
      "assigned personnel is inactive")
    validateTaskBinding env asset payload.operationTaskId payload.operationDowntimeId
    let order := draftOrder env.now payload.orderCode.value requestId assetId payload.orderType
      payload.priority personnelId checklistId payload.operationTaskId payload.operationDowntimeId
      payload.productionImpact payload.plannedStartAt payload.plannedEndAt actor
    let orders ← insertMaintenance tables.orders order.conflicts order
      "DUPLICATE_MAINTENANCE_ORDER" "maintenance order or downtime binding already exists"
    let requests := tables.requests.updateAt requestId (·.status = .open) fun row =>
      { row with status := .converted, convertedAt := some env.now }
    let converted := maintenanceHistory env { tables with orders, requests } "request"
      payload.requestCode.value (some "open") "converted" "convert-to-order"
      payload.orderCode.value actor
    let tables' := maintenanceHistory env converted "order" payload.orderCode.value none "draft"
      "create" payload.requestCode.value actor
    return ⟨tables', "maintenance:order-created", "maintenance_order", payload.orderCode.value,
      payload.json, formatOrder env tables' tables.orders.nextId⟩

def requireOrder (tables : MaintenanceTables) (orderCode : String) :
    Except Fault (Nat × MaintenanceOrder) :=
  orFault (tables.orders.first? (·.orderCode = orderCode))
    (maintenanceError 404 "MAINTENANCE_ORDER_NOT_FOUND" "order was not found")

def moveOrder (tables : MaintenanceTables) (orderId : Nat) (orderCode : String)
    (fromStatus toStatus : MaintenanceOrderStatus) (write : MaintenanceOrder → MaintenanceOrder)
    (assets : Table MaintenanceAsset) (action evidence auditAction : String) (detail : Json) :
    MaintenanceOutcome :=
  let orders := tables.orders.updateAt orderId (·.status = fromStatus) fun row =>
    { write row with status := toStatus }
  let tables' := maintenanceHistory env { tables with orders, assets } "order" orderCode
    (some fromStatus.text) toStatus.text action evidence actor
  ⟨tables', auditAction, "maintenance_order", orderCode, detail, formatOrder env tables' orderId⟩

def approveOrder (orderCode : String) (payload : MaintenanceActionIn) :
    Except Fault (Json × MaintenanceStore) :=
  maintained env db actor fun tables => do
    let (orderId, order) ← requireOrder tables orderCode
    check (order.status = .draft) (maintenanceError 409 "ORDER_NOT_DRAFT"
      "only a draft order can be approved")
    return moveOrder env actor tables orderId orderCode .draft .approved
      (fun row => { row with
        approvedBy := some actor
        approvalEvidenceReference := some payload.evidenceReference.value
        approvedAt := some env.now })
      tables.assets "approve" payload.evidenceReference.value "maintenance:order-approved"
      payload.json

/-- The checks of `start_order` on the operation task that the order is bound to. -/
def requireDowntime (order : MaintenanceOrder) : Except Fault Unit :=
  match order.operationTaskId with
  | none => .ok ()
  | some taskId => do
    let task ← orFault (env.execution.tasks.find? taskId)
      (.runtime "'NoneType' object is not iterable")
    check (task.status ≠ .running) (maintenanceError 409 "DOWNTIME_REQUIRED"
      "running production must enter governed downtime before maintenance starts")
    if task.status = .paused then
      let downtimeId ← orFault order.operationDowntimeId
        (maintenanceError 409 "DOWNTIME_REQUIRED"
          "paused production maintenance requires its open downtime binding")
      let downtime ← orFault (env.execution.downtimes.find? downtimeId)
        (.runtime "'NoneType' object is not iterable")
      check (downtime.status = .open ∧ downtime.operationTaskId = taskId)
        (maintenanceError 409 "DOWNTIME_TASK_MISMATCH"
          "maintenance order downtime is not open for its task")

def ProductionImpact.assetStatus : ProductionImpact → Option AssetStatus
  | .equipmentUnavailable => some .outOfService
  | .reducedCapacity => some .degraded
  | .none => Option.none

/-- `UPDATE maintenance_assets SET status=? WHERE id=? AND status<>'retired'`. -/
def setAssetStatus (assets : Table MaintenanceAsset) (assetId : Nat) (status : AssetStatus) :
    Table MaintenanceAsset :=
  assets.updateAt assetId (·.status ≠ .retired) fun row => { row with status }

def startOrder (orderCode : String) (payload : MaintenanceActionIn) :
    Except Fault (Json × MaintenanceStore) :=
  maintained env db actor fun tables => do
    let (orderId, order) ← requireOrder tables orderCode
    check (order.status = .approved) (maintenanceError 409 "ORDER_NOT_APPROVED"
      "only an approved order can start")
    requireDowntime env order
    let assets := match order.productionImpact.assetStatus with
      | some status => setAssetStatus tables.assets order.assetId status
      | none => tables.assets
    return moveOrder env actor tables orderId orderCode .approved .inProgress
      (fun row => { row with
        startedBy := some actor, startEvidenceReference := some payload.evidenceReference.value
        startedAt := some env.now })
      assets "start" payload.evidenceReference.value "maintenance:order-started" payload.json

def recordCheckResult (orderCode : String) (payload : ChecklistResultIn) :
    Except Fault (Json × MaintenanceStore) :=
  maintained env db actor fun tables => do
    let (orderId, order) ← requireOrder tables orderCode
    check (order.status = .inProgress) (maintenanceError 409 "ORDER_NOT_IN_PROGRESS"
      "checklist evidence requires an in-progress order")
    let (itemId, item) ← orFault
      (tables.checklistItems.first? fun row =>
        row.checklistId = order.checklistId && row.sequence = payload.itemSequence)
      (maintenanceError 409 "CHECKLIST_ITEM_NOT_FOUND" "checklist item was not found")
    check (¬(item.required = true ∧ payload.result = .notApplicable))
      (maintenanceError 409 "REQUIRED_CHECK_NOT_APPLICABLE"
        "required checklist item cannot be skipped")
    let result : ChecklistResult :=
      ⟨orderId, itemId, payload.result, payload.evidenceReference.value, actor, env.now⟩
    let checkResults ← insertMaintenance tables.checkResults
      (fun row => row.maintenanceOrderId = orderId && row.checklistItemId = itemId) result
      "CHECKLIST_RESULT_ALREADY_RECORDED" "checklist item already has an immutable result"
    return ⟨{ tables with checkResults }, "maintenance:check-result-recorded",
      "maintenance_order", orderCode, payload.json,
      .ok (checkResultJson tables.checkResults.nextId result item)⟩

def incompleteItems (tables : MaintenanceTables) (orderId : Nat) (order : MaintenanceOrder) :
    List (Nat × ChecklistItem) :=
  (tables.checklistItems.select fun item => item.checklistId = order.checklistId && item.required)
    |>.filter fun item => !tables.checkResults.any fun result =>
      result.maintenanceOrderId = orderId && result.checklistItemId = item.1 &&
        result.result = .pass

/-- `_require_maintenance_code`. -/
def requireCodeOfType (tables : MaintenanceTables) (code : String)
    (expected : MaintenanceCodeType) : Except Fault (Nat × MaintenanceCode) := do
  let (id, fact) ← requireMaintenanceCode tables.codes (·.code) code "maintenance code"
  check (fact.codeType = expected ∧ fact.active = true)
    (maintenanceError 409 "MAINTENANCE_CODE_TYPE_MISMATCH"
      s!"{code} is not an active {expected.text} code")
  return (id, fact)

def completeWork (orderCode : String) (payload : WorkCompleteIn) :
    Except Fault (Json × MaintenanceStore) :=
  maintained env db actor fun tables => do
    let (orderId, order) ← requireOrder tables orderCode
    check (order.status = .inProgress) (maintenanceError 409 "ORDER_NOT_IN_PROGRESS"
      "only in-progress maintenance work can complete")
    check (incompleteItems tables orderId order = []) (maintenanceError 409 "CHECKLIST_INCOMPLETE"
      "all required maintenance checklist items must have immutable pass evidence")
    let (failureId, _) ← requireCodeOfType tables payload.failureCode.value .failure
    let (causeId, _) ← requireCodeOfType tables payload.causeCode.value .cause
    let (remedyId, _) ← requireCodeOfType tables payload.remedyCode.value .remedy
    return moveOrder env actor tables orderId orderCode .inProgress .workCompleted
      (fun row => { row with
        failureCodeId := some failureId, causeCodeId := some causeId
        remedyCodeId := some remedyId
        workEvidenceReference := some payload.workEvidenceReference.value
        completedBy := some actor, workCompletedAt := some env.now })
      tables.assets "work-complete" payload.workEvidenceReference.value
      "maintenance:work-completed" payload.json

def VerificationResult.assetStatus : VerificationResult → AssetStatus
  | .restored => .active
  | .degraded => .degraded
  | .notRestored => .outOfService

def verifyOrder (orderCode : String) (payload : MaintenanceVerifyIn) :
    Except Fault (Json × MaintenanceStore) :=
  maintained env db actor fun tables => do
    let (orderId, order) ← requireOrder tables orderCode
    check (order.status = .workCompleted) (maintenanceError 409
      "MAINTENANCE_NOT_READY_FOR_VERIFICATION"
      "maintenance verification requires completed work and checklist evidence")
    check (order.completedBy ≠ some actor) (maintenanceError 409 "INDEPENDENT_VERIFIER_REQUIRED"
      "work completer cannot verify the same maintenance order")
    return moveOrder env actor tables orderId orderCode .workCompleted .verified
      (fun row => { row with
        verificationResult := some payload.verificationResult
        verificationReference := some payload.verificationReference.value
        verifiedBy := some actor, verifiedAt := some env.now })
      (setAssetStatus tables.assets order.assetId payload.verificationResult.assetStatus)
      "verify" payload.verificationReference.value "maintenance:order-verified" payload.json

def recordSpareUse (orderCode : String) (payload : SpareUseIn) :
    Except Fault (Json × MaintenanceStore) :=
  maintained env db actor fun tables => do
    let (orderId, order) ← requireOrder tables orderCode
    check (order.status = .inProgress ∨ order.status = .workCompleted)
      (maintenanceError 409 "ORDER_NOT_ACTIVE"
        "spare usage requires an in-progress or work-completed maintenance order")
    let movement ← orFault (env.movements.find? (·.movementId = payload.movementId.value))
      (maintenanceError 409 "REFERENCE_NOT_FOUND" "inventory movement does not exist")
    check (movement.movementType = "consume") (maintenanceError 409 "SPARE_MOVEMENT_NOT_CONSUME"
      "maintenance spare usage must reference a Phase 4 consume movement")
    check (movement.maintenanceOrderId = some orderId) (maintenanceError 409
      "SPARE_MOVEMENT_ORDER_MISMATCH"
      "consume movement is not authorized by this maintenance order")
    let spareUsages ← insertMaintenance tables.spareUsages
      (fun row => row.usageId = payload.usageId.value || row.inventoryMovementId = movement.id)
      ⟨payload.usageId.value, orderId, movement.id, payload.evidenceReference.value, actor,
        env.now⟩
      "DUPLICATE_SPARE_USAGE" "spare usage or inventory movement is already linked"
    return ⟨{ tables with spareUsages }, "maintenance:spare-used", "maintenance_order", orderCode,
      payload.json, .ok (.obj [("id", .int tables.spareUsages.nextId),
        ("usage_id", .str payload.usageId.value), ("maintenance_order_id", .int orderId),
        ("inventory_movement_id", .int movement.id),
        ("evidence_reference", .str payload.evidenceReference.value), ("recorded_by", .str actor),
        ("recorded_at", .time env.now), ("created_at", .time env.now),
        ("order_code", .str orderCode), ("movement_id", .str movement.movementId),
        ("movement_type", .str movement.movementType), ("lot_code", .str movement.lotCode),
        ("material_code", .str movement.materialCode), ("quantity", .float movement.quantity)])⟩

end MiniOgas
