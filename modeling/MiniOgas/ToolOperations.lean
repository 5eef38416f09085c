import MiniOgas.MaintenanceOrders

namespace MiniOgas

open Relational Serial

variable (env : MaintenanceEnv) (db : MaintenanceStore) (actor : String)

def requireTool (tables : MaintenanceTables) (code : String) :
    Except Fault (Nat × MaintenanceTool) :=
  requireMaintenanceCode tables.tools (·.toolCode) code "maintenance tool"

def ToolIn.status (payload : ToolIn) (now : Timestamp) : ToolStatus :=
  if payload.lifeLimit ≤ payload.lifeUsed then .overLife
  else if payload.calibrationRequired &&
      payload.calibrationDueAt.any (fun due => decide (due ≤ now))
  then .calibrationInvalid
  else .active

def createTool (payload : ToolIn) : Except Fault (Json × MaintenanceStore) :=
  maintained env db actor fun tables => do
    let (assetId, _) ← requireAsset tables payload.assetCode.value
    let status := payload.status env.now
    let tools ← insertMaintenance tables.tools (·.toolCode = payload.toolCode.value)
      { toolCode := payload.toolCode.value, assetId, name := payload.name.value
        toolType := payload.toolType.value, lifeLimit := payload.lifeLimit
        lifeUsed := payload.lifeUsed, lifeUom := payload.lifeUom.value
        calibrationRequired := payload.calibrationRequired
        calibrationDueAt := payload.calibrationDueAt, status, createdBy := actor
        createdAt := env.now }
      "DUPLICATE_MAINTENANCE_TOOL" "maintenance tool code already exists"
    let tables' := maintenanceHistory env { tables with tools } "tool" payload.toolCode.value none
      status.text "create" "tool-registration" actor
    return ⟨tables', "maintenance:tool-created", "maintenance_tool", payload.toolCode.value,
      payload.json, formatTool tables' tables.tools.nextId⟩

def assignTool (toolCode : String) (payload : ToolAssignmentIn) :
    Except Fault (Json × MaintenanceStore) :=
  maintained env db actor fun tables => do
    let (toolId, tool) ← requireTool tables toolCode
    let (_, assignment) ← orFault (assignedTask env.execution payload.operationTaskId)
      (maintenanceError 409 "REFERENCE_NOT_FOUND" "operation task does not exist")
    let asset ← orFault (tables.assets.find? tool.assetId)
      (.runtime "'NoneType' object is not iterable")
    check (asset.equipmentId = assignment.equipmentId) (maintenanceError 409
      "TOOL_TASK_ASSET_MISMATCH" "tool asset is not the equipment assigned to the operation task")
    let toolAssignments ← insertMaintenance tables.toolAssignments
      (fun row => row.toolId = toolId && row.operationTaskId = payload.operationTaskId)
      ⟨toolId, payload.operationTaskId, payload.evidenceReference.value, actor, env.now⟩
      "TOOL_ALREADY_ASSIGNED" "tool is already assigned to the operation task"
    return ⟨{ tables with toolAssignments }, "maintenance:tool-assigned", "maintenance_tool",
      toolCode, payload.json, .ok (.obj [("id", .int tables.toolAssignments.nextId),
        ("tool_id", .int toolId), ("operation_task_id", .int payload.operationTaskId),
        ("evidence_reference", .str payload.evidenceReference.value),
        ("assigned_by", .str actor), ("assigned_at", .time env.now),
        ("created_at", .time env.now), ("tool_code", .str toolCode)])⟩

/-- The trigger `trg_tool_life_event_apply`, which adds two columns of doubles. -/
def MaintenanceTool.applyLife (tool : MaintenanceTool) (usageDelta : Quantity) : MaintenanceTool :=
  { tool with
    lifeUsed := toDouble (tool.lifeUsed + usageDelta)
    status :=
      if tool.lifeLimit ≤ toDouble (tool.lifeUsed + usageDelta) then .overLife else tool.status }

/-- The trigger `trg_calibration_event_apply`. -/
def MaintenanceTool.applyCalibration (tool : MaintenanceTool) (result : CalibrationResult)
    (validTo : Timestamp) : MaintenanceTool :=
  { tool with
    calibrationDueAt := some validTo
    status :=
      if result = .fail then .calibrationInvalid
      else if tool.lifeLimit ≤ tool.lifeUsed then .overLife
      else .active }

def recordToolLife (toolCode : String) (payload : ToolLifeEventIn) :
    Except Fault (Json × MaintenanceStore) :=
  maintained env db actor fun tables => do
    let (toolId, tool) ← requireTool tables toolCode
    check (tool.status ≠ .retired) (maintenanceError 409 "TOOL_RETIRED"
      "retired tool cannot record usage")
    check (∀ taskId ∈ payload.operationTaskId, tables.toolAssignments.any (fun row =>
        row.toolId = toolId && row.operationTaskId = taskId) = true)
      (maintenanceError 409 "TOOL_NOT_ASSIGNED" "tool is not assigned to the operation task")
    let toolLifeEvents ← insertMaintenance tables.toolLifeEvents (·.eventId = payload.eventId.value)
      ⟨payload.eventId.value, toolId, payload.usageDelta, payload.operationTaskId,
        payload.occurredAt, payload.evidenceReference.value, actor⟩
      "DUPLICATE_TOOL_LIFE_EVENT" "tool life event id already exists"
    let updated := tool.applyLife payload.usageDelta
    return ⟨{ tables with toolLifeEvents, tools := tables.tools.set toolId updated },
      "maintenance:tool-life-recorded", "maintenance_tool", toolCode, payload.json,
      .ok (.obj [("id", .int tables.toolLifeEvents.nextId),
        ("event_id", .str payload.eventId.value), ("tool_id", .int toolId),
        ("usage_delta", .float payload.usageDelta),
        ("operation_task_id", jsonNat payload.operationTaskId),
        ("occurred_at", .time payload.occurredAt),
        ("evidence_reference", .str payload.evidenceReference.value),
        ("recorded_by", .str actor), ("created_at", .time env.now), ("tool_code", .str toolCode),
        ("life_used", .float updated.lifeUsed), ("tool_status", .str updated.status.text)])⟩

def recordCalibration (toolCode : String) (payload : CalibrationIn) :
    Except Fault (Json × MaintenanceStore) :=
  maintained env db actor fun tables => do
    let (toolId, tool) ← requireTool tables toolCode
    let (personnelId, _) ← requirePersonnel env payload.performedByPersonnelCode.value
    let calibrationEvents ← insertMaintenance tables.calibrationEvents
      (·.calibrationCode = payload.calibrationCode.value)
      ⟨payload.calibrationCode.value, toolId, payload.result, payload.validFrom, payload.validTo,
        personnelId, payload.evidenceReference.value, actor⟩
      "DUPLICATE_CALIBRATION_EVENT" "calibration event code already exists"
    let updated := tool.applyCalibration payload.result payload.validTo
    return ⟨{ tables with calibrationEvents, tools := tables.tools.set toolId updated },
      "maintenance:calibration-recorded", "maintenance_tool", toolCode, payload.json,
      .ok (.obj [("id", .int tables.calibrationEvents.nextId),
        ("calibration_code", .str payload.calibrationCode.value), ("tool_id", .int toolId),
        ("result", .str payload.result.text), ("valid_from", .time payload.validFrom),
        ("valid_to", .time payload.validTo), ("performed_by_personnel_id", .int personnelId),
        ("evidence_reference", .str payload.evidenceReference.value),
        ("recorded_by", .str actor), ("created_at", .time env.now), ("tool_code", .str toolCode),
        ("tool_status", .str updated.status.text)])⟩

def hour : Int := 3600000000

/-- The loop of `generate_preventive_work` over the due times that have passed. -/
def nextDue (due now : Int) (intervalHours : Nat) : Int :=
  if _h : due ≤ now ∧ 0 < intervalHours then nextDue (due + intervalHours * hour) now intervalHours
  else due
termination_by (now + 1 - due).toNat
decreasing_by
  have : (1 : Int) ≤ intervalHours := by omega
  simp only [hour]
  omega

def generatePreventiveWork (planCode : String) (payload : PreventiveGenerateIn) :
    Except Fault (Json × MaintenanceStore) :=
  maintained env db actor fun tables => do
    let (planId, plan) ← requirePlan tables planCode
    check (plan.status = .effective) (maintenanceError 409 "PLAN_NOT_EFFECTIVE"
      "preventive plan is not effective")
    check (plan.nextDueAt ≤ env.now) (maintenanceError 409 "PREVENTIVE_PLAN_NOT_DUE"
      "preventive plan is not due")
    let (personnelId, _) ← requirePersonnel env payload.assignedPersonnelCode.value
    let asset ← orFault (tables.assets.find? plan.assetId)
      (.runtime "'NoneType' object is not iterable")
    let requests ← insertMaintenance tables.requests (·.requestCode = payload.requestCode.value)
      { requestCode := payload.requestCode.value, assetId := plan.assetId
        sourceType := .preventive, sourceReference := planCode
        description := s!"Preventive maintenance due for {asset.assetCode}", priority := .medium
        observedAt := env.now, status := .converted, requestedBy := actor, createdAt := env.now
        convertedAt := some env.now }
      "DUPLICATE_MAINTENANCE_REQUEST" "preventive request code already exists"
    let order := draftOrder env.now payload.orderCode.value tables.requests.nextId plan.assetId
      .preventive .medium personnelId plan.checklistId none none plan.productionImpact
      payload.plannedStartAt payload.plannedEndAt actor
    let orders ← insertMaintenance tables.orders order.conflicts order
      "DUPLICATE_MAINTENANCE_ORDER" "preventive order code already exists"
    let plans := tables.plans.updateAt planId (fun _ => true) fun row =>
      { row with
        nextDueAt := nextDue plan.nextDueAt env.now plan.intervalHours
        lastGeneratedAt := some env.now }
    let converted := maintenanceHistory env { tables with requests, orders, plans } "request"
      payload.requestCode.value none "converted" "preventive-generate" planCode actor
    let tables' := maintenanceHistory env converted "order" payload.orderCode.value none "draft"
      "preventive-generate" planCode actor
    return ⟨tables', "maintenance:preventive-work-generated", "preventive_maintenance_plan",
      planCode, payload.json, do
        let request ← formatRequest tables' tables.requests.nextId
        let order ← formatOrder env tables' tables.orders.nextId
        let plan ← formatPlan tables' planId
        return .obj [("request", request), ("order", order), ("plan", plan)]⟩

end MiniOgas
