import MiniOgas.TableKey
import MiniOgas.ExecutionTables
import MiniOgas.MaintenanceInput

namespace MiniOgas

section MaintenanceStore

open Relational Serial

variable {α : Type}

/-- A row of `inventory_movements` joined with its lot and material. -/
structure SpareMovement where
  id : Nat
  movementId : String
  movementType : String
  maintenanceOrderId : Option Nat
  lotCode : String
  materialCode : String
  quantity : Quantity

structure MaintenanceEnv where
  now : Timestamp
  master : MasterData
  execution : ExecutionFacts
  movements : List SpareMovement
  auditAccepted : AuditLog → Bool

structure MaintenanceStore where
  tables : MaintenanceTables
  auditLogs : Table AuditLog

def maintenanceError (statusCode : Nat) (code message : String)
    (context : List (String × Json) := []) : Fault :=
  .maintenance ⟨statusCode, code, message, context⟩

/-- `_require_code`. -/
def requireMaintenanceCode (table : Table α) (codeOf : α → String) (code resource : String) :
    Except Fault (Nat × α) :=
  orFault (table.first? (codeOf · = code))
    (maintenanceError 409 "REFERENCE_NOT_FOUND"
      s!"referenced {resource} does not exist in the active tenant/site"
      [("resource_type", .str resource), ("resource_code", .str code)])

/-- `_insert_id`: a row that breaks a unique constraint raises the given error. -/
def insertMaintenance (table : Table α) (conflicts : α → Bool) (row : α)
    (code message : String) : Except Fault (Table α) :=
  table.insertUnique conflicts row (maintenanceError 409 code message)

/-- `_history`. -/
def maintenanceHistory (env : MaintenanceEnv) (tables : MaintenanceTables)
    (resourceType resourceId : String) (fromStatus : Option String)
    (toStatus action evidenceReference actor : String) : MaintenanceTables :=
  { tables with
    statusHistory := tables.statusHistory.insert ⟨resourceType, resourceId, fromStatus, toStatus,
      action, evidenceReference, actor, env.now⟩ }

structure MaintenanceOutcome where
  tables : MaintenanceTables
  auditAction : String
  auditResourceType : String
  auditResourceId : String
  auditDetail : Json
  response : Except Fault Json

/-- The frame of an operation: its body, `_audit` and its response. -/
def maintained (env : MaintenanceEnv) (db : MaintenanceStore) (actor : String)
    (body : MaintenanceTables → Except Fault MaintenanceOutcome) :
    Except Fault (Json × MaintenanceStore) := do
  let outcome ← body db.tables
  let log : AuditLog := ⟨"maintenance", actor, outcome.auditAction, outcome.auditResourceType,
    outcome.auditResourceId, canonicalJson outcome.auditDetail, env.now⟩
  check (env.auditAccepted log = true)
    (.runtime "failed to enqueue the maintenance audit envelope")
  let response ← outcome.response
  return (response, ⟨outcome.tables, db.auditLogs.insert log⟩)

theorem maintained_tables {env : MaintenanceEnv} {db db' : MaintenanceStore} {actor : String}
    {body : MaintenanceTables → Except Fault MaintenanceOutcome} {response : Json}
    (h : maintained env db actor body = .ok (response, db')) :
    ∃ outcome, body db.tables = .ok outcome ∧ outcome.tables = db'.tables := by
  obtain ⟨outcome, hbody, h⟩ := of_bind h
  obtain ⟨-, -, h⟩ := of_bind h
  obtain ⟨response, -, h⟩ := of_bind h
  cases h
  exact ⟨outcome, hbody, rfl⟩

theorem insertMaintenance_eq_ok {table table' : Table α} {conflicts : α → Bool} {row : α}
    {code message : String} :
    insertMaintenance table conflicts row code message = .ok table' ↔
      table.any conflicts = false ∧ table.insert row = table' :=
  Table.insertUnique_eq_ok

end MaintenanceStore

open Relational Serial

variable (env : MaintenanceEnv) (tables : MaintenanceTables) (id : Nat)

def formatAsset : Except Fault Json := do
  let notFound := maintenanceError 404 "ASSET_NOT_FOUND" "maintenance asset was not found"
  let asset ← orFault (tables.assets.find? id) notFound
  let equipment ← orFault (env.master.equipment.find? asset.equipmentId) notFound
  let parent := asset.parentAssetId.bind tables.assets.find?
  return .obj [("id", .int id), ("asset_code", .str asset.assetCode),
    ("equipment_id", .int asset.equipmentId), ("parent_asset_id", jsonNat asset.parentAssetId),
    ("name", .str asset.name), ("criticality", .str asset.criticality.text),
    ("status", .str asset.status.text), ("created_by", .str asset.createdBy),
    ("created_at", .time asset.createdAt), ("equipment_code", .str equipment.equipmentCode),
    ("parent_asset_code", jsonText (parent.map (·.assetCode)))]

def formatCode : Except Fault Json := do
  let code ← orFault (tables.codes.find? id) (.runtime "'NoneType' object is not iterable")
  return .obj [("id", .int id), ("code", .str code.code), ("code_type", .str code.codeType.text),
    ("description", .str code.description), ("active", jsonFlag code.active),
    ("created_by", .str code.createdBy), ("created_at", .time code.createdAt)]

def ChecklistItem.json (itemId : Nat) (item : ChecklistItem) : Json :=
  .obj [("id", .int itemId), ("checklist_id", .int item.checklistId),
    ("sequence", .int item.sequence), ("instruction", .str item.instruction),
    ("required", jsonFlag item.required), ("created_by", .str item.createdBy),
    ("created_at", .time item.createdAt)]

def formatChecklist : Except Fault Json := do
  let checklist ← orFault (tables.checklists.find? id)
    (maintenanceError 404 "CHECKLIST_NOT_FOUND" "maintenance checklist was not found")
  let items := (tables.checklistItems.select (·.checklistId = id)).insertionSort
    fun x y => x.2.sequence ≤ y.2.sequence
  return .obj [("id", .int id), ("checklist_code", .str checklist.checklistCode),
    ("revision", .int checklist.revision), ("name", .str checklist.name),
    ("status", .str checklist.status.text), ("created_by", .str checklist.createdBy),
    ("approved_by", jsonText checklist.approvedBy),
    ("approval_evidence_reference", jsonText checklist.approvalEvidenceReference),
    ("approved_at", jsonTime checklist.approvedAt),
    ("effective_by", jsonText checklist.effectiveBy),
    ("effectivity_evidence_reference", jsonText checklist.effectivityEvidenceReference),
    ("effective_at", jsonTime checklist.effectiveAt), ("created_at", .time checklist.createdAt),
    ("items", .arr (items.map fun item => item.2.json item.1))]

def formatRequest : Except Fault Json := do
  let notFound := maintenanceError 404 "MAINTENANCE_REQUEST_NOT_FOUND" "request was not found"
  let request ← orFault (tables.requests.find? id) notFound
  let asset ← orFault (tables.assets.find? request.assetId) notFound
  return .obj [("id", .int id), ("request_code", .str request.requestCode),
    ("asset_id", .int request.assetId), ("source_type", .str request.sourceType.text),
    ("source_reference", .str request.sourceReference),
    ("description", .str request.description), ("priority", .str request.priority.text),
    ("observed_at", .time request.observedAt), ("status", .str request.status.text),
    ("requested_by", .str request.requestedBy), ("created_at", .time request.createdAt),
    ("converted_at", jsonTime request.convertedAt), ("asset_code", .str asset.assetCode)]

/-- A row of `maintenance_check_results` joined with its item. -/
def checkResultJson (resultId : Nat) (result : ChecklistResult) (item : ChecklistItem) : Json :=
  .obj [("id", .int resultId), ("maintenance_order_id", .int result.maintenanceOrderId),
    ("checklist_item_id", .int result.checklistItemId), ("result", .str result.result.text),
    ("evidence_reference", .str result.evidenceReference),
    ("recorded_by", .str result.recordedBy), ("recorded_at", .time result.recordedAt),
    ("created_at", .time result.recordedAt), ("item_sequence", .int item.sequence),
    ("instruction", .str item.instruction)]

def orderChecks (orderId : Nat) : List ((Nat × ChecklistResult) × ChecklistItem) :=
  ((tables.checkResults.select (·.maintenanceOrderId = orderId)).filterMap fun result =>
      (tables.checklistItems.find? result.2.checklistItemId).map (result, ·)).insertionSort
    fun x y => x.2.sequence ≤ y.2.sequence

def formatOrder : Except Fault Json := do
  let notFound := maintenanceError 404 "MAINTENANCE_ORDER_NOT_FOUND" "order was not found"
  let order ← orFault (tables.orders.find? id) notFound
  let request ← orFault (tables.requests.find? order.requestId) notFound
  let asset ← orFault (tables.assets.find? order.assetId) notFound
  let personnel ← orFault (env.master.personnel.find? order.assignedPersonnelId) notFound
  let checklist ← orFault (tables.checklists.find? order.checklistId) notFound
  let codeOf := fun codeId : Option Nat => jsonText ((codeId.bind tables.codes.find?).map (·.code))
  return .obj [("id", .int id), ("order_code", .str order.orderCode),
    ("request_id", .int order.requestId), ("asset_id", .int order.assetId),
    ("order_type", .str order.orderType.text), ("priority", .str order.priority.text),
    ("assigned_personnel_id", .int order.assignedPersonnelId),
    ("checklist_id", .int order.checklistId),
    ("operation_task_id", jsonNat order.operationTaskId),
    ("operation_downtime_id", jsonNat order.operationDowntimeId),
    ("production_impact", .str order.productionImpact.text),
    ("planned_start_at", .time order.plannedStartAt),
    ("planned_end_at", .time order.plannedEndAt), ("status", .str order.status.text),
    ("created_by", .str order.createdBy), ("created_at", .time order.createdAt),
    ("approved_by", jsonText order.approvedBy),
    ("approval_evidence_reference", jsonText order.approvalEvidenceReference),
    ("approved_at", jsonTime order.approvedAt), ("started_by", jsonText order.startedBy),
    ("start_evidence_reference", jsonText order.startEvidenceReference),
    ("started_at", jsonTime order.startedAt), ("failure_code_id", jsonNat order.failureCodeId),
    ("cause_code_id", jsonNat order.causeCodeId), ("remedy_code_id", jsonNat order.remedyCodeId),
    ("work_evidence_reference", jsonText order.workEvidenceReference),
    ("completed_by", jsonText order.completedBy),
    ("work_completed_at", jsonTime order.workCompletedAt),
    ("verification_result", jsonText (order.verificationResult.map (·.text))),
    ("verification_reference", jsonText order.verificationReference),
    ("verified_by", jsonText order.verifiedBy), ("verified_at", jsonTime order.verifiedAt),
    ("closed_by", .null), ("closed_at", .null), ("request_code", .str request.requestCode),
    ("asset_code", .str asset.assetCode),
    ("assigned_personnel_code", .str personnel.personnelCode),
    ("checklist_code", .str checklist.checklistCode),
    ("checklist_revision", .int checklist.revision), ("failure_code", codeOf order.failureCodeId),
    ("cause_code", codeOf order.causeCodeId), ("remedy_code", codeOf order.remedyCodeId),
    ("checklist_results", .arr ((orderChecks tables id).map fun entry =>
      checkResultJson entry.1.1 entry.1.2 entry.2))]

def formatTool : Except Fault Json := do
  let notFound := maintenanceError 404 "TOOL_NOT_FOUND" "maintenance tool was not found"
  let tool ← orFault (tables.tools.find? id) notFound
  let asset ← orFault (tables.assets.find? tool.assetId) notFound
  return .obj [("id", .int id), ("tool_code", .str tool.toolCode),
    ("asset_id", .int tool.assetId), ("name", .str tool.name), ("tool_type", .str tool.toolType),
    ("life_limit", .float tool.lifeLimit), ("life_used", .float tool.lifeUsed),
    ("life_uom", .str tool.lifeUom), ("calibration_required", jsonFlag tool.calibrationRequired),
    ("calibration_due_at", jsonTime tool.calibrationDueAt), ("status", .str tool.status.text),
    ("created_by", .str tool.createdBy), ("created_at", .time tool.createdAt),
    ("asset_code", .str asset.assetCode)]

def formatPlan : Except Fault Json := do
  let notFound :=
    maintenanceError 404 "PREVENTIVE_PLAN_NOT_FOUND" "preventive plan was not found"
  let plan ← orFault (tables.plans.find? id) notFound
  let asset ← orFault (tables.assets.find? plan.assetId) notFound
  let checklist ← orFault (tables.checklists.find? plan.checklistId) notFound
  return .obj [("id", .int id), ("plan_code", .str plan.planCode), ("asset_id", .int plan.assetId),
    ("checklist_id", .int plan.checklistId), ("interval_hours", .int plan.intervalHours),
    ("next_due_at", .time plan.nextDueAt),
    ("production_impact", .str plan.productionImpact.text), ("status", .str plan.status.text),
    ("created_by", .str plan.createdBy), ("created_at", .time plan.createdAt),
    ("effective_by", jsonText plan.effectiveBy),
    ("effectivity_evidence_reference", jsonText plan.effectivityEvidenceReference),
    ("effective_at", jsonTime plan.effectiveAt),
    ("last_generated_at", jsonTime plan.lastGeneratedAt), ("asset_code", .str asset.assetCode),
    ("checklist_code", .str checklist.checklistCode),
    ("checklist_revision", .int checklist.revision)]

variable (env : MaintenanceEnv) (db : MaintenanceStore) (actor : String)

def requireAsset (tables : MaintenanceTables) (code : String) :
    Except Fault (Nat × MaintenanceAsset) :=
  requireMaintenanceCode tables.assets (·.assetCode) code "maintenance asset"

def requirePersonnel (env : MaintenanceEnv) (code : String) : Except Fault (Nat × Personnel) :=
  requireMaintenanceCode env.master.personnel (·.personnelCode) code "personnel"

def requireParent (tables : MaintenanceTables) (parent : Option Code) :
    Except Fault (Option Nat) :=
  match parent with
  | none => .ok none
  | some code => do
    let (parentId, _) ← requireAsset tables code.value
    return some parentId

def createAsset (payload : AssetIn) : Except Fault (Json × MaintenanceStore) :=
  maintained env db actor fun tables => do
    let (equipmentId, _) ← requireMaintenanceCode env.master.equipment (·.equipmentCode)
      payload.equipmentCode.value "equipment"
    let parentAssetId ← requireParent tables payload.parentAssetCode
    let assets ← insertMaintenance tables.assets
      (fun row => row.assetCode = payload.assetCode.value || row.equipmentId = equipmentId)
      { assetCode := payload.assetCode.value, equipmentId, parentAssetId
        name := payload.name.value, criticality := payload.criticality, status := .active
        createdBy := actor, createdAt := env.now }
      "DUPLICATE_MAINTENANCE_ASSET" "asset code or governed equipment is already registered"
    let tables' := maintenanceHistory env { tables with assets } "asset" payload.assetCode.value
      none "active" "create" "asset-registration" actor
    return ⟨tables', "maintenance:asset-created", "maintenance_asset", payload.assetCode.value,
      payload.json, formatAsset env tables' tables.assets.nextId⟩

def createCode (payload : MaintenanceCodeIn) : Except Fault (Json × MaintenanceStore) :=
  maintained env db actor fun tables => do
    let codes ← insertMaintenance tables.codes (·.code = payload.code.value)
      { code := payload.code.value, codeType := payload.codeType
        description := payload.description.value, active := true
        createdBy := actor, createdAt := env.now }
      "DUPLICATE_MAINTENANCE_CODE" "maintenance code already exists"
    return ⟨{ tables with codes }, "maintenance:code-created", "maintenance_code",
      payload.code.value, payload.json, formatCode { tables with codes } tables.codes.nextId⟩

def createChecklist (payload : ChecklistIn) : Except Fault (Json × MaintenanceStore) :=
  maintained env db actor fun tables => do
    let name := s!"{payload.checklistCode.value}:{payload.revision}"
    let checklists ← insertMaintenance tables.checklists
      (fun row => row.checklistCode = payload.checklistCode.value &&
        row.revision = payload.revision)
      { checklistCode := payload.checklistCode.value, revision := payload.revision
        name := payload.name.value, status := .draft, createdBy := actor, approvedBy := none
        approvalEvidenceReference := none, approvedAt := none, effectiveBy := none
        effectivityEvidenceReference := none, effectiveAt := none, createdAt := env.now }
      "DUPLICATE_MAINTENANCE_CHECKLIST" "maintenance checklist revision already exists"
    let checklistItems := tables.checklistItems.insertAll (payload.items.map fun item =>
      ⟨tables.checklists.nextId, item.sequence, item.instruction.value, item.required, actor,
        env.now⟩)
    let tables' := maintenanceHistory env { tables with checklists, checklistItems } "checklist"
      name none "draft" "create" "checklist-registration" actor
    return ⟨tables', "maintenance:checklist-created", "maintenance_checklist", name, payload.json,
      formatChecklist tables' tables.checklists.nextId⟩

/-- The `target` of `transition_checklist`. -/
inductive ChecklistTarget where
  | approved
  | effective

def ChecklistTarget.text : ChecklistTarget → String
  | .approved => "approved"
  | .effective => "effective"

def ChecklistTarget.expected : ChecklistTarget → ChecklistStatus
  | .approved => .draft
  | .effective => .approved

def ChecklistTarget.write (target : ChecklistTarget) (now : Timestamp) (actor evidence : String)
    (checklist : MaintenanceChecklist) : MaintenanceChecklist :=
  match target with
  | .approved => { checklist with
      status := .approved, approvedBy := some actor, approvalEvidenceReference := some evidence
      approvedAt := some now }
  | .effective => { checklist with
      status := .effective, effectiveBy := some actor
      effectivityEvidenceReference := some evidence, effectiveAt := some now }

def transitionChecklist (checklistCode : String) (revision : Int) (target : ChecklistTarget)
    (payload : MaintenanceActionIn) : Except Fault (Json × MaintenanceStore) :=
  maintained env db actor fun tables => do
    let name := s!"{checklistCode}:{revision}"
    let (id, checklist) ← orFault
      (tables.checklists.first? fun row =>
        row.checklistCode = checklistCode && row.revision = revision)
      (maintenanceError 404 "CHECKLIST_NOT_FOUND" "maintenance checklist was not found")
    check (checklist.status = target.expected) (maintenanceError 409 "INVALID_CHECKLIST_TRANSITION"
      s!"checklist must be {target.expected.text} before transition to {target.text}")
    -- the update that precedes an effective revision excepts it; its own status is still approved
    let superseded := match target with
      | .approved => tables.checklists
      | .effective => tables.checklists.updateWhere
          (fun row => row.checklistCode = checklistCode && row.status = ChecklistStatus.effective)
          fun row => { row with status := .superseded }
    let checklists := superseded.updateAt id (fun _ => true)
      (target.write env.now actor payload.evidenceReference.value)
    let tables' := maintenanceHistory env { tables with checklists } "checklist" name
      (some target.expected.text) target.text target.text payload.evidenceReference.value actor
    return ⟨tables', s!"maintenance:checklist-{target.text}", "maintenance_checklist", name,
      .obj [("evidence_reference", .str payload.evidenceReference.value)],
      formatChecklist tables' id⟩

def createRequest (payload : MaintenanceRequestIn) : Except Fault (Json × MaintenanceStore) :=
  maintained env db actor fun tables => do
    let (assetId, _) ← requireAsset tables payload.assetCode.value
    let requests ← insertMaintenance tables.requests (·.requestCode = payload.requestCode.value)
      { requestCode := payload.requestCode.value, assetId, sourceType := payload.sourceType
        sourceReference := payload.sourceReference.value
        description := payload.description.value, priority := payload.priority
        observedAt := payload.observedAt, status := .open, requestedBy := actor
        createdAt := env.now, convertedAt := none }
      "DUPLICATE_MAINTENANCE_REQUEST" "maintenance request code already exists"
    let tables' := maintenanceHistory env { tables with requests } "request"
      payload.requestCode.value none "open" "create" payload.sourceReference.value actor
    return ⟨tables', "maintenance:request-created", "maintenance_request",
      payload.requestCode.value, payload.json, formatRequest tables' tables.requests.nextId⟩

/-- `_require_checklist_revision`, of an effective checklist. -/
def requireChecklistRevision (tables : MaintenanceTables) (checklistCode : String)
    (revision : Int) : Except Fault (Nat × MaintenanceChecklist) := do
  let (id, checklist) ← orFault
    (tables.checklists.first? fun row =>
      row.checklistCode = checklistCode && row.revision = revision)
    (maintenanceError 409 "REFERENCE_NOT_FOUND" "checklist revision does not exist")
  check (checklist.status = .effective) (maintenanceError 409 "CHECKLIST_NOT_EFFECTIVE"
    "maintenance checklist is not effective")
  return (id, checklist)

def createPreventivePlan (payload : PreventivePlanIn) : Except Fault (Json × MaintenanceStore) :=
  maintained env db actor fun tables => do
    let (assetId, _) ← requireAsset tables payload.assetCode.value
    let (checklistId, _) ← requireChecklistRevision tables payload.checklistCode.value
      payload.checklistRevision
    let plans ← insertMaintenance tables.plans (·.planCode = payload.planCode.value)
      { planCode := payload.planCode.value, assetId, checklistId
        intervalHours := payload.intervalHours, nextDueAt := payload.nextDueAt
        productionImpact := payload.productionImpact, status := .draft, createdBy := actor
        createdAt := env.now, effectiveBy := none, effectivityEvidenceReference := none
        effectiveAt := none, lastGeneratedAt := none }
      "DUPLICATE_PREVENTIVE_PLAN" "preventive maintenance plan code already exists"
    let tables' := maintenanceHistory env { tables with plans } "preventive_plan"
      payload.planCode.value none "draft" "create" "preventive-plan-registration" actor
    return ⟨tables', "maintenance:preventive-plan-created", "preventive_maintenance_plan",
      payload.planCode.value, payload.json, formatPlan tables' tables.plans.nextId⟩

def requirePlan (tables : MaintenanceTables) (code : String) :
    Except Fault (Nat × PreventivePlan) :=
  requireMaintenanceCode tables.plans (·.planCode) code "preventive plan"

def effectivePreventivePlan (planCode : String) (payload : MaintenanceActionIn) :
    Except Fault (Json × MaintenanceStore) :=
  maintained env db actor fun tables => do
    let (planId, plan) ← requirePlan tables planCode
    check (plan.status = .draft) (maintenanceError 409 "PLAN_NOT_DRAFT"
      "only a draft plan can become effective")
    let plans := tables.plans.updateAt planId (·.status = .draft) fun row =>
      { row with
        status := .effective, effectiveBy := some actor
        effectivityEvidenceReference := some payload.evidenceReference.value
        effectiveAt := some env.now }
    let tables' := maintenanceHistory env { tables with plans } "preventive_plan" planCode
      (some "draft") "effective" "effective" payload.evidenceReference.value actor
    return ⟨tables', "maintenance:preventive-plan-effective", "preventive_maintenance_plan",
      planCode, payload.json, formatPlan tables' planId⟩

end MiniOgas
