import MiniOgas.MaintenanceTables
import MiniOgas.TelemetryInput

namespace MiniOgas

def AssetStatus.text : AssetStatus → String
  | .active => "active"
  | .degraded => "degraded"
  | .outOfService => "out_of_service"
  | .retired => "retired"

def Criticality.text : Criticality → String
  | .low => "low"
  | .medium => "medium"
  | .high => "high"
  | .critical => "critical"

def MaintenanceCodeType.text : MaintenanceCodeType → String
  | .failure => "failure"
  | .cause => "cause"
  | .remedy => "remedy"

def ChecklistStatus.text : ChecklistStatus → String
  | .draft => "draft"
  | .approved => "approved"
  | .effective => "effective"
  | .superseded => "superseded"
  | .retired => "retired"

def ProductionImpact.text : ProductionImpact → String
  | .none => "none"
  | .reducedCapacity => "reduced_capacity"
  | .equipmentUnavailable => "equipment_unavailable"

def PlanStatus.text : PlanStatus → String
  | .draft => "draft"
  | .effective => "effective"
  | .retired => "retired"

def RequestSource.text : RequestSource → String
  | .alarm => "alarm"
  | .manual => "manual"
  | .inspection => "inspection"
  | .preventive => "preventive"

def RequestStatus.text : RequestStatus → String
  | .open => "open"
  | .converted => "converted"
  | .cancelled => "cancelled"

def MaintenanceOrderType.text : MaintenanceOrderType → String
  | .corrective => "corrective"
  | .preventive => "preventive"
  | .calibration => "calibration"
  | .tooling => "tooling"

def MaintenanceOrderStatus.text : MaintenanceOrderStatus → String
  | .draft => "draft"
  | .approved => "approved"
  | .inProgress => "in_progress"
  | .workCompleted => "work_completed"
  | .verified => "verified"
  | .closed => "closed"
  | .cancelled => "cancelled"

def VerificationResult.text : VerificationResult → String
  | .restored => "restored"
  | .degraded => "degraded"
  | .notRestored => "not_restored"

def CheckResult.text : CheckResult → String
  | .pass => "pass"
  | .fail => "fail"
  | .notApplicable => "not_applicable"

def ToolStatus.text : ToolStatus → String
  | .active => "active"
  | .overLife => "over_life"
  | .calibrationInvalid => "calibration_invalid"
  | .retired => "retired"

def CalibrationResult.text : CalibrationResult → String
  | .pass => "pass"
  | .fail => "fail"

structure AssetIn where
  assetCode : Code
  equipmentCode : Code
  name : Text 1 160
  parentAssetCode : Option Code
  criticality : Criticality

structure MaintenanceCodeIn where
  code : Code
  codeType : MaintenanceCodeType
  description : Text 1 512

structure ChecklistItemIn where
  sequence : Int
  instruction : Text 1 1024
  required : Bool
  sequence_bounds : 1 ≤ sequence ∧ sequence ≤ 10000

structure ChecklistIn where
  checklistCode : Code
  revision : Int
  name : Text 1 160
  items : List ChecklistItemIn
  revision_pos : 1 ≤ revision
  items_bounds : 1 ≤ items.length ∧ items.length ≤ 200
  items_unique : (items.map (·.sequence)).Nodup

structure MaintenanceActionIn where
  evidenceReference : Text 1 240

structure MaintenanceRequestIn where
  requestCode : Code
  assetCode : Code
  sourceType : RequestSource
  sourceReference : Text 1 240
  description : Text 1 2048
  priority : Criticality
  observedAt : Timestamp

structure MaintenanceOrderIn where
  orderCode : Code
  requestCode : Code
  assetCode : Code
  orderType : MaintenanceOrderType
  priority : Criticality
  assignedPersonnelCode : Code
  checklistCode : Code
  checklistRevision : Int
  operationTaskId : Option Nat
  operationDowntimeId : Option Nat
  productionImpact : ProductionImpact
  plannedStartAt : Timestamp
  plannedEndAt : Timestamp
  checklistRevision_pos : 1 ≤ checklistRevision
  operationTaskId_pos : ∀ id ∈ operationTaskId, 1 ≤ id
  operationDowntimeId_pos : ∀ id ∈ operationDowntimeId, 1 ≤ id
  planned : plannedStartAt < plannedEndAt
  downtime_of_task : operationDowntimeId ≠ none → operationTaskId ≠ none

structure ChecklistResultIn where
  itemSequence : Int
  result : CheckResult
  evidenceReference : Text 1 240
  itemSequence_bounds : 1 ≤ itemSequence ∧ itemSequence ≤ 10000

structure WorkCompleteIn where
  failureCode : Code
  causeCode : Code
  remedyCode : Code
  workEvidenceReference : Text 1 240

structure MaintenanceVerifyIn where
  verificationReference : Text 1 240
  verificationResult : VerificationResult

structure ToolIn where
  toolCode : Code
  assetCode : Code
  name : Text 1 160
  toolType : Text 1 80
  lifeLimit : Quantity
  lifeUsed : Quantity
  lifeUom : Text 1 40
  calibrationRequired : Bool
  calibrationDueAt : Option Timestamp
  lifeLimit_pos : 0 < lifeLimit
  lifeLimit_float : toDouble lifeLimit = lifeLimit
  lifeUsed_nonneg : 0 ≤ lifeUsed
  calibrated : calibrationRequired = true → calibrationDueAt ≠ none

structure ToolAssignmentIn where
  operationTaskId : Nat
  evidenceReference : Text 1 240
  operationTaskId_pos : 1 ≤ operationTaskId

structure ToolLifeEventIn where
  eventId : Code
  usageDelta : Quantity
  operationTaskId : Option Nat
  occurredAt : Timestamp
  evidenceReference : Text 1 240
  usageDelta_pos : 0 < usageDelta
  operationTaskId_pos : ∀ id ∈ operationTaskId, 1 ≤ id

structure CalibrationIn where
  calibrationCode : Code
  result : CalibrationResult
  validFrom : Timestamp
  validTo : Timestamp
  performedByPersonnelCode : Code
  evidenceReference : Text 1 240
  period : validFrom < validTo

structure PreventivePlanIn where
  planCode : Code
  assetCode : Code
  checklistCode : Code
  checklistRevision : Int
  intervalHours : Nat
  nextDueAt : Timestamp
  productionImpact : ProductionImpact
  checklistRevision_pos : 1 ≤ checklistRevision
  intervalHours_bounds : 1 ≤ intervalHours ∧ intervalHours ≤ 87600

structure PreventiveGenerateIn where
  requestCode : Code
  orderCode : Code
  assignedPersonnelCode : Code
  plannedStartAt : Timestamp
  plannedEndAt : Timestamp
  planned : plannedStartAt < plannedEndAt

structure SpareUseIn where
  usageId : Code
  movementId : Code
  evidenceReference : Text 1 240

def AssetIn.json (payload : AssetIn) : Json :=
  .obj [("asset_code", .str payload.assetCode.value),
    ("equipment_code", .str payload.equipmentCode.value), ("name", .str payload.name.value),
    ("parent_asset_code", jsonText (payload.parentAssetCode.map (·.value))),
    ("criticality", .str payload.criticality.text)]

def MaintenanceCodeIn.json (payload : MaintenanceCodeIn) : Json :=
  .obj [("code", .str payload.code.value), ("code_type", .str payload.codeType.text),
    ("description", .str payload.description.value)]

def ChecklistItemIn.json (item : ChecklistItemIn) : Json :=
  .obj [("sequence", .int item.sequence), ("instruction", .str item.instruction.value),
    ("required", .bool item.required)]

def ChecklistIn.json (payload : ChecklistIn) : Json :=
  .obj [("checklist_code", .str payload.checklistCode.value), ("revision", .int payload.revision),
    ("name", .str payload.name.value), ("items", .arr (payload.items.map (·.json)))]

def MaintenanceActionIn.json (payload : MaintenanceActionIn) : Json :=
  .obj [("evidence_reference", .str payload.evidenceReference.value)]

def MaintenanceRequestIn.json (payload : MaintenanceRequestIn) : Json :=
  .obj [("request_code", .str payload.requestCode.value),
    ("asset_code", .str payload.assetCode.value), ("source_type", .str payload.sourceType.text),
    ("source_reference", .str payload.sourceReference.value),
    ("description", .str payload.description.value), ("priority", .str payload.priority.text),
    ("observed_at", .time payload.observedAt)]

def MaintenanceOrderIn.json (payload : MaintenanceOrderIn) : Json :=
  .obj [("order_code", .str payload.orderCode.value),
    ("request_code", .str payload.requestCode.value), ("asset_code", .str payload.assetCode.value),
    ("order_type", .str payload.orderType.text), ("priority", .str payload.priority.text),
    ("assigned_personnel_code", .str payload.assignedPersonnelCode.value),
    ("checklist_code", .str payload.checklistCode.value),
    ("checklist_revision", .int payload.checklistRevision),
    ("operation_task_id", jsonNat payload.operationTaskId),
    ("operation_downtime_id", jsonNat payload.operationDowntimeId),
    ("production_impact", .str payload.productionImpact.text),
    ("planned_start_at", .time payload.plannedStartAt),
    ("planned_end_at", .time payload.plannedEndAt)]

def ChecklistResultIn.json (payload : ChecklistResultIn) : Json :=
  .obj [("item_sequence", .int payload.itemSequence), ("result", .str payload.result.text),
    ("evidence_reference", .str payload.evidenceReference.value)]

def WorkCompleteIn.json (payload : WorkCompleteIn) : Json :=
  .obj [("failure_code", .str payload.failureCode.value),
    ("cause_code", .str payload.causeCode.value), ("remedy_code", .str payload.remedyCode.value),
    ("work_evidence_reference", .str payload.workEvidenceReference.value)]

def MaintenanceVerifyIn.json (payload : MaintenanceVerifyIn) : Json :=
  .obj [("verification_reference", .str payload.verificationReference.value),
    ("verification_result", .str payload.verificationResult.text)]

def ToolIn.json (payload : ToolIn) : Json :=
  .obj [("tool_code", .str payload.toolCode.value), ("asset_code", .str payload.assetCode.value),
    ("name", .str payload.name.value), ("tool_type", .str payload.toolType.value),
    ("life_limit", .float payload.lifeLimit), ("life_used", .float payload.lifeUsed),
    ("life_uom", .str payload.lifeUom.value),
    ("calibration_required", .bool payload.calibrationRequired),
    ("calibration_due_at", jsonTime payload.calibrationDueAt)]

def ToolAssignmentIn.json (payload : ToolAssignmentIn) : Json :=
  .obj [("operation_task_id", .int payload.operationTaskId),
    ("evidence_reference", .str payload.evidenceReference.value)]

def ToolLifeEventIn.json (payload : ToolLifeEventIn) : Json :=
  .obj [("event_id", .str payload.eventId.value), ("usage_delta", .float payload.usageDelta),
    ("operation_task_id", jsonNat payload.operationTaskId),
    ("occurred_at", .time payload.occurredAt),
    ("evidence_reference", .str payload.evidenceReference.value)]

def CalibrationIn.json (payload : CalibrationIn) : Json :=
  .obj [("calibration_code", .str payload.calibrationCode.value),
    ("result", .str payload.result.text), ("valid_from", .time payload.validFrom),
    ("valid_to", .time payload.validTo),
    ("performed_by_personnel_code", .str payload.performedByPersonnelCode.value),
    ("evidence_reference", .str payload.evidenceReference.value)]

def PreventivePlanIn.json (payload : PreventivePlanIn) : Json :=
  .obj [("plan_code", .str payload.planCode.value), ("asset_code", .str payload.assetCode.value),
    ("checklist_code", .str payload.checklistCode.value),
    ("checklist_revision", .int payload.checklistRevision),
    ("interval_hours", .int payload.intervalHours), ("next_due_at", .time payload.nextDueAt),
    ("production_impact", .str payload.productionImpact.text)]

def PreventiveGenerateIn.json (payload : PreventiveGenerateIn) : Json :=
  .obj [("request_code", .str payload.requestCode.value),
    ("order_code", .str payload.orderCode.value),
    ("assigned_personnel_code", .str payload.assignedPersonnelCode.value),
    ("planned_start_at", .time payload.plannedStartAt),
    ("planned_end_at", .time payload.plannedEndAt)]

def SpareUseIn.json (payload : SpareUseIn) : Json :=
  .obj [("usage_id", .str payload.usageId.value), ("movement_id", .str payload.movementId.value),
    ("evidence_reference", .str payload.evidenceReference.value)]

end MiniOgas
