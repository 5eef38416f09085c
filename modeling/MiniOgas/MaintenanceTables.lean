import MiniOgas.TableQuery
import MiniOgas.Payload

namespace MiniOgas

open Relational

inductive AssetStatus where
  | active
  | degraded
  | outOfService
  | retired
deriving DecidableEq

inductive Criticality where
  | low
  | medium
  | high
  | critical

structure MaintenanceAsset where
  assetCode : String
  equipmentId : Nat
  parentAssetId : Option Nat
  name : String
  criticality : Criticality
  status : AssetStatus
  createdBy : String
  createdAt : Timestamp

inductive MaintenanceCodeType where
  | failure
  | cause
  | remedy
deriving DecidableEq

structure MaintenanceCode where
  code : String
  codeType : MaintenanceCodeType
  description : String
  active : Bool
  createdBy : String
  createdAt : Timestamp

inductive ChecklistStatus where
  | draft
  | approved
  | effective
  | superseded
  | retired
deriving DecidableEq

structure MaintenanceChecklist where
  checklistCode : String
  revision : Int
  name : String
  status : ChecklistStatus
  createdBy : String
  approvedBy : Option String
  approvalEvidenceReference : Option String
  approvedAt : Option Timestamp
  effectiveBy : Option String
  effectivityEvidenceReference : Option String
  effectiveAt : Option Timestamp
  createdAt : Timestamp

structure ChecklistItem where
  checklistId : Nat
  sequence : Int
  instruction : String
  required : Bool
  createdBy : String
  createdAt : Timestamp
deriving DecidableEq

inductive ProductionImpact where
  | none
  | reducedCapacity
  | equipmentUnavailable
deriving DecidableEq

inductive PlanStatus where
  | draft
  | effective
  | retired
deriving DecidableEq

structure PreventivePlan where
  planCode : String
  assetId : Nat
  checklistId : Nat
  intervalHours : Nat
  nextDueAt : Timestamp
  productionImpact : ProductionImpact
  status : PlanStatus
  createdBy : String
  createdAt : Timestamp
  effectiveBy : Option String
  effectivityEvidenceReference : Option String
  effectiveAt : Option Timestamp
  lastGeneratedAt : Option Timestamp

inductive RequestSource where
  | alarm
  | manual
  | inspection
  | preventive

inductive RequestStatus where
  | «open»
  | converted
  | cancelled
deriving DecidableEq

structure MaintenanceRequest where
  requestCode : String
  assetId : Nat
  sourceType : RequestSource
  sourceReference : String
  description : String
  priority : Criticality
  observedAt : Timestamp
  status : RequestStatus
  requestedBy : String
  createdAt : Timestamp
  convertedAt : Option Timestamp

inductive MaintenanceOrderType where
  | corrective
  | preventive
  | calibration
  | tooling

inductive MaintenanceOrderStatus where
  | draft
  | approved
  | inProgress
  | workCompleted
  | verified
  | closed
  | cancelled
deriving DecidableEq

inductive VerificationResult where
  | restored
  | degraded
  | notRestored

structure MaintenanceOrder where
  orderCode : String
  requestId : Nat
  assetId : Nat
  orderType : MaintenanceOrderType
  priority : Criticality
  assignedPersonnelId : Nat
  checklistId : Nat
  operationTaskId : Option Nat
  operationDowntimeId : Option Nat
  productionImpact : ProductionImpact
  plannedStartAt : Timestamp
  plannedEndAt : Timestamp
  status : MaintenanceOrderStatus
  createdBy : String
  createdAt : Timestamp
  approvedBy : Option String
  approvalEvidenceReference : Option String
  approvedAt : Option Timestamp
  startedBy : Option String
  startEvidenceReference : Option String
  startedAt : Option Timestamp
  failureCodeId : Option Nat
  causeCodeId : Option Nat
  remedyCodeId : Option Nat
  workEvidenceReference : Option String
  completedBy : Option String
  workCompletedAt : Option Timestamp
  verificationResult : Option VerificationResult
  verificationReference : Option String
  verifiedBy : Option String
  verifiedAt : Option Timestamp

inductive CheckResult where
  | pass
  | fail
  | notApplicable
deriving DecidableEq

structure ChecklistResult where
  maintenanceOrderId : Nat
  checklistItemId : Nat
  result : CheckResult
  evidenceReference : String
  recordedBy : String
  recordedAt : Timestamp

structure SpareUsage where
  usageId : String
  maintenanceOrderId : Nat
  inventoryMovementId : Nat
  evidenceReference : String
  recordedBy : String
  recordedAt : Timestamp

inductive ToolStatus where
  | active
  | overLife
  | calibrationInvalid
  | retired
deriving DecidableEq

structure MaintenanceTool where
  toolCode : String
  assetId : Nat
  name : String
  toolType : String
  lifeLimit : Quantity
  lifeUsed : Quantity
  lifeUom : String
  calibrationRequired : Bool
  calibrationDueAt : Option Timestamp
  status : ToolStatus
  createdBy : String
  createdAt : Timestamp

structure ToolAssignment where
  toolId : Nat
  operationTaskId : Nat
  evidenceReference : String
  assignedBy : String
  assignedAt : Timestamp

structure ToolLifeEvent where
  eventId : String
  toolId : Nat
  usageDelta : Quantity
  operationTaskId : Option Nat
  occurredAt : Timestamp
  evidenceReference : String
  recordedBy : String

inductive CalibrationResult where
  | pass
  | fail
deriving DecidableEq

structure CalibrationEvent where
  calibrationCode : String
  toolId : Nat
  result : CalibrationResult
  validFrom : Timestamp
  validTo : Timestamp
  performedByPersonnelId : Nat
  evidenceReference : String
  recordedBy : String

structure MaintenanceHistory where
  resourceType : String
  resourceId : String
  fromStatus : Option String
  toStatus : String
  action : String
  evidenceReference : String
  actor : String
  occurredAt : Timestamp

structure MaintenanceTables where
  assets : Table MaintenanceAsset
  codes : Table MaintenanceCode
  checklists : Table MaintenanceChecklist
  checklistItems : Table ChecklistItem
  plans : Table PreventivePlan
  requests : Table MaintenanceRequest
  orders : Table MaintenanceOrder
  checkResults : Table ChecklistResult
  spareUsages : Table SpareUsage
  tools : Table MaintenanceTool
  toolAssignments : Table ToolAssignment
  toolLifeEvents : Table ToolLifeEvent
  calibrationEvents : Table CalibrationEvent
  statusHistory : Table MaintenanceHistory

def MaintenanceTables.empty : MaintenanceTables where
  assets := .empty
  codes := .empty
  checklists := .empty
  checklistItems := .empty
  plans := .empty
  requests := .empty
  orders := .empty
  checkResults := .empty
  spareUsages := .empty
  tools := .empty
  toolAssignments := .empty
  toolLifeEvents := .empty
  calibrationEvents := .empty
  statusHistory := .empty

def MaintenanceOrder.makesUnavailable (order : MaintenanceOrder) : Bool :=
  (order.status = .inProgress || order.status = .workCompleted) &&
    order.productionImpact = .equipmentUnavailable

def MaintenanceTables.blockers (maintenance : MaintenanceTables) (equipmentId : Nat) :
    List (Nat × MaintenanceOrder) :=
  maintenance.orders.select fun order =>
    order.makesUnavailable && maintenance.assets.entries.any fun asset =>
      asset.1 = order.assetId && asset.2.equipmentId = equipmentId

def MaintenanceTables.assignedTools (maintenance : MaintenanceTables) (taskId : Nat)
    (condition : MaintenanceTool → Bool) : List (Nat × MaintenanceTool) :=
  maintenance.tools.entries.filter fun tool =>
    condition tool.2 && maintenance.toolAssignments.any fun assignment =>
      assignment.toolId = tool.1 && assignment.operationTaskId = taskId

def MaintenanceTool.overLife (tool : MaintenanceTool) : Bool := tool.status = .overLife

def MaintenanceTool.calibrationBlocks (tool : MaintenanceTool) (now : Timestamp) : Bool :=
  tool.status = .calibrationInvalid ||
    (tool.calibrationRequired && tool.calibrationDueAt.any fun due => decide (due ≤ now))

end MiniOgas
