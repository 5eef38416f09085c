import MiniOgas.TableQuery
import MiniOgas.Payload

namespace MiniOgas

section MasterData

open Relational

structure Product where
  productCode : String

inductive WorkOrderStatus where
  | draft
  | released
  | cancelled
deriving DecidableEq

def WorkOrderStatus.text : WorkOrderStatus → String
  | .draft => "draft"
  | .released => "released"
  | .cancelled => "cancelled"

/-- An entry of `work_orders.operation_assignments_json`. -/
structure OperationAssignment where
  sequence : Int
  equipmentCode : String
  personnelCode : String

structure WorkOrder where
  workOrderCode : String
  productId : Nat
  quantity : Quantity
  routingRevisionId : Nat
  operationAssignments : List OperationAssignment
  status : WorkOrderStatus

/-- An entry of `operations` in `routing_revisions.content_json`. -/
structure RoutingOperation where
  sequence : Int
  operationCode : String
  name : String

structure RoutingRevision where
  operations : List RoutingOperation

structure Equipment where
  equipmentCode : String

structure Personnel where
  personnelCode : String
  active : Bool

structure MasterData where
  products : Table Product
  workOrders : Table WorkOrder
  routingRevisions : Table RoutingRevision
  equipment : Table Equipment
  personnel : Table Personnel

end MasterData

open Relational

inductive ProductionOrderStatus where
  | draft
  | released
  | inProgress
  | completed
  | closed
  | cancelled
deriving DecidableEq

def ProductionOrderStatus.text : ProductionOrderStatus → String
  | .draft => "draft"
  | .released => "released"
  | .inProgress => "in_progress"
  | .completed => "completed"
  | .closed => "closed"
  | .cancelled => "cancelled"

structure ProductionOrder where
  productionOrderCode : String
  productId : Nat
  quantity : Quantity
  priority : Int
  dueAt : Timestamp
  status : ProductionOrderStatus
  createdBy : String
  releasedBy : Option String
  releasedAt : Option Timestamp
  completedAt : Option Timestamp
  closedBy : Option String
  closedAt : Option Timestamp
  createdAt : Timestamp

structure ProductionOrderLink where
  productionOrderId : Nat
  workOrderId : Nat
  attachedBy : String
  attachedAt : Timestamp

inductive ExecutionStatus where
  | released
  | dispatched
  | inProgress
  | completed
  | closed
deriving DecidableEq

def ExecutionStatus.text : ExecutionStatus → String
  | .released => "released"
  | .dispatched => "dispatched"
  | .inProgress => "in_progress"
  | .completed => "completed"
  | .closed => "closed"

/-- `status IN ('completed','closed')`. -/
def ExecutionStatus.done (status : ExecutionStatus) : Bool :=
  status = .completed || status = .closed

structure WorkOrderExecution where
  productionOrderId : Nat
  workOrderId : Nat
  status : ExecutionStatus
  dispatchedBy : String
  dispatchedAt : Timestamp
  completedAt : Option Timestamp
  closedBy : Option String
  closedAt : Option Timestamp
  createdAt : Timestamp

inductive TaskStatus where
  | dispatched
  | setup
  | ready
  | running
  | paused
  | held
  | completed
  | closed
deriving DecidableEq

def TaskStatus.text : TaskStatus → String
  | .dispatched => "dispatched"
  | .setup => "setup"
  | .ready => "ready"
  | .running => "running"
  | .paused => "paused"
  | .held => "held"
  | .completed => "completed"
  | .closed => "closed"

def TaskStatus.done (status : TaskStatus) : Bool :=
  status = .completed || status = .closed

structure OperationTask where
  workOrderExecutionId : Nat
  workOrderId : Nat
  routingRevisionId : Nat
  sequence : Int
  operationCode : String
  name : String
  plannedQuantity : Quantity
  status : TaskStatus
  holdReturnStatus : Option TaskStatus
  completionEvidenceReference : Option String
  startedAt : Option Timestamp
  completedAt : Option Timestamp
  closedAt : Option Timestamp
  createdAt : Timestamp

structure TaskAssignment where
  operationTaskId : Nat
  equipmentId : Nat
  personnelId : Nat
  assignedBy : String
  assignedAt : Timestamp

inductive SetupStatus where
  | inProgress
  | completed
deriving DecidableEq

structure OperationSetup where
  operationTaskId : Nat
  status : SetupStatus
  parametersJson : List JsonToken
  evidenceReference : Option String
  startedBy : String
  startedAt : Timestamp
  completedBy : Option String
  completedAt : Option Timestamp

structure QuantityReport where
  operationTaskId : Nat
  reportId : String
  goodQuantity : Quantity
  scrapQuantity : Quantity
  reworkQuantity : Quantity
  evidenceReference : String
  occurredAt : Timestamp
  reportedBy : String
  createdAt : Timestamp

def QuantityReport.accounted (report : QuantityReport) : Quantity :=
  report.goodQuantity + report.scrapQuantity + report.reworkQuantity

inductive DowntimeStatus where
  | open
  | closed
deriving DecidableEq

def DowntimeStatus.text : DowntimeStatus → String
  | .open => "open"
  | .closed => "closed"

structure OperationDowntime where
  operationTaskId : Nat
  downtimeCode : String
  status : DowntimeStatus
  reason : String
  startEvidenceReference : String
  endEvidenceReference : Option String
  startedBy : String
  startedAt : Timestamp
  endedBy : Option String
  endedAt : Option Timestamp

inductive HoldStatus where
  | open
  | released
deriving DecidableEq

structure OperationHold where
  operationTaskId : Nat
  priorStatus : TaskStatus
  status : HoldStatus
  reason : String
  heldBy : String
  heldAt : Timestamp
  releasedBy : Option String
  releasedAt : Option Timestamp
  releaseReason : Option String

structure TaskHistory where
  operationTaskId : Nat
  fromStatus : Option TaskStatus
  toStatus : TaskStatus
  action : String
  reason : String
  evidenceReference : String
  actor : String
  occurredAt : Timestamp
  idempotencyKey : String

structure IdempotencyRecord where
  resourceType : String
  resourceId : String
  action : String
  idempotencyKey : String
  requestHash : List JsonToken
  response : Json

structure AuditLog where
  runId : String
  actor : String
  action : String
  resourceType : String
  resourceId : String
  detail : List JsonToken
  createdAt : Timestamp

structure ExecutionFacts where
  productionOrders : Table ProductionOrder
  links : Table ProductionOrderLink
  executions : Table WorkOrderExecution
  tasks : Table OperationTask
  assignments : Table TaskAssignment
  setups : Table OperationSetup
  reports : Table QuantityReport
  downtimes : Table OperationDowntime
  holds : Table OperationHold
  history : Table TaskHistory

def ExecutionFacts.empty : ExecutionFacts where
  productionOrders := .empty
  links := .empty
  executions := .empty
  tasks := .empty
  assignments := .empty
  setups := .empty
  reports := .empty
  downtimes := .empty
  holds := .empty
  history := .empty

structure ExecutionTables where
  facts : ExecutionFacts
  idempotency : Table IdempotencyRecord
  auditLogs : Table AuditLog

def ExecutionTables.empty : ExecutionTables where
  facts := .empty
  idempotency := .empty
  auditLogs := .empty

def OperationTask.isOf (task : OperationTask) (executionId : Nat) : Bool :=
  task.workOrderExecutionId = executionId

def OperationSetup.isOf (setup : OperationSetup) (taskId : Nat) : Bool :=
  setup.operationTaskId = taskId

def QuantityReport.isOf (report : QuantityReport) (taskId : Nat) : Bool :=
  report.operationTaskId = taskId

def OperationDowntime.isOpenOf (downtime : OperationDowntime) (taskId : Nat) : Bool :=
  downtime.operationTaskId = taskId && downtime.status = .open

def OperationHold.isOpenOf (hold : OperationHold) (taskId : Nat) : Bool :=
  hold.operationTaskId = taskId && hold.status = .open

/-- `SUM(good_quantity + scrap_quantity + rework_quantity)` of a task. -/
def ExecutionFacts.accounted (facts : ExecutionFacts) (taskId : Nat) : Quantity :=
  facts.reports.sum (·.isOf taskId) QuantityReport.accounted

end MiniOgas
