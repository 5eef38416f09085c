import MiniOgas.TableKey
import MiniOgas.ExecutionTables
import MiniOgas.MaintenanceTables

namespace MiniOgas

structure ProductionOrderIn where
  productionOrderCode : Code
  productCode : Code
  quantity : Quantity
  priority : Int
  dueAt : Timestamp
  quantity_pos : 0 < quantity
  priority_bounds : 1 ≤ priority ∧ priority ≤ 10

structure ExecutionActionIn where
  idempotencyKey : Text 1 128
  reason : Text 0 1024

/-- `HoldActionIn`: an action whose reason is required. -/
structure HoldActionIn where
  idempotencyKey : Text 1 128
  reason : Text 1 1024

structure SetupCompleteIn where
  idempotencyKey : Text 1 128
  evidenceReference : Text 1 240
  parameters : List (String × Json)

structure CompleteTaskIn where
  idempotencyKey : Text 1 128
  evidenceReference : Text 0 240

structure QuantityReportIn where
  reportId : Code
  goodQuantity : Quantity
  scrapQuantity : Quantity
  reworkQuantity : Quantity
  evidenceReference : Text 1 240
  occurredAt : Timestamp
  good_nonneg : 0 ≤ goodQuantity
  scrap_nonneg : 0 ≤ scrapQuantity
  rework_nonneg : 0 ≤ reworkQuantity
  accounts_pos : 0 < goodQuantity + scrapQuantity + reworkQuantity

structure DowntimeStartIn where
  downtimeCode : Code
  idempotencyKey : Text 1 128
  reason : Text 1 1024
  evidenceReference : Text 1 240

structure DowntimeEndIn where
  idempotencyKey : Text 1 128
  evidenceReference : Text 1 240

/-- `payload.model_dump(mode="json")`, here and below. -/
def ProductionOrderIn.json (payload : ProductionOrderIn) : Json :=
  .obj [("production_order_code", .str payload.productionOrderCode.value),
    ("product_code", .str payload.productCode.value), ("quantity", .float payload.quantity),
    ("priority", .int payload.priority), ("due_at", .time payload.dueAt)]

def ExecutionActionIn.json (payload : ExecutionActionIn) : Json :=
  .obj [("idempotency_key", .str payload.idempotencyKey.value),
    ("reason", .str payload.reason.value)]

def HoldActionIn.json (payload : HoldActionIn) : Json :=
  .obj [("idempotency_key", .str payload.idempotencyKey.value),
    ("reason", .str payload.reason.value)]

def SetupCompleteIn.json (payload : SetupCompleteIn) : Json :=
  .obj [("idempotency_key", .str payload.idempotencyKey.value),
    ("evidence_reference", .str payload.evidenceReference.value),
    ("parameters", .obj payload.parameters)]

def CompleteTaskIn.json (payload : CompleteTaskIn) : Json :=
  .obj [("idempotency_key", .str payload.idempotencyKey.value),
    ("evidence_reference", .str payload.evidenceReference.value)]

def DowntimeStartIn.json (payload : DowntimeStartIn) : Json :=
  .obj [("downtime_code", .str payload.downtimeCode.value),
    ("idempotency_key", .str payload.idempotencyKey.value),
    ("reason", .str payload.reason.value),
    ("evidence_reference", .str payload.evidenceReference.value)]

def DowntimeEndIn.json (payload : DowntimeEndIn) : Json :=
  .obj [("idempotency_key", .str payload.idempotencyKey.value),
    ("evidence_reference", .str payload.evidenceReference.value)]

open Relational Serial

/-- What a call finds outside the execution tables: the clock, the master data
and the maintenance tables, and which audit logs `build_audit_envelope` and the
outbox accept. -/
structure ExecutionEnv where
  now : Timestamp
  master : MasterData
  maintenance : MaintenanceTables
  auditAccepted : AuditLog → Bool

def executionError (statusCode : Nat) (code message : String)
    (context : List (String × Json) := []) : Fault :=
  .execution ⟨statusCode, code, message, context⟩

/-- `_audit`: the log is written and its envelope enqueued, or the call fails. -/
def audit (env : ExecutionEnv) (auditLogs : Table AuditLog)
    (actor action resourceType resourceId : String) (detail : Json) :
    Except Fault (Table AuditLog) := do
  let log : AuditLog := ⟨"execution", actor, action, resourceType, resourceId,
    canonicalJson detail, env.now⟩
  check (env.auditAccepted log = true)
    (.runtime "failed to enqueue the execution audit envelope")
  return auditLogs.insert log

structure ActionKey where
  resourceType : String
  resourceId : String
  action : String
  idempotencyKey : String
deriving DecidableEq

def IdempotencyRecord.matchesKey (record : IdempotencyRecord) (key : ActionKey) : Bool :=
  record.resourceType = key.resourceType && record.resourceId = key.resourceId &&
    record.action = key.action && record.idempotencyKey = key.idempotencyKey

theorem matchesKey_iff {record : IdempotencyRecord} {key : ActionKey} :
    record.matchesKey key = true ↔
      (⟨record.resourceType, record.resourceId, record.action, record.idempotencyKey⟩ : ActionKey) =
        key := by
  obtain ⟨type, id, action, text⟩ := key
  simp [IdempotencyRecord.matchesKey, and_assoc]

def idempotentGet (idempotency : Table IdempotencyRecord) (key : ActionKey) (request : Json) :
    Except Fault (Option Json) :=
  match idempotency.first? (·.matchesKey key) with
  | none => .ok none
  | some (_, record) => do
    check (record.requestHash = requestHash request)
      (executionError 409 "IDEMPOTENCY_KEY_REUSED"
        "the idempotency key was already used with a different request"
        [("resource_type", .str key.resourceType), ("resource_id", .str key.resourceId),
          ("action", .str key.action)])
    return some record.response

def idempotentStore (idempotency : Table IdempotencyRecord) (key : ActionKey) (request : Json)
    (response : Json) : Except Fault (Table IdempotencyRecord) := do
  check (idempotency.any (·.matchesKey key) = false)
    (.database "duplicate key value violates unique constraint on execution_idempotency")
  return idempotency.insert ⟨key.resourceType, key.resourceId, key.action, key.idempotencyKey,
    requestHash request, response⟩

structure Outcome where
  response : Json
  facts : ExecutionFacts
  auditAction : String
  auditResourceType : String
  auditResourceId : String
  auditDetail : Json

def audited (env : ExecutionEnv) (db : ExecutionTables) (actor : String)
    (body : ExecutionFacts → Except Fault Outcome) : Except Fault (Json × ExecutionTables) := do
  let outcome ← body db.facts
  let auditLogs ← audit env db.auditLogs actor outcome.auditAction outcome.auditResourceType
    outcome.auditResourceId outcome.auditDetail
  return (outcome.response, { db with facts := outcome.facts, auditLogs })

def idempotent (env : ExecutionEnv) (db : ExecutionTables) (key : ActionKey) (request : Json)
    (actor : String) (body : ExecutionFacts → Except Fault Outcome) :
    Except Fault (Json × ExecutionTables) := do
  match ← idempotentGet db.idempotency key request with
  | some replay => return (replay, db)
  | none =>
    let (response, db) ← audited env db actor body
    let idempotency ← idempotentStore db.idempotency key request response
    return (response, { db with idempotency })

variable {db db' : ExecutionTables} {body : ExecutionFacts → Except Fault Outcome}

theorem audited_facts {env : ExecutionEnv} {actor : String} {response : Json}
    (h : audited env db actor body = .ok (response, db')) :
    ∃ outcome, body db.facts = .ok outcome ∧ outcome.facts = db'.facts := by
  obtain ⟨outcome, hbody, h⟩ := of_bind h
  obtain ⟨auditLogs, -, h⟩ := of_bind h
  cases h
  exact ⟨outcome, hbody, rfl⟩

theorem idempotent_facts {env : ExecutionEnv} {key : ActionKey} {request : Json} {actor : String}
    {response : Json} (h : idempotent env db key request actor body = .ok (response, db')) :
    db' = db ∨ ∃ outcome, body db.facts = .ok outcome ∧ outcome.facts = db'.facts := by
  obtain ⟨replay, -, h⟩ := of_bind h
  cases replay with
  | some replay =>
    cases h
    exact .inl rfl
  | none =>
    obtain ⟨⟨response, audited⟩, haudited, h⟩ := of_bind h
    obtain ⟨idempotency, -, h⟩ := of_bind h
    cases h
    have := audited_facts haudited
    exact .inr this

def requireTask (facts : ExecutionFacts) (taskId : Nat) : Except Fault OperationTask :=
  orFault (facts.tasks.find? taskId)
    (executionError 404 "OPERATION_TASK_NOT_FOUND" "operation task was not found")

def requireTransition (taskId : Nat) (task : OperationTask) (allowed : List TaskStatus)
    (action : String) : Except Fault Unit :=
  check (task.status ∈ allowed)
    (executionError 409 "INVALID_OPERATION_TRANSITION"
      s!"operation task cannot {action} from status {task.status.text}"
      [("task_id", .int taskId), ("current_status", .str task.status.text),
        ("allowed_statuses",
          .arr (((allowed.map TaskStatus.text).insertionSort (· ≤ ·)).map Json.str))])

def blockingPredecessor (facts : ExecutionFacts) (task : OperationTask) :
    Option (Nat × OperationTask) :=
  ((facts.tasks.select fun other => other.isOf task.workOrderExecutionId &&
    decide (other.sequence < task.sequence) && !other.status.done).insertionSort
      fun x y => x.2.sequence ≤ y.2.sequence).head?

def validatePredecessors (facts : ExecutionFacts) (task : OperationTask) : Except Fault Unit :=
  match blockingPredecessor facts task with
  | none => .ok ()
  | some (id, blocked) => .error (executionError 409 "PREDECESSOR_OPERATION_INCOMPLETE"
      "the preceding routing operation must complete before setup starts"
      [("predecessor_task_id", .int id), ("predecessor_sequence", .int blocked.sequence),
        ("predecessor_status", .str blocked.status.text)])

/-- The equipment of `operation_task_assignments` for a task. -/
def assignedEquipment (facts : ExecutionFacts) (taskId : Nat) : List Nat :=
  (facts.assignments.select (·.operationTaskId = taskId)).map (·.2.equipmentId)

def maintenanceBlockers (env : ExecutionEnv) (facts : ExecutionFacts) (taskId : Nat) :
    List (Nat × MaintenanceOrder) :=
  (assignedEquipment facts taskId).flatMap env.maintenance.blockers

def requireMaintenanceReadiness (env : ExecutionEnv) (facts : ExecutionFacts) (taskId : Nat) :
    Except Fault Unit :=
  match ((maintenanceBlockers env facts taskId).insertionSort fun x y => x.1 ≤ y.1).head? with
  | some (_, order) => .error (executionError 409 "ACTIVE_MAINTENANCE_BLOCKS_TASK"
      "equipment-unavailable maintenance must be independently verified before task execution"
      [("task_id", .int taskId), ("maintenance_order_code", .str order.orderCode)])
  | none =>
    match (env.maintenance.assignedTools taskId (·.overLife)).head? with
    | some (_, tool) => .error (executionError 409 "TOOL_LIFE_EXCEEDED"
        "assigned tool has reached or exceeded its governed life limit"
        [("task_id", .int taskId), ("tool_code", .str tool.toolCode)])
    | none =>
      match (env.maintenance.assignedTools taskId (·.calibrationBlocks env.now)).head? with
      | some (_, tool) => .error (executionError 409 "TOOL_CALIBRATION_INVALID"
          "assigned tool has failed or expired calibration evidence"
          [("task_id", .int taskId), ("tool_code", .str tool.toolCode)])
      | none => .ok ()

/-- The edges that `trg_operation_task_invariant_guard` allows. -/
def TaskStatus.allows : TaskStatus → TaskStatus → Bool
  | .dispatched, new => new = .setup || new = .held
  | .setup, new => new = .ready || new = .held
  | .ready, new => new = .running || new = .held
  | .running, new => new = .paused || new = .held || new = .completed
  | .paused, new => new = .running || new = .held
  | .held, new =>
    new = .dispatched || new = .setup || new = .ready || new = .running || new = .paused
  | .completed, new => new = .closed
  | .closed, _ => false

/-- `LENGTH(TRIM(COALESCE(text, '')))>0`. -/
def hasText (text : Option String) : Bool := trim (text.getD "") ≠ ""

/-- `trg_operation_task_invariant_guard`. -/
def guardOperationTransition (facts : ExecutionFacts) (taskId : Nat) (old new : OperationTask) :
    Except Fault Unit := do
  check (old.status = new.status ∨ old.status.allows new.status = true)
    (.database "invalid operation task state transition")
  check (new.status = .setup → facts.tasks.any (fun other => other.isOf new.workOrderExecutionId &&
      decide (other.sequence < new.sequence) && !other.status.done) = false)
    (.database "predecessor operation is incomplete")
  check (new.status = .ready → facts.setups.any (fun setup => setup.isOf taskId &&
      decide (setup.status = .completed) && hasText setup.evidenceReference) = true)
    (.database "completed setup evidence is required")
  check (new.status = .completed → hasText new.completionEvidenceReference = true ∧
      sameQuantity (facts.accounted taskId) new.plannedQuantity = true)
    (.database "completion evidence and exact quantity are required")

/-- `trg_operation_task_maintenance_guard`. -/
def guardOperationTaskMaintenance (env : ExecutionEnv) (facts : ExecutionFacts) (taskId : Nat)
    (old new : OperationTask) : Except Fault Unit := do
  let starts := new.status = .running ∧ old.status ≠ .running
  check (starts → maintenanceBlockers env facts taskId = [])
    (.database "active maintenance blocks task")
  check (starts → env.maintenance.assignedTools taskId (·.overLife) = [])
    (.database "tool life exceeded")
  check (starts → env.maintenance.assignedTools taskId (·.calibrationBlocks env.now) = [])
    (.database "tool calibration invalid")

/-- `_record_history`; a reused idempotency key of the task raises as it is. -/
def recordHistory (facts : ExecutionFacts) (row : TaskHistory) : Except Fault ExecutionFacts := do
  check (facts.history.any (fun other => other.operationTaskId = row.operationTaskId &&
      other.idempotencyKey = row.idempotencyKey) = false)
    (.database "duplicate key value violates unique constraint on operation_status_history")
  return { facts with history := facts.history.insert row }

/-- The keyword arguments of `_change_task_status`. -/
structure StatusChange where
  reason : String := ""
  evidenceReference : String := ""
  setStarted : Bool := false
  setCompleted : Bool := false
  setClosed : Bool := false
  holdReturnStatus : Option TaskStatus := none
  clearHoldReturn : Bool := false

def StatusChange.apply (change : StatusChange) (now : Timestamp) (toStatus : TaskStatus)
    (task : OperationTask) : OperationTask :=
  { task with
    status := toStatus
    startedAt := if change.setStarted then some (task.startedAt.getD now) else task.startedAt
    completedAt := if change.setCompleted then some now else task.completedAt
    completionEvidenceReference :=
      if change.setCompleted then some change.evidenceReference
      else task.completionEvidenceReference
    closedAt := if change.setClosed then some now else task.closedAt
    holdReturnStatus :=
      if change.clearHoldReturn then none
      else change.holdReturnStatus <|> task.holdReturnStatus }

/-- `_change_task_status`, on the row that the operation read. -/
def changeTaskStatus (env : ExecutionEnv) (facts : ExecutionFacts) (taskId : Nat)
    (task : OperationTask) (toStatus : TaskStatus) (action actor : String)
    (idempotencyKey : Text 1 128) (change : StatusChange) : Except Fault ExecutionFacts := do
  let old ← orFault ((facts.tasks.find? taskId).filter (·.status = task.status))
    (executionError 409 "OPERATION_TRANSITION_CONFLICT"
      "operation task changed while the transition was being applied" [("task_id", .int taskId)])
  let new := change.apply env.now toStatus old
  guardOperationTransition facts taskId old new
  guardOperationTaskMaintenance env facts taskId old new
  recordHistory { facts with tasks := facts.tasks.set taskId new }
    ⟨taskId, some task.status, toStatus, action, change.reason, change.evidenceReference, actor,
      env.now, idempotencyKey.value⟩

def quantitiesJson (facts : ExecutionFacts) (taskId : Nat) : Json :=
  let total := fun quantity => facts.reports.sum (·.isOf taskId) quantity
  .obj [("good_quantity", .float (total (·.goodQuantity))),
    ("scrap_quantity", .float (total (·.scrapQuantity))),
    ("rework_quantity", .float (total (·.reworkQuantity))),
    ("accounted_quantity", .float (total (·.goodQuantity) + total (·.scrapQuantity) +
      total (·.reworkQuantity)))]

def formatTask (env : ExecutionEnv) (facts : ExecutionFacts) (taskId : Nat) :
    Except Fault Json := do
  let task ← requireTask facts taskId
  let assignment := (facts.assignments.first? (·.operationTaskId = taskId)).map (·.2)
  let equipment := assignment.bind fun a => env.master.equipment.find? a.equipmentId
  let personnel := assignment.bind fun a => env.master.personnel.find? a.personnelId
  return .obj [("id", .int taskId), ("work_order_execution_id", .int task.workOrderExecutionId),
    ("work_order_id", .int task.workOrderId),
    ("routing_revision_id", .int task.routingRevisionId), ("sequence", .int task.sequence),
    ("operation_code", .str task.operationCode), ("name", .str task.name),
    ("planned_quantity", .float task.plannedQuantity), ("status", .str task.status.text),
    ("hold_return_status", jsonText (task.holdReturnStatus.map TaskStatus.text)),
    ("completion_evidence_reference", jsonText task.completionEvidenceReference),
    ("started_at", jsonTime task.startedAt), ("completed_at", jsonTime task.completedAt),
    ("closed_at", jsonTime task.closedAt), ("created_at", .time task.createdAt),
    ("equipment_code", jsonText (equipment.map (·.equipmentCode))),
    ("personnel_code", jsonText (personnel.map (·.personnelCode))),
    ("quantities", quantitiesJson facts taskId)]

end MiniOgas
