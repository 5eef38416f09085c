import MiniOgas.TableKey
import MiniOgas.ExecutionTables
import MiniOgas.MaintenanceInput
import MiniOgas.MaterialInput

namespace MiniOgas

open Relational Serial

variable {α : Type}

structure Uom where
  uomCode : String
  dimension : String
  scale : Quantity

structure Material where
  materialCode : String
  baseUomId : Nat

structure StockEnv where
  now : Timestamp
  uoms : Table Uom
  materials : Table Material
  execution : ExecutionFacts
  maintenance : MaintenanceTables
  openHold : Nat → Option String
  auditAccepted : AuditLog → Bool

structure StockStore where
  tables : StockTables
  auditLogs : Table AuditLog

def StockStore.empty : StockStore := ⟨.empty, .empty⟩

def materialError (statusCode : Nat) (code message : String)
    (context : List (String × Json) := []) : Fault :=
  .materialFlow ⟨statusCode, code, message, context⟩

/-- `_insert_id`: a row that breaks a unique constraint raises the given error. -/
def insertMaterial (table : Table α) (conflicts : α → Bool) (row : α) (code message : String) :
    Except Fault (Table α) :=
  table.insertUnique conflicts row (materialError 409 code message)

structure StockOutcome where
  tables : StockTables
  auditAction : String
  auditResourceType : String
  auditResourceId : String
  auditDetail : Json
  response : Except Fault Json

/-- The frame of an operation: its body, `_audit` and its response. -/
def stocked (env : StockEnv) (db : StockStore) (actor : String)
    (body : StockTables → Except Fault StockOutcome) : Except Fault (Json × StockStore) := do
  let outcome ← body db.tables
  let log : AuditLog := ⟨"material-flow", actor, outcome.auditAction, outcome.auditResourceType,
    outcome.auditResourceId, canonicalJson outcome.auditDetail, env.now⟩
  check (env.auditAccepted log = true)
    (.runtime "failed to enqueue the material-flow audit envelope")
  let response ← outcome.response
  return (response, ⟨outcome.tables, db.auditLogs.insert log⟩)

def replayed (db : StockStore) (existing : Option (List JsonToken)) (hash : List JsonToken)
    (reused : Fault) (response : Except Fault Json)
    (run : Except Fault (Json × StockStore)) : Except Fault (Json × StockStore) :=
  match existing with
  | none => run
  | some stored => do
    check (stored = hash) reused
    let response ← response
    return (response, db)

/-- `_require_code`. -/
def requireMaterialCode (table : Table α) (codeOf : α → String) (code resource : String) :
    Except Fault (Nat × α) :=
  orFault (table.first? (codeOf · = code))
    (materialError 409 "REFERENCE_NOT_FOUND"
      s!"referenced {resource} does not exist in the active tenant/site"
      [("resource_type", .str resource), ("resource_code", .str code)])

/-- A row of `material_lots` joined with its material and unit of measure. -/
structure LotFact where
  id : Nat
  row : MaterialLot
  material : Material
  uom : Uom

def requireLot (env : StockEnv) (tables : StockTables) (lotCode : String) :
    Except Fault LotFact := do
  let notFound := materialError 409 "LOT_NOT_FOUND" "material lot or serial was not found"
    [("lot_code", .str lotCode)]
  let (id, row) ← orFault (tables.lots.first? (·.lotCode = lotCode)) notFound
  let material ← orFault (env.materials.find? row.materialId) notFound
  let uom ← orFault (env.uoms.find? row.uomId) notFound
  return ⟨id, row, material, uom⟩

def assertNoQualityHold (env : StockEnv) (lot : LotFact) : Except Fault Unit :=
  match env.openHold lot.id with
  | none => .ok ()
  | some holdCode => .error (materialError 409 "QUALITY_HOLD_ACTIVE"
      "material lot is blocked by an open quality hold"
      [("lot_code", .str lot.row.lotCode), ("hold_code", .str holdCode)])

def requireLocation (tables : StockTables) (locationCode : String) :
    Except Fault (Nat × InventoryLocation) := do
  let notFound := materialError 409 "LOCATION_NOT_FOUND" "inventory location was not found"
    [("location_code", .str locationCode)]
  let (id, location) ← orFault (tables.locations.first? (·.locationCode = locationCode)) notFound
  let _ ← orFault (tables.warehouses.find? location.warehouseId) notFound
  check (location.active = true) (materialError 409 "LOCATION_INACTIVE"
    "inventory location is inactive" [("location_code", .str locationCode)])
  return (id, location)

def resolveContainer (tables : StockTables) (containerCode : Option String)
    (location : Option (Nat × InventoryLocation)) :
    Except Fault (Option (Nat × MaterialContainer)) :=
  match containerCode with
  | none => .ok none
  | some code => do
    let (id, container) ← requireMaterialCode tables.containers (·.containerCode) code "container"
    check (container.status = .active) (materialError 409 "CONTAINER_NOT_ACTIVE"
      "material container is not active" [("container_code", .str code)])
    check (location.map (·.1) = some container.locationId) (materialError 409
      "CONTAINER_LOCATION_MISMATCH" "container is not registered at the selected location"
      [("container_code", .str code)])
    return some (id, container)

def allowedStatuses : String → List TaskStatus
  | "consume" | "rework" => [.paused, .running]
  | "produce" | "consume_produce" => [.closed, .completed]
  | _ => [.closed, .completed, .dispatched, .paused, .ready, .running, .setup]

def requireOperationTask (env : StockEnv) (taskId : Nat) (action : String) :
    Except Fault Unit := do
  let task ← orFault (env.execution.tasks.find? taskId)
    (materialError 409 "OPERATION_TASK_NOT_FOUND"
      "material movement references an unknown operation task"
      [("operation_task_id", .int taskId)])
  check (task.status ∈ allowedStatuses action) (materialError 409 "EXECUTION_STATE_INCOMPATIBLE"
    "operation task state is incompatible with the material transaction"
    [("operation_task_id", .int taskId), ("operation_status", .str task.status.text),
      ("material_action", .str action),
      ("allowed_statuses", .arr ((allowedStatuses action).map fun s => .str s.text))])

theorem stocked_tables {env : StockEnv} {db db' : StockStore} {actor : String}
    {body : StockTables → Except Fault StockOutcome} {response : Json}
    (h : stocked env db actor body = .ok (response, db')) :
    ∃ outcome, body db.tables = .ok outcome ∧ outcome.tables = db'.tables := by
  obtain ⟨outcome, hbody, h⟩ := of_bind h
  obtain ⟨-, -, h⟩ := of_bind h
  obtain ⟨response, -, h⟩ := of_bind h
  cases h
  exact ⟨outcome, hbody, rfl⟩

theorem replayed_eq_ok {db db' : StockStore} {existing : Option (List JsonToken)}
    {hash : List JsonToken} {reused : Fault} {stored : Except Fault Json}
    {run : Except Fault (Json × StockStore)} {response : Json}
    (h : replayed db existing hash reused stored run = .ok (response, db')) :
    existing.isSome = true ∧ db' = db ∨ existing = none ∧ run = .ok (response, db') := by
  cases existing with
  | none => exact .inr ⟨rfl, h⟩
  | some tokens =>
    obtain ⟨_, -, h⟩ := of_bind h
    obtain ⟨_, -, h⟩ := of_bind h
    cases h
    exact .inl ⟨rfl, rfl⟩

theorem insertMaterial_eq_ok {table table' : Table α} {conflicts : α → Bool} {row : α}
    {code message : String} :
    insertMaterial table conflicts row code message = .ok table' ↔
      table.any conflicts = false ∧ table.insert row = table' :=
  Table.insertUnique_eq_ok

end MiniOgas
