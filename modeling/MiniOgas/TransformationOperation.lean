import Mathlib.Data.Finset.Card
import MiniOgas.MaterialStore

namespace MiniOgas

section BalanceDelta

open Relational Serial

/-- The `container_key` of a balance: the code of its container, or nothing. -/
def containerKey (container : Option (Nat × MaterialContainer)) : String :=
  (container.map (·.2.containerCode)).getD ""

def InventoryBalance.isAt (balance : InventoryBalance) (lotId locationId : Nat) (key : String) :
    Bool :=
  balance.lotId = lotId && balance.locationId = locationId && balance.containerKey = key

def balanceQuantity (tables : StockTables) (lotId locationId : Nat) (key : String) : Quantity :=
  ((tables.balances.first? (·.isAt lotId locationId key)).map (·.2.quantity)).getD 0

/-- `miniogas_guard_serial_balance`: the total of the other balances of a serial. -/
def guardSerialBalance [Arithmetic] (tables : StockTables) (lot : LotFact) (balanceId : Nat)
    (quantity : Quantity) : Except Fault Unit :=
  let others := (tables.balances.entries.filter fun entry =>
    entry.2.lotId = lot.id && entry.1 ≠ balanceId).map (·.2.quantity)
  check (lot.row.trackingKind = .serial → Arithmetic.round (Arithmetic.total others + quantity) ≤
      Arithmetic.round (1 + 1 / 1000000000))
    (.database "serial total balance cannot exceed one")

/-- `INSERT .. ON CONFLICT .. DO NOTHING` of an empty balance. -/
def ensureBalance (env : StockEnv) (tables : StockTables) (lot : LotFact) (locationId : Nat)
    (container : Option (Nat × MaterialContainer)) : Table InventoryBalance :=
  if tables.balances.any (·.isAt lot.id locationId (containerKey container)) then tables.balances
  else tables.balances.insert ⟨lot.row.materialId, lot.id, lot.row.uomId, locationId,
    container.map (·.1), containerKey container, 0, env.now⟩

def negativeInventory (tables : StockTables) (lot : LotFact) (location : Nat × InventoryLocation)
    (key : String) (delta : Quantity) : Fault :=
  materialError 409 "NEGATIVE_INVENTORY" "material movement would make inventory or WIP negative"
    [("lot_code", .str lot.row.lotCode), ("location_code", .str location.2.locationCode),
      ("container_code", if key = "" then .null else .str key),
      ("available_quantity", .float (balanceQuantity tables lot.id location.1 key)),
      ("requested_quantity", .float (if delta < 0 then -delta else delta))]

def applyBalanceDelta [Arithmetic] (env : StockEnv) (tables : StockTables) (lot : LotFact)
    (location : Nat × InventoryLocation) (container : Option (Nat × MaterialContainer))
    (delta : Quantity) : Except Fault (Quantity × StockTables) := do
  let key := containerKey container
  let held := (tables.balances.rows.filter (·.lotId = lot.id)).map (·.quantity)
  check (0 < delta ∧ lot.row.trackingKind = .serial →
      Arithmetic.round (Arithmetic.total held + delta) ≤ Arithmetic.round (1 + 1 / 1000000000))
    (materialError 409 "SERIAL_QUANTITY_INVALID"
      "a serial identity can represent at most one unit across all locations"
      [("lot_code", .str lot.row.lotCode)])
  guardSerialBalance tables lot 0 0
  let tables := { tables with balances := ensureBalance env tables lot location.1 container }
  let refused := negativeInventory tables lot location key delta
  let (balanceId, balance) ← orFault
    (tables.balances.first? (·.isAt lot.id location.1 key)) refused
  let quantity := Arithmetic.round (balance.quantity + delta)
  check (-Arithmetic.round (1 / 1000000000) ≤ quantity) refused
  -- `CHECK (quantity >= 0)` is stricter than the tolerance of the update's own condition
  check (0 ≤ quantity) (.database "CHECK constraint failed: quantity >= 0")
  guardSerialBalance tables lot balanceId quantity
  let updated := fun quantity => { tables with
    balances := tables.balances.set balanceId { balance with quantity, updatedAt := env.now } }
  if quantity < 0 ∧ -Arithmetic.round (1 / 1000000000) ≤ quantity then return (0, updated 0)
  else return (quantity, updated quantity)

/-- `_insert_movement`, with the unique movement identifier, `CHECK (quantity > 0)` and the
triggers on `inventory_movements`. -/
def insertMovement (env : StockEnv) (tables : StockTables) (movement : InventoryMovement) :
    Except Fault StockTables := do
  check (env.openHold movement.lotId = none)
    (.database "open quality hold blocks material movement")
  check (movement.movementType = .consume →
      (movement.operationTaskId.isSome ^^ movement.maintenanceOrderId.isSome) = true)
    (.database "consume requires exactly one operation or maintenance authority")
  check (0 < movement.quantity) (materialError 409 "DUPLICATE_MOVEMENT"
    "material movement identifier already exists")
  let movements ← insertMaterial tables.movements (·.movementId = movement.movementId) movement
    "DUPLICATE_MOVEMENT" "material movement identifier already exists"
  return { tables with movements }

/-- The columns of a movement, without those of joined tables. -/
def InventoryMovement.columns (movement : InventoryMovement) (id : Nat) : List (String × Json) :=
  [("id", .int id), ("movement_id", .str movement.movementId),
    ("movement_type", .str movement.movementType.text),
    ("material_id", .int movement.materialId), ("lot_id", .int movement.lotId),
    ("uom_id", .int movement.uomId), ("quantity", .float movement.quantity),
    ("from_location_id", jsonNat movement.fromLocationId),
    ("to_location_id", jsonNat movement.toLocationId),
    ("from_container_id", jsonNat movement.fromContainerId),
    ("to_container_id", jsonNat movement.toContainerId),
    ("operation_task_id", jsonNat movement.operationTaskId),
    ("maintenance_order_id", jsonNat movement.maintenanceOrderId),
    ("transformation_id", jsonText movement.transformationId),
    ("reconciliation_case_id", jsonNat movement.reconciliationCaseId),
    ("source", .str movement.source.text), ("reason", .str movement.reason),
    ("evidence_reference", .str movement.evidenceReference),
    ("occurred_at", .time movement.occurredAt), ("recorded_by", .str movement.recordedBy),
    ("created_at", .time movement.createdAt)]

def formatMovement (env : StockEnv) (tables : StockTables) (id : Nat) : Except Fault Json := do
  let notFound := materialError 404 "MOVEMENT_NOT_FOUND" "material movement was not found"
  let movement ← orFault (tables.movements.find? id) notFound
  let lot ← orFault (tables.lots.find? movement.lotId) notFound
  let material ← orFault (env.materials.find? movement.materialId) notFound
  let uom ← orFault (env.uoms.find? movement.uomId) notFound
  let locationCode := fun locationId : Option Nat =>
    jsonText ((locationId.bind tables.locations.find?).map (·.locationCode))
  let containerCode := fun containerId : Option Nat =>
    jsonText ((containerId.bind tables.containers.find?).map (·.containerCode))
  return .obj (movement.columns id ++ [("lot_code", .str lot.lotCode),
    ("material_code", .str material.materialCode), ("uom_code", .str uom.uomCode),
    ("from_location_code", locationCode movement.fromLocationId),
    ("to_location_code", locationCode movement.toLocationId),
    ("from_container_code", containerCode movement.fromContainerId),
    ("to_container_code", containerCode movement.toContainerId),
    ("maintenance_order_code", jsonText
      ((movement.maintenanceOrderId.bind env.maintenance.orders.find?).map (·.orderCode)))])

end BalanceDelta

open Relational Serial

variable (env : StockEnv) (db : StockStore) (actor : String)

def validateLocationSemantics (movementType : MovementType)
    (toLocation : Option (Nat × InventoryLocation)) : Except Fault Unit := do
  let into := toLocation.map (·.2.locationType)
  check (movementType = .issue → ∀ type ∈ into, type = .wip ∨ type = .staging)
    (materialError 409 "INVALID_ISSUE_DESTINATION" "issue destination must be WIP or staging")
  check (movementType = .scrap → ∀ type ∈ into, type = .scrap)
    (materialError 409 "INVALID_SCRAP_DESTINATION" "scrap movement must enter a scrap location")
  check (movementType = .rework → ∀ type ∈ into, type = .wip)
    (materialError 409 "INVALID_REWORK_DESTINATION" "rework movement must enter a WIP location")

def resolveLocation (tables : StockTables) (code : Option Code) :
    Except Fault (Option (Nat × InventoryLocation)) :=
  match code with
  | none => .ok none
  | some code => do
    let location ← requireLocation tables code.value
    return some location

def resolveMaintenanceOrder (code : Option Code) : Except Fault (Option Nat) :=
  match code with
  | none => .ok none
  | some code => do
    let (id, order) ← orFault (env.maintenance.orders.first? (·.orderCode = code.value))
      (materialError 409 "MAINTENANCE_ORDER_NOT_FOUND"
        "maintenance-bound movement requires an existing maintenance order")
    check (order.status = .inProgress ∨ order.status = .workCompleted)
      (materialError 409 "MAINTENANCE_ORDER_NOT_ACTIVE"
        "maintenance-bound consume requires active maintenance work")
    return some id

def applyEnd [Arithmetic] (tables : StockTables) (lot : LotFact)
    (location : Option (Nat × InventoryLocation)) (container : Option (Nat × MaterialContainer))
    (delta : Quantity) : Except Fault StockTables :=
  match location with
  | none => .ok tables
  | some location => do
    let (_, tables) ← applyBalanceDelta env tables lot location container delta
    return tables

def requireAuthority (payload : MovementIn) : Except Fault Unit :=
  match payload.operationTaskId with
  | some taskId => requireOperationTask env taskId payload.movementType.text
  | none => check (payload.source ≠ .execution) (materialError 409 "OPERATION_TASK_REQUIRED"
      "execution-sourced movement requires operation_task_id")

def recordMovement [Arithmetic] (payload : MovementIn) : Except Fault (Json × StockStore) :=
  let existing := db.tables.movements.first? (·.movementId = payload.movementId.value)
  replayed db (existing.map (·.2.requestHash)) (requestHash payload.json)
    (materialError 409 "IDEMPOTENCY_KEY_REUSED"
      "movement_id was already used with a different request"
      [("movement_id", .str payload.movementId.value)])
    (formatMovement env db.tables ((existing.map (·.1)).getD 0)) <|
  stocked env db actor fun tables => do
    let lot ← requireLot env tables payload.lotCode.value
    check (lot.row.status = .active) (materialError 409 "LOT_NOT_ACTIVE"
      "material lot is not active" [("lot_code", .str payload.lotCode.value)])
    assertNoQualityHold env lot
    check (lot.row.trackingKind = .serial → sameQuantity payload.quantity 1 = true)
      (materialError 409 "SERIAL_QUANTITY_INVALID"
        "every serial movement must have quantity one"
        [("lot_code", .str payload.lotCode.value)])
    requireAuthority env payload
    let maintenanceOrderId ← resolveMaintenanceOrder env payload.maintenanceOrderCode
    let fromLocation ← resolveLocation tables payload.fromLocationCode
    let toLocation ← resolveLocation tables payload.toLocationCode
    let fromContainer ← resolveContainer tables (payload.fromContainerCode.map (·.value))
      fromLocation
    let toContainer ← resolveContainer tables (payload.toContainerCode.map (·.value)) toLocation
    validateLocationSemantics payload.movementType toLocation
    let issued ← applyEnd env tables lot fromLocation fromContainer (-payload.quantity)
    let received ← applyEnd env issued lot toLocation toContainer payload.quantity
    let tables' ← insertMovement env received
      { movementId := payload.movementId.value, movementType := payload.movementType
        materialId := lot.row.materialId, lotId := lot.id, uomId := lot.row.uomId
        quantity := payload.quantity, fromLocationId := fromLocation.map (·.1)
        toLocationId := toLocation.map (·.1), fromContainerId := fromContainer.map (·.1)
        toContainerId := toContainer.map (·.1), operationTaskId := payload.operationTaskId
        maintenanceOrderId, transformationId := none, reconciliationCaseId := none
        source := payload.source, reason := payload.reason.value
        evidenceReference := payload.evidenceReference.value
        requestHash := requestHash payload.json, occurredAt := payload.occurredAt
        recordedBy := actor, createdAt := env.now }
    return ⟨tables', "material-flow:movement-recorded", "inventory_movement",
      payload.movementId.value, .obj [("movement_type", .str payload.movementType.text),
        ("lot_code", .str payload.lotCode.value), ("quantity", .float payload.quantity),
        ("uom_code", .str lot.uom.uomCode),
        ("operation_task_id", jsonNat payload.operationTaskId),
        ("maintenance_order_code", jsonCode payload.maintenanceOrderCode),
        ("source", .str payload.source.text)],
      formatMovement env tables' tables.movements.nextId⟩

structure TransformationLeg where
  lot : LotFact
  location : Nat × InventoryLocation
  container : Option (Nat × MaterialContainer)
  quantity : Quantity

def resolveTransformationLeg [Arithmetic] (tables : StockTables) (leg : TransformationLegIn) :
    Except Fault TransformationLeg := do
  let lot ← requireLot env tables leg.lotCode.value
  let location ← requireLocation tables leg.locationCode.value
  let container ← resolveContainer tables (leg.containerCode.map (·.value)) (some location)
  check (lot.row.status = .active) (materialError 409 "LOT_NOT_ACTIVE"
    "material transformation requires an active lot or serial"
    [("lot_code", .str leg.lotCode.value)])
  assertNoQualityHold env lot
  check (lot.row.trackingKind = .serial → sameQuantity leg.quantity 1 = true)
    (materialError 409 "SERIAL_QUANTITY_INVALID"
      "every serial transformation leg must have quantity one"
      [("lot_code", .str leg.lotCode.value)])
  return ⟨lot, location, container, leg.quantity⟩

def TransformationLeg.kind (leg : TransformationLeg) : Nat × Nat :=
  (leg.lot.row.materialId, leg.lot.row.uomId)

/-- The checks of `_validate_transformation_semantics` on the materials and the quantities. -/
def validateConservation [Arithmetic] (payload : TransformationIn)
    (inputs outputs : List TransformationLeg) : Except Fault Unit := do
  let inputTotal := Arithmetic.sum (inputs.map (·.quantity))
  let outputTotal := Arithmetic.sum (outputs.map (·.quantity))
  let inputKinds : Finset (Nat × Nat) := (inputs.map (·.kind)).toFinset
  let outputKinds : Finset (Nat × Nat) := (outputs.map (·.kind)).toFinset
  check (payload.transformationType ≠ .consumeProduce → (inputKinds ∪ outputKinds).card = 1)
    (materialError 409 "MATERIAL_CONSERVATION_VIOLATION"
      "split, merge and rework must preserve material and unit of measure")
  check (payload.transformationType ≠ .consumeProduce →
      sameQuantity inputTotal outputTotal = true)
    (materialError 409 "QUANTITY_CONSERVATION_VIOLATION"
      "split, merge and rework input and output quantities must match"
      [("input_quantity", .float inputTotal), ("output_quantity", .float outputTotal)])
  check (payload.transformationType = .consumeProduce ∧
      (inputKinds ≠ outputKinds ∨ sameQuantity inputTotal outputTotal = false) →
      payload.conversionEvidenceReference.value ≠ "")
    (materialError 409 "CONVERSION_EVIDENCE_REQUIRED"
      "material or quantity conversion requires an evidence reference")

/-- Its last check, on the lots of the two sides. -/
def assertDistinctLots (inputs outputs : List TransformationLeg) : Except Fault Unit :=
  let overlap := (inputs.filter fun leg => outputs.any fun other => other.lot.id = leg.lot.id).map
    (·.lot.row.lotCode)
  check (overlap = []) (materialError 409 "GENEALOGY_SELF_REFERENCE"
    "a transformation must produce a distinct output lot or serial"
    [("lot_codes", .arr ((overlap.insertionSort (· ≤ ·)).map .str))])

def validateTransformationSemantics [Arithmetic] (payload : TransformationIn)
    (inputs outputs : List TransformationLeg) : Except Fault Unit := do
  validateConservation payload inputs outputs
  assertDistinctLots inputs outputs

def withChildren (edges : List GenealogyEdge) (found : List Nat) : List Nat :=
  let children := (edges.filter fun edge => edge.parentLotId ∈ found).map (·.childLotId)
  (found ++ children).dedup

/-- The recursive query `descendants`: the lots below a lot. Every round that is not the last
finds the child of another edge, so as many rounds as there are edges suffice. -/
def descendants (edges : List GenealogyEdge) (lotId : Nat) : List Nat :=
  let children := (edges.filter (·.parentLotId = lotId)).map (·.childLotId)
  (List.range edges.length).foldl (fun found _ => withChildren edges found) children.dedup

def assertNoGenealogyCycle (tables : StockTables) (parentLotId childLotId : Nat) :
    Except Fault Unit :=
  check (parentLotId ∉ descendants tables.genealogyEdges.rows childLotId)
    (materialError 409 "GENEALOGY_CYCLE" "material transformation would create a genealogy cycle")

def TransformationType.movementTypes : TransformationType → MovementType × MovementType
  | .split => (.splitInput, .splitOutput)
  | .merge => (.mergeInput, .mergeOutput)
  | .consumeProduce | .rework => (.transformInput, .transformOutput)

inductive Direction where
  | into
  | out
deriving DecidableEq

/-- The source calls the inputs `IN` and the outputs `OUT`. -/
def Direction.text : Direction → String
  | .into => "IN"
  | .out => "OUT"

def legHash (hash : List JsonToken) (direction : Direction) (index : Nat) : List JsonToken :=
  [.openObj, .key "direction", .str direction.text, .key "index", .int index,
    .key "transformation_request_hash"] ++ hash ++ [.closeObj]

/-- The movement of a leg: the inputs leave their locations, the outputs enter theirs. -/
def legMovement (payload : TransformationIn) (direction : Direction) (index : Nat)
    (leg : TransformationLeg) : InventoryMovement where
  movementId := s!"{payload.transformationId.value}-{direction.text}-{index}"
  movementType := match direction with
    | .into => payload.transformationType.movementTypes.1
    | .out => payload.transformationType.movementTypes.2
  materialId := leg.lot.row.materialId
  lotId := leg.lot.id
  uomId := leg.lot.row.uomId
  quantity := leg.quantity
  fromLocationId := if direction = .into then some leg.location.1 else none
  toLocationId := if direction = .out then some leg.location.1 else none
  fromContainerId := if direction = .into then leg.container.map (·.1) else none
  toContainerId := if direction = .out then leg.container.map (·.1) else none
  operationTaskId := payload.operationTaskId
  maintenanceOrderId := none
  transformationId := some payload.transformationId.value
  reconciliationCaseId := none
  source := if payload.operationTaskId.isSome then .execution else .manual
  reason := payload.reason.value
  evidenceReference := payload.evidenceReference.value
  requestHash := legHash (requestHash payload.json) direction index
  occurredAt := payload.occurredAt
  recordedBy := actor
  createdAt := env.now

def postLeg [Arithmetic] (payload : TransformationIn) (direction : Direction)
    (tables : StockTables) (leg : TransformationLeg × Nat) : Except Fault StockTables := do
  let delta := if direction = .into then -leg.1.quantity else leg.1.quantity
  let (_, tables) ← applyBalanceDelta env tables leg.1.lot leg.1.location leg.1.container delta
  insertMovement env tables (legMovement env actor payload direction (leg.2 + 1) leg.1)

def insertEdge (payload : TransformationIn) (edges : Table GenealogyEdge)
    (legs : TransformationLeg × TransformationLeg) : Except Fault (Table GenealogyEdge) :=
  insertMaterial edges
    (fun row => row.transformationId = payload.transformationId.value &&
      row.parentLotId = legs.1.lot.id && row.childLotId = legs.2.lot.id)
    ⟨payload.transformationId.value, legs.1.lot.id, legs.2.lot.id, legs.1.quantity,
      legs.2.quantity, payload.transformationType, payload.evidenceReference.value, env.now⟩
    "DUPLICATE_GENEALOGY_EDGE" "material genealogy edge already exists"

def formatTransformation (tables : StockTables) (id : Nat) : Except Fault Json := do
  let row ← orFault (tables.transformations.find? id)
    (materialError 404 "TRANSFORMATION_NOT_FOUND" "material transformation was not found")
  let lotCode := fun lotId => jsonText ((tables.lots.find? lotId).map (·.lotCode))
  let movements := tables.movements.select (·.transformationId = some row.transformationId)
  let edges := tables.genealogyEdges.select (·.transformationId = row.transformationId)
  return .obj [("id", .int id), ("transformation_id", .str row.transformationId),
    ("transformation_type", .str row.transformationType.text),
    ("operation_task_id", jsonNat row.operationTaskId), ("reason", .str row.reason),
    ("evidence_reference", .str row.evidenceReference),
    ("conversion_evidence_reference", .str row.conversionEvidenceReference),
    ("occurred_at", .time row.occurredAt), ("recorded_by", .str row.recordedBy),
    ("created_at", .time row.createdAt),
    ("movements", .arr (movements.map fun movement =>
      .obj (movement.2.columns movement.1 ++ [("lot_code", lotCode movement.2.lotId)]))),
    ("genealogy_edges", .arr (edges.map fun edge =>
      .obj [("id", .int edge.1), ("transformation_id", .str edge.2.transformationId),
        ("parent_lot_id", .int edge.2.parentLotId), ("child_lot_id", .int edge.2.childLotId),
        ("parent_quantity", .float edge.2.parentQuantity),
        ("child_quantity", .float edge.2.childQuantity),
        ("relation_type", .str edge.2.relationType.text),
        ("evidence_reference", .str edge.2.evidenceReference),
        ("created_at", .time edge.2.createdAt), ("parent_lot_code", lotCode edge.2.parentLotId),
        ("child_lot_code", lotCode edge.2.childLotId)]))]

def recordTransformation [Arithmetic] (payload : TransformationIn) :
    Except Fault (Json × StockStore) :=
  let existing := db.tables.transformations.first?
    (·.transformationId = payload.transformationId.value)
  replayed db (existing.map (·.2.requestHash)) (requestHash payload.json)
    (materialError 409 "IDEMPOTENCY_KEY_REUSED"
      "transformation_id was already used with a different request"
      [("transformation_id", .str payload.transformationId.value)])
    (formatTransformation db.tables ((existing.map (·.1)).getD 0)) <|
  stocked env db actor fun tables => do
    payload.operationTaskId.forM fun taskId =>
      requireOperationTask env taskId payload.transformationType.text
    let inputs ← payload.inputs.mapM (resolveTransformationLeg env tables)
    let outputs ← payload.outputs.mapM (resolveTransformationLeg env tables)
    validateTransformationSemantics payload inputs outputs
    let pairs := inputs.flatMap fun parent => outputs.map (parent, ·)
    pairs.forM fun pair => assertNoGenealogyCycle tables pair.1.lot.id pair.2.lot.id
    let transformations ← insertMaterial tables.transformations
      (·.transformationId = payload.transformationId.value)
      ⟨payload.transformationId.value, payload.transformationType, payload.operationTaskId,
        payload.reason.value, payload.evidenceReference.value,
        payload.conversionEvidenceReference.value, requestHash payload.json, payload.occurredAt,
        actor, env.now⟩
      "DUPLICATE_TRANSFORMATION" "material transformation identifier already exists"
    let consumed ← inputs.zipIdx.foldlM (postLeg env actor payload .into)
      { tables with transformations }
    let produced ← outputs.zipIdx.foldlM (postLeg env actor payload .out) consumed
    let genealogyEdges ← pairs.foldlM (insertEdge env payload) produced.genealogyEdges
    let tables' := { produced with genealogyEdges }
    return ⟨tables', "material-flow:transformation-recorded", "material_transformation",
      payload.transformationId.value,
      .obj [("transformation_type", .str payload.transformationType.text),
        ("input_lots", .arr (inputs.map fun leg => .str leg.lot.row.lotCode)),
        ("output_lots", .arr (outputs.map fun leg => .str leg.lot.row.lotCode)),
        ("operation_task_id", jsonNat payload.operationTaskId)],
      formatTransformation tables' tables.transformations.nextId⟩

end MiniOgas
