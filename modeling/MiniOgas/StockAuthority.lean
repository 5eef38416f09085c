import MiniOgas.TransformationOperation

namespace MiniOgas

open Relational Serial

variable (env : StockEnv) (db : StockStore) (actor : String)

def formatReconciliationCase (tables : StockTables) (id : Nat) : Except Fault Json := do
  let notFound := materialError 404 "RECONCILIATION_NOT_FOUND"
    "inventory reconciliation case was not found" [("reconciliation_id", .int id)]
  let row ← orFault (tables.reconciliationCases.find? id) notFound
  let lot ← orFault (tables.lots.find? row.lotId) notFound
  let material ← orFault (env.materials.find? row.materialId) notFound
  let uom ← orFault (env.uoms.find? row.uomId) notFound
  let location ← orFault (tables.locations.find? row.locationId) notFound
  let container := row.containerId.bind tables.containers.find?
  let external ← orFault (tables.externalImports.find? row.externalImportId) notFound
  return .obj [("id", .int id), ("case_code", .str row.caseCode),
    ("external_import_id", .int row.externalImportId), ("material_id", .int row.materialId),
    ("lot_id", .int row.lotId), ("uom_id", .int row.uomId),
    ("location_id", .int row.locationId), ("container_id", jsonNat row.containerId),
    ("container_key", .str row.containerKey),
    ("expected_quantity", .float row.expectedQuantity),
    ("observed_quantity", .float row.observedQuantity), ("variance", .float row.variance),
    ("status", .str row.status.text), ("evidence_reference", .str row.evidenceReference),
    ("adjustment_movement_id", jsonText row.adjustmentMovementId),
    ("adjustment_reason", jsonText row.adjustmentReason),
    ("adjustment_evidence_reference", jsonText row.adjustmentEvidenceReference),
    ("adjusted_by", jsonText row.adjustedBy), ("adjusted_at", jsonTime row.adjustedAt),
    ("created_at", .time row.createdAt), ("lot_code", .str lot.lotCode),
    ("material_code", .str material.materialCode), ("uom_code", .str uom.uomCode),
    ("location_code", .str location.locationCode),
    ("container_code", jsonText (container.map (·.containerCode))),
    ("import_id", .str external.importId), ("provider", .str external.provider.text),
    ("external_source", .str external.source)]

def formatExternalImport (tables : StockTables) (id : Nat) : Except Fault Json := do
  let row ← orFault (tables.externalImports.find? id)
    (materialError 404 "EXTERNAL_IMPORT_NOT_FOUND" "external inventory import was not found")
  let cases ← (tables.reconciliationCases.select (·.externalImportId = id)).mapM fun entry =>
    formatReconciliationCase env tables entry.1
  return .obj [("id", .int id), ("import_id", .str row.importId),
    ("provider", .str row.provider.text), ("contract_version", .str row.contractVersion),
    ("source", .str row.source), ("observed_at", .time row.observedAt),
    ("evidence_reference", .str row.evidenceReference), ("created_by", .str row.createdBy),
    ("created_at", .time row.createdAt), ("reconciliation_cases", .arr cases)]

/-- `f"{index:04d}"`. -/
def padded (index : Nat) : String :=
  let digits := toString index
  String.ofList (List.replicate (4 - digits.length) '0') ++ digits

/-- One round of the loop of `import_external_snapshot` over the items. -/
def compareItem [Arithmetic] (payload : ExternalSnapshotIn) (importId : Nat)
    (tables : StockTables) (item : ExternalSnapshotItemIn × Nat) : Except Fault StockTables := do
  let lot ← requireLot env tables item.1.lotCode.value
  let location ← requireLocation tables item.1.locationCode.value
  let container ← resolveContainer tables (item.1.containerCode.map (·.value)) (some location)
  let key := containerKey container
  let expected := balanceQuantity tables lot.id location.1 key
  let observed := item.1.observedQuantity
  if sameQuantity expected observed then return tables
  let caseCode := s!"{payload.importId.value}-{padded (item.2 + 1)}"
  let reconciliationCases ← insertMaterial tables.reconciliationCases (·.caseCode = caseCode)
    { caseCode, externalImportId := importId, materialId := lot.row.materialId, lotId := lot.id
      uomId := lot.row.uomId, locationId := location.1, containerId := container.map (·.1)
      containerKey := key, expectedQuantity := expected, observedQuantity := observed
      variance := Arithmetic.round (observed - expected), status := .open
      evidenceReference := payload.evidenceReference.value, adjustmentMovementId := none
      adjustmentReason := none, adjustmentEvidenceReference := none, adjustedBy := none
      adjustedAt := none, createdAt := env.now }
    "DUPLICATE_RECONCILIATION_CASE" "external snapshot reconciliation case already exists"
  return { tables with reconciliationCases }

def importExternalSnapshot [Arithmetic] (payload : ExternalSnapshotIn) :
    Except Fault (Json × StockStore) :=
  let existing := db.tables.externalImports.first? (·.importId = payload.importId.value)
  replayed db (existing.map (·.2.payloadHash)) (requestHash payload.json)
    (materialError 409 "IDEMPOTENCY_KEY_REUSED"
      "import_id was already used with a different snapshot"
      [("import_id", .str payload.importId.value)])
    (formatExternalImport env db.tables ((existing.map (·.1)).getD 0)) <|
  stocked env db actor fun tables => do
    let importId := tables.externalImports.nextId
    let externalImports ← insertMaterial tables.externalImports
      (·.importId = payload.importId.value)
      { importId := payload.importId.value, provider := payload.provider, contractVersion := "1.0"
        source := "simulated", observedAt := payload.observedAt
        evidenceReference := payload.evidenceReference.value
        payloadJson := canonicalJson payload.json, payloadHash := requestHash payload.json
        createdBy := actor, createdAt := env.now }
      "DUPLICATE_EXTERNAL_IMPORT" "external inventory import identifier already exists"
    let tables' ← payload.items.zipIdx.foldlM (compareItem env payload importId)
      { tables with externalImports }
    let discrepancies := tables'.reconciliationCases.nextId - tables.reconciliationCases.nextId
    return ⟨tables', "material-flow:external-snapshot-imported", "external_inventory_import",
      payload.importId.value, .obj [("provider", .str payload.provider.text),
        ("contract_version", .str "1.0"), ("source", .str "simulated"),
        ("item_count", .int payload.items.length), ("discrepancy_count", .int discrepancies)],
      formatExternalImport env tables' importId⟩

/-- The case of `adjust_reconciliation`, joined with its lot, location and container. -/
structure CaseFact where
  row : ReconciliationCase
  lotCode : String
  locationCode : String
  containerCode : Option String

def requireCase (tables : StockTables) (id : Nat) : Except Fault CaseFact := do
  let notFound := materialError 404 "RECONCILIATION_NOT_FOUND"
    "inventory reconciliation case was not found" [("reconciliation_id", .int id)]
  let row ← orFault (tables.reconciliationCases.find? id) notFound
  let lot ← orFault (tables.lots.find? row.lotId) notFound
  let location ← orFault (tables.locations.find? row.locationId) notFound
  return ⟨row, lot.lotCode, location.locationCode,
    (row.containerId.bind tables.containers.find?).map (·.containerCode)⟩

def ReconciliationCase.adjustedBySame (row : ReconciliationCase) (tables : StockTables)
    (movementId : String) (hash : List JsonToken) : Bool :=
  row.adjustmentMovementId = some movementId &&
    ((tables.movements.first? (·.movementId = movementId)).map (·.2.requestHash)) = some hash

/-- The movement of an adjustment, out of the location or into it. -/
def adjustmentMovement (payload : ReconciliationAdjustmentIn) (id : Nat) (lot : LotFact)
    (locationId : Nat) (containerId : Option Nat) (delta : Quantity) : InventoryMovement where
  movementId := payload.movementId.value
  movementType := .adjustment
  materialId := lot.row.materialId
  lotId := lot.id
  uomId := lot.row.uomId
  quantity := if delta < 0 then -delta else delta
  fromLocationId := if delta < 0 then some locationId else none
  toLocationId := if 0 < delta then some locationId else none
  fromContainerId := if delta < 0 then containerId else none
  toContainerId := if 0 < delta then containerId else none
  operationTaskId := none
  maintenanceOrderId := none
  transformationId := none
  reconciliationCaseId := some id
  source := .reconciliation
  reason := payload.reason.value
  evidenceReference := payload.evidenceReference.value
  requestHash := requestHash (payload.json id)
  occurredAt := env.now
  recordedBy := actor
  createdAt := env.now

/-- `observed - expected`. -/
def ReconciliationCase.delta [Arithmetic] (row : ReconciliationCase) : Quantity :=
  Arithmetic.round (row.observedQuantity - row.expectedQuantity)

/-- The part of `adjust_reconciliation` that changes the stock. -/
def adjustCase [Arithmetic] (tables : StockTables) (id : Nat) (fact : CaseFact)
    (payload : ReconciliationAdjustmentIn) : Except Fault StockOutcome := do
  let lot ← requireLot env tables fact.lotCode
  let location ← requireLocation tables fact.locationCode
  let container ← resolveContainer tables fact.containerCode (some location)
  let current := balanceQuantity tables lot.id location.1 fact.row.containerKey
  let expected := fact.row.expectedQuantity
  let observed := fact.row.observedQuantity
  check (sameQuantity current expected = true) (materialError 409 "RECONCILIATION_STALE"
    "inventory changed after the external snapshot; a new snapshot is required"
    [("expected_quantity", .float expected), ("current_quantity", .float current)])
  let delta := fact.row.delta
  check (sameQuantity delta 0 = false) (materialError 409 "RECONCILIATION_HAS_NO_VARIANCE"
    "reconciliation case no longer contains an actionable variance")
  let (_, adjusted) ← applyBalanceDelta env tables lot location container delta
  let recorded ← insertMovement env adjusted
    (adjustmentMovement env actor payload id lot location.1 (container.map (·.1)) delta)
  let reconciliationCases ← recorded.reconciliationCases.updateOne id (·.status = .open)
    (fun row => { row with
      status := .adjusted, adjustmentMovementId := some payload.movementId.value
      adjustmentReason := some payload.reason.value
      adjustmentEvidenceReference := some payload.evidenceReference.value
      adjustedBy := some actor, adjustedAt := some env.now })
    (materialError 409 "RECONCILIATION_CONFLICT"
      "reconciliation case changed during adjustment")
  let tables' := { recorded with reconciliationCases }
  return ⟨tables', "material-flow:reconciliation-adjusted", "inventory_reconciliation_case",
    toString id, .obj [("movement_id", .str payload.movementId.value),
      ("lot_code", .str fact.lotCode), ("location_code", .str fact.locationCode),
      ("previous_quantity", .float expected), ("adjusted_quantity", .float observed),
      ("variance", .float delta), ("evidence_reference", .str payload.evidenceReference.value)],
    formatReconciliationCase env tables' id⟩

def adjustReconciliation [Arithmetic] (id : Nat) (payload : ReconciliationAdjustmentIn) :
    Except Fault (Json × StockStore) := do
  let hash := requestHash (payload.json id)
  let fact ← requireCase db.tables id
  if fact.row.status = .open then
    stocked env db actor fun tables => adjustCase env actor tables id fact payload
  else do
    check (fact.row.adjustedBySame db.tables payload.movementId.value hash = true)
      (materialError 409 "RECONCILIATION_ALREADY_RESOLVED"
        "inventory reconciliation case is no longer open"
        [("reconciliation_id", .int id), ("status", .str fact.row.status.text)])
    let response ← formatReconciliationCase env db.tables id
    return (response, db)

variable (env : StockEnv) (db : StockStore) (actor : String)

def createWarehouse (payload : WarehouseIn) : Except Fault (Json × StockStore) :=
  stocked env db actor fun tables => do
    let warehouses ← insertMaterial tables.warehouses
      (·.warehouseCode = payload.warehouseCode.value)
      ⟨payload.warehouseCode.value, payload.name.value, payload.warehouseType, true, actor,
        env.now⟩
      "DUPLICATE_MATERIAL_RESOURCE" "warehouse code already exists"
    return ⟨{ tables with warehouses }, "material-flow:warehouse-created", "warehouse",
      payload.warehouseCode.value, payload.json,
      .ok (.obj [("id", .int tables.warehouses.nextId),
        ("warehouse_code", .str payload.warehouseCode.value), ("name", .str payload.name.value),
        ("warehouse_type", .str payload.warehouseType.text), ("active", .int 1),
        ("created_by", .str actor), ("created_at", .time env.now)])⟩

def createLocation (payload : LocationIn) : Except Fault (Json × StockStore) :=
  stocked env db actor fun tables => do
    let (warehouseId, warehouse) ← requireMaterialCode tables.warehouses (·.warehouseCode)
      payload.warehouseCode.value "warehouse"
    let locations ← insertMaterial tables.locations (·.locationCode = payload.locationCode.value)
      ⟨payload.locationCode.value, warehouseId, payload.name.value, payload.locationType, true,
        actor, env.now⟩
      "DUPLICATE_MATERIAL_RESOURCE" "inventory location code already exists"
    return ⟨{ tables with locations }, "material-flow:location-created", "inventory_location",
      payload.locationCode.value, payload.json,
      .ok (.obj [("id", .int tables.locations.nextId),
        ("location_code", .str payload.locationCode.value), ("warehouse_id", .int warehouseId),
        ("name", .str payload.name.value), ("location_type", .str payload.locationType.text),
        ("active", .int 1), ("created_by", .str actor), ("created_at", .time env.now),
        ("warehouse_code", .str warehouse.warehouseCode)])⟩

def createContainer (payload : ContainerIn) : Except Fault (Json × StockStore) :=
  stocked env db actor fun tables => do
    let (locationId, location) ← requireLocation tables payload.locationCode.value
    let containers ← insertMaterial tables.containers
      (·.containerCode = payload.containerCode.value)
      ⟨payload.containerCode.value, payload.containerType.value, locationId, .active, actor,
        env.now⟩
      "DUPLICATE_MATERIAL_RESOURCE" "container code already exists"
    return ⟨{ tables with containers }, "material-flow:container-created", "material_container",
      payload.containerCode.value, payload.json,
      .ok (.obj [("id", .int tables.containers.nextId),
        ("container_code", .str payload.containerCode.value),
        ("container_type", .str payload.containerType.value), ("location_id", .int locationId),
        ("status", .str "active"), ("created_by", .str actor), ("created_at", .time env.now),
        ("location_code", .str location.locationCode)])⟩

def LotFact.json (lot : LotFact) : Json :=
  .obj [("id", .int lot.id), ("lot_code", .str lot.row.lotCode),
    ("material_id", .int lot.row.materialId), ("uom_id", .int lot.row.uomId),
    ("tracking_kind", .str lot.row.trackingKind.text), ("status", .str lot.row.status.text),
    ("evidence_reference", .str lot.row.evidenceReference),
    ("created_by", .str lot.row.createdBy), ("created_at", .time lot.row.createdAt),
    ("material_code", .str lot.material.materialCode), ("uom_code", .str lot.uom.uomCode),
    ("dimension", .str lot.uom.dimension), ("scale", .float lot.uom.scale)]

def createLot (payload : LotIn) : Except Fault (Json × StockStore) :=
  stocked env db actor fun tables => do
    let (materialId, material) ← requireMaterialCode env.materials (·.materialCode)
      payload.materialCode.value "material"
    let lots ← insertMaterial tables.lots (·.lotCode = payload.lotCode.value)
      ⟨payload.lotCode.value, materialId, material.baseUomId, payload.trackingKind, .active,
        payload.evidenceReference.value, actor, env.now⟩
      "DUPLICATE_MATERIAL_RESOURCE" "lot or serial code already exists"
    let tables' := { tables with lots }
    let lot ← requireLot env tables' payload.lotCode.value
    return ⟨tables', "material-flow:lot-created", "material_lot", payload.lotCode.value,
      payload.json, do
        check (lot.id = tables.lots.nextId) (.runtime "created lot identifier mismatch")
        return lot.json⟩

/-- The operations of `MaterialFlowRepository` that write, and the one write to its
tables from outside: `approve_disposition` closes a scrapped or returned lot. -/
inductive StockOperation where
  | createWarehouse (payload : WarehouseIn)
  | createLocation (payload : LocationIn)
  | createContainer (payload : ContainerIn)
  | createLot (payload : LotIn)
  | recordMovement (payload : MovementIn)
  | recordTransformation (payload : TransformationIn)
  | importExternalSnapshot (payload : ExternalSnapshotIn)
  | adjustReconciliation (id : Nat) (payload : ReconciliationAdjustmentIn)
  | closeLot (lotId : Nat)

/-- `UPDATE material_lots SET status='closed' WHERE id=?`. -/
def closeLot (tables : StockTables) (lotId : Nat) : StockTables :=
  { tables with
    lots := tables.lots.updateAt lotId (fun _ => true) fun row => { row with status := .closed } }

def StockOperation.perform [Arithmetic] (operation : StockOperation) (env : StockEnv)
    (actor : String) (db : StockStore) : Except Fault (Json × StockStore) :=
  match operation with
  | .createWarehouse payload => MiniOgas.createWarehouse env db actor payload
  | .createLocation payload => MiniOgas.createLocation env db actor payload
  | .createContainer payload => MiniOgas.createContainer env db actor payload
  | .createLot payload => MiniOgas.createLot env db actor payload
  | .recordMovement payload => MiniOgas.recordMovement env db actor payload
  | .recordTransformation payload => MiniOgas.recordTransformation env db actor payload
  | .importExternalSnapshot payload => MiniOgas.importExternalSnapshot env db actor payload
  | .adjustReconciliation id payload => MiniOgas.adjustReconciliation env db actor id payload
  | .closeLot lotId => .ok (.null, { db with tables := MiniOgas.closeLot db.tables lotId })

structure StockCall where
  env : StockEnv
  actor : String
  operation : StockOperation

def stockAuthority [Arithmetic] : Authority StockCall StockStore Json Fault where
  attempt call db := call.operation.perform call.env call.actor db

end MiniOgas
