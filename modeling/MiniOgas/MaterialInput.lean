import MiniOgas.MaterialTables

namespace MiniOgas

structure WarehouseIn where
  warehouseCode : Code
  name : Text 1 160
  warehouseType : WarehouseType

structure LocationIn where
  locationCode : Code
  warehouseCode : Code
  name : Text 1 160
  locationType : LocationType

structure ContainerIn where
  containerCode : Code
  containerType : Text 1 80
  locationCode : Code

structure LotIn where
  lotCode : Code
  materialCode : Code
  trackingKind : TrackingKind
  evidenceReference : Text 1 240

/-- The fields of a movement request. -/
structure MovementRequest where
  movementId : Code
  movementType : MovementType
  lotCode : Code
  quantity : Quantity
  fromLocationCode : Option Code
  toLocationCode : Option Code
  fromContainerCode : Option Code
  toContainerCode : Option Code
  operationTaskId : Option Nat
  maintenanceOrderCode : Option Code
  source : MovementSource
  reason : Text 1 1024
  evidenceReference : Text 1 240
  occurredAt : Timestamp

def MovementType.ends : MovementType → Option (Bool × Bool)
  | .receipt | .produce => some (false, true)
  | .consume => some (true, false)
  | .issue | .return | .transfer | .scrap | .rework => some (true, true)
  | _ => none

/-- The validator `validate_direction` on the authority that a movement names. -/
def MovementRequest.validAuthority (request : MovementRequest) : Bool :=
  match request.movementType with
  | .consume =>
    (request.operationTaskId.isSome ^^ request.maintenanceOrderCode.isSome) &&
      request.source = if request.operationTaskId.isSome then .execution else .manual
  | .produce | .rework => request.operationTaskId.isSome && request.source = .execution
  | _ => request.maintenanceOrderCode.isNone

/-- The validator `validate_direction`. -/
def MovementRequest.valid (request : MovementRequest) : Bool :=
  request.movementType.ends = some
      (request.fromLocationCode.isSome, request.toLocationCode.isSome) &&
    (request.fromContainerCode.isNone || request.fromLocationCode.isSome) &&
    (request.toContainerCode.isNone || request.toLocationCode.isSome) &&
    decide ((request.fromLocationCode, request.fromContainerCode) ≠
      (request.toLocationCode, request.toContainerCode)) &&
    request.validAuthority

structure MovementIn extends MovementRequest where
  quantity_pos : 0 < quantity
  operationTaskId_pos : ∀ id ∈ operationTaskId, 1 ≤ id
  external : source ≠ .reconciliation
  validated : toMovementRequest.valid = true

structure TransformationLegIn where
  lotCode : Code
  quantity : Quantity
  locationCode : Code
  containerCode : Option Code
  quantity_pos : 0 < quantity

def TransformationLegIn.key (leg : TransformationLegIn) : Code × Code × Option Code :=
  (leg.lotCode, leg.locationCode, leg.containerCode)

def TransformationType.shape (type : TransformationType) (inputs outputs : Nat) : Bool :=
  match type with
  | .split => inputs = 1 && decide (2 ≤ outputs)
  | .merge => decide (2 ≤ inputs) && outputs = 1
  | .rework => inputs = 1 && outputs = 1
  | .consumeProduce => true

structure TransformationIn where
  transformationId : Code
  transformationType : TransformationType
  inputs : List TransformationLegIn
  outputs : List TransformationLegIn
  operationTaskId : Option Nat
  reason : Text 1 1024
  evidenceReference : Text 1 240
  conversionEvidenceReference : Text 0 240
  occurredAt : Timestamp
  inputs_bounds : 1 ≤ inputs.length ∧ inputs.length ≤ 100
  outputs_bounds : 1 ≤ outputs.length ∧ outputs.length ≤ 100
  operationTaskId_pos : ∀ id ∈ operationTaskId, 1 ≤ id
  shaped : transformationType.shape inputs.length outputs.length = true
  bound : transformationType = .consumeProduce ∨ transformationType = .rework →
    operationTaskId ≠ none
  inputs_unique : (inputs.map (·.key)).Nodup
  outputs_unique : (outputs.map (·.key)).Nodup

structure ExternalSnapshotItemIn where
  lotCode : Code
  locationCode : Code
  containerCode : Option Code
  observedQuantity : Quantity
  observed_nonneg : 0 ≤ observedQuantity

structure ExternalSnapshotIn where
  importId : Code
  provider : SnapshotProvider
  observedAt : Timestamp
  evidenceReference : Text 1 240
  items : List ExternalSnapshotItemIn
  items_bounds : 1 ≤ items.length ∧ items.length ≤ 1000
  items_unique : (items.map fun item => (item.lotCode, item.locationCode, item.containerCode)).Nodup

structure ReconciliationAdjustmentIn where
  movementId : Code
  reason : Text 1 1024
  evidenceReference : Text 1 240

def jsonCode (x : Option Code) : Json := jsonText (x.map (·.value))

def WarehouseIn.json (payload : WarehouseIn) : Json :=
  .obj [("warehouse_code", .str payload.warehouseCode.value), ("name", .str payload.name.value),
    ("warehouse_type", .str payload.warehouseType.text)]

def LocationIn.json (payload : LocationIn) : Json :=
  .obj [("location_code", .str payload.locationCode.value),
    ("warehouse_code", .str payload.warehouseCode.value), ("name", .str payload.name.value),
    ("location_type", .str payload.locationType.text)]

def ContainerIn.json (payload : ContainerIn) : Json :=
  .obj [("container_code", .str payload.containerCode.value),
    ("container_type", .str payload.containerType.value),
    ("location_code", .str payload.locationCode.value)]

def LotIn.json (payload : LotIn) : Json :=
  .obj [("lot_code", .str payload.lotCode.value),
    ("material_code", .str payload.materialCode.value),
    ("tracking_kind", .str payload.trackingKind.text),
    ("evidence_reference", .str payload.evidenceReference.value)]

def MovementRequest.json (payload : MovementRequest) : Json :=
  .obj [("movement_id", .str payload.movementId.value),
    ("movement_type", .str payload.movementType.text), ("lot_code", .str payload.lotCode.value),
    ("quantity", .float payload.quantity),
    ("from_location_code", jsonCode payload.fromLocationCode),
    ("to_location_code", jsonCode payload.toLocationCode),
    ("from_container_code", jsonCode payload.fromContainerCode),
    ("to_container_code", jsonCode payload.toContainerCode),
    ("operation_task_id", jsonNat payload.operationTaskId),
    ("maintenance_order_code", jsonCode payload.maintenanceOrderCode),
    ("source", .str payload.source.text), ("reason", .str payload.reason.value),
    ("evidence_reference", .str payload.evidenceReference.value),
    ("occurred_at", .time payload.occurredAt)]

def TransformationLegIn.json (leg : TransformationLegIn) : Json :=
  .obj [("lot_code", .str leg.lotCode.value), ("quantity", .float leg.quantity),
    ("location_code", .str leg.locationCode.value),
    ("container_code", jsonCode leg.containerCode)]

def TransformationIn.json (payload : TransformationIn) : Json :=
  .obj [("transformation_id", .str payload.transformationId.value),
    ("transformation_type", .str payload.transformationType.text),
    ("inputs", .arr (payload.inputs.map (·.json))),
    ("outputs", .arr (payload.outputs.map (·.json))),
    ("operation_task_id", jsonNat payload.operationTaskId), ("reason", .str payload.reason.value),
    ("evidence_reference", .str payload.evidenceReference.value),
    ("conversion_evidence_reference", .str payload.conversionEvidenceReference.value),
    ("occurred_at", .time payload.occurredAt)]

def ExternalSnapshotItemIn.json (item : ExternalSnapshotItemIn) : Json :=
  .obj [("lot_code", .str item.lotCode.value), ("location_code", .str item.locationCode.value),
    ("container_code", jsonCode item.containerCode),
    ("observed_quantity", .float item.observedQuantity)]

def ExternalSnapshotIn.json (payload : ExternalSnapshotIn) : Json :=
  .obj [("import_id", .str payload.importId.value), ("provider", .str payload.provider.text),
    ("contract_version", .str "1.0"), ("observed_at", .time payload.observedAt),
    ("evidence_reference", .str payload.evidenceReference.value),
    ("items", .arr (payload.items.map (·.json)))]

/-- The request of `adjust_reconciliation` that is hashed. -/
def ReconciliationAdjustmentIn.json (payload : ReconciliationAdjustmentIn)
    (reconciliationId : Nat) : Json :=
  .obj [("reconciliation_id", .int reconciliationId),
    ("movement_id", .str payload.movementId.value), ("reason", .str payload.reason.value),
    ("evidence_reference", .str payload.evidenceReference.value)]

end MiniOgas
