import MiniOgas.TableQuery
import MiniOgas.Payload

namespace MiniOgas

open Relational

inductive WarehouseType where
  | raw
  | wip
  | finished
  | quarantine
  | scrap
  | shipping

def WarehouseType.text : WarehouseType → String
  | .raw => "raw"
  | .wip => "wip"
  | .finished => "finished"
  | .quarantine => "quarantine"
  | .scrap => "scrap"
  | .shipping => "shipping"

structure Warehouse where
  warehouseCode : String
  name : String
  warehouseType : WarehouseType
  active : Bool
  createdBy : String
  createdAt : Timestamp

inductive LocationType where
  | storage
  | staging
  | wip
  | quarantine
  | scrap
  | shipping
deriving DecidableEq

def LocationType.text : LocationType → String
  | .storage => "storage"
  | .staging => "staging"
  | .wip => "wip"
  | .quarantine => "quarantine"
  | .scrap => "scrap"
  | .shipping => "shipping"

structure InventoryLocation where
  locationCode : String
  warehouseId : Nat
  name : String
  locationType : LocationType
  active : Bool
  createdBy : String
  createdAt : Timestamp

inductive ContainerStatus where
  | active
  | closed
  | quarantined
deriving DecidableEq

structure MaterialContainer where
  containerCode : String
  containerType : String
  locationId : Nat
  status : ContainerStatus
  createdBy : String
  createdAt : Timestamp

inductive TrackingKind where
  | lot
  | serial
deriving DecidableEq

def TrackingKind.text : TrackingKind → String
  | .lot => "lot"
  | .serial => "serial"

inductive LotStatus where
  | active
  | quarantined
  | closed
deriving DecidableEq

def LotStatus.text : LotStatus → String
  | .active => "active"
  | .quarantined => "quarantined"
  | .closed => "closed"

structure MaterialLot where
  lotCode : String
  materialId : Nat
  uomId : Nat
  trackingKind : TrackingKind
  status : LotStatus
  evidenceReference : String
  createdBy : String
  createdAt : Timestamp

structure InventoryBalance where
  materialId : Nat
  lotId : Nat
  uomId : Nat
  locationId : Nat
  containerId : Option Nat
  containerKey : String
  quantity : Quantity
  updatedAt : Timestamp

inductive MovementType where
  | receipt
  | issue
  | consume
  | produce
  | «return»
  | transfer
  | scrap
  | rework
  | adjustment
  | splitInput
  | splitOutput
  | mergeInput
  | mergeOutput
  | transformInput
  | transformOutput
deriving DecidableEq

def MovementType.text : MovementType → String
  | .receipt => "receipt"
  | .issue => "issue"
  | .consume => "consume"
  | .produce => "produce"
  | .return => "return"
  | .transfer => "transfer"
  | .scrap => "scrap"
  | .rework => "rework"
  | .adjustment => "adjustment"
  | .splitInput => "split_input"
  | .splitOutput => "split_output"
  | .mergeInput => "merge_input"
  | .mergeOutput => "merge_output"
  | .transformInput => "transform_input"
  | .transformOutput => "transform_output"

inductive MovementSource where
  | manual
  | execution
  | erpSimulated
  | wmsSimulated
  | reconciliation
deriving DecidableEq

def MovementSource.text : MovementSource → String
  | .manual => "manual"
  | .execution => "execution"
  | .erpSimulated => "erp_simulated"
  | .wmsSimulated => "wms_simulated"
  | .reconciliation => "reconciliation"

structure InventoryMovement where
  movementId : String
  movementType : MovementType
  materialId : Nat
  lotId : Nat
  uomId : Nat
  quantity : Quantity
  fromLocationId : Option Nat
  toLocationId : Option Nat
  fromContainerId : Option Nat
  toContainerId : Option Nat
  operationTaskId : Option Nat
  maintenanceOrderId : Option Nat
  transformationId : Option String
  reconciliationCaseId : Option Nat
  source : MovementSource
  reason : String
  evidenceReference : String
  requestHash : List JsonToken
  occurredAt : Timestamp
  recordedBy : String
  createdAt : Timestamp

inductive TransformationType where
  | split
  | merge
  | consumeProduce
  | rework
deriving DecidableEq

def TransformationType.text : TransformationType → String
  | .split => "split"
  | .merge => "merge"
  | .consumeProduce => "consume_produce"
  | .rework => "rework"

structure MaterialTransformation where
  transformationId : String
  transformationType : TransformationType
  operationTaskId : Option Nat
  reason : String
  evidenceReference : String
  conversionEvidenceReference : String
  requestHash : List JsonToken
  occurredAt : Timestamp
  recordedBy : String
  createdAt : Timestamp

structure GenealogyEdge where
  transformationId : String
  parentLotId : Nat
  childLotId : Nat
  parentQuantity : Quantity
  childQuantity : Quantity
  relationType : TransformationType
  evidenceReference : String
  createdAt : Timestamp

inductive SnapshotProvider where
  | erpSimulator
  | wmsSimulator

def SnapshotProvider.text : SnapshotProvider → String
  | .erpSimulator => "erp_simulator"
  | .wmsSimulator => "wms_simulator"

structure ExternalImport where
  importId : String
  provider : SnapshotProvider
  contractVersion : String
  source : String
  observedAt : Timestamp
  evidenceReference : String
  payloadJson : List JsonToken
  payloadHash : List JsonToken
  createdBy : String
  createdAt : Timestamp

inductive CaseStatus where
  | open
  | adjusted
  | closed
deriving DecidableEq

def CaseStatus.text : CaseStatus → String
  | .open => "open"
  | .adjusted => "adjusted"
  | .closed => "closed"

structure ReconciliationCase where
  caseCode : String
  externalImportId : Nat
  materialId : Nat
  lotId : Nat
  uomId : Nat
  locationId : Nat
  containerId : Option Nat
  containerKey : String
  expectedQuantity : Quantity
  observedQuantity : Quantity
  variance : Quantity
  status : CaseStatus
  evidenceReference : String
  adjustmentMovementId : Option String
  adjustmentReason : Option String
  adjustmentEvidenceReference : Option String
  adjustedBy : Option String
  adjustedAt : Option Timestamp
  createdAt : Timestamp

structure StockTables where
  warehouses : Table Warehouse
  locations : Table InventoryLocation
  containers : Table MaterialContainer
  lots : Table MaterialLot
  balances : Table InventoryBalance
  movements : Table InventoryMovement
  transformations : Table MaterialTransformation
  genealogyEdges : Table GenealogyEdge
  externalImports : Table ExternalImport
  reconciliationCases : Table ReconciliationCase

def StockTables.empty : StockTables where
  warehouses := .empty
  locations := .empty
  containers := .empty
  lots := .empty
  balances := .empty
  movements := .empty
  transformations := .empty
  genealogyEdges := .empty
  externalImports := .empty
  reconciliationCases := .empty

end MiniOgas
