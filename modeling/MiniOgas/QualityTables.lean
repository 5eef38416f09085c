import MiniOgas.MaterialTables

namespace MiniOgas

open Relational

inductive CalibrationStatus where
  | valid
  | expired
  | outOfCalibration
  | retired
deriving DecidableEq

def CalibrationStatus.text : CalibrationStatus → String
  | .valid => "valid"
  | .expired => "expired"
  | .outOfCalibration => "out_of_calibration"
  | .retired => "retired"

structure Gauge where
  gaugeCode : String
  name : String
  gaugeType : String
  calibrationStatus : CalibrationStatus
  validFrom : Timestamp
  validTo : Timestamp
  evidenceReference : String
  createdBy : String
  createdAt : Timestamp

inductive InspectionStage where
  | receiving
  | inProcess
  | final
deriving DecidableEq

def InspectionStage.text : InspectionStage → String
  | .receiving => "receiving"
  | .inProcess => "in_process"
  | .final => "final"

inductive InspectionPlanStatus where
  | draft
  | approved
  | effective
  | superseded
  | retired
deriving DecidableEq

def InspectionPlanStatus.text : InspectionPlanStatus → String
  | .draft => "draft"
  | .approved => "approved"
  | .effective => "effective"
  | .superseded => "superseded"
  | .retired => "retired"

structure InspectionPlan where
  planCode : String
  revision : Int
  name : String
  materialId : Nat
  stage : InspectionStage
  operationCode : Option String
  status : InspectionPlanStatus
  createdBy : String
  approvedBy : Option String
  approvalEvidenceReference : Option String
  approvedAt : Option Timestamp
  effectiveBy : Option String
  effectivityEvidenceReference : Option String
  effectiveAt : Option Timestamp
  createdAt : Timestamp

inductive ValueType where
  | numeric
  | boolean
  | text

def ValueType.name : ValueType → String
  | .numeric => "numeric"
  | .boolean => "boolean"
  | .text => "text"

structure QualityCharacteristic where
  inspectionPlanId : Nat
  characteristicCode : String
  name : String
  valueType : ValueType
  uomId : Option Nat
  targetValue : Option Quantity
  lowerSpecLimit : Option Quantity
  upperSpecLimit : Option Quantity
  expectedBoolean : Option Bool
  expectedText : Option String
  method : String
  sampleSize : Nat
  gaugeType : String
  requiredSkillId : Nat
  requiredSkillLevel : Nat
  createdBy : String
  createdAt : Timestamp

inductive InspectionStatus where
  | open
  | passed
  | failed
  | released
  | dispositioned
  | reworkRequired
  | cancelled
deriving DecidableEq

def InspectionStatus.text : InspectionStatus → String
  | .open => "open"
  | .passed => "passed"
  | .failed => "failed"
  | .released => "released"
  | .dispositioned => "dispositioned"
  | .reworkRequired => "rework_required"
  | .cancelled => "cancelled"

structure InspectionLot where
  inspectionLotCode : String
  inspectionPlanId : Nat
  lotId : Nat
  locationId : Nat
  operationTaskId : Option Nat
  quantity : Quantity
  status : InspectionStatus
  evidenceReference : String
  openedBy : String
  openedAt : Timestamp
  resultEvaluatedAt : Option Timestamp
  releasedBy : Option String
  releaseAuthorizationReference : Option String
  releasedAt : Option Timestamp

inductive QualityHoldStatus where
  | open
  | released
  | disposed
  | cancelled
deriving DecidableEq

def QualityHoldStatus.text : QualityHoldStatus → String
  | .open => "open"
  | .released => "released"
  | .disposed => "disposed"
  | .cancelled => "cancelled"

structure QualityHold where
  holdCode : String
  inspectionLotId : Nat
  lotId : Nat
  reason : String
  status : QualityHoldStatus
  placedBy : String
  placedAt : Timestamp
  resolvedBy : Option String
  resolutionEvidenceReference : Option String
  resolvedAt : Option Timestamp

inductive MeasurementResult where
  | pass
  | fail
deriving DecidableEq

def MeasurementResult.text : MeasurementResult → String
  | .pass => "pass"
  | .fail => "fail"

structure QualityMeasurement where
  measurementId : String
  inspectionLotId : Nat
  characteristicId : Nat
  sampleIndex : Nat
  numericValue : Option Quantity
  booleanValue : Option Bool
  textValue : Option String
  uomId : Option Nat
  method : String
  gaugeId : Nat
  personnelId : Nat
  occurredAt : Timestamp
  evidenceReference : String
  result : MeasurementResult
  requestHash : List JsonToken
  recordedBy : String
  createdAt : Timestamp

inductive NonconformanceStatus where
  | open
  | dispositioned
  | closed
deriving DecidableEq

def NonconformanceStatus.text : NonconformanceStatus → String
  | .open => "open"
  | .dispositioned => "dispositioned"
  | .closed => "closed"

structure Nonconformance where
  ncCode : String
  inspectionLotId : Nat
  lotId : Nat
  status : NonconformanceStatus
  severity : String
  description : String
  affectedQuantity : Quantity
  openedBy : String
  openedAt : Timestamp

inductive DispositionType where
  | useAsIs
  | rework
  | scrap
  | returnToSupplier
deriving DecidableEq

def DispositionType.text : DispositionType → String
  | .useAsIs => "use_as_is"
  | .rework => "rework"
  | .scrap => "scrap"
  | .returnToSupplier => "return_to_supplier"

inductive DispositionStatus where
  | proposed
  | approved
  | rejected
deriving DecidableEq

def DispositionStatus.text : DispositionStatus → String
  | .proposed => "proposed"
  | .approved => "approved"
  | .rejected => "rejected"

structure QualityDisposition where
  dispositionCode : String
  nonconformanceId : Nat
  dispositionType : DispositionType
  status : DispositionStatus
  reason : String
  evidenceReference : String
  proposedBy : String
  proposedAt : Timestamp
  approvedBy : Option String
  authorizationReference : Option String
  approvedAt : Option Timestamp

inductive CapaStatus where
  | open
  | completed
  | cancelled
deriving DecidableEq

def CapaStatus.text : CapaStatus → String
  | .open => "open"
  | .completed => "completed"
  | .cancelled => "cancelled"

structure CapaRecord where
  capaCode : String
  nonconformanceId : Nat
  problemStatement : String
  rootCause : String
  actionPlan : String
  dueAt : Timestamp
  status : CapaStatus
  evidenceReference : String
  createdBy : String
  createdAt : Timestamp
  verificationReference : Option String
  effectivenessResult : Option String
  completedBy : Option String
  completedAt : Option Timestamp

structure QualityStatusHistory where
  resourceType : String
  resourceId : String
  fromStatus : Option String
  toStatus : String
  action : String
  evidenceReference : String
  actor : String
  occurredAt : Timestamp

structure QualityTables where
  gauges : Table Gauge
  plans : Table InspectionPlan
  characteristics : Table QualityCharacteristic
  inspections : Table InspectionLot
  holds : Table QualityHold
  measurements : Table QualityMeasurement
  nonconformances : Table Nonconformance
  dispositions : Table QualityDisposition
  capas : Table CapaRecord
  statusHistory : Table QualityStatusHistory

def QualityTables.empty : QualityTables where
  gauges := .empty
  plans := .empty
  characteristics := .empty
  inspections := .empty
  holds := .empty
  measurements := .empty
  nonconformances := .empty
  dispositions := .empty
  capas := .empty
  statusHistory := .empty

end MiniOgas
