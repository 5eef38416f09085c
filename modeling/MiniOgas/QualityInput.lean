import MiniOgas.QualityTables
import MiniOgas.MaterialStore

namespace MiniOgas

structure GaugeIn where
  gaugeCode : Code
  name : Text 1 160
  gaugeType : Text 1 80
  calibrationStatus : CalibrationStatus
  validFrom : Timestamp
  validTo : Timestamp
  evidenceReference : Text 1 240
  valid_period : validFrom < validTo

/-- The fields of a characteristic. -/
structure CharacteristicSpec where
  characteristicCode : Code
  name : Text 1 160
  valueType : ValueType
  uomCode : Option Code
  targetValue : Option Quantity
  lowerSpecLimit : Option Quantity
  upperSpecLimit : Option Quantity
  expectedBoolean : Option Bool
  expectedText : Option (Text 0 240)
  method : Text 1 160
  sampleSize : Nat
  gaugeType : Text 1 80
  requiredSkillCode : Code
  requiredSkillLevel : Nat

/-- The validator `validate_specification`. -/
def CharacteristicSpec.valid (spec : CharacteristicSpec) : Bool :=
  match spec.valueType with
  | .numeric =>
    spec.uomCode.isSome && (spec.lowerSpecLimit.isSome || spec.upperSpecLimit.isSome) &&
      decide (∀ lower ∈ spec.lowerSpecLimit, ∀ upper ∈ spec.upperSpecLimit, lower ≤ upper)
  | .boolean => spec.expectedBoolean.isSome
  | .text => ((spec.expectedText.map (·.value)).getD "") ≠ ""

structure CharacteristicIn extends CharacteristicSpec where
  sampleSize_bounds : 1 ≤ sampleSize ∧ sampleSize ≤ 1000
  requiredSkillLevel_bounds : 1 ≤ requiredSkillLevel ∧ requiredSkillLevel ≤ 10
  validated : toCharacteristicSpec.valid = true

structure InspectionPlanIn where
  planCode : Code
  revision : Int
  name : Text 1 160
  materialCode : Code
  stage : InspectionStage
  operationCode : Option Code
  characteristics : List CharacteristicIn
  revision_pos : 1 ≤ revision
  characteristics_bounds : 1 ≤ characteristics.length ∧ characteristics.length ≤ 100
  characteristics_unique : (characteristics.map (·.characteristicCode)).Nodup
  operation_of_inProcess : stage = .inProcess → operationCode ≠ none

structure QualityActionIn where
  evidenceReference : Text 1 240

structure InspectionLotIn where
  inspectionLotCode : Code
  planCode : Code
  planRevision : Int
  lotCode : Code
  locationCode : Code
  operationTaskId : Option Nat
  quantity : Quantity
  evidenceReference : Text 1 240
  planRevision_pos : 1 ≤ planRevision
  operationTaskId_pos : ∀ id ∈ operationTaskId, 1 ≤ id
  quantity_pos : 0 < quantity

inductive MeasurementValue where
  | numeric (value : Quantity)
  | boolean (value : Bool)
  | text (value : Text 0 1024)

def MeasurementValue.numericValue : MeasurementValue → Option Quantity
  | .numeric value => some value
  | _ => none

def MeasurementValue.booleanValue : MeasurementValue → Option Bool
  | .boolean value => some value
  | _ => none

def MeasurementValue.textValue : MeasurementValue → Option String
  | .text value => some value.value
  | _ => none

structure MeasurementIn where
  measurementId : Code
  characteristicCode : Code
  sampleIndex : Nat
  value : MeasurementValue
  uomCode : Option Code
  method : Text 1 160
  gaugeCode : Code
  personnelCode : Code
  occurredAt : Timestamp
  evidenceReference : Text 1 240
  sampleIndex_pos : 1 ≤ sampleIndex

structure DispositionIn where
  dispositionCode : Code
  dispositionType : DispositionType
  reason : Text 1 1024
  evidenceReference : Text 1 240

structure AuthorizationIn where
  authorizationReference : Text 1 240

structure CapaIn where
  capaCode : Code
  problemStatement : Text 1 2048
  rootCause : Text 1 2048
  actionPlan : Text 1 4096
  dueAt : Timestamp
  evidenceReference : Text 1 240

structure CapaCompleteIn where
  verificationReference : Text 1 240
  effectivenessResult : Text 1 2048

def jsonQuantity (x : Option Quantity) : Json := (x.map Json.float).getD .null

def jsonBool (x : Option Bool) : Json := (x.map Json.bool).getD .null

def GaugeIn.json (payload : GaugeIn) : Json :=
  .obj [("gauge_code", .str payload.gaugeCode.value), ("name", .str payload.name.value),
    ("gauge_type", .str payload.gaugeType.value),
    ("calibration_status", .str payload.calibrationStatus.text),
    ("valid_from", .time payload.validFrom), ("valid_to", .time payload.validTo),
    ("evidence_reference", .str payload.evidenceReference.value)]

def CharacteristicSpec.json (spec : CharacteristicSpec) : Json :=
  .obj [("characteristic_code", .str spec.characteristicCode.value), ("name", .str spec.name.value),
    ("value_type", .str spec.valueType.name), ("uom_code", jsonCode spec.uomCode),
    ("target_value", jsonQuantity spec.targetValue),
    ("lower_spec_limit", jsonQuantity spec.lowerSpecLimit),
    ("upper_spec_limit", jsonQuantity spec.upperSpecLimit),
    ("expected_boolean", jsonBool spec.expectedBoolean),
    ("expected_text", jsonText (spec.expectedText.map (·.value))),
    ("method", .str spec.method.value), ("sample_size", .int spec.sampleSize),
    ("gauge_type", .str spec.gaugeType.value),
    ("required_skill_code", .str spec.requiredSkillCode.value),
    ("required_skill_level", .int spec.requiredSkillLevel)]

def InspectionPlanIn.json (payload : InspectionPlanIn) : Json :=
  .obj [("plan_code", .str payload.planCode.value), ("revision", .int payload.revision),
    ("name", .str payload.name.value), ("material_code", .str payload.materialCode.value),
    ("stage", .str payload.stage.text), ("operation_code", jsonCode payload.operationCode),
    ("characteristics", .arr (payload.characteristics.map (·.json)))]

def InspectionLotIn.json (payload : InspectionLotIn) : Json :=
  .obj [("inspection_lot_code", .str payload.inspectionLotCode.value),
    ("plan_code", .str payload.planCode.value), ("plan_revision", .int payload.planRevision),
    ("lot_code", .str payload.lotCode.value), ("location_code", .str payload.locationCode.value),
    ("operation_task_id", jsonNat payload.operationTaskId), ("quantity", .float payload.quantity),
    ("evidence_reference", .str payload.evidenceReference.value)]

def MeasurementIn.json (payload : MeasurementIn) : Json :=
  .obj [("measurement_id", .str payload.measurementId.value),
    ("characteristic_code", .str payload.characteristicCode.value),
    ("sample_index", .int payload.sampleIndex),
    ("numeric_value", jsonQuantity payload.value.numericValue),
    ("boolean_value", jsonBool payload.value.booleanValue),
    ("text_value", jsonText payload.value.textValue), ("uom_code", jsonCode payload.uomCode),
    ("method", .str payload.method.value), ("gauge_code", .str payload.gaugeCode.value),
    ("personnel_code", .str payload.personnelCode.value),
    ("occurred_at", .time payload.occurredAt),
    ("evidence_reference", .str payload.evidenceReference.value)]

def DispositionIn.json (payload : DispositionIn) (ncCode : String) : Json :=
  .obj [("nc_code", .str ncCode), ("disposition_code", .str payload.dispositionCode.value),
    ("disposition_type", .str payload.dispositionType.text), ("reason", .str payload.reason.value),
    ("evidence_reference", .str payload.evidenceReference.value)]

def CapaIn.json (payload : CapaIn) (ncCode : String) : Json :=
  .obj [("nc_code", .str ncCode), ("capa_code", .str payload.capaCode.value),
    ("problem_statement", .str payload.problemStatement.value),
    ("root_cause", .str payload.rootCause.value), ("action_plan", .str payload.actionPlan.value),
    ("due_at", .time payload.dueAt),
    ("evidence_reference", .str payload.evidenceReference.value)]

def CapaCompleteIn.json (payload : CapaCompleteIn) : Json :=
  .obj [("verification_reference", .str payload.verificationReference.value),
    ("effectiveness_result", .str payload.effectivenessResult.value)]

section QualityStore

open Relational Serial

variable {α : Type}

structure Skill where
  skillCode : String

structure PersonnelQualification where
  personnelId : Nat
  skillId : Nat
  level : Nat
  validFrom : Timestamp
  validTo : Timestamp

structure QualityEnv where
  now : Timestamp
  uoms : Table Uom
  materials : Table Material
  skills : Table Skill
  personnel : Table Personnel
  qualifications : Table PersonnelQualification
  execution : ExecutionFacts
  auditAccepted : AuditLog → Bool

structure QualityStore where
  tables : QualityTables
  stock : StockTables
  auditLogs : Table AuditLog

def QualityStore.empty : QualityStore := ⟨.empty, .empty, .empty⟩

def qualityError (statusCode : Nat) (code message : String)
    (context : List (String × Json) := []) : Fault :=
  .quality ⟨statusCode, code, message, context⟩

/-- `_insert_id`: a row that breaks a unique constraint raises the given error. -/
def insertQuality (table : Table α) (conflicts : α → Bool) (row : α) (code message : String) :
    Except Fault (Table α) :=
  table.insertUnique conflicts row (qualityError 409 code message)

/-- `_require_code`. -/
def requireQualityCode (table : Table α) (codeOf : α → String) (code resource : String) :
    Except Fault (Nat × α) :=
  orFault (table.first? (codeOf · = code))
    (qualityError 409 "REFERENCE_NOT_FOUND"
      s!"referenced {resource} does not exist in the active tenant/site"
      [("resource_type", .str resource), ("resource_code", .str code)])

/-- `_history`. -/
def qualityHistory (env : QualityEnv) (tables : QualityTables) (resourceType resourceId : String)
    (fromStatus : Option String) (toStatus action evidenceReference actor : String) :
    QualityTables :=
  { tables with
    statusHistory := tables.statusHistory.insert ⟨resourceType, resourceId, fromStatus, toStatus,
      action, evidenceReference, actor, env.now⟩ }

structure QualityOutcome where
  tables : QualityTables
  stock : StockTables
  auditAction : String
  auditResourceType : String
  auditResourceId : String
  auditDetail : Json
  response : Except Fault Json

/-- The frame of an operation: its body, `_audit` and its response. -/
def qualified (env : QualityEnv) (db : QualityStore) (actor : String)
    (body : QualityTables → Except Fault QualityOutcome) : Except Fault (Json × QualityStore) := do
  let outcome ← body db.tables
  let log : AuditLog := ⟨"quality", actor, outcome.auditAction, outcome.auditResourceType,
    outcome.auditResourceId, canonicalJson outcome.auditDetail, env.now⟩
  check (env.auditAccepted log = true)
    (.runtime "failed to enqueue the quality audit envelope")
  let response ← outcome.response
  return (response, ⟨outcome.tables, outcome.stock, db.auditLogs.insert log⟩)

def unchanged (db : QualityStore) (response : Except Fault Json) :
    Except Fault (Json × QualityStore) := do
  let response ← response
  return (response, db)

theorem qualified_tables {env : QualityEnv} {db db' : QualityStore} {actor : String}
    {body : QualityTables → Except Fault QualityOutcome} {response : Json}
    (h : qualified env db actor body = .ok (response, db')) :
    ∃ outcome, body db.tables = .ok outcome ∧ outcome.tables = db'.tables ∧
      outcome.stock = db'.stock := by
  obtain ⟨outcome, hbody, h⟩ := of_bind h
  replace h := of_then h
  obtain ⟨response, -, h⟩ := of_bind h
  cases h
  exact ⟨outcome, hbody, rfl, rfl⟩

theorem unchanged_eq_ok {db db' : QualityStore} {stored : Except Fault Json} {response : Json}
    (h : unchanged db stored = .ok (response, db')) : db' = db := by
  obtain ⟨_, -, h⟩ := of_bind h
  cases h
  rfl

theorem insertQuality_eq_ok {table table' : Table α} {conflicts : α → Bool} {row : α}
    {code message : String} :
    insertQuality table conflicts row code message = .ok table' ↔
      table.any conflicts = false ∧ table.insert row = table' :=
  Table.insertUnique_eq_ok

end QualityStore

open Relational Serial

variable (env : QualityEnv) (tables : QualityTables) (stock : StockTables) (id : Nat)

def formatGauge : Except Fault Json := do
  let gauge ← orFault (tables.gauges.find? id)
    (qualityError 404 "GAUGE_NOT_FOUND" "gauge was not found")
  return .obj [("id", .int id), ("gauge_code", .str gauge.gaugeCode), ("name", .str gauge.name),
    ("gauge_type", .str gauge.gaugeType),
    ("calibration_status", .str gauge.calibrationStatus.text),
    ("valid_from", .time gauge.validFrom), ("valid_to", .time gauge.validTo),
    ("evidence_reference", .str gauge.evidenceReference), ("created_by", .str gauge.createdBy),
    ("created_at", .time gauge.createdAt)]

/-- A row of `quality_characteristics` joined with its unit of measure and its skill. -/
structure CharacteristicFact where
  id : Nat
  row : QualityCharacteristic
  uomCode : Option String
  skillCode : String

def characteristicFact (entry : Nat × QualityCharacteristic) : Option CharacteristicFact := do
  let skill ← env.skills.find? entry.2.requiredSkillId
  return ⟨entry.1, entry.2, (entry.2.uomId.bind env.uoms.find?).map (·.uomCode), skill.skillCode⟩

def CharacteristicFact.json (fact : CharacteristicFact) : Json :=
  .obj [("id", .int fact.id), ("inspection_plan_id", .int fact.row.inspectionPlanId),
    ("characteristic_code", .str fact.row.characteristicCode), ("name", .str fact.row.name),
    ("value_type", .str fact.row.valueType.name), ("uom_id", jsonNat fact.row.uomId),
    ("target_value", jsonQuantity fact.row.targetValue),
    ("lower_spec_limit", jsonQuantity fact.row.lowerSpecLimit),
    ("upper_spec_limit", jsonQuantity fact.row.upperSpecLimit),
    ("expected_boolean", (fact.row.expectedBoolean.map jsonFlag).getD .null),
    ("expected_text", jsonText fact.row.expectedText), ("method", .str fact.row.method),
    ("sample_size", .int fact.row.sampleSize), ("gauge_type", .str fact.row.gaugeType),
    ("required_skill_id", .int fact.row.requiredSkillId),
    ("required_skill_level", .int fact.row.requiredSkillLevel),
    ("created_by", .str fact.row.createdBy), ("created_at", .time fact.row.createdAt),
    ("uom_code", jsonText fact.uomCode), ("skill_code", .str fact.skillCode)]

/-- `_format_plan`. -/
def formatInspectionPlan : Except Fault Json := do
  let notFound := qualityError 404 "INSPECTION_PLAN_NOT_FOUND" "inspection plan was not found"
  let plan ← orFault (tables.plans.find? id) notFound
  let material ← orFault (env.materials.find? plan.materialId) notFound
  let characteristics := (tables.characteristics.select (·.inspectionPlanId = id)).filterMap
    (characteristicFact env)
  return .obj [("id", .int id), ("plan_code", .str plan.planCode), ("revision", .int plan.revision),
    ("name", .str plan.name), ("material_id", .int plan.materialId),
    ("stage", .str plan.stage.text), ("operation_code", jsonText plan.operationCode),
    ("status", .str plan.status.text), ("created_by", .str plan.createdBy),
    ("approved_by", jsonText plan.approvedBy),
    ("approval_evidence_reference", jsonText plan.approvalEvidenceReference),
    ("approved_at", jsonTime plan.approvedAt), ("effective_by", jsonText plan.effectiveBy),
    ("effectivity_evidence_reference", jsonText plan.effectivityEvidenceReference),
    ("effective_at", jsonTime plan.effectiveAt), ("created_at", .time plan.createdAt),
    ("material_code", .str material.materialCode),
    ("characteristics", .arr (characteristics.map (·.json)))]

def formatMeasurement : Except Fault Json := do
  let notFound := qualityError 404 "MEASUREMENT_NOT_FOUND" "measurement was not found"
  let measurement ← orFault (tables.measurements.find? id) notFound
  let characteristic ← orFault (tables.characteristics.find? measurement.characteristicId) notFound
  let gauge ← orFault (tables.gauges.find? measurement.gaugeId) notFound
  let personnel ← orFault (env.personnel.find? measurement.personnelId) notFound
  return .obj [("id", .int id), ("measurement_id", .str measurement.measurementId),
    ("inspection_lot_id", .int measurement.inspectionLotId),
    ("characteristic_id", .int measurement.characteristicId),
    ("sample_index", .int measurement.sampleIndex),
    ("numeric_value", jsonQuantity measurement.numericValue),
    ("boolean_value", (measurement.booleanValue.map jsonFlag).getD .null),
    ("text_value", jsonText measurement.textValue), ("uom_id", jsonNat measurement.uomId),
    ("method", .str measurement.method), ("gauge_id", .int measurement.gaugeId),
    ("personnel_id", .int measurement.personnelId), ("occurred_at", .time measurement.occurredAt),
    ("evidence_reference", .str measurement.evidenceReference),
    ("result", .str measurement.result.text), ("recorded_by", .str measurement.recordedBy),
    ("created_at", .time measurement.createdAt),
    ("characteristic_code", .str characteristic.characteristicCode),
    ("characteristic_name", .str characteristic.name),
    ("uom_code", jsonText ((measurement.uomId.bind env.uoms.find?).map (·.uomCode))),
    ("gauge_code", .str gauge.gaugeCode), ("personnel_code", .str personnel.personnelCode)]

def formatDisposition : Except Fault Json := do
  let notFound := qualityError 404 "DISPOSITION_NOT_FOUND" "quality disposition was not found"
  let disposition ← orFault (tables.dispositions.find? id) notFound
  let nc ← orFault (tables.nonconformances.find? disposition.nonconformanceId) notFound
  let inspection ← orFault (tables.inspections.find? nc.inspectionLotId) notFound
  let lot ← orFault (stock.lots.find? nc.lotId) notFound
  return .obj [("id", .int id), ("disposition_code", .str disposition.dispositionCode),
    ("nonconformance_id", .int disposition.nonconformanceId),
    ("disposition_type", .str disposition.dispositionType.text),
    ("status", .str disposition.status.text), ("reason", .str disposition.reason),
    ("evidence_reference", .str disposition.evidenceReference),
    ("proposed_by", .str disposition.proposedBy), ("proposed_at", .time disposition.proposedAt),
    ("approved_by", jsonText disposition.approvedBy),
    ("authorization_reference", jsonText disposition.authorizationReference),
    ("approved_at", jsonTime disposition.approvedAt), ("created_at", .time disposition.proposedAt),
    ("nc_code", .str nc.ncCode), ("inspection_lot_code", .str inspection.inspectionLotCode),
    ("inspection_status", .str inspection.status.text), ("lot_code", .str lot.lotCode),
    ("lot_status", .str lot.status.text)]

def formatCapa : Except Fault Json := do
  let notFound := qualityError 404 "CAPA_NOT_FOUND" "CAPA record was not found"
  let capa ← orFault (tables.capas.find? id) notFound
  let nc ← orFault (tables.nonconformances.find? capa.nonconformanceId) notFound
  return .obj [("id", .int id), ("capa_code", .str capa.capaCode),
    ("nonconformance_id", .int capa.nonconformanceId),
    ("problem_statement", .str capa.problemStatement), ("root_cause", .str capa.rootCause),
    ("action_plan", .str capa.actionPlan), ("due_at", .time capa.dueAt),
    ("status", .str capa.status.text), ("evidence_reference", .str capa.evidenceReference),
    ("created_by", .str capa.createdBy), ("created_at", .time capa.createdAt),
    ("verification_reference", jsonText capa.verificationReference),
    ("effectiveness_result", jsonText capa.effectivenessResult),
    ("completed_by", jsonText capa.completedBy), ("completed_at", jsonTime capa.completedAt),
    ("nc_code", .str nc.ncCode)]

def formatNonconformance : Except Fault Json := do
  let notFound := qualityError 404 "NONCONFORMANCE_NOT_FOUND" "nonconformance was not found"
  let nc ← orFault (tables.nonconformances.find? id) notFound
  let inspection ← orFault (tables.inspections.find? nc.inspectionLotId) notFound
  let lot ← orFault (stock.lots.find? nc.lotId) notFound
  let dispositions ← (tables.dispositions.select (·.nonconformanceId = id)).mapM fun entry =>
    formatDisposition tables stock entry.1
  let capas ← (tables.capas.select (·.nonconformanceId = id)).mapM fun entry =>
    formatCapa tables entry.1
  return .obj [("id", .int id), ("nc_code", .str nc.ncCode),
    ("inspection_lot_id", .int nc.inspectionLotId), ("lot_id", .int nc.lotId),
    ("status", .str nc.status.text), ("severity", .str nc.severity),
    ("description", .str nc.description), ("affected_quantity", .float nc.affectedQuantity),
    ("opened_by", .str nc.openedBy), ("opened_at", .time nc.openedAt), ("closed_by", .null),
    ("closed_at", .null), ("created_at", .time nc.openedAt),
    ("inspection_lot_code", .str inspection.inspectionLotCode), ("lot_code", .str lot.lotCode),
    ("dispositions", .arr dispositions), ("capas", .arr capas)]

def QualityHold.json (hold : QualityHold) (holdId : Nat) : Json :=
  .obj [("id", .int holdId), ("hold_code", .str hold.holdCode),
    ("inspection_lot_id", .int hold.inspectionLotId), ("lot_id", .int hold.lotId),
    ("reason", .str hold.reason), ("status", .str hold.status.text),
    ("placed_by", .str hold.placedBy), ("placed_at", .time hold.placedAt),
    ("resolved_by", jsonText hold.resolvedBy),
    ("resolution_evidence_reference", jsonText hold.resolutionEvidenceReference),
    ("resolved_at", jsonTime hold.resolvedAt), ("created_at", .time hold.placedAt)]

def measurementsOf (inspectionId : Nat) : List (Nat × QualityMeasurement) :=
  (tables.measurements.select (·.inspectionLotId = inspectionId)).insertionSort fun x y =>
    x.2.characteristicId < y.2.characteristicId ∨
      x.2.characteristicId = y.2.characteristicId ∧ x.2.sampleIndex ≤ y.2.sampleIndex

def formatInspection : Except Fault Json := do
  let notFound := qualityError 404 "INSPECTION_LOT_NOT_FOUND" "inspection lot was not found"
  let inspection ← orFault (tables.inspections.find? id) notFound
  let plan ← orFault (tables.plans.find? inspection.inspectionPlanId) notFound
  let lot ← orFault (stock.lots.find? inspection.lotId) notFound
  let material ← orFault (env.materials.find? lot.materialId) notFound
  let location ← orFault (stock.locations.find? inspection.locationId) notFound
  let hold := (tables.holds.last? (·.inspectionLotId = id)).map fun hold => hold.2.json hold.1
  let measurements ← (measurementsOf tables id).mapM fun entry =>
    formatMeasurement env tables entry.1
  let nonconformances ← (tables.nonconformances.select (·.inspectionLotId = id)).mapM fun entry =>
    formatNonconformance tables stock entry.1
  return .obj [("id", .int id), ("inspection_lot_code", .str inspection.inspectionLotCode),
    ("inspection_plan_id", .int inspection.inspectionPlanId), ("lot_id", .int inspection.lotId),
    ("location_id", .int inspection.locationId),
    ("operation_task_id", jsonNat inspection.operationTaskId),
    ("quantity", .float inspection.quantity), ("status", .str inspection.status.text),
    ("evidence_reference", .str inspection.evidenceReference),
    ("opened_by", .str inspection.openedBy), ("opened_at", .time inspection.openedAt),
    ("result_evaluated_at", jsonTime inspection.resultEvaluatedAt),
    ("released_by", jsonText inspection.releasedBy),
    ("release_authorization_reference", jsonText inspection.releaseAuthorizationReference),
    ("released_at", jsonTime inspection.releasedAt), ("created_at", .time inspection.openedAt),
    ("plan_code", .str plan.planCode), ("plan_revision", .int plan.revision),
    ("stage", .str plan.stage.text), ("lot_code", .str lot.lotCode),
    ("location_code", .str location.locationCode), ("material_code", .str material.materialCode),
    ("quality_hold", hold.getD .null), ("measurements", .arr measurements),
    ("nonconformances", .arr nonconformances)]

end MiniOgas
