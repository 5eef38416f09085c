import MiniOgas.QualityInput
import MiniOgas.StockAuthority

namespace MiniOgas

section InspectionPlanning

open Relational Serial

variable (env : QualityEnv) (db : QualityStore) (actor : String)

def createGauge (payload : GaugeIn) : Except Fault (Json × QualityStore) :=
  qualified env db actor fun tables => do
    let gauges ← insertQuality tables.gauges (·.gaugeCode = payload.gaugeCode.value)
      ⟨payload.gaugeCode.value, payload.name.value, payload.gaugeType.value,
        payload.calibrationStatus, payload.validFrom, payload.validTo,
        payload.evidenceReference.value, actor, env.now⟩
      "DUPLICATE_GAUGE" "gauge code already exists"
    let tables' := { tables with gauges }
    return ⟨tables', db.stock, "quality:gauge-created", "gauge", payload.gaugeCode.value,
      payload.json, formatGauge tables' tables.gauges.nextId⟩

def resolveUom (code : Option Code) : Except Fault (Option Nat) :=
  match code with
  | none => .ok none
  | some code => do
    let (id, _) ← requireQualityCode env.uoms (·.uomCode) code.value "uom"
    return some id

/-- One round of the loop of `create_plan` over the characteristics. -/
def insertCharacteristic (planId : Nat) (characteristics : Table QualityCharacteristic)
    (item : CharacteristicIn) : Except Fault (Table QualityCharacteristic) := do
  let uomId ← resolveUom env item.uomCode
  let (skillId, _) ← requireQualityCode env.skills (·.skillCode) item.requiredSkillCode.value
    "skill"
  insertQuality characteristics
    (fun row => row.inspectionPlanId = planId &&
      row.characteristicCode = item.characteristicCode.value)
    { inspectionPlanId := planId, characteristicCode := item.characteristicCode.value
      name := item.name.value, valueType := item.valueType, uomId
      targetValue := item.targetValue, lowerSpecLimit := item.lowerSpecLimit
      upperSpecLimit := item.upperSpecLimit, expectedBoolean := item.expectedBoolean
      expectedText := item.expectedText.map (·.value), method := item.method.value
      sampleSize := item.sampleSize, gaugeType := item.gaugeType.value
      requiredSkillId := skillId, requiredSkillLevel := item.requiredSkillLevel
      createdBy := actor, createdAt := env.now }
    "DUPLICATE_CHARACTERISTIC" "inspection characteristic code is duplicated"

def createPlan (payload : InspectionPlanIn) : Except Fault (Json × QualityStore) :=
  qualified env db actor fun tables => do
    let name := s!"{payload.planCode.value}:{payload.revision}"
    let (materialId, _) ← requireQualityCode env.materials (·.materialCode)
      payload.materialCode.value "material"
    let plans ← insertQuality tables.plans
      (fun row => row.planCode = payload.planCode.value && row.revision = payload.revision)
      { planCode := payload.planCode.value, revision := payload.revision, name := payload.name.value
        materialId, stage := payload.stage, operationCode := payload.operationCode.map (·.value)
        status := .draft, createdBy := actor, approvedBy := none
        approvalEvidenceReference := none, approvedAt := none, effectiveBy := none
        effectivityEvidenceReference := none, effectiveAt := none, createdAt := env.now }
      "DUPLICATE_INSPECTION_PLAN" "inspection plan revision already exists"
    let characteristics ← payload.characteristics.foldlM
      (insertCharacteristic env actor tables.plans.nextId) tables.characteristics
    let tables' := qualityHistory env { tables with plans, characteristics } "inspection_plan" name
      none "draft" "create" "plan-definition" actor
    return ⟨tables', db.stock, "quality:inspection-plan-created", "inspection_plan", name,
      payload.json, formatInspectionPlan env tables' tables.plans.nextId⟩

/-- `_require_plan`. -/
def requireInspectionPlan (tables : QualityTables) (planCode : String) (revision : Int) :
    Except Fault (Nat × InspectionPlan) :=
  orFault (tables.plans.first? fun row => row.planCode = planCode && row.revision = revision)
    (qualityError 404 "INSPECTION_PLAN_NOT_FOUND" "inspection plan revision was not found"
      [("plan_code", .str planCode), ("revision", .int revision)])

/-- The `target` of `transition_plan`. -/
inductive PlanTarget where
  | approved
  | effective

def PlanTarget.status : PlanTarget → InspectionPlanStatus
  | .approved => .approved
  | .effective => .effective

def PlanTarget.expected : PlanTarget → InspectionPlanStatus
  | .approved => .draft
  | .effective => .approved

def PlanTarget.write (target : PlanTarget) (now : Timestamp) (actor evidence : String)
    (plan : InspectionPlan) : InspectionPlan :=
  match target with
  | .approved => { plan with
      status := .approved, approvedBy := some actor, approvalEvidenceReference := some evidence
      approvedAt := some now }
  | .effective => { plan with
      status := .effective, effectiveBy := some actor
      effectivityEvidenceReference := some evidence, effectiveAt := some now }

def supersede (tables : QualityTables) (planCode evidence : String) : QualityTables :=
  match tables.plans.first? fun row => row.planCode = planCode && row.status = .effective with
  | none => tables
  | some (id, previous) =>
    qualityHistory env
      { tables with plans := tables.plans.set id { previous with status := .superseded } }
      "inspection_plan" s!"{planCode}:{previous.revision}" (some "effective") "superseded"
      "supersede" evidence actor

def transitionPlan (planCode : String) (revision : Int) (target : PlanTarget)
    (payload : QualityActionIn) : Except Fault (Json × QualityStore) := do
  let (id, plan) ← requireInspectionPlan db.tables planCode revision
  if plan.status = target.status then unchanged db (formatInspectionPlan env db.tables id)
  else qualified env db actor fun tables => do
    let name := s!"{planCode}:{revision}"
    check (plan.status = target.expected) (qualityError 409 "INVALID_QUALITY_TRANSITION"
      "inspection plan cannot enter the requested state"
      [("current_status", .str plan.status.text), ("target_status", .str target.status.text)])
    let superseded := match target with
      | .approved => tables
      | .effective => supersede env actor tables planCode payload.evidenceReference.value
    let plans := superseded.plans.updateAt id (fun _ => true)
      (target.write env.now actor payload.evidenceReference.value)
    let tables' := qualityHistory env { superseded with plans } "inspection_plan" name
      (some plan.status.text) target.status.text target.status.text
      payload.evidenceReference.value actor
    return ⟨tables', db.stock, s!"quality:inspection-plan-{target.status.text}",
      "inspection_plan", name,
      .obj [("from_status", .str plan.status.text), ("to_status", .str target.status.text)],
      formatInspectionPlan env tables' id⟩

end InspectionPlanning

open Relational Serial

variable (env : QualityEnv) (db : QualityStore) (actor : String)

def QualityTables.openHold (tables : QualityTables) (lotId : Nat) : Option String :=
  (tables.holds.first? fun hold => hold.lotId = lotId && hold.status = .open).map (·.2.holdCode)

def createInspection (payload : InspectionLotIn) : Except Fault (Json × QualityStore) :=
  qualified env db actor fun tables => do
    let code := payload.inspectionLotCode.value
    let (planId, plan) ← requireInspectionPlan tables payload.planCode.value payload.planRevision
    check (plan.status = .effective) (qualityError 409 "INSPECTION_PLAN_NOT_EFFECTIVE"
      "inspection lot requires an effective inspection plan revision")
    let (lotId, lot) ← requireQualityCode db.stock.lots (·.lotCode) payload.lotCode.value
      "material lot"
    check (lot.status = .active) (qualityError 409 "LOT_NOT_ACTIVE"
      "inspection requires an active material lot or serial"
      [("lot_code", .str payload.lotCode.value)])
    check (lot.materialId = plan.materialId) (qualityError 409 "INSPECTION_PLAN_MATERIAL_MISMATCH"
      "inspection plan material does not match the selected lot")
    let (locationId, _) ← requireQualityCode db.stock.locations (·.locationCode)
      payload.locationCode.value "inventory location"
    let available := db.stock.balances.sum
      (fun balance => balance.lotId = lotId && balance.locationId = locationId) (·.quantity)
    check (payload.quantity ≤ available + 1 / 1000000000) (qualityError 409
      "INSPECTION_QUANTITY_UNAVAILABLE"
      "inspection quantity exceeds material at the selected location"
      [("available_quantity", .float available)])
    check (tables.openHold lotId = none) (qualityError 409 "QUALITY_HOLD_ALREADY_ACTIVE"
      "material lot already has an open quality hold"
      [("hold_code", jsonText (tables.openHold lotId))])
    check (∀ taskId ∈ payload.operationTaskId, (env.execution.tasks.find? taskId).isSome = true)
      (qualityError 409 "OPERATION_TASK_NOT_FOUND"
        "inspection references an unknown operation task")
    let inspectionId := tables.inspections.nextId
    let inspections ← insertQuality tables.inspections (·.inspectionLotCode = code)
      { inspectionLotCode := code, inspectionPlanId := planId, lotId, locationId
        operationTaskId := payload.operationTaskId, quantity := payload.quantity, status := .open
        evidenceReference := payload.evidenceReference.value, openedBy := actor
        openedAt := env.now, resultEvaluatedAt := none, releasedBy := none
        releaseAuthorizationReference := none, releasedAt := none }
      "DUPLICATE_INSPECTION_LOT" "inspection lot code already exists"
    let holds ← insertQuality tables.holds
      (fun hold => hold.holdCode = s!"{code}-HOLD" || hold.lotId = lotId && hold.status = .open)
      { holdCode := s!"{code}-HOLD", inspectionLotId := inspectionId, lotId
        reason := "inspection pending authorized quality decision", status := .open
        placedBy := actor, placedAt := env.now, resolvedBy := none
        resolutionEvidenceReference := none, resolvedAt := none }
      "QUALITY_HOLD_ALREADY_ACTIVE" "material lot already has an open quality hold"
    let tables' := qualityHistory env { tables with inspections, holds } "inspection_lot" code none
      "open" "open" payload.evidenceReference.value actor
    return ⟨tables', db.stock, "quality:inspection-opened", "inspection_lot", code, payload.json,
      formatInspection env tables' db.stock inspectionId⟩

def requireCharacteristic (tables : QualityTables) (planId : Nat) (code : String) :
    Except Fault CharacteristicFact := do
  let notInPlan := qualityError 409 "CHARACTERISTIC_NOT_IN_PLAN"
    "measurement characteristic is not part of the inspection plan"
    [("characteristic_code", .str code)]
  let entry ← orFault (tables.characteristics.first? fun row =>
    row.inspectionPlanId = planId && row.characteristicCode = code) notInPlan
  orFault (characteristicFact env entry) notInPlan

def meets (characteristic : QualityCharacteristic) (value : MeasurementValue) : Option Bool :=
  match characteristic.valueType with
  | .numeric => value.numericValue.map fun measured =>
    decide ((∀ lower ∈ characteristic.lowerSpecLimit, lower ≤ measured) ∧
      ∀ upper ∈ characteristic.upperSpecLimit, measured ≤ upper)
  | .boolean => value.booleanValue.map fun measured =>
    measured == characteristic.expectedBoolean.getD false
  | .text => value.textValue.map fun measured =>
    decide (some measured = characteristic.expectedText)

/-- `_validate_measurement_context`: the gauge, the personnel and the result. -/
def validateMeasurementContext (tables : QualityTables) (characteristic : CharacteristicFact)
    (payload : MeasurementIn) : Except Fault (Nat × Nat × MeasurementResult) := do
  check (payload.sampleIndex ≤ characteristic.row.sampleSize) (qualityError 409
    "SAMPLE_INDEX_OUT_OF_RANGE" "sample index exceeds the inspection plan sample size"
    [("sample_size", .int characteristic.row.sampleSize)])
  check (payload.method.value = characteristic.row.method) (qualityError 409 "METHOD_MISMATCH"
    "measurement method does not match the effective inspection plan"
    [("required_method", .str characteristic.row.method)])
  check (payload.uomCode.map (·.value) = characteristic.uomCode) (qualityError 409
    "MEASUREMENT_UOM_MISMATCH" "measurement UOM does not match the characteristic specification"
    [("required_uom", jsonText characteristic.uomCode)])
  let passed ← orFault (meets characteristic.row payload.value)
    (qualityError 409 "MEASUREMENT_VALUE_TYPE_MISMATCH"
      s!"{characteristic.row.valueType.name} value is required")
  let (gaugeId, gauge) ← requireQualityCode tables.gauges (·.gaugeCode) payload.gaugeCode.value
    "gauge"
  check (gauge.gaugeType = characteristic.row.gaugeType) (qualityError 409 "GAUGE_TYPE_MISMATCH"
    "gauge type does not match the characteristic requirement"
    [("required_gauge_type", .str characteristic.row.gaugeType)])
  check (gauge.calibrationStatus = .valid ∧ gauge.validFrom ≤ payload.occurredAt ∧
      payload.occurredAt ≤ gauge.validTo) (qualityError 409 "GAUGE_CALIBRATION_INVALID"
    "gauge calibration is not valid at measurement time"
    [("gauge_code", .str payload.gaugeCode.value),
      ("calibration_status", .str gauge.calibrationStatus.text)])
  let (personnelId, personnel) ← requireQualityCode env.personnel (·.personnelCode)
    payload.personnelCode.value "personnel"
  check (personnel.active = true) (qualityError 409 "INSPECTOR_INACTIVE"
    "measurement personnel is inactive" [("personnel_code", .str payload.personnelCode.value)])
  check (env.qualifications.any (fun qualification => qualification.personnelId = personnelId &&
      qualification.skillId = characteristic.row.requiredSkillId &&
      characteristic.row.requiredSkillLevel ≤ qualification.level &&
      qualification.validFrom ≤ payload.occurredAt &&
      payload.occurredAt ≤ qualification.validTo) = true)
    (qualityError 409 "INSPECTOR_QUALIFICATION_MISSING"
      "measurement personnel lacks a current required qualification"
      [("personnel_code", .str payload.personnelCode.value),
        ("skill_code", .str characteristic.skillCode)])
  return (gaugeId, personnelId, if passed then .pass else .fail)

def failedCodes (tables : QualityTables) (inspectionId : Nat) : List String :=
  ((tables.measurements.select fun measurement =>
      measurement.inspectionLotId = inspectionId && measurement.result = .fail).filterMap
    fun entry => (tables.characteristics.find? entry.2.characteristicId).map
      (·.characteristicCode)).dedup.insertionSort (· ≤ ·)

def openNonconformance (tables : QualityTables) (inspectionId : Nat) (inspection : InspectionLot)
    (evidence : String) : Except Fault QualityTables := do
  let code := s!"{inspection.inspectionLotCode}-NC"
  let nonconformances ← insertQuality tables.nonconformances
    (fun nc => nc.ncCode = code || nc.inspectionLotId = inspectionId)
    { ncCode := code, inspectionLotId := inspectionId, lotId := inspection.lotId, status := .open
      severity := "major"
      description := "Failed characteristics: " ++
        ", ".intercalate (failedCodes tables inspectionId)
      affectedQuantity := inspection.quantity, openedBy := actor, openedAt := env.now }
    "DUPLICATE_NONCONFORMANCE" "inspection lot already has a nonconformance"
  return qualityHistory env { tables with nonconformances } "nonconformance" code none "open" "open"
    evidence actor

def evaluateInspection (tables : QualityTables) (inspectionId : Nat) (inspection : InspectionLot)
    (evidence : String) : Except Fault QualityTables := do
  let required := tables.characteristics.sum
    (·.inspectionPlanId = inspection.inspectionPlanId) (·.sampleSize)
  let measured := tables.measurements.count (·.inspectionLotId = inspectionId)
  let failed := tables.measurements.count fun measurement =>
    measurement.inspectionLotId = inspectionId && measurement.result = .fail
  if measured < required then return tables
  let target : InspectionStatus := if failed = 0 then .passed else .failed
  let inspections := tables.inspections.updateAt inspectionId (·.status = .open) fun row =>
    { row with status := target, resultEvaluatedAt := some env.now }
  let evaluated := qualityHistory env { tables with inspections } "inspection_lot"
    inspection.inspectionLotCode (some "open") target.text "evaluate" evidence actor
  if failed = 0 then return evaluated
  openNonconformance env actor evaluated inspectionId inspection evidence

def requireInspection (tables : QualityTables) (code : String) :
    Except Fault (Nat × InspectionLot) :=
  orFault (tables.inspections.first? (·.inspectionLotCode = code))
    (qualityError 404 "INSPECTION_LOT_NOT_FOUND" "inspection lot was not found"
      [("inspection_lot_code", .str code)])

/-- The part of `record_measurement` that follows the look-up of its identifier. -/
def measure (inspectionLotCode : String) (payload : MeasurementIn) (tables : QualityTables) :
    Except Fault QualityOutcome := do
  let (inspectionId, inspection) ← requireInspection tables inspectionLotCode
  check (inspection.status = .open) (qualityError 409 "INSPECTION_NOT_OPEN"
    "measurements can be recorded only while inspection is open"
    [("status", .str inspection.status.text)])
  let characteristic ← requireCharacteristic env tables inspection.inspectionPlanId
    payload.characteristicCode.value
  let (gaugeId, personnelId, result) ← validateMeasurementContext env tables characteristic payload
  let measurements ← insertQuality tables.measurements
    (fun row => row.measurementId = payload.measurementId.value ||
      row.inspectionLotId = inspectionId && row.characteristicId = characteristic.id &&
        row.sampleIndex = payload.sampleIndex)
    { measurementId := payload.measurementId.value, inspectionLotId := inspectionId
      characteristicId := characteristic.id, sampleIndex := payload.sampleIndex
      numericValue := payload.value.numericValue, booleanValue := payload.value.booleanValue
      textValue := payload.value.textValue, uomId := characteristic.row.uomId
      method := payload.method.value, gaugeId, personnelId, occurredAt := payload.occurredAt
      evidenceReference := payload.evidenceReference.value, result
      requestHash := requestHash payload.json, recordedBy := actor, createdAt := env.now }
    "DUPLICATE_MEASUREMENT_SAMPLE" "measurement ID or characteristic sample already exists"
  let tables' ← evaluateInspection env actor { tables with measurements } inspectionId inspection
    payload.evidenceReference.value
  return ⟨tables', db.stock, "quality:measurement-recorded", "quality_measurement",
    payload.measurementId.value, .obj [("inspection_lot_code", .str inspectionLotCode),
      ("characteristic_code", .str payload.characteristicCode.value),
      ("sample_index", .int payload.sampleIndex), ("gauge_code", .str payload.gaugeCode.value),
      ("personnel_code", .str payload.personnelCode.value), ("result", .str result.text)],
    formatMeasurement env tables' tables.measurements.nextId⟩

def recordMeasurement (inspectionLotCode : String) (payload : MeasurementIn) :
    Except Fault (Json × QualityStore) :=
  match db.tables.measurements.first? (·.measurementId = payload.measurementId.value) with
  | some (id, existing) => do
    check (existing.requestHash = requestHash payload.json) (qualityError 409
      "IDEMPOTENCY_KEY_REUSED" "measurement_id was already used with a different request"
      [("measurement_id", .str payload.measurementId.value)])
    unchanged db (formatMeasurement env db.tables id)
  | none => qualified env db actor (measure env db actor inspectionLotCode payload)

variable (env : QualityEnv) (db : QualityStore) (actor : String)

def requireNonconformance (tables : QualityTables) (ncCode : String) :
    Except Fault (Nat × Nonconformance) :=
  orFault (tables.nonconformances.first? (·.ncCode = ncCode))
    (qualityError 404 "NONCONFORMANCE_NOT_FOUND" "nonconformance was not found"
      [("nc_code", .str ncCode)])

def createDisposition (ncCode : String) (payload : DispositionIn) :
    Except Fault (Json × QualityStore) :=
  qualified env db actor fun tables => do
    let (ncId, nc) ← requireNonconformance tables ncCode
    check (nc.status = .open ∨ nc.status = .dispositioned) (qualityError 409
      "NONCONFORMANCE_NOT_OPEN" "disposition requires an open nonconformance"
      [("status", .str nc.status.text)])
    let dispositions ← insertQuality tables.dispositions
      (·.dispositionCode = payload.dispositionCode.value)
      { dispositionCode := payload.dispositionCode.value, nonconformanceId := ncId
        dispositionType := payload.dispositionType, status := .proposed
        reason := payload.reason.value, evidenceReference := payload.evidenceReference.value
        proposedBy := actor, proposedAt := env.now, approvedBy := none
        authorizationReference := none, approvedAt := none }
      "DUPLICATE_DISPOSITION" "quality disposition code already exists"
    let tables' := qualityHistory env { tables with dispositions } "quality_disposition"
      payload.dispositionCode.value none "proposed" "propose" payload.evidenceReference.value actor
    return ⟨tables', db.stock, "quality:disposition-proposed", "quality_disposition",
      payload.dispositionCode.value, payload.json ncCode,
      formatDisposition tables' db.stock tables.dispositions.nextId⟩

def requireDisposition (tables : QualityTables) (dispositionCode : String) :
    Except Fault (Nat × QualityDisposition) :=
  orFault (tables.dispositions.first? (·.dispositionCode = dispositionCode))
    (qualityError 404 "DISPOSITION_NOT_FOUND" "quality disposition was not found"
      [("disposition_code", .str dispositionCode)])

/-- `UPDATE inspection_lots SET status=..`, with its history. -/
def moveInspection (tables : QualityTables) (inspectionId : Nat) (inspection : InspectionLot)
    (status : InspectionStatus) (action evidence : String) : QualityTables :=
  let inspections := tables.inspections.updateAt inspectionId (fun _ => true) fun row =>
    { row with status }
  qualityHistory env { tables with inspections } "inspection_lot" inspection.inspectionLotCode
    (some inspection.status.text) status.text action evidence actor

/-- `UPDATE quality_holds SET status=.. WHERE inspection_lot_id=.. AND status='open'`. -/
def resolveHolds (tables : QualityTables) (inspectionId : Nat) (status : QualityHoldStatus)
    (evidence : String) : QualityTables :=
  { tables with
    holds := tables.holds.updateWhere
      (fun hold => hold.inspectionLotId = inspectionId && hold.status = .open) fun hold =>
      { hold with
        status, resolvedBy := some actor, resolutionEvidenceReference := some evidence
        resolvedAt := some env.now } }

def applyDisposition (tables : QualityTables) (type : DispositionType) (inspectionId : Nat)
    (inspection : InspectionLot) (evidence : String) : QualityTables :=
  match type with
  | .useAsIs => tables
  | .rework => moveInspection env actor tables inspectionId inspection .reworkRequired
      "rework-disposition" evidence
  | .scrap | .returnToSupplier => resolveHolds env actor
      (moveInspection env actor tables inspectionId inspection .dispositioned type.text evidence)
      inspectionId .disposed evidence

def DispositionType.closesLot : DispositionType → Bool
  | .scrap | .returnToSupplier => true
  | .useAsIs | .rework => false

def approveDisposition (dispositionCode : String) (payload : AuthorizationIn) :
    Except Fault (Json × QualityStore) := do
  let (id, disposition) ← requireDisposition db.tables dispositionCode
  if disposition.status = .approved then
    unchanged db (formatDisposition db.tables db.stock id)
  else qualified env db actor fun tables => do
    let evidence := payload.authorizationReference.value
    check (disposition.status = .proposed) (qualityError 409 "INVALID_QUALITY_TRANSITION"
      "only a proposed disposition can be approved" [("status", .str disposition.status.text)])
    let nc ← orFault (tables.nonconformances.find? disposition.nonconformanceId)
      (.runtime "'NoneType' object is not iterable")
    let inspection ← orFault (tables.inspections.find? nc.inspectionLotId)
      (.runtime "'NoneType' object is not iterable")
    let dispositions := tables.dispositions.updateAt id (·.status = .proposed) fun row =>
      { row with
        status := .approved, approvedBy := some actor, authorizationReference := some evidence
        approvedAt := some env.now }
    let nonconformances := tables.nonconformances.updateAt disposition.nonconformanceId
      (fun _ => true) fun row => { row with status := .dispositioned }
    let applied := applyDisposition env actor { tables with dispositions, nonconformances }
      disposition.dispositionType nc.inspectionLotId inspection evidence
    let stock := if disposition.dispositionType.closesLot then closeLot db.stock nc.lotId
      else db.stock
    let tables' := qualityHistory env applied "quality_disposition" dispositionCode
      (some "proposed") "approved" "approve" evidence actor
    return ⟨tables', stock, "quality:disposition-approved", "quality_disposition", dispositionCode,
      .obj [("disposition_type", .str disposition.dispositionType.text),
        ("nc_code", .str nc.ncCode),
        ("authorization_reference", .str evidence)], formatDisposition tables' stock id⟩

def useAsIsDispositions (tables : QualityTables) (inspectionId : Nat) : List QualityDisposition :=
  tables.dispositions.rows.filter fun disposition =>
    disposition.dispositionType = .useAsIs &&
      ((tables.nonconformances.find? disposition.nonconformanceId).any
        (·.inspectionLotId = inspectionId))

/-- The check of `release_inspection` on the status of the inspection. -/
def requireReleasable (tables : QualityTables) (inspectionId : Nat) (inspection : InspectionLot) :
    Except Fault Unit :=
  match inspection.status with
  | .passed => .ok ()
  | .failed => do
    check (useAsIsDispositions tables inspectionId ≠ []) (qualityError 409 "DISPOSITION_REQUIRED"
      "failed inspection requires a quality disposition before release")
    check ((useAsIsDispositions tables inspectionId).any (·.status = .approved) = true)
      (qualityError 409 "DISPOSITION_NOT_APPROVED"
        "use-as-is disposition requires separate approval before release")
  | status => .error (qualityError 409 "INSPECTION_NOT_RELEASABLE"
      "inspection is not in a releasable state" [("status", .str status.text)])

def releaseInspection (inspectionLotCode : String) (payload : AuthorizationIn) :
    Except Fault (Json × QualityStore) := do
  let (id, inspection) ← requireInspection db.tables inspectionLotCode
  if inspection.status = .released then unchanged db (formatInspection env db.tables db.stock id)
  else qualified env db actor fun tables => do
    let evidence := payload.authorizationReference.value
    requireReleasable tables id inspection
    let inspections := tables.inspections.updateAt id (fun _ => true) fun row =>
      { row with
        status := .released, releasedBy := some actor
        releaseAuthorizationReference := some evidence, releasedAt := some env.now }
    check (tables.holds.count (fun hold => hold.inspectionLotId = id && hold.status = .open) = 1)
      (qualityError 409 "QUALITY_HOLD_NOT_OPEN"
        "inspection release requires one open quality hold")
    let released := resolveHolds env actor { tables with inspections } id .released evidence
    let tables' := qualityHistory env released "inspection_lot" inspectionLotCode
      (some inspection.status.text) "released" "release" evidence actor
    return ⟨tables', db.stock, "quality:inspection-released", "inspection_lot", inspectionLotCode,
      .obj [("from_status", .str inspection.status.text),
        ("authorization_reference", .str evidence)], formatInspection env tables' db.stock id⟩

def createCapa (ncCode : String) (payload : CapaIn) : Except Fault (Json × QualityStore) :=
  qualified env db actor fun tables => do
    let (ncId, _) ← requireNonconformance tables ncCode
    let capas ← insertQuality tables.capas (·.capaCode = payload.capaCode.value)
      { capaCode := payload.capaCode.value, nonconformanceId := ncId
        problemStatement := payload.problemStatement.value, rootCause := payload.rootCause.value
        actionPlan := payload.actionPlan.value, dueAt := payload.dueAt, status := .open
        evidenceReference := payload.evidenceReference.value, createdBy := actor
        createdAt := env.now, verificationReference := none, effectivenessResult := none
        completedBy := none, completedAt := none }
      "DUPLICATE_CAPA" "CAPA code already exists"
    let tables' := qualityHistory env { tables with capas } "capa" payload.capaCode.value none
      "open" "open" payload.evidenceReference.value actor
    return ⟨tables', db.stock, "quality:capa-opened", "capa", payload.capaCode.value,
      payload.json ncCode, formatCapa tables' tables.capas.nextId⟩

def completeCapa (capaCode : String) (payload : CapaCompleteIn) :
    Except Fault (Json × QualityStore) := do
  let (id, capa) ← orFault (db.tables.capas.first? (·.capaCode = capaCode))
    (qualityError 404 "CAPA_NOT_FOUND" "CAPA record was not found")
  if capa.status = .completed then unchanged db (formatCapa db.tables id)
  else qualified env db actor fun tables => do
    check (capa.status = .open) (qualityError 409 "INVALID_QUALITY_TRANSITION"
      "only an open CAPA can be completed")
    let capas := tables.capas.updateAt id (fun _ => true) fun row =>
      { row with
        status := .completed, verificationReference := some payload.verificationReference.value
        effectivenessResult := some payload.effectivenessResult.value, completedBy := some actor
        completedAt := some env.now }
    let tables' := qualityHistory env { tables with capas } "capa" capaCode (some "open")
      "completed" "complete" payload.verificationReference.value actor
    return ⟨tables', db.stock, "quality:capa-completed", "capa", capaCode, payload.json,
      formatCapa tables' id⟩

end MiniOgas
