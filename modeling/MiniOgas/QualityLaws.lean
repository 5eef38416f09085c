import MiniOgas.InspectionSound

namespace MiniOgas

section QualityAuthority

open Relational Serial

/-- The operations of `QualityRepository` that write, and those of the stock
authority, which share the lots with them. -/
inductive QualityOperation where
  | createGauge (payload : GaugeIn)
  | createPlan (payload : InspectionPlanIn)
  | transitionPlan (planCode : String) (revision : Int) (target : PlanTarget)
      (payload : QualityActionIn)
  | createInspection (payload : InspectionLotIn)
  | recordMeasurement (inspectionLotCode : String) (payload : MeasurementIn)
  | createDisposition (ncCode : String) (payload : DispositionIn)
  | approveDisposition (dispositionCode : String) (payload : AuthorizationIn)
  | releaseInspection (inspectionLotCode : String) (payload : AuthorizationIn)
  | createCapa (ncCode : String) (payload : CapaIn)
  | completeCapa (capaCode : String) (payload : CapaCompleteIn)
  | stock (operation : StockOperation)

structure QualityCall where
  env : QualityEnv
  maintenance : MaintenanceTables
  actor : String
  operation : QualityOperation

def QualityCall.stockEnv (call : QualityCall) (db : QualityStore) : StockEnv :=
  ⟨call.env.now, call.env.uoms, call.env.materials, call.env.execution, call.maintenance,
    db.tables.openHold, call.env.auditAccepted⟩

def QualityCall.attempt (call : QualityCall) (db : QualityStore) :
    Except Fault (Json × QualityStore) :=
  match call.operation with
  | .createGauge payload => createGauge call.env db call.actor payload
  | .createPlan payload => createPlan call.env db call.actor payload
  | .transitionPlan code revision target payload =>
    transitionPlan call.env db call.actor code revision target payload
  | .createInspection payload => createInspection call.env db call.actor payload
  | .recordMeasurement code payload => recordMeasurement call.env db call.actor code payload
  | .createDisposition code payload => createDisposition call.env db call.actor code payload
  | .approveDisposition code payload => approveDisposition call.env db call.actor code payload
  | .releaseInspection code payload => releaseInspection call.env db call.actor code payload
  | .createCapa code payload => createCapa call.env db call.actor code payload
  | .completeCapa code payload => completeCapa call.env db call.actor code payload
  | .stock operation => do
    let (response, store) ← operation.perform (call.stockEnv db) call.actor
      ⟨db.stock, db.auditLogs⟩
    return (response, ⟨db.tables, store.tables, store.auditLogs⟩)

def qualityAuthority : Authority QualityCall QualityStore Json Fault := ⟨QualityCall.attempt⟩

end QualityAuthority

open Relational Serial

structure Approval (operation : QualityOperation) (tables : QualityTables)
    (disposition : QualityDisposition) (inspectionId : Nat) (inspection : InspectionLot) where
  dispositionCode : String
  payload : AuthorizationIn
  dispositionId : Nat
  nc : Nonconformance
  called : operation = .approveDisposition dispositionCode payload
  required : requireDisposition tables dispositionCode = .ok (dispositionId, disposition)
  proposed : disposition.status = .proposed
  foundNc : tables.nonconformances.find? disposition.nonconformanceId = some nc
  ofInspection : nc.inspectionLotId = inspectionId
  found : tables.inspections.find? inspectionId = some inspection

def QualityHold.isOpenOf (hold : QualityHold) (inspectionId : Nat) : Bool :=
  hold.inspectionLotId = inspectionId && hold.status = .open

/-- The open holds of an inspection are resolved, and nothing else changes. -/
def HoldsResolved (holds holds' : Table QualityHold) (inspectionId : Nat) : Prop :=
  ∃ resolve : QualityHold → QualityHold,
    (∀ hold, (resolve hold).inspectionLotId = hold.inspectionLotId ∧
      (resolve hold).status ≠ .open) ∧
    holds' = holds.updateWhere (·.isOpenOf inspectionId) resolve

inductive QualityEffect (operation : QualityOperation) (tables tables' : QualityTables) : Prop
  | kept (inspections : tables'.inspections = tables.inspections)
      (holds : tables'.holds = tables.holds)
  | opened (inspection : InspectionLot) (hold : QualityHold) (status : inspection.status = .open)
      (isOpen : hold.status = .open) (ofNew : hold.inspectionLotId = tables.inspections.nextId)
      (inspections : tables'.inspections = tables.inspections.insert inspection)
      (holds : tables'.holds = tables.holds.insert hold)
  | evaluated (id : Nat) (row row' : InspectionLot) (found : tables.inspections.find? id = some row)
      (status : row.status = .open) (judged : row'.status = .passed ∨ row'.status = .failed)
      (inspections : tables'.inspections = tables.inspections.set id row')
      (holds : tables'.holds = tables.holds)
  | reworked (disposition : QualityDisposition) (id : Nat) (row row' : InspectionLot)
      (approval : Approval operation tables disposition id row)
      (type : disposition.dispositionType = .rework) (status : row'.status = .reworkRequired)
      (inspections : tables'.inspections = tables.inspections.set id row')
      (holds : tables'.holds = tables.holds)
  | disposed (disposition : QualityDisposition) (id : Nat) (row row' : InspectionLot)
      (approval : Approval operation tables disposition id row)
      (type : disposition.dispositionType.closesLot = true) (status : row'.status = .dispositioned)
      (inspections : tables'.inspections = tables.inspections.set id row')
      (holds : HoldsResolved tables.holds tables'.holds id)
  | released (id : Nat) (row row' : InspectionLot) (found : tables.inspections.find? id = some row)
      (judged : row.status = .passed ∨ row.status = .failed) (status : row'.status = .released)
      (inspections : tables'.inspections = tables.inspections.set id row')
      (holds : HoldsResolved tables.holds tables'.holds id)

def QualityEffects (operation : QualityOperation) (tables tables' : QualityTables) : Prop :=
  QualityEffect operation tables tables' ∧ VerdictStep tables tables'

variable {env : QualityEnv} {db db' : QualityStore} {actor : String} {response : Json}
  {operation : QualityOperation} {tables tables' : QualityTables} {id planId : Nat}
  {row row' : InspectionLot} {measurement : QualityMeasurement}
  {characteristic : QualityCharacteristic} {code : String} {payload : AuthorizationIn}
  {call : QualityCall}

theorem VerdictStep.of_same (plans : tables'.plans.nextId = tables.plans.nextId)
    (characteristics : tables'.characteristics = tables.characteristics)
    (inspections : tables'.inspections = tables.inspections)
    (measurements : tables'.measurements = tables.measurements)
    (nonconformances : tables'.nonconformances = tables.nonconformances) :
    VerdictStep tables tables' := by
  refine .moved (.of_same plans characteristics) measurements (fun id => ?_) (.of_same inspections)
  rw [QualityTables.found, nonconformances, QualityTables.found]

theorem QualityEffects.of_same (operation : QualityOperation) (tables : QualityTables) :
    QualityEffects operation tables tables :=
  ⟨.kept rfl rfl, .of_same rfl rfl rfl rfl rfl⟩

theorem resolveHolds_resolved (env : QualityEnv) (actor : String) (tables : QualityTables)
    (inspectionId : Nat) {status : QualityHoldStatus} (evidence : String)
    (closing : status ≠ .open) :
    HoldsResolved tables.holds (resolveHolds env actor tables inspectionId status evidence).holds
      inspectionId :=
  ⟨fun hold => { hold with
      status, resolvedBy := some actor, resolutionEvidenceReference := some evidence
      resolvedAt := some env.now }, fun _ => ⟨rfl, closing⟩, rfl⟩

/-- What holds of a call whenever it succeeds. -/
def Qualifies (operation : QualityOperation) (db : QualityStore)
    (call : Except Fault (Json × QualityStore)) : Prop :=
  ∀ response db', call = .ok (response, db') → QualityEffects operation db.tables db'.tables

theorem qualified_effect {body : QualityTables → Except Fault QualityOutcome}
    (run : ∀ outcome, body db.tables = .ok outcome →
      QualityEffects operation db.tables outcome.tables) :
    Qualifies operation db (qualified env db actor body) := by
  intro response db' h
  obtain ⟨outcome, hbody, hdb, -⟩ := qualified_tables h
  rw [← hdb]
  exact run outcome hbody

theorem unless_effect {settled : Prop} [Decidable settled] {read : Except Fault Json}
    {call : Except Fault (Json × QualityStore)} (run : Qualifies operation db call) :
    Qualifies operation db (if settled then unchanged db read else call) := by
  split
  next =>
    intro response db' h
    rw [unchanged_eq_ok h]
    exact .of_same _ _
  next => exact run

theorem createInspection_effect {payload : InspectionLotIn} :
    Qualifies operation db (createInspection env db actor payload) := by
  refine qualified_effect fun outcome h => ?_
  obtain ⟨⟨planId, plan⟩, required, h⟩ := of_bind h
  replace h := of_then h
  obtain ⟨⟨lotId, lot⟩, -, h⟩ := of_bind h
  replace h := of_then (of_then h)
  obtain ⟨⟨locationId, location⟩, -, h⟩ := of_bind h
  replace h := of_then (of_then (of_then h))
  obtain ⟨inspections, hinspections, h⟩ := of_bind h
  obtain ⟨holds, hholds, h⟩ := of_bind h
  cases h
  obtain ⟨-, rfl⟩ := insertQuality_eq_ok.mp hinspections
  obtain ⟨-, hholds⟩ := insertQuality_eq_ok.mp hholds
  have there := (Table.first?_spec (orFault_eq_ok.mp required)).1
  refine ⟨.opened _ _ rfl rfl rfl rfl hholds.symm, .moved (.of_same rfl rfl) rfl (fun _ => rfl)
    ⟨(Table.nextId_insert _ _).symm ▸ Nat.le_succ _, fun id row old => ⟨row,
      Table.find?_insert_of_find? _ old, rfl, .inl rfl⟩, fun id row now none => ?_⟩⟩
  have now := (Table.find?_insert _ _ _).symm.trans now
  rw [none] at now
  split at now
  next =>
    cases now
    exact ⟨rfl, Table.pos_of_find? there, Table.lt_nextId_of_find? there⟩
  next => cases now

theorem meets_satisfies {value : MeasurementValue} {passed : Bool}
    (h : meets characteristic value = some passed)
    (numeric : measurement.numericValue = value.numericValue)
    (boolean : measurement.booleanValue = value.booleanValue)
    (text : measurement.textValue = value.textValue) :
    passed = true ↔ measurement.Satisfies characteristic := by
  have spelled : measurement.Satisfies characteristic ↔ _ ∧ _ ∧ _ :=
    ⟨fun h => ⟨h.numeric, h.boolean, h.text⟩, fun h => ⟨h.1, h.2.1, h.2.2⟩⟩
  unfold meets at h
  split at h
  all_goals
    rename_i type
    obtain ⟨measured, there, rfl⟩ := Option.map_eq_some_iff.mp h
    simp [spelled, type, numeric, boolean, text, there]
  all_goals exact eq_comm

theorem openNonconformance_effect {evidence : String}
    (h : openNonconformance env actor tables id row evidence = .ok tables') :
    tables'.holds = tables.holds ∧ tables'.plans = tables.plans ∧
      tables'.characteristics = tables.characteristics ∧
      tables'.inspections = tables.inspections ∧ tables'.measurements = tables.measurements ∧
      ∀ j, tables'.found j = tables.found j + if j = id then 1 else 0 := by
  obtain ⟨nonconformances, inserted, h⟩ := of_bind h
  cases h
  obtain ⟨-, rfl⟩ := insertQuality_eq_ok.mp inserted
  refine ⟨rfl, rfl, rfl, rfl, rfl, fun j => ?_⟩
  refine (Table.count_insert tables.nonconformances _ _).trans ?_
  by_cases same : j = id
  · simp [QualityTables.found, same]
  · simp [QualityTables.found, same, Ne.symm same]

theorem evaluateInspection_effect {evidence : String}
    (h : evaluateInspection env actor tables id row evidence = .ok tables')
    (there : tables.inspections.find? id = some row) (isOpen : row.status = .open) :
    tables'.holds = tables.holds ∧ tables'.plans = tables.plans ∧
      tables'.characteristics = tables.characteristics ∧
      tables'.measurements = tables.measurements ∧
      ∃ row' : InspectionLot, row'.inspectionPlanId = row.inspectionPlanId ∧
        (row'.status = if tables.measured id < tables.required row.inspectionPlanId then .open
          else if tables.failures id = 0 then .passed else .failed) ∧
        tables'.inspections = tables.inspections.set id row' ∧
        ((row'.status = .passed ∨ row'.status = .failed) ∨
          tables'.inspections = tables.inspections) ∧
        ∀ j, tables'.found j =
          tables.found j + if j = id ∧ row'.status = .failed then 1 else 0 := by
  change (if tables.measured id < tables.required row.inspectionPlanId then _ else _) = _ at h
  split at h
  next few =>
    cases h
    refine ⟨rfl, rfl, rfl, rfl, row, rfl, by rw [if_pos few, isOpen], ?_, .inr rfl,
      by simp [isOpen]⟩
    refine Table.ext_find? fun j => ?_
    rw [Table.find?_set]
    split
    next same => rw [same, there]; rfl
    next => rfl
  next enough =>
    have written (f : InspectionLot → InspectionLot) :
        tables.inspections.updateAt id (·.status = .open) f = tables.inspections.set id (f row) :=
      Table.updateAt_eq_set there (decide_eq_true isOpen)
    have target : (if tables.failures id = 0 then InspectionStatus.passed else .failed) = .passed ∨
        (if tables.failures id = 0 then InspectionStatus.passed else .failed) = .failed := by
      split
      · exact .inl rfl
      · exact .inr rfl
    change (if tables.failures id = 0 then _ else _) = _ at h
    split at h
    next none =>
      cases h
      refine ⟨rfl, rfl, rfl, rfl, _, ?_, ?_, written _, .inl target, fun j => ?_⟩
      · rfl
      · rw [if_neg enough]
        rfl
      · show tables.found j = tables.found j + if j = id ∧
          (if tables.failures id = 0 then InspectionStatus.passed else .failed) = .failed
            then 1 else 0
        simp [none]
    next some =>
      obtain ⟨holds, plans, characteristics, inspections, measurements, found⟩ :=
        openNonconformance_effect h
      refine ⟨holds, plans, characteristics, measurements, _, ?_, ?_,
        inspections.trans (written _), .inl target, fun j => ?_⟩
      · rfl
      · rw [if_neg enough]
        rfl
      · rw [found]
        show tables.found j + _ = tables.found j + if j = id ∧
          (if tables.failures id = 0 then InspectionStatus.passed else .failed) = .failed
            then 1 else 0
        simp [some]

theorem recordMeasurement_effect {payload : MeasurementIn} :
    Qualifies operation db (recordMeasurement env db actor code payload) := by
  intro response db' h
  unfold recordMeasurement at h
  split at h
  next =>
    rw [unchanged_eq_ok (of_then h)]
    exact .of_same _ _
  next =>
    refine qualified_effect (fun outcome h => ?_) _ _ h
    obtain ⟨⟨id, row⟩, required, h⟩ := of_bind h
    obtain ⟨_, isOpen, h⟩ := of_bind h
    obtain ⟨characteristic, asked, h⟩ := of_bind h
    obtain ⟨⟨gaugeId, personnelId, result⟩, valid, h⟩ := of_bind h
    obtain ⟨measurements, inserted, h⟩ := of_bind h
    obtain ⟨evaluated, hevaluated, h⟩ := of_bind h
    cases h
    obtain ⟨fresh, rfl⟩ := insertQuality_eq_ok.mp inserted
    have there := (Table.first?_spec (orFault_eq_ok.mp required)).1
    have isOpen := check_eq_ok.mp isOpen
    obtain ⟨⟨characteristicId, asks⟩, first, asked⟩ := of_bind asked
    obtain ⟨known, planned⟩ := Table.first?_spec (orFault_eq_ok.mp first)
    obtain ⟨skill, -, fact⟩ := Option.bind_eq_some_iff.mp (orFault_eq_ok.mp asked)
    cases fact
    rw [Bool.and_eq_true, decide_eq_true_eq] at planned
    obtain ⟨_, inRange, valid⟩ := of_bind valid
    replace valid := of_then (of_then valid)
    obtain ⟨passed, satisfied, valid⟩ := of_bind valid
    repeat obtain ⟨_, -, valid⟩ := of_bind valid
    obtain ⟨-, -, rfl⟩ : _ = gaugeId ∧ _ = personnelId ∧ _ = result := by
      simpa using Except.ok.inj valid
    obtain ⟨holds, plans, characteristics, same, row', plan, status, inspections, judged, found⟩ :=
      evaluateInspection_effect hevaluated there isOpen
    refine ⟨?_, .measured there isOpen rfl ⟨known, planned.1,
      payload.sampleIndex_pos, check_eq_ok.mp inRange, ?_⟩ ?_ plan ?_ (by rw [plans])
      characteristics inspections same found⟩
    · rcases judged with judged | few
      · exact .evaluated id row row' there isOpen judged inspections holds
      · exact .kept few holds
    · rw [← meets_satisfies (orFault_eq_ok.mp satisfied) rfl rfl rfl]
      cases passed <;> simp
    · intro member
      obtain ⟨other, own, same⟩ := List.mem_map.mp member
      obtain ⟨own, lot⟩ := List.mem_filter.mp own
      obtain ⟨sameId, sameIndex⟩ := Prod.mk.inj same
      have free := List.any_eq_false.mp fresh other own
      simp [lot, sameId, sameIndex] at free
    · obtain ⟨measured, failures, -⟩ := counts_congr same id
      rw [measured, failures, required_congr characteristics]
      exact status

theorem approveDisposition_effect (called : operation = .approveDisposition code payload) :
    Qualifies operation db (approveDisposition env db actor code payload) := by
  intro response db' h
  obtain ⟨⟨id, disposition⟩, required, h⟩ := of_bind h
  refine unless_effect (qualified_effect fun outcome h => ?_) _ _ h
  obtain ⟨_, proposed, h⟩ := of_bind h
  obtain ⟨nc, hnc, h⟩ := of_bind h
  obtain ⟨inspection, hinspection, h⟩ := of_bind h
  cases h
  have there := orFault_eq_ok.mp hinspection
  have noted := orFault_eq_ok.mp hnc
  have approval : Approval operation db.tables disposition nc.inspectionLotId inspection :=
    ⟨code, payload, id, nc, called, required, check_eq_ok.mp proposed, noted, rfl, there⟩
  have written (f : InspectionLot → InspectionLot) :
      db.tables.inspections.updateAt nc.inspectionLotId (fun _ => true) f =
        db.tables.inspections.set nc.inspectionLotId (f inspection) :=
    Table.updateAt_eq_set there rfl
  have found (id : Nat) : (db.tables.nonconformances.updateAt disposition.nonconformanceId
      (fun _ => true) fun row => { row with status := .dispositioned }).count
        (·.inspectionLotId = id) = db.tables.found id := by
    rw [Table.updateAt_eq_set noted rfl]
    exact Table.count_set noted rfl
  have left : db.tables.found nc.inspectionLotId ≠ 0 := by
    rw [QualityTables.found, Ne, Table.count_eq_zero_iff]
    intro none
    exact absurd rfl (of_decide_eq_false (none _ nc noted))
  have moves (tables : QualityTables) (status : InspectionStatus)
      (inspections : tables.inspections =
        db.tables.inspections.set nc.inspectionLotId { inspection with status })
      (later : status ≠ .open ∧ status ≠ .passed ∧ status ≠ .failed) :
      InspectionsMove db.tables tables :=
    .set there inspections rfl (.inr left) later
  cases htype : disposition.dispositionType with
  | useAsIs => exact ⟨.kept rfl rfl, .moved (.of_same rfl rfl) rfl found (.of_same rfl)⟩
  | rework =>
    exact ⟨.reworked disposition _ inspection _ approval htype rfl (written _) rfl,
      .moved (.of_same rfl rfl) rfl found (moves _ .reworkRequired (written _) (by decide))⟩
  | scrap | returnToSupplier =>
    exact ⟨.disposed disposition _ inspection _ approval (by rw [htype]; rfl) rfl (written _)
      (resolveHolds_resolved env actor _ _ _ (by decide)),
      .moved (.of_same rfl rfl) rfl found (moves _ .dispositioned (written _) (by decide))⟩

theorem requireReleasable_status {inspectionId : Nat} {inspection : InspectionLot} {u : Unit}
    (h : requireReleasable tables inspectionId inspection = .ok u) :
    inspection.status = .passed ∨ inspection.status = .failed := by
  unfold requireReleasable at h
  split at h
  next passed => exact .inl passed
  next failed => exact .inr failed
  next => cases h

theorem releaseInspection_effect :
    Qualifies operation db (releaseInspection env db actor code payload) := by
  intro response db' h
  obtain ⟨⟨id, inspection⟩, required, h⟩ := of_bind h
  refine unless_effect (qualified_effect fun outcome h => ?_) _ _ h
  obtain ⟨_, releasable, h⟩ := of_bind h
  replace h := of_then h
  cases h
  have there := (Table.first?_spec (orFault_eq_ok.mp required)).1
  have judged := requireReleasable_status releasable
  refine ⟨.released id inspection _ there judged rfl (Table.updateAt_eq_set there rfl)
    (resolveHolds_resolved env actor _ _ _ (by decide)),
    .moved (.of_same rfl rfl) rfl (fun _ => rfl)
    (.set there (Table.updateAt_eq_set there rfl) rfl (.inl ?_) (by simp))⟩
  intro isOpen
  rw [isOpen] at judged
  exact judged.elim nofun nofun

theorem insertCharacteristics_effect {payload : List CharacteristicIn}
    {before after : Table QualityCharacteristic}
    (h : payload.foldlM (insertCharacteristic env actor planId) before = .ok after) :
    ∃ rows : List QualityCharacteristic, rows.length = payload.length ∧
      (∀ row ∈ rows, row.inspectionPlanId = planId ∧ 1 ≤ row.sampleSize) ∧
      after = before.insertAll rows := by
  induction payload generalizing before with
  | nil =>
    cases h
    exact ⟨[], rfl, by simp, (Table.insertAll_nil _).symm⟩
  | cons item payload ih =>
    obtain ⟨next, inserted, h⟩ := of_bind h
    obtain ⟨uomId, -, inserted⟩ := of_bind inserted
    obtain ⟨⟨skillId, _⟩, -, inserted⟩ := of_bind inserted
    obtain ⟨-, rfl⟩ := insertQuality_eq_ok.mp inserted
    obtain ⟨rows, length, own, rfl⟩ := ih h
    refine ⟨_ :: rows, by rw [List.length_cons, length, List.length_cons], ?_,
      Table.insertAll_insert _ _ _⟩
    intro row member
    rcases List.mem_cons.mp member with rfl | member
    · exact ⟨rfl, item.sampleSize_bounds.1⟩
    · exact own row member

theorem createPlan_effect {payload : InspectionPlanIn} :
    Qualifies operation db (createPlan env db actor payload) := by
  refine qualified_effect fun outcome h => ?_
  obtain ⟨⟨materialId, _⟩, -, h⟩ := of_bind h
  obtain ⟨plans, hplans, h⟩ := of_bind h
  obtain ⟨characteristics, inserted, h⟩ := of_bind h
  cases h
  obtain ⟨-, rfl⟩ := insertQuality_eq_ok.mp hplans
  obtain ⟨rows, length, own, rows_eq⟩ := insertCharacteristics_effect inserted
  refine ⟨.kept rfl rfl, .moved (.insertAll ?_ own (Table.nextId_insert _ _) rows_eq)
    rfl (fun _ => rfl) (.of_same rfl)⟩
  rintro rfl
  have := payload.characteristics_bounds.1
  rw [← length] at this
  exact absurd this (by simp)

theorem transitionPlan_effect {planCode : String} {revision : Int} {target : PlanTarget}
    {payload : QualityActionIn} :
    Qualifies operation db (transitionPlan env db actor planCode revision target payload) := by
  intro response db' h
  obtain ⟨⟨id, plan⟩, -, h⟩ := of_bind h
  refine unless_effect (qualified_effect fun outcome h => ?_) _ _ h
  replace h := of_then h
  cases h
  cases target with
  | approved => exact ⟨.kept rfl rfl, .of_same (Table.nextId_updateAt _ _ _ _) rfl rfl rfl rfl⟩
  | effective =>
    unfold supersede
    dsimp only
    split
    next => exact ⟨.kept rfl rfl, .of_same (Table.nextId_updateAt _ _ _ _) rfl rfl rfl rfl⟩
    next =>
      exact ⟨.kept rfl rfl, .of_same ((Table.nextId_updateAt _ _ _ _).trans
        (Table.nextId_set _ _ _)) rfl rfl rfl rfl⟩

theorem completeCapa_effect {capaCode : String} {payload : CapaCompleteIn} :
    Qualifies operation db (completeCapa env db actor capaCode payload) := by
  intro response db' h
  obtain ⟨⟨id, capa⟩, -, h⟩ := of_bind h
  refine unless_effect (qualified_effect fun outcome h => ?_) _ _ h
  replace h := of_then h
  cases h
  exact ⟨.kept rfl rfl, .of_same rfl rfl rfl rfl rfl⟩

theorem quality_effects (h : call.attempt db = .ok (response, db')) :
    QualityEffects call.operation db.tables db'.tables := by
  unfold QualityCall.attempt at h
  split at h
  case h_1 | h_6 | h_9 =>
    refine qualified_effect (fun outcome h => ?_) _ _ h
    repeat obtain ⟨_, -, h⟩ := of_bind h
    cases h
    exact ⟨.kept rfl rfl, .of_same rfl rfl rfl rfl rfl⟩
  next => exact createPlan_effect _ _ h
  next => exact transitionPlan_effect _ _ h
  next => exact createInspection_effect _ _ h
  next => exact recordMeasurement_effect _ _ h
  next code payload called => exact approveDisposition_effect called _ _ h
  next => exact releaseInspection_effect _ _ h
  next => exact completeCapa_effect _ _ h
  next =>
    obtain ⟨⟨response, store⟩, -, h⟩ := of_bind h
    cases h
    exact ⟨.kept rfl rfl, .of_same rfl rfl rfl rfl rfl⟩

theorem quality_effect (h : call.attempt db = .ok (response, db')) :
    QualityEffect call.operation db.tables db'.tables :=
  (quality_effects h).1

def InspectionStatus.settled : InspectionStatus → Bool
  | .released | .dispositioned => true
  | .open | .passed | .failed | .reworkRequired | .cancelled => false

def QualityTables.openHolds (tables : QualityTables) (inspectionId : Nat) : Nat :=
  tables.holds.count (·.isOpenOf inspectionId)

structure HoldCoupling (tables : QualityTables) : Prop where
  fresh : ∀ id, tables.inspections.nextId ≤ id → tables.openHolds id = 0
  coupled : ∀ id inspection, tables.inspections.find? id = some inspection →
    tables.openHolds id = if inspection.status.settled then 0 else 1

def SettledKept (tables tables' : QualityTables) : Prop :=
  ∀ id inspection, tables.inspections.find? id = some inspection →
    inspection.status.settled = true → ∃ inspection',
      tables'.inspections.find? id = some inspection' ∧ inspection'.status = inspection.status

/-- A rework disposition is approved only of an inspection that is not over, and
a disposition that closes the lot only of one that is not released. -/
def Orderly (db : QualityStore) (call : QualityCall) : Prop :=
  ∀ disposition inspectionId inspection,
    Approval call.operation db.tables disposition inspectionId inspection →
    (disposition.dispositionType = .rework → inspection.status ≠ .released ∧
      inspection.status ≠ .dispositioned) ∧
    (disposition.dispositionType.closesLot = true → inspection.status ≠ .released)

variable {j : Nat}

theorem holdCoupling_empty : HoldCoupling .empty where
  fresh := fun _ _ => rfl
  coupled := fun _ _ found => by simp [QualityTables.empty] at found

theorem isOpenOf_iff {hold : QualityHold} :
    hold.isOpenOf id = true ↔ hold.inspectionLotId = id ∧ hold.status = .open := by
  simp [QualityHold.isOpenOf]

theorem HoldsResolved.openHolds (resolved : HoldsResolved tables.holds tables'.holds id) :
    tables'.openHolds j = if j = id then 0 else tables.openHolds j := by
  obtain ⟨resolve, closes, holds⟩ := resolved
  rw [QualityTables.openHolds, holds, Table.count_updateWhere]
  split
  next same =>
    subst same
    rw [Table.count_eq_zero_iff]
    intro holdId hold _
    split
    next =>
      rw [Bool.eq_false_iff]
      intro isOpen
      exact (closes hold).2 (isOpenOf_iff.mp isOpen).2
    next outside => simpa using outside
  next other =>
    have outside : ∀ hold : QualityHold, hold.inspectionLotId = id → hold.isOpenOf j = false := by
      intro hold owner
      rw [Bool.eq_false_iff]
      intro isOpen
      exact other ((isOpenOf_iff.mp isOpen).1.symm.trans owner)
    refine Table.count_congr fun hold => ?_
    split
    next ofInspection =>
      have owner := (isOpenOf_iff.mp ofInspection).1
      rw [outside _ ((closes hold).1.trans owner), outside hold owner]
    next => rfl

theorem HoldCoupling.set (coupled : HoldCoupling tables)
    (found : tables.inspections.find? id = some row)
    (inspections : tables'.inspections = tables.inspections.set id row')
    (others : ∀ j, j ≠ id → tables'.openHolds j = tables.openHolds j)
    (own : tables'.openHolds id = if row'.status.settled then 0 else 1) : HoldCoupling tables' where
  fresh := by
    intro j hj
    rw [inspections, Table.nextId_set] at hj
    have below := Table.lt_nextId_of_find? found
    rw [others j (by omega)]
    exact coupled.fresh j hj
  coupled := by
    intro j inspection hj
    rw [inspections] at hj
    rcases Table.of_find?_set hj with ⟨rfl, rfl⟩ | ⟨other, hj⟩
    · exact own
    · rw [others j other]
      exact coupled.coupled j inspection hj

theorem HoldCoupling.effect {db : QualityStore}
    (coupled : HoldCoupling db.tables)
    (orderly : Orderly db call) (effect : QualityEffect call.operation db.tables tables') :
    HoldCoupling tables' := by
  cases effect with
  | kept inspections holds =>
    refine ⟨?_, ?_⟩
    · rw [inspections]
      simpa only [QualityTables.openHolds, holds] using coupled.fresh
    · rw [inspections]
      simpa only [QualityTables.openHolds, holds] using coupled.coupled
  | opened inspection hold status isOpen ofNew inspections holds =>
    have count : ∀ j, tables'.openHolds j =
        db.tables.openHolds j + if j = db.tables.inspections.nextId then 1 else 0 := by
      simp [QualityTables.openHolds, holds, Table.count_insert, QualityHold.isOpenOf, isOpen, ofNew,
        eq_comm]
    refine ⟨?_, ?_⟩
    · intro j hj
      rw [inspections, Table.nextId_insert] at hj
      rw [count, coupled.fresh j (by omega), if_neg (by omega)]
    · intro j inspection' hj
      rw [inspections] at hj
      rcases Table.of_find?_insert hj with ⟨same, rfl⟩ | hj
      · rw [count, coupled.fresh j same.ge, if_pos same, status]
        rfl
      · rw [count, if_neg (Table.lt_nextId_of_find? hj).ne, coupled.coupled j inspection' hj,
          Nat.add_zero]
  | evaluated id row row' found status judged inspections holds =>
    have same : ∀ j, tables'.openHolds j = db.tables.openHolds j := by
      intro j
      simp only [QualityTables.openHolds, holds]
    refine coupled.set found inspections (fun j _ => same j) ?_
    rw [same, coupled.coupled id row found, status]
    rcases judged with judged | judged <;> rw [judged] <;> rfl
  | reworked disposition id row row' approval type status inspections holds =>
    have same : ∀ j, tables'.openHolds j = db.tables.openHolds j := by
      intro j
      simp only [QualityTables.openHolds, holds]
    refine coupled.set approval.found inspections (fun j _ => same j) ?_
    obtain ⟨unreleased, undisposed⟩ := (orderly disposition id row approval).1 type
    have unsettled : row.status.settled = false := by
      cases h : row.status <;> simp_all [InspectionStatus.settled]
    rw [same, coupled.coupled id row approval.found, status, unsettled]
    rfl
  | disposed disposition id row row' approval type status inspections holds =>
    refine coupled.set approval.found inspections (fun j hj => ?_) ?_
    · rw [holds.openHolds, if_neg hj]
    · rw [holds.openHolds, if_pos rfl, status]
      rfl
  | released id row row' found judged status inspections holds =>
    refine coupled.set found inspections (fun j hj => ?_) ?_
    · rw [holds.openHolds, if_neg hj]
    · rw [holds.openHolds, if_pos rfl, status]
      rfl

theorem settledKept_set (found : tables.inspections.find? id = some row)
    (inspections : tables'.inspections = tables.inspections.set id row')
    (own : row.status.settled = true → row'.status = row.status) : SettledKept tables tables' := by
  intro j inspection hj settled
  rw [inspections, Table.find?_set]
  split
  next same =>
    subst same
    rw [found] at hj
    cases hj
    exact ⟨row', by rw [found]; rfl, own settled⟩
  next => exact ⟨inspection, hj, rfl⟩

theorem SettledKept.effect {db : QualityStore} (orderly : Orderly db call)
    (effect : QualityEffect call.operation db.tables tables') : SettledKept db.tables tables' := by
  cases effect with
  | kept inspections holds =>
    intro j inspection hj _
    exact ⟨inspection, by rw [inspections]; exact hj, rfl⟩
  | opened inspection hold status isOpen ofNew inspections holds =>
    intro j inspection' hj _
    exact ⟨inspection', by rw [inspections]; exact Table.find?_insert_of_find? inspection hj, rfl⟩
  | evaluated id row row' found status judged inspections holds =>
    refine settledKept_set found inspections fun settled => ?_
    simp [status, InspectionStatus.settled] at settled
  | reworked disposition id row row' approval type status inspections holds =>
    refine settledKept_set approval.found inspections fun settled => ?_
    obtain ⟨unreleased, undisposed⟩ := (orderly disposition id row approval).1 type
    cases h : row.status <;> simp_all [InspectionStatus.settled]
  | disposed disposition id row row' approval type status inspections holds =>
    refine settledKept_set approval.found inspections fun settled => ?_
    have unreleased := (orderly disposition id row approval).2 type
    cases h : row.status <;> simp_all [InspectionStatus.settled]
  | released id row row' found judged status inspections holds =>
    refine settledKept_set found inspections fun settled => ?_
    rcases judged with judged | judged <;> simp [judged, InspectionStatus.settled] at settled

/-- An inspection that is not over has exactly one open hold, one that is over has none. -/
def HoldsCoupled (tables : QualityTables) : Prop :=
  ∀ id inspection, tables.inspections.find? id = some inspection →
    (inspection.status = .open ∨ inspection.status = .passed ∨ inspection.status = .failed ∨
        inspection.status = .reworkRequired → tables.openHolds id = 1) ∧
      (inspection.status = .released ∨ inspection.status = .dispositioned →
        tables.openHolds id = 0)

theorem HoldCoupling.holdsCoupled {tables : QualityTables} (coupling : HoldCoupling tables) :
    HoldsCoupled tables := by
  intro id inspection found
  have counted := coupling.coupled id inspection found
  refine ⟨?_, ?_⟩
  · rintro (status | status | status | status) <;> rw [counted, status] <;> rfl
  · rintro (status | status) <;> rw [counted, status] <;> rfl

variable {calls : List QualityCall}

theorem holdCoupling_along (orderly : qualityAuthority.Along Orderly .empty calls) :
    HoldCoupling (qualityAuthority.run .empty calls).tables :=
  Authority.invariant_along (I := fun db : QualityStore => HoldCoupling db.tables)
    (fun coupling orderly h => coupling.effect orderly (quality_effect h)) holdCoupling_empty
    orderly

theorem SettledKept.trans {a b c : QualityTables} (first : SettledKept a b)
    (second : SettledKept b c) : SettledKept a c := by
  intro id inspection found settled
  obtain ⟨mid, foundMid, same⟩ := first id inspection found settled
  obtain ⟨last, foundLast, same'⟩ := second id mid foundMid (by rw [same]; exact settled)
  exact ⟨last, foundLast, same'.trans same⟩

theorem settledKept_along {db : QualityStore} (orderly : qualityAuthority.Along Orderly db calls) :
    SettledKept db.tables (qualityAuthority.run db calls).tables := by
  induction calls generalizing db with
  | nil => exact fun id inspection found _ => ⟨inspection, found, rfl⟩
  | cons call calls ih =>
    rcases qualityAuthority.serve_cases db call with same | ⟨response, h⟩
    · rw [Authority.run_cons, same]
      exact ih (by rw [← same]; exact orderly.2)
    · exact (SettledKept.effect orderly.1 (quality_effect h)).trans (ih orderly.2)

/-- In a run whose approvals are all orderly, the coupling holds in every state,
and inspections that are over stay what they are. -/
theorem holdsCoupled_along (calls later : List QualityCall)
    (orderly : qualityAuthority.Along Orderly .empty (calls ++ later)) :
    HoldsCoupled (qualityAuthority.run .empty calls).tables ∧
      SettledKept (qualityAuthority.run .empty calls).tables
        (qualityAuthority.run .empty (calls ++ later)).tables := by
  obtain ⟨before, after⟩ := Authority.along_append.mp orderly
  refine ⟨(holdCoupling_along before).holdsCoupled, ?_⟩
  rw [Authority.run_append]
  exact settledKept_along after

def sampleQualityEnv : QualityEnv where
  now := 0
  uoms := ⟨[⟨"kg", "mass", 1⟩]⟩
  materials := ⟨[⟨"MAT-1", 1⟩]⟩
  skills := ⟨[⟨"SK-1"⟩]⟩
  personnel := ⟨[⟨"P-1", true⟩]⟩
  qualifications := ⟨[⟨1, 1, 1, 0, 1⟩]⟩
  execution := .empty
  auditAccepted := fun _ => true

def sampleQualityCall (operation : QualityOperation) : QualityCall :=
  ⟨sampleQualityEnv, .empty, "inspector", operation⟩

def sampleName : Text 1 160 := ⟨"sample", by decide +kernel, by decide +kernel⟩

def sampleReason : Text 1 1024 := ⟨"deviation", by decide +kernel, by decide +kernel⟩

def sampleType : Text 1 80 := ⟨"caliper", by decide +kernel, by decide +kernel⟩

/-- One more than `n` units of the lot are received. -/
def sampleMovement (movementId locationCode : String) (n : Nat) : StockOperation :=
  .recordMovement ⟨⟨sampleCode movementId, .receipt, sampleCode "LOT-1", n + 1, none,
    some (sampleCode locationCode), none, none, none, none, .manual, sampleReason,
    sampleReference, 0⟩, quantity_pos n, taskId_none, nofun, rfl⟩

def sampleReceipt : List QualityCall :=
  [StockOperation.createWarehouse ⟨sampleCode "WH-1", sampleName, .raw⟩,
    .createLocation ⟨sampleCode "LOC-1", sampleCode "WH-1", sampleName,
      .storage⟩,
    .createLot ⟨sampleCode "LOT-1", sampleCode "MAT-1", .lot, sampleReference⟩,
    sampleMovement "MV-1" "LOC-1" 9].map
    (sampleQualityCall ∘ .stock)

def sampleFailure (first second : DispositionType) : List QualityCall :=
  [QualityOperation.createGauge ⟨sampleCode "GA-1", sampleName, sampleType, .valid, 0, 1,
      sampleReference, firstPeriod_valid⟩,
    .createPlan ⟨sampleCode "PL-1", 1, sampleName, sampleCode "MAT-1",
      .receiving, none, [⟨⟨sampleCode "CH-1", sampleName, .numeric,
        some (sampleCode "kg"), none, some 1, none, none, none, sampleName, 1, sampleType,
        sampleCode "SK-1", 1⟩, by decide, by decide, by decide +kernel⟩], firstRevision_pos,
      by decide, by decide, by decide⟩,
    .transitionPlan "PL-1" 1 .approved ⟨sampleReference⟩,
    .transitionPlan "PL-1" 1 .effective ⟨sampleReference⟩,
    .createInspection ⟨sampleCode "IN-1", sampleCode "PL-1", 1,
      sampleCode "LOT-1", sampleCode "LOC-1", none, 10, sampleReference, firstRevision_pos,
      taskId_none, by decide⟩,
    .recordMeasurement "IN-1" ⟨sampleCode "ME-1", sampleCode "CH-1", 1,
      .numeric 0, some (sampleCode "kg"), sampleName, sampleCode "GA-1",
      sampleCode "P-1", 0, sampleReference, by decide⟩,
    .createDisposition "IN-1-NC" ⟨sampleCode "DI-1", first, sampleReason,
      sampleReference⟩,
    .createDisposition "IN-1-NC" ⟨sampleCode "DI-2", second, sampleReason,
      sampleReference⟩].map sampleQualityCall

def sampleApproval (dispositionCode : String) : QualityCall :=
  sampleQualityCall (.approveDisposition dispositionCode ⟨sampleReference⟩)

def sampleRelease : QualityCall :=
  sampleQualityCall (.releaseInspection "IN-1" ⟨sampleReference⟩)

/-- Rework is approved before anything else, and then the lot is scrapped. -/
theorem holdsCoupled_along_rework_first :
    HoldsCoupled (qualityAuthority.run .empty (sampleReceipt ++ sampleFailure .rework .scrap ++
        [sampleApproval "DI-1"])).tables ∧
      SettledKept (qualityAuthority.run .empty (sampleReceipt ++ sampleFailure .rework .scrap ++
          [sampleApproval "DI-1"])).tables
        (qualityAuthority.run .empty (sampleReceipt ++ sampleFailure .rework .scrap ++
          [sampleApproval "DI-1"] ++ [sampleApproval "DI-2"])).tables :=
  holdsCoupled_along _ _ (Authority.along_mono (P := fun db _ =>
      db.tables.inspections.any (·.status.settled) = false)
    (fun _ _ unsettled => by
      intro _ id inspection approval
      have := Table.any_eq_false_iff.mp unsettled id inspection approval.found
      refine ⟨fun _ => ⟨?_, ?_⟩, fun _ => ?_⟩ <;> intro status <;>
        simp [status, InspectionStatus.settled] at this)
    (by decide +kernel))

/-- A use-as-is disposition is approved and the lot released; the approval of the rework
disposition then takes the inspection out of `released`, without a hold. -/
theorem approve_disposition_breaks_coupling :
    ¬ ∀ calls, HoldsCoupled (qualityAuthority.run .empty calls).tables := by
  intro h
  have coupled := h (sampleReceipt ++ sampleFailure .useAsIs .rework ++ [sampleApproval "DI-1",
    sampleRelease, sampleApproval "DI-2"])
  generalize hdb : qualityAuthority.run .empty (sampleReceipt ++ sampleFailure .useAsIs .rework ++
    [sampleApproval "DI-1", sampleRelease, sampleApproval "DI-2"]) = db at coupled
  have status : (db.tables.inspections.find? 1).map (·.status) = some .reworkRequired := by
    rw [← hdb]; decide +kernel
  have holds : db.tables.openHolds 1 = 0 := by
    rw [← hdb]; decide +kernel
  obtain ⟨inspection, found, status⟩ := Option.map_eq_some_iff.mp status
  have := (coupled 1 inspection found).1 (.inr (.inr (.inr status)))
  omega

theorem verdictSound_run (calls : List QualityCall) :
    VerdictSound (qualityAuthority.run .empty calls).tables :=
  Authority.invariant (I := fun db : QualityStore => VerdictSound db.tables)
    (fun sound h => ((quality_effects h).2 sound).1) calls verdictSound_empty

/-- An inspection is open until each sample of its plan is measured; the verdict is that of the
measurements, and a nonconformance is opened exactly if it is a failure. -/
theorem inspection_verdict (calls : List QualityCall) (id : Nat) (inspection : InspectionLot)
    (there : (qualityAuthority.run .empty calls).tables.inspections.find? id = some inspection) :
    (inspection.status ≠ .open ↔
      (qualityAuthority.run .empty calls).tables.FullyMeasured id inspection) ∧
    ((qualityAuthority.run .empty calls).tables.found id = 1 ↔ inspection.status ≠ .open ∧
      ¬ (qualityAuthority.run .empty calls).tables.AllSatisfied id) ∧
    (qualityAuthority.run .empty calls).tables.found id ≤ 1 ∧
    ∀ call response db', qualityAuthority.attempt call (qualityAuthority.run .empty calls) =
        .ok (response, db') → inspection.status = .open →
      ∀ later, db'.tables.inspections.find? id = some later → later.status ≠ .open →
        (later.status = .passed ↔ db'.tables.AllSatisfied id) ∧
          (later.status = .failed ↔ ¬ db'.tables.AllSatisfied id) := by
  have sound := verdictSound_run calls
  generalize qualityAuthority.run .empty calls = db at *
  have judged := sound.judged id inspection there
  have closed : inspection.status ≠ .open ↔ db.tables.FullyMeasured id inspection := by
    rw [← sound.measured_iff there, ← Nat.not_lt, ← judged.pending]
  refine ⟨closed, ?_, ?_, ?_⟩
  · rw [← sound.failures_iff, judged.found]
    split
    next none =>
      refine ⟨fun zero => by omega, fun both => ?_⟩
      exact (none.elim both.1 both.2).elim
    next some => exact ⟨fun _ => not_or.mp some, fun _ => rfl⟩
  · rw [judged.found]
    split <;> omega
  · intro call response db' h isOpen later now left
    obtain ⟨sound', leaves⟩ := (quality_effects h).2 sound
    rw [← sound'.failures_iff]
    have verdict := leaves id inspection later there isOpen now left
    have judged := sound'.judged id later now
    rcases verdict with passed | failed
    · have none := judged.passed passed
      simp [passed, none]
    · have some := judged.failed failed
      simp [failed, some]

/-- The only sample of a plan is out of its limits. -/
theorem inspection_verdict_failed : ∃ inspection,
    (qualityAuthority.run .empty
        (sampleReceipt ++ sampleFailure .rework .scrap)).tables.FullyMeasured 1 inspection ∧
      ¬ (qualityAuthority.run .empty
        (sampleReceipt ++ sampleFailure .rework .scrap)).tables.AllSatisfied 1 := by
  have reached : ((qualityAuthority.run .empty
      (sampleReceipt ++ sampleFailure .rework .scrap)).tables.inspections.find? 1).any
        (·.status = .failed) = true := by
    decide +kernel
  obtain ⟨inspection, there, failed⟩ := (Option.any_eq_true _ _).mp reached
  have failed : inspection.status = .failed := of_decide_eq_true failed
  have found : (qualityAuthority.run .empty
      (sampleReceipt ++ sampleFailure .rework .scrap)).tables.found 1 = 1 := by
    unfold QualityTables.found
    decide +kernel
  obtain ⟨complete, verdict, -⟩ := inspection_verdict _ 1 inspection there
  refine ⟨inspection, complete.mp ?_, (verdict.mp found).2⟩
  rw [failed]
  decide

end MiniOgas
