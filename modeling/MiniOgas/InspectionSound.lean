import MiniOgas.InspectionOperations

namespace Relational

variable {α : Type}

/-- The slots of the rows that meet `p`, numbered from one for each row. -/
def Table.slots (t : Table α) (p : α → Bool) (size : α → Nat) : List (Nat × Nat) :=
  (t.select p).flatMap fun entry => (List.range (size entry.2)).map fun k => (entry.1, k + 1)

variable {t : Table α} {p : α → Bool} {size : α → Nat} {id k : Nat} {row new : α}

theorem Table.mem_slots : (id, k) ∈ t.slots p size ↔
    ∃ row, t.find? id = some row ∧ p row = true ∧ 1 ≤ k ∧ k ≤ size row := by
  unfold Table.slots
  rw [List.mem_flatMap]
  constructor
  · rintro ⟨⟨own, row⟩, member, inRow⟩
    obtain ⟨j, small, same⟩ := List.mem_map.mp inRow
    obtain ⟨rfl, rfl⟩ := Prod.mk.inj same
    obtain ⟨found, meets⟩ := Table.mem_select.mp member
    exact ⟨row, found, meets, by omega, List.mem_range.mp small⟩
  · rintro ⟨row, found, meets, first, last⟩
    refine ⟨(id, row), Table.mem_select.mpr ⟨found, meets⟩, List.mem_map.mpr ⟨k - 1, ?_, ?_⟩⟩
    · exact List.mem_range.mpr (by dsimp only; omega)
    · rw [Nat.sub_add_cancel first]

theorem Table.slots_insert : (t.insert new).slots p size = t.slots p size ++
    if p new then (List.range (size new)).map fun k => (t.nextId, k + 1) else [] := by
  unfold Table.slots Table.select
  rw [Table.entries_insert, List.filter_append, List.flatMap_append]
  by_cases meets : p new = true <;> simp [meets]

theorem Table.slots_spec (t : Table α) (p : α → Bool) (size : α → Nat) :
    (t.slots p size).length = t.sum p size ∧ (t.slots p size).Nodup := by
  obtain ⟨rows⟩ := t
  induction rows using List.reverseRecOn with
  | nil => exact ⟨rfl, List.nodup_nil⟩
  | append_singleton rows row ih =>
    obtain ⟨length, distinct⟩ := ih
    have split : (Table.insert ⟨rows⟩ row).slots p size = _ := Table.slots_insert
    change ((Table.insert ⟨rows⟩ row).slots p size).length = (Table.insert ⟨rows⟩ row).sum p size ∧
      ((Table.insert ⟨rows⟩ row).slots p size).Nodup
    rw [split, Table.sum_insert, List.length_append, length]
    refine ⟨by split <;> simp, List.Nodup.append distinct ?_ ?_⟩
    · split
      · refine List.Nodup.map (fun a b same => ?_) List.nodup_range
        have := (Prod.mk.inj same).2
        omega
      · exact List.nodup_nil
    · rintro ⟨own, k⟩ before after
      obtain ⟨old, found, -⟩ := Table.mem_slots.mp before
      have below := Table.lt_nextId_of_find? found
      split at after
      · obtain ⟨j, -, same⟩ := List.mem_map.mp after
        have := (Prod.mk.inj same).1
        omega
      · cases after

theorem Table.count_set (found : t.find? id = some row) (same : p new = p row) :
    (t.set id new).count p = t.count p := by
  cases id with
  | zero => cases found
  | succ n =>
    obtain ⟨small, rfl⟩ := List.getElem?_eq_some_iff.mp found
    show (t.rows.set n new).countP p = t.rows.countP p
    rw [List.countP_set small, same]
    have positive := List.countP_pos_iff (p := p) (l := t.rows)
    split
    next meets =>
      have := positive.mpr ⟨_, List.getElem_mem small, meets⟩
      omega
    next => omega

theorem length_le_iff_covers {taken slots : List α} (distinct : taken.Nodup)
    (single : slots.Nodup) (within : ∀ x ∈ taken, x ∈ slots) :
    slots.length ≤ taken.length ↔ ∀ x ∈ slots, x ∈ taken := by
  constructor
  · intro enough x member
    exact ((List.subperm_of_subset distinct within).perm_of_length_le enough).mem_iff.mpr member
  · intro covers
    exact (List.subperm_of_subset single covers).length_le

end Relational

namespace MiniOgas

open Relational Serial

/-- The value of a measurement is in the specification of its characteristic. -/
structure QualityMeasurement.Satisfies (measurement : QualityMeasurement)
    (characteristic : QualityCharacteristic) : Prop where
  numeric : characteristic.valueType = .numeric → ∃ value ∈ measurement.numericValue,
    (∀ lower ∈ characteristic.lowerSpecLimit, lower ≤ value) ∧
      ∀ upper ∈ characteristic.upperSpecLimit, value ≤ upper
  boolean : characteristic.valueType = .boolean → ∃ value ∈ measurement.booleanValue,
    value = characteristic.expectedBoolean.getD false
  text : characteristic.valueType = .text → ∃ value ∈ measurement.textValue,
    value ∈ characteristic.expectedText

namespace QualityTables

variable (tables : QualityTables) (inspectionId : Nat)

def required (planId : Nat) : Nat :=
  tables.characteristics.sum (·.inspectionPlanId = planId) (·.sampleSize)

def measured : Nat := tables.measurements.count (·.inspectionLotId = inspectionId)

def failures : Nat := tables.measurements.count fun measurement =>
  measurement.inspectionLotId = inspectionId && measurement.result = .fail

def found : Nat := tables.nonconformances.count (·.inspectionLotId = inspectionId)

/-- The characteristics and the sample indices that have been measured. -/
def taken : List (Nat × Nat) :=
  (tables.measurements.rows.filter (·.inspectionLotId = inspectionId)).map fun measurement =>
    (measurement.characteristicId, measurement.sampleIndex)

/-- One measurement was accepted for each sample of each characteristic of the plan. -/
def FullyMeasured (inspection : InspectionLot) : Prop :=
  ∀ characteristicId characteristic,
    tables.characteristics.find? characteristicId = some characteristic →
    characteristic.inspectionPlanId = inspection.inspectionPlanId →
    ∀ sampleIndex, 1 ≤ sampleIndex → sampleIndex ≤ characteristic.sampleSize →
      tables.measurements.count (fun measurement => measurement.inspectionLotId = inspectionId &&
        measurement.characteristicId = characteristicId &&
        measurement.sampleIndex = sampleIndex) = 1

def AllSatisfied : Prop :=
  ∀ id measurement characteristic, tables.measurements.find? id = some measurement →
    measurement.inspectionLotId = inspectionId →
    tables.characteristics.find? measurement.characteristicId = some characteristic →
    measurement.Satisfies characteristic

end QualityTables

/-- A measurement of an inspection that its plan asks for, and its result. -/
structure Measures (tables : QualityTables) (inspection : InspectionLot)
    (measurement : QualityMeasurement) (characteristic : QualityCharacteristic) : Prop where
  found : tables.characteristics.find? measurement.characteristicId = some characteristic
  planned : characteristic.inspectionPlanId = inspection.inspectionPlanId
  first : 1 ≤ measurement.sampleIndex
  last : measurement.sampleIndex ≤ characteristic.sampleSize
  result : measurement.result = .pass ↔ measurement.Satisfies characteristic

structure Judged (tables : QualityTables) (id : Nat) (inspection : InspectionLot) : Prop where
  pending : inspection.status = .open ↔
    tables.measured id < tables.required inspection.inspectionPlanId
  passed : inspection.status = .passed → tables.failures id = 0
  failed : inspection.status = .failed → tables.failures id ≠ 0
  found : tables.found id =
    if inspection.status = .open ∨ tables.failures id = 0 then 0 else 1

structure VerdictSound (tables : QualityTables) : Prop where
  planned : ∀ planId, 0 < planId → planId < tables.plans.nextId → 0 < tables.required planId
  inspections : ∀ id inspection, tables.inspections.find? id = some inspection →
    inspection.inspectionPlanId < tables.plans.nextId
  measures : ∀ id measurement, tables.measurements.find? id = some measurement →
    ∃ inspection characteristic,
      tables.inspections.find? measurement.inspectionLotId = some inspection ∧
        Measures tables inspection measurement characteristic
  distinct : ∀ id, (tables.taken id).Nodup
  fresh : ∀ id, tables.inspections.find? id = none → tables.found id = 0
  judged : ∀ id inspection, tables.inspections.find? id = some inspection →
    Judged tables id inspection

structure InspectionsMove (tables tables' : QualityTables) : Prop where
  grown : tables.inspections.nextId ≤ tables'.inspections.nextId
  kept : ∀ id row, tables.inspections.find? id = some row →
    ∃ row', tables'.inspections.find? id = some row' ∧
      row'.inspectionPlanId = row.inspectionPlanId ∧
      (row' = row ∨ (row.status ≠ .open ∨ tables.found id ≠ 0) ∧
        row'.status ≠ .open ∧ row'.status ≠ .passed ∧ row'.status ≠ .failed)
  opened : ∀ id row, tables'.inspections.find? id = some row →
    tables.inspections.find? id = none → row.status = .open ∧
      0 < row.inspectionPlanId ∧ row.inspectionPlanId < tables.plans.nextId

/-- The plans that exist keep their characteristics, and a new one has some. -/
structure PlansGrow (tables tables' : QualityTables) : Prop where
  nextId : tables.plans.nextId ≤ tables'.plans.nextId
  kept : ∀ id characteristic, tables.characteristics.find? id = some characteristic →
    tables'.characteristics.find? id = some characteristic
  required : ∀ planId, planId < tables.plans.nextId →
    tables'.required planId = tables.required planId
  planned : ∀ planId, tables.plans.nextId ≤ planId → planId < tables'.plans.nextId →
    0 < tables'.required planId

/-- A step keeps the verdicts sound, and an inspection leaves `open` with a verdict. -/
def VerdictStep (tables tables' : QualityTables) : Prop :=
  VerdictSound tables → VerdictSound tables' ∧ ∀ id row row',
    tables.inspections.find? id = some row → row.status = .open →
    tables'.inspections.find? id = some row' → row'.status ≠ .open →
      row'.status = .passed ∨ row'.status = .failed

variable {tables tables' : QualityTables} {id planId : Nat} {inspection row row' : InspectionLot}
  {measurement : QualityMeasurement} {characteristic : QualityCharacteristic}

theorem counts_congr (measurements : tables'.measurements = tables.measurements) (id : Nat) :
    tables'.measured id = tables.measured id ∧ tables'.failures id = tables.failures id ∧
      tables'.taken id = tables.taken id := by
  unfold QualityTables.measured QualityTables.failures QualityTables.taken
  rw [measurements]
  exact ⟨rfl, rfl, rfl⟩

theorem required_congr (characteristics : tables'.characteristics = tables.characteristics) :
    tables'.required planId = tables.required planId := by
  rw [QualityTables.required, characteristics, QualityTables.required]

theorem InspectionsMove.of_same (inspections : tables'.inspections = tables.inspections) :
    InspectionsMove tables tables' := by
  refine ⟨by rw [inspections], fun id row there => ⟨row, inspections ▸ there, rfl, .inl rfl⟩, ?_⟩
  intro id row there none
  rw [inspections, none] at there
  cases there

theorem InspectionsMove.set (there : tables.inspections.find? id = some row)
    (inspections : tables'.inspections = tables.inspections.set id row')
    (plan : row'.inspectionPlanId = row.inspectionPlanId)
    (left : row.status ≠ .open ∨ tables.found id ≠ 0)
    (status : row'.status ≠ .open ∧ row'.status ≠ .passed ∧ row'.status ≠ .failed) :
    InspectionsMove tables tables' := by
  refine ⟨by rw [inspections, Table.nextId_set], fun j other old => ?_, fun j other now none => ?_⟩
  · rw [inspections, Table.find?_set]
    split
    next same =>
      subst same
      cases there.symm.trans old
      exact ⟨row', by rw [there]; rfl, plan, .inr ⟨left, status⟩⟩
    next => exact ⟨other, old, rfl, .inl rfl⟩
  · have kept := Table.isSome_find?_set tables.inspections id row' j
    rw [← inspections, now, none] at kept
    cases kept

theorem mem_taken {sample : Nat × Nat} : sample ∈ tables.taken id ↔
    ∃ rowId measurement, tables.measurements.find? rowId = some measurement ∧
      measurement.inspectionLotId = id ∧
      (measurement.characteristicId, measurement.sampleIndex) = sample := by
  simp only [QualityTables.taken, List.mem_map, List.mem_filter, Table.mem_rows,
    decide_eq_true_eq]
  constructor
  · rintro ⟨measurement, ⟨⟨rowId, there⟩, own⟩, same⟩
    exact ⟨rowId, measurement, there, own, same⟩
  · rintro ⟨rowId, measurement, there, own, same⟩
    exact ⟨measurement, ⟨⟨rowId, there⟩, own⟩, same⟩

theorem length_taken : (tables.taken id).length = tables.measured id := by
  rw [QualityTables.taken, List.length_map, ← List.countP_eq_length_filter]
  rfl

theorem count_taken {characteristicId sampleIndex : Nat} :
    tables.measurements.count (fun measurement => measurement.inspectionLotId = id &&
        measurement.characteristicId = characteristicId &&
        measurement.sampleIndex = sampleIndex) =
      (tables.taken id).count (characteristicId, sampleIndex) := by
  rw [QualityTables.taken, List.count, List.countP_map, List.countP_filter]
  refine List.countP_congr fun measurement _ => ?_
  simp [and_comm, and_assoc]

theorem Measures.congr (measures : Measures tables inspection measurement characteristic)
    (kept : tables'.characteristics.find? measurement.characteristicId = some characteristic)
    (plan : row'.inspectionPlanId = inspection.inspectionPlanId) :
    Measures tables' row' measurement characteristic :=
  { measures with found := kept, planned := measures.planned.trans plan.symm }

theorem Judged.congr (judged : Judged tables id inspection)
    (required : tables'.required inspection.inspectionPlanId =
      tables.required inspection.inspectionPlanId)
    (measured : tables'.measured id = tables.measured id)
    (failures : tables'.failures id = tables.failures id)
    (found : tables'.found id = tables.found id) : Judged tables' id inspection := by
  refine ⟨?_, ?_, ?_, ?_⟩
  · rw [required, measured]
    exact judged.pending
  · rw [failures]
    exact judged.passed
  · rw [failures]
    exact judged.failed
  · rw [failures, found]
    exact judged.found

theorem Judged.closed (judged : Judged tables id inspection)
    (left : inspection.status ≠ .open ∨ tables.found id ≠ 0) : inspection.status ≠ .open := by
  rcases left with closed | noted
  · exact closed
  · intro isOpen
    rw [judged.found, if_pos (.inl isOpen)] at noted
    exact noted rfl

theorem verdictSound_empty : VerdictSound .empty := by
  refine ⟨fun planId positive small => ?_, ?_, ?_, fun id => List.nodup_nil, fun id _ => rfl, ?_⟩
  · change planId < 1 at small
    omega
  all_goals intro id row there; simp [QualityTables.empty] at there

theorem PlansGrow.of_same (plans : tables'.plans.nextId = tables.plans.nextId)
    (characteristics : tables'.characteristics = tables.characteristics) :
    PlansGrow tables tables' :=
  ⟨plans.ge, fun _ _ there => characteristics ▸ there, fun _ _ => required_congr characteristics,
    fun planId above below => by omega⟩

theorem PlansGrow.insertAll {rows : List QualityCharacteristic} (some : rows ≠ [])
    (own : ∀ row ∈ rows, row.inspectionPlanId = tables.plans.nextId ∧ 1 ≤ row.sampleSize)
    (plans : tables'.plans.nextId = tables.plans.nextId + 1)
    (characteristics : tables'.characteristics = tables.characteristics.insertAll rows) :
    PlansGrow tables tables' := by
  have split (planId : Nat) : tables'.required planId = tables.required planId +
      ((rows.filter (·.inspectionPlanId = planId)).map (·.sampleSize)).sum := by
    rw [QualityTables.required, characteristics]
    simp [Table.sum, Table.insertAll, List.filter_append, QualityTables.required]
  refine ⟨by omega, fun id row there => ?_, fun planId small => ?_, fun planId above below => ?_⟩
  · rw [characteristics, Table.find?_insertAll, if_pos (Table.lt_nextId_of_find? there)]
    exact there
  · rw [split, List.filter_eq_nil_iff.mpr]
    · rfl
    · intro row member
      rw [(own row member).1, decide_eq_true_eq]
      omega
  · rw [split]
    obtain ⟨row, rest, rfl⟩ := List.exists_cons_of_ne_nil some
    obtain ⟨same, positive⟩ := own row (by simp)
    have meets : row.inspectionPlanId = planId := by omega
    rw [List.filter_cons_of_pos (by simpa using meets), List.map_cons, List.sum_cons]
    omega

theorem VerdictStep.moved (plans : PlansGrow tables tables')
    (measurements : tables'.measurements = tables.measurements)
    (found : ∀ id, tables'.found id = tables.found id) (moves : InspectionsMove tables tables') :
    VerdictStep tables tables' := by
  intro sound
  have known (id : Nat) (later : InspectionLot)
      (now : tables'.inspections.find? id = some later) :
      later.inspectionPlanId < tables'.plans.nextId ∧ Judged tables' id later := by
    obtain ⟨measured, failures, -⟩ := counts_congr measurements id
    cases before : tables.inspections.find? id with
    | none =>
      obtain ⟨isOpen, positive, small⟩ := moves.opened id later now before
      have unmeasured : tables.measured id = 0 := by
        rw [QualityTables.measured, Table.count_eq_zero_iff]
        intro rowId measurement old
        obtain ⟨lot, _, there, -⟩ := sound.measures rowId measurement old
        refine decide_eq_false fun own => ?_
        rw [own, before] at there
        cases there
      have pending : tables'.measured id < tables'.required later.inspectionPlanId := by
        rw [measured, plans.required _ small, unmeasured]
        exact sound.planned _ positive small
      have none := sound.fresh id before
      exact ⟨small.trans_le plans.nextId, by simp [isOpen, pending], by simp [isOpen],
        by simp [isOpen], by simp [found, none, isOpen]⟩
    | some row =>
      have judged := sound.judged id row before
      have small := sound.inspections id row before
      obtain ⟨row', there, plan, same | ⟨left, closed'⟩⟩ := moves.kept id row before
      · cases there.symm.trans now
        rw [same]
        exact ⟨small.trans_le plans.nextId,
          judged.congr (plans.required _ small) measured failures (found id)⟩
      · cases there.symm.trans now
        have closed := judged.closed left
        refine ⟨plan ▸ small.trans_le plans.nextId, ?_, fun passed => absurd passed closed'.2.1,
          fun failed => absurd failed closed'.2.2, ?_⟩
        · rw [measured, plan, plans.required _ small, ← judged.pending]
          simp [closed, closed'.1]
        · rw [found, failures, judged.found]
          simp [closed, closed'.1]
  refine ⟨⟨fun planId positive small => ?_, fun id row there => (known id row there).1,
    fun id measurement there => ?_, fun id => ?_, fun id none => ?_,
    fun id row there => (known id row there).2⟩, fun id row row' there isOpen now left => ?_⟩
  · by_cases old : planId < tables.plans.nextId
    · rw [plans.required _ old]
      exact sound.planned planId positive old
    · exact plans.planned planId (by omega) small
  · obtain ⟨inspection, characteristic, lot, measures⟩ :=
      sound.measures id measurement (measurements ▸ there)
    obtain ⟨row, lot, plan, -⟩ := moves.kept _ _ lot
    exact ⟨row, characteristic, lot, measures.congr (plans.kept _ _ measures.found) plan⟩
  · rw [(counts_congr measurements id).2.2]
    exact sound.distinct id
  · rw [found]
    refine sound.fresh id (Option.eq_none_iff_forall_ne_some.mpr fun row there => ?_)
    obtain ⟨later, now, -⟩ := moves.kept id row there
    rw [none] at now
    cases now
  · obtain ⟨later, there', -, same | ⟨closed, -⟩⟩ := moves.kept id row there
    · cases there'.symm.trans now
      exact absurd (same ▸ isOpen) left
    · exact absurd isOpen ((sound.judged id row there).closed closed)

theorem VerdictStep.measured
    (there : tables.inspections.find? id = some row) (isOpen : row.status = .open)
    (own : measurement.inspectionLotId = id)
    (measures : Measures tables row measurement characteristic)
    (sample : (measurement.characteristicId, measurement.sampleIndex) ∉ tables.taken id)
    (plan : row'.inspectionPlanId = row.inspectionPlanId)
    (status : row'.status =
      if tables'.measured id < tables'.required row.inspectionPlanId then .open
      else if tables'.failures id = 0 then .passed else .failed)
    (plans : tables'.plans.nextId = tables.plans.nextId)
    (characteristics : tables'.characteristics = tables.characteristics)
    (inspections : tables'.inspections = tables.inspections.set id row')
    (measurements : tables'.measurements = tables.measurements.insert measurement)
    (found : ∀ j, tables'.found j =
      tables.found j + if j = id ∧ row'.status = .failed then 1 else 0) :
    VerdictStep tables tables' := by
  intro sound
  have unnoted : tables.found id = 0 := by
    rw [(sound.judged id row there).found, if_pos (.inl isOpen)]
  have required (planId : Nat) : tables'.required planId = tables.required planId :=
    required_congr characteristics
  have kept (j : Nat) (inspection : InspectionLot)
      (old : tables.inspections.find? j = some inspection) :
      ∃ later, tables'.inspections.find? j = some later ∧
        later.inspectionPlanId = inspection.inspectionPlanId := by
    rw [inspections, Table.find?_set]
    split
    next same =>
      subst same
      cases there.symm.trans old
      exact ⟨row', by rw [there]; rfl, plan⟩
    next => exact ⟨inspection, old, rfl⟩
  refine ⟨⟨fun planId positive small => ?_, fun j later there' => ?_, fun rowId other there' => ?_,
    fun j => ?_, fun j none => ?_, fun j later there' => ?_⟩,
    fun j old later was isOpen now left => ?_⟩
  · rw [required]
    exact sound.planned planId positive (plans ▸ small)
  · rw [inspections, Table.find?_set] at there'
    rw [plans]
    split at there'
    next same =>
      subst same
      rw [there] at there'
      cases there'
      exact plan ▸ sound.inspections j row there
    next => exact sound.inspections j later there'
  · rw [measurements, Table.find?_insert] at there'
    split at there'
    next =>
      cases there'
      obtain ⟨later, now, same⟩ := kept id row there
      have found := characteristics ▸ measures.found
      exact ⟨later, characteristic, own ▸ now, measures.congr found same⟩
    next =>
      obtain ⟨inspection, asks, lot, old⟩ := sound.measures rowId other there'
      obtain ⟨later, now, same⟩ := kept _ _ lot
      exact ⟨later, asks, now, old.congr (characteristics ▸ old.found) same⟩
  · have grown : tables'.taken j = tables.taken j ++ if j = id then
        [(measurement.characteristicId, measurement.sampleIndex)] else [] := by
      rw [QualityTables.taken, measurements, Table.insert, List.filter_append, List.map_append]
      by_cases same : j = id
      · simp [QualityTables.taken, own, same]
      · simp [QualityTables.taken, own, same, Ne.symm same]
    rw [grown]
    split
    next same =>
      subst same
      exact List.nodup_append_comm.mp (List.nodup_cons.mpr ⟨sample, sound.distinct j⟩)
    next =>
      rw [List.append_nil]
      exact sound.distinct j
  · have unopened : tables.inspections.find? j = .none := by
      have kept := Table.isSome_find?_set tables.inspections id row' j
      rw [← inspections, none] at kept
      exact Option.isNone_iff_eq_none.mp (by simpa using kept.symm)
    have other : j ≠ id := by
      rintro rfl
      rw [there] at unopened
      cases unopened
    rw [found, sound.fresh j unopened, if_neg fun both => other both.1]
  · rw [inspections, Table.find?_set] at there'
    split at there'
    next same =>
      subst same
      rw [there] at there'
      cases there'
      refine ⟨?_, ?_, ?_, ?_⟩
      · rw [status, plan]
        split
        next few => simp [few]
        next enough => split <;> simp [enough]
      · rw [status]
        split
        next => simp
        next => split <;> simp [*]
      · rw [status]
        split
        next => simp
        next => split <;> simp [*]
      · rw [found, unnoted, status]
        split
        next => simp
        next => split <;> simp [*]
    next other =>
      have judged := sound.judged j later there'
      have apart : ¬ measurement.inspectionLotId = j := fun same => other (same.symm.trans own)
      refine judged.congr (required _) ?_ ?_ ?_
      · simp [QualityTables.measured, measurements, Table.count_insert, apart]
      · simp [QualityTables.failures, measurements, Table.count_insert, apart]
      · rw [found, if_neg fun both => other both.1, Nat.add_zero]

  · rw [inspections] at now
    rcases Table.of_find?_set now with ⟨rfl, rfl⟩ | ⟨-, now⟩
    · rw [status] at left ⊢
      split at left
      next => exact absurd rfl left
      next enough =>
        rw [if_neg enough]
        split
        next => exact .inl rfl
        next => exact .inr rfl
    · cases was.symm.trans now
      exact absurd isOpen left

theorem VerdictSound.measured_iff (sound : VerdictSound tables)
    (there : tables.inspections.find? id = some inspection) :
    tables.required inspection.inspectionPlanId ≤ tables.measured id ↔
      tables.FullyMeasured id inspection := by
  obtain ⟨length, single⟩ := Table.slots_spec tables.characteristics
    (·.inspectionPlanId = inspection.inspectionPlanId) (·.sampleSize)
  have within : ∀ sample ∈ tables.taken id, sample ∈ tables.characteristics.slots
      (·.inspectionPlanId = inspection.inspectionPlanId) (·.sampleSize) := by
    intro sample member
    obtain ⟨rowId, measurement, old, rfl, rfl⟩ := mem_taken.mp member
    obtain ⟨lot, asks, known, measures⟩ := sound.measures rowId measurement old
    cases there.symm.trans known
    exact Table.mem_slots.mpr
      ⟨asks, measures.found, decide_eq_true measures.planned, measures.first, measures.last⟩
  have covers := length_le_iff_covers (sound.distinct id) single within
  rw [length, length_taken] at covers
  refine covers.trans ⟨fun all characteristicId asks known planned sampleIndex first last => ?_,
    fun full sample member => ?_⟩
  · rw [count_taken]
    exact List.count_eq_one_of_mem (sound.distinct id) (all _ (Table.mem_slots.mpr
      ⟨asks, known, decide_eq_true planned, first, last⟩))
  · obtain ⟨characteristicId, sampleIndex⟩ := sample
    obtain ⟨asks, known, planned, first, last⟩ := Table.mem_slots.mp member
    have once := full characteristicId asks known (of_decide_eq_true planned) sampleIndex first last
    rw [count_taken] at once
    exact List.count_pos_iff.mp (by omega)

theorem VerdictSound.failures_iff (sound : VerdictSound tables) :
    tables.failures id = 0 ↔ tables.AllSatisfied id := by
  rw [QualityTables.failures, Table.count_eq_zero_iff]
  constructor
  · intro none rowId measurement asks old own known
    obtain ⟨_, _, -, measures⟩ := sound.measures rowId measurement old
    cases known.symm.trans measures.found
    refine measures.result.mp ?_
    have passed := none rowId measurement old
    cases result : measurement.result with
    | pass => rfl
    | fail => simp [own, result] at passed
  · intro all rowId measurement old
    obtain ⟨_, asks, -, measures⟩ := sound.measures rowId measurement old
    by_cases own : measurement.inspectionLotId = id
    · have passed := measures.result.mpr (all rowId measurement asks old own measures.found)
      simp [passed]
    · simp [own]

end MiniOgas
