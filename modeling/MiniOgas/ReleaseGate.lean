import MiniOgas.MasterDataTables

namespace MiniOgas

open Relational Serial

section Gate

variable (db : MasterDataTables) (now : Timestamp)

def requireEffectiveRevision (status : RevisionStatus) (resource : String) (identifier : Int) :
    Except MasterDataFault Unit :=
  check (status = .effective) (masterDataError 409 "REVISION_NOT_EFFECTIVE"
    s!"bound {resource} revision is not effective"
    [("resource_type", .str resource), ("revision_id", .int identifier),
      ("status", .str status.text)])

def documentRevision? (identifier : Int) : Option (DocumentRevisionRow × ControlledDocument) := do
  let revision ← db.documentRevisions.find? identifier.toNat
  let document ← db.controlledDocuments.find? revision.documentId
  return (revision, document)

def selectDocument (selected : Dictionary String DocumentRevisionRow) (identifier : Int) :
    Except MasterDataFault (Dictionary String DocumentRevisionRow) := do
  let (revision, document) ← orFault (documentRevision? db identifier)
    (masterDataError 409 "REFERENCE_NOT_FOUND" "bound document revision does not exist"
      [("revision_id", .int identifier)])
  requireEffectiveRevision revision.status "document_revision" identifier
  return selected.set document.documentCode revision

/-- `selected_documents`. -/
def selectDocuments (identifiers : List Int) :
    Except MasterDataFault (Dictionary String DocumentRevisionRow) :=
  identifiers.foldlM (selectDocument db) .empty

def assignmentBySequence (assignments : List OperationAssignment) :
    Dictionary Int OperationAssignment :=
  assignments.foldl (fun all assignment => all.set assignment.sequence assignment) .empty

def validateQualification (personnelId : Nat) (personnelCode skillCode : String)
    (requiredLevel : Int) : Except MasterDataFault Unit :=
  let rows := db.personnelQualifications.select fun qualification =>
    qualification.personnelId = personnelId &&
      (db.skills.find? qualification.skillId).any (·.skillCode = skillCode) &&
      requiredLevel ≤ qualification.level
  check (rows.any (fun row => row.2.validFrom ≤ now && now ≤ row.2.validTo) = true)
    (masterDataError 409 "QUALIFICATION_MISSING"
      "assigned personnel lacks a current qualification for the operation"
      [("personnel_code", .str personnelCode), ("skill_code", .str skillCode),
        ("required_level", .int requiredLevel)])

def requireEquipment (equipmentCode capabilityCode : String) : Except MasterDataFault Unit := do
  let (equipmentId, equipment) ←
    requireByCode db.equipment (·.equipmentCode) equipmentCode "equipment"
  check (equipment.active = true) (masterDataError 409 "EQUIPMENT_INACTIVE"
    "assigned equipment is inactive" [("equipment_code", .str equipment.equipmentCode)])
  check (db.equipmentCapabilities.any (fun capability =>
      capability.equipmentId = equipmentId && capability.capabilityCode = capabilityCode) = true)
    (masterDataError 409 "EQUIPMENT_CAPABILITY_MISSING"
      "assigned equipment lacks the routing-required capability"
      [("equipment_code", .str equipment.equipmentCode),
        ("capability_code", .str capabilityCode)])

def requireQualified (personnelCode skillCode : String) (requiredLevel : Int) :
    Except MasterDataFault Unit := do
  let (personnelId, personnel) ←
    requireByCode db.personnel (·.personnelCode) personnelCode "personnel"
  check (personnel.active = true) (masterDataError 409 "PERSONNEL_INACTIVE"
    "assigned personnel is inactive" [("personnel_code", .str personnel.personnelCode)])
  validateQualification db now personnelId personnel.personnelCode skillCode requiredLevel

def checkOperation (assignments : Dictionary Int OperationAssignment)
    (selected : Dictionary String DocumentRevisionRow) (operation : RoutingStep) :
    Except MasterDataFault Unit := do
  let assignment ← orFault (assignments.get? operation.sequence) (.keyError operation.sequence)
  requireEquipment db assignment.equipmentCode operation.capabilityCode
  requireQualified db now assignment.personnelCode operation.requiredSkillCode
    operation.requiredSkillLevel
  check (selected.contains operation.documentCode = true)
    (masterDataError 409 "REQUIRED_DOCUMENT_MISSING"
      "work order does not bind the routing-required effective document"
      [("document_code", .str operation.documentCode),
        ("operation_sequence", .int operation.sequence)])

/-- `sorted` of a set of numbers. -/
def sortedSet (numbers : List Int) : Json :=
  .arr ((numbers.dedup.insertionSort (· ≤ ·)).map Json.int)

/-- `required_sequences != set(assignment_by_sequence)`. -/
def requireCovered (required assigned : List Int) : Except MasterDataFault Unit :=
  check (required.all assigned.contains = true ∧ assigned.all required.contains = true)
    (masterDataError 409 "OPERATION_ASSIGNMENT_INCOMPLETE"
      "operation assignments must exactly cover the bound routing revision"
      [("required_sequences", sortedSet required), ("assigned_sequences", sortedSet assigned)])

/-- The checks of `release_work_order` on an order that has not been released. -/
def releaseGate (order : WorkOrderRow) : Except MasterDataFault Unit := do
  check (order.status = .draft) (masterDataError 409 "WORK_ORDER_NOT_RELEASABLE"
    s!"work order cannot be released from status {order.status.text}"
    [("work_order_code", .str order.workOrderCode.value)])
  let bomRevision ← requireById db.bomRevisions order.bomRevisionId "bom_revision"
  let routingRevision ← requireById db.routingRevisions order.routingRevisionId "routing_revision"
  requireEffectiveRevision bomRevision.status "bom_revision" order.bomRevisionId
  requireEffectiveRevision routingRevision.status "routing_revision" order.routingRevisionId
  let selected ← selectDocuments db order.documentRevisionIds
  let assignments := assignmentBySequence order.operationAssignments
  requireCovered (routingRevision.operations.map (·.sequence)) (assignments.items.map Prod.fst)
  routingRevision.operations.forM (checkOperation db now assignments selected)

/-- A document revision is effective, and of a document with a code. -/
def EffectiveDocument (identifier : Int) (documentCode : String) : Prop :=
  ∃ revision document, db.documentRevisions.find? identifier.toNat = some revision ∧
    db.controlledDocuments.find? revision.documentId = some document ∧
    revision.status = .effective ∧ document.documentCode = documentCode

/-- The equipment of a code is active and has the capability. -/
def Capable (equipmentCode capabilityCode : String) : Prop :=
  ∃ id equipment, db.equipment.find? id = some equipment ∧
    equipment.equipmentCode = equipmentCode ∧ equipment.active = true ∧
    ∃ capabilityId capability, db.equipmentCapabilities.find? capabilityId = some capability ∧
      capability.equipmentId = id ∧ capability.capabilityCode = capabilityCode

/-- The person of a code is active and holds a qualification of at least the level that is valid
now. -/
def Qualified (personnelCode skillCode : String) (level : Int) : Prop :=
  ∃ id person, db.personnel.find? id = some person ∧ person.personnelCode = personnelCode ∧
    person.active = true ∧ ∃ qualificationId qualification skill,
      db.personnelQualifications.find? qualificationId = some qualification ∧
      qualification.personnelId = id ∧ db.skills.find? qualification.skillId = some skill ∧
      skill.skillCode = skillCode ∧ level ≤ qualification.level ∧
      qualification.validFrom ≤ now ∧ now ≤ qualification.validTo

def assigned (assignments : List OperationAssignment) (sequence : Int) :
    Option OperationAssignment :=
  (assignments.filter (·.sequence = sequence)).getLast?

structure Staffed (order : WorkOrderRow) (operation : RoutingStep)
    (assignment : OperationAssignment) : Prop where
  equipment : Capable db assignment.equipmentCode operation.capabilityCode
  personnel : Qualified db now assignment.personnelCode operation.requiredSkillCode
    operation.requiredSkillLevel
  document : ∃ identifier ∈ order.documentRevisionIds,
    EffectiveDocument db identifier operation.documentCode

structure Covered (order : WorkOrderRow) (operations : List RoutingStep) : Prop where
  sequences : ∀ sequence, (∃ assignment ∈ order.operationAssignments,
      assignment.sequence = sequence) ↔ ∃ operation ∈ operations, operation.sequence = sequence
  staffed : ∀ operation ∈ operations, ∃ assignment,
    assigned order.operationAssignments operation.sequence = some assignment ∧
      Staffed db now order operation assignment

structure Releasable (order : WorkOrderRow) : Prop where
  draft : order.status = .draft
  bom : ∃ revision, db.bomRevisions.find? order.bomRevisionId = some revision ∧
    revision.status = .effective
  documents : ∀ identifier ∈ order.documentRevisionIds, ∃ documentCode,
    EffectiveDocument db identifier documentCode
  routing : ∃ revision, db.routingRevisions.find? order.routingRevisionId = some revision ∧
    revision.status = .effective ∧ Covered db now order revision.operations

end Gate

section Laws

variable {db : MasterDataTables} {now : Timestamp} {identifier : Int}
  {revision : DocumentRevisionRow} {document : ControlledDocument}
  {selected later : Dictionary String DocumentRevisionRow} {identifiers : List Int}
  {assignments : List OperationAssignment} {personnelCode skillCode : String}

theorem requireEffectiveRevision_eq_ok {status : RevisionStatus} {resource : String} {u : Unit} :
    requireEffectiveRevision status resource identifier = .ok u ↔ status = .effective :=
  check_eq_ok

theorem documentRevision?_eq_some :
    documentRevision? db identifier = some (revision, document) ↔
      db.documentRevisions.find? identifier.toNat = some revision ∧
        db.controlledDocuments.find? revision.documentId = some document := by
  unfold documentRevision?
  simp only [Option.bind_eq_bind, Option.bind_eq_some_iff, Option.pure_def, Option.some.injEq,
    Prod.mk.injEq]
  constructor
  · rintro ⟨found, there, other, joined, rfl, rfl⟩
    exact ⟨there, joined⟩
  · rintro ⟨there, joined⟩
    exact ⟨revision, there, document, joined, rfl, rfl⟩

theorem selectDocument_eq_ok : selectDocument db selected identifier = .ok later ↔
      ∃ revision document, documentRevision? db identifier = some (revision, document) ∧
        revision.status = .effective ∧ selected.set document.documentCode revision = later := by
  unfold selectDocument
  rw [bind_eq_ok]
  constructor
  · rintro ⟨⟨revision, document⟩, found, rest⟩
    obtain ⟨_, effective, same⟩ := of_bind rest
    exact ⟨revision, document, orFault_eq_ok.mp found,
      requireEffectiveRevision_eq_ok.mp effective, Except.ok.inj same⟩
  · rintro ⟨revision, document, found, effective, same⟩
    refine ⟨(revision, document), orFault_eq_ok.mpr found, ?_⟩
    exact bind_eq_ok.mpr ⟨(), requireEffectiveRevision_eq_ok.mpr effective, congrArg _ same⟩

theorem EffectiveDocument.of_selected
    (found : documentRevision? db identifier = some (revision, document))
    (effective : revision.status = .effective) {documentCode : String} :
    EffectiveDocument db identifier documentCode ↔ document.documentCode = documentCode := by
  obtain ⟨there, joined⟩ := documentRevision?_eq_some.mp found
  constructor
  · rintro ⟨other, otherDocument, there', joined', _, same⟩
    cases there.symm.trans there'
    cases joined.symm.trans joined'
    exact same
  · intro same
    exact ⟨revision, document, there, joined, effective, same⟩

theorem selectDocuments_ok_iff {selected : Dictionary String DocumentRevisionRow} :
    (∃ later, identifiers.foldlM (selectDocument db) selected = .ok later) ↔
      ∀ identifier ∈ identifiers, ∃ documentCode, EffectiveDocument db identifier documentCode := by
  induction identifiers generalizing selected with
  | nil =>
    refine ⟨fun _ _ member => ?_, fun _ => ⟨selected, rfl⟩⟩
    cases member
  | cons identifier identifiers ih =>
    simp only [List.foldlM_cons, bind_eq_ok, List.forall_mem_cons]
    constructor
    · rintro ⟨later, mid, first, rest⟩
      obtain ⟨revision, document, found, effective, _⟩ := selectDocument_eq_ok.mp first
      refine ⟨⟨document.documentCode, ?_⟩, ih.mp ⟨later, rest⟩⟩
      exact (EffectiveDocument.of_selected found effective).mpr rfl
    · rintro ⟨⟨documentCode, revision, document, there, joined, effective, _⟩, others⟩
      obtain ⟨later, rest⟩ := ih.mpr others
      refine ⟨later, selected.set document.documentCode revision, ?_, rest⟩
      exact selectDocument_eq_ok.mpr
        ⟨revision, document, documentRevision?_eq_some.mpr ⟨there, joined⟩, effective, rfl⟩

theorem contains_selected (done : identifiers.foldlM (selectDocument db) selected = .ok later)
    (documentCode : String) :
    later.contains documentCode = true ↔ selected.contains documentCode = true ∨
      ∃ identifier ∈ identifiers, EffectiveDocument db identifier documentCode := by
  induction identifiers generalizing selected with
  | nil =>
    cases done
    simp
  | cons identifier identifiers ih =>
    obtain ⟨mid, first, rest⟩ := of_bind done
    obtain ⟨revision, document, found, effective, rfl⟩ := selectDocument_eq_ok.mp first
    have entered : (selected.set document.documentCode revision).contains documentCode = true ↔
        EffectiveDocument db identifier documentCode ∨
          selected.contains documentCode = true := by
      rw [EffectiveDocument.of_selected found effective]
      unfold Dictionary.contains
      rw [Dictionary.get?_set]
      by_cases same : documentCode = document.documentCode
      · rw [if_pos same]
        exact ⟨fun _ => .inl same.symm, fun _ => rfl⟩
      · rw [if_neg same]
        exact ⟨.inr, fun either => either.resolve_left (Ne.symm same)⟩
    rw [ih rest, entered, List.exists_mem_cons_iff]
    exact ⟨fun h => by tauto, fun h => by tauto⟩

theorem get?_foldl_assignments (assignments : List OperationAssignment) (sequence : Int)
    (all : Dictionary Int OperationAssignment) :
    (assignments.foldl (fun all assignment => all.set assignment.sequence assignment) all).get?
      sequence = (assigned assignments sequence).or (all.get? sequence) := by
  induction assignments generalizing all with
  | nil => rfl
  | cons assignment assignments ih =>
    rw [List.foldl_cons, ih, Dictionary.get?_set]
    unfold assigned
    rw [List.filter_cons]
    by_cases same : sequence = assignment.sequence
    · rw [if_pos same, if_pos (decide_eq_true same.symm), List.getLast?_cons]
      cases (assignments.filter (·.sequence = sequence)).getLast? <;> rfl
    · rw [if_neg same, if_neg (by simpa using Ne.symm same)]

theorem get?_assignmentBySequence (assignments : List OperationAssignment) (sequence : Int) :
    (assignmentBySequence assignments).get? sequence = assigned assignments sequence := by
  unfold assignmentBySequence
  rw [get?_foldl_assignments]
  exact Option.or_none

theorem assigned_eq_none_iff {sequence : Int} :
    assigned assignments sequence = none ↔
      ∀ assignment ∈ assignments, assignment.sequence ≠ sequence := by
  unfold assigned
  simp

theorem mem_assignmentBySequence {sequence : Int} :
    sequence ∈ (assignmentBySequence assignments).items.map Prod.fst ↔
      ∃ assignment ∈ assignments, assignment.sequence = sequence := by
  have absent : (assignmentBySequence assignments).get? sequence = none ↔
      sequence ∉ (assignmentBySequence assignments).items.map Prod.fst :=
    Dictionary.get?_eq_none_iff
  rw [get?_assignmentBySequence, assigned_eq_none_iff] at absent
  rw [← not_iff_not, ← absent]
  push Not
  exact Iff.rfl

theorem requireCovered_eq_ok {required given : List Int} {u : Unit} :
    requireCovered required given = .ok u ↔ ∀ sequence, sequence ∈ given ↔ sequence ∈ required := by
  unfold requireCovered
  rw [check_eq_ok]
  simp only [List.all_eq_true, List.contains_iff_mem]
  exact ⟨fun both sequence => ⟨both.2 sequence, both.1 sequence⟩,
    fun same => ⟨fun sequence => (same sequence).mpr, fun sequence => (same sequence).mp⟩⟩

theorem requireEquipment_ok_iff (keyed : db.equipment.Keyed (·.equipmentCode))
    {equipmentCode capabilityCode : String} :
    requireEquipment db equipmentCode capabilityCode = .ok () ↔
      Capable db equipmentCode capabilityCode := by
  have found := exists_requireByCode keyed equipmentCode "equipment" fun id equipment =>
    equipment.active = true ∧ ∃ capabilityId capability,
      db.equipmentCapabilities.find? capabilityId = some capability ∧
        capability.equipmentId = id ∧ capability.capabilityCode = capabilityCode
  unfold Capable
  rw [← found]
  unfold requireEquipment
  simp only [bind_eq_ok, check_eq_ok, exists_const, Table.any_iff, Bool.and_eq_true,
    decide_eq_true_eq]

theorem validateQualification_ok_iff {personnelId : Nat} {requiredLevel : Int} :
    validateQualification db now personnelId personnelCode skillCode requiredLevel = .ok () ↔
      ∃ qualificationId qualification skill,
        db.personnelQualifications.find? qualificationId = some qualification ∧
        qualification.personnelId = personnelId ∧
        db.skills.find? qualification.skillId = some skill ∧ skill.skillCode = skillCode ∧
        requiredLevel ≤ qualification.level ∧ qualification.validFrom ≤ now ∧
        now ≤ qualification.validTo := by
  unfold validateQualification
  rw [check_eq_ok, List.any_eq_true]
  simp only [Prod.exists, Table.mem_select, Bool.and_eq_true, decide_eq_true_eq,
    Option.any_eq_true]
  constructor
  · rintro ⟨id, qualification, ⟨there, ⟨own, skill, known, same⟩, level⟩, valid⟩
    exact ⟨id, qualification, skill, there, own, known, same, level, valid⟩
  · rintro ⟨id, qualification, skill, there, own, known, same, level, valid⟩
    exact ⟨id, qualification, ⟨there, ⟨own, skill, known, same⟩, level⟩, valid⟩

theorem requireQualified_ok_iff (keyed : db.personnel.Keyed (·.personnelCode))
    {requiredLevel : Int} :
    requireQualified db now personnelCode skillCode requiredLevel = .ok () ↔
      Qualified db now personnelCode skillCode requiredLevel := by
  have found := exists_requireByCode keyed personnelCode "personnel" fun id person =>
    person.active = true ∧ ∃ qualificationId qualification skill,
      db.personnelQualifications.find? qualificationId = some qualification ∧
      qualification.personnelId = id ∧ db.skills.find? qualification.skillId = some skill ∧
      skill.skillCode = skillCode ∧ requiredLevel ≤ qualification.level ∧
      qualification.validFrom ≤ now ∧ now ≤ qualification.validTo
  unfold Qualified
  rw [← found]
  unfold requireQualified
  simp only [bind_eq_ok, check_eq_ok, exists_const, validateQualification_ok_iff]

theorem checkOperation_ok_iff (equipment : db.equipment.Keyed (·.equipmentCode))
    (personnel : db.personnel.Keyed (·.personnelCode)) {order : WorkOrderRow}
    {selected : Dictionary String DocumentRevisionRow}
    (done : selectDocuments db order.documentRevisionIds = .ok selected)
    {operation : RoutingStep} :
    checkOperation db now (assignmentBySequence order.operationAssignments) selected operation =
        .ok () ↔
      ∃ assignment, assigned order.operationAssignments operation.sequence = some assignment ∧
        Staffed db now order operation assignment := by
  have bound := contains_selected done operation.documentCode
  have documents : selected.contains operation.documentCode = true ↔
      ∃ identifier ∈ order.documentRevisionIds,
        EffectiveDocument db identifier operation.documentCode := by
    rw [bound]
    exact or_iff_right Bool.false_ne_true
  unfold checkOperation
  simp only [bind_eq_ok, check_eq_ok, orFault_eq_ok, get?_assignmentBySequence,
    requireEquipment_ok_iff equipment, requireQualified_ok_iff personnel, documents]
  constructor
  · rintro ⟨assignment, found, _, capable, _, qualified, document⟩
    exact ⟨assignment, found, capable, qualified, document⟩
  · rintro ⟨assignment, found, capable, qualified, document⟩
    exact ⟨assignment, found, (), capable, (), qualified, document⟩

/-- The gate lets a work order through exactly when it is releasable. -/
theorem releaseGate_ok_iff (equipment : db.equipment.Keyed (·.equipmentCode))
    (personnel : db.personnel.Keyed (·.personnelCode)) (order : WorkOrderRow) :
    releaseGate db now order = .ok () ↔ Releasable db now order := by
  unfold releaseGate
  simp only [bind_eq_ok, check_eq_ok, requireById, orFault_eq_ok, requireEffectiveRevision_eq_ok,
    requireCovered_eq_ok, exists_const, Int.toNat_natCast]
  constructor
  · rintro ⟨draft, bom, bomFound, routing, routingFound, bomEffective, routingEffective, selected,
      done, covered, looped⟩
    refine ⟨draft, ⟨bom, bomFound, bomEffective⟩, selectDocuments_ok_iff.mp ⟨selected, done⟩,
      routing, routingFound, routingEffective, ?_, ?_⟩
    · intro sequence
      rw [← mem_assignmentBySequence, covered sequence]
      simp
    · intro operation member
      exact (checkOperation_ok_iff equipment personnel done).mp
        (forM_eq_ok.mp looped operation member)
  · intro releasable
    obtain ⟨bom, bomFound, bomEffective⟩ := releasable.bom
    obtain ⟨routing, routingFound, routingEffective, covered⟩ := releasable.routing
    obtain ⟨selected, done⟩ := selectDocuments_ok_iff.mpr releasable.documents
    refine ⟨releasable.draft, bom, bomFound, routing, routingFound, bomEffective,
      routingEffective, selected, done, ?_, ?_⟩
    · intro sequence
      rw [mem_assignmentBySequence, covered.sequences sequence]
      simp
    · refine forM_eq_ok.mpr fun operation member => ?_
      exact (checkOperation_ok_iff equipment personnel done).mpr (covered.staffed operation member)

end Laws

end MiniOgas
