import MiniOgas.ReleaseGate

namespace MiniOgas

open Relational Serial

/-- An assignment as `model_dump` gives it. -/
def OperationAssignment.json (assignment : OperationAssignment) : Json :=
  .obj [("sequence", .int assignment.sequence),
    ("equipment_code", .str assignment.equipmentCode),
    ("personnel_code", .str assignment.personnelCode)]

/-- The payload of `create_work_order`. -/
structure WorkOrderIn where
  workOrderCode : Code
  productCode : Code
  quantity : Quantity
  quantity_pos : 0 < quantity
  bomRevisionId : Nat
  bomRevisionId_pos : 1 ≤ bomRevisionId
  routingRevisionId : Nat
  routingRevisionId_pos : 1 ≤ routingRevisionId
  documentRevisionIds : List Int
  documents_length : 1 ≤ documentRevisionIds.length ∧ documentRevisionIds.length ≤ 100
  documents_unique : documentRevisionIds.Nodup
  calendarCode : Code
  shiftCode : Code
  operationAssignments : List OperationAssignment
  assignments_length : 1 ≤ operationAssignments.length ∧ operationAssignments.length ≤ 500
  assignments_codes : ∀ assignment ∈ operationAssignments, 1 ≤ assignment.sequence ∧
    matchesCodePattern assignment.equipmentCode = true ∧
    matchesCodePattern assignment.personnelCode = true
  assignments_ordered : operationAssignments.Pairwise fun one other =>
    one.sequence < other.sequence

section Calls

variable (env : MasterDataEnv)

def jsonAssignments (assignments : List OperationAssignment) : Json :=
  .arr (assignments.map OperationAssignment.json)

def jsonIds (identifiers : List Int) : Json := .arr (identifiers.map Json.int)

def WorkOrderIn.fields (payload : WorkOrderIn) : Fields :=
  [("work_order_code", .str payload.workOrderCode.value),
    ("product_code", .str payload.productCode.value), ("quantity", .float payload.quantity),
    ("bom_revision_id", .int payload.bomRevisionId),
    ("routing_revision_id", .int payload.routingRevisionId),
    ("document_revision_ids", jsonIds payload.documentRevisionIds),
    ("calendar_code", .str payload.calendarCode.value),
    ("shift_code", .str payload.shiftCode.value),
    ("operation_assignments", jsonAssignments payload.operationAssignments)]

/-- The checks of `create_work_order`, and the row that it inserts. -/
def newWorkOrder (db : MasterDataTables) (payload : WorkOrderIn) (actor : String)
    (now : Timestamp) : Except MasterDataFault WorkOrderRow := do
  let (productId, _) ←
    requireByCode db.products (·.productCode) payload.productCode.value "product"
  let bomRevision ← requireById db.bomRevisions payload.bomRevisionId "bom_revision"
  let routingRevision ←
    requireById db.routingRevisions payload.routingRevisionId "routing_revision"
  let bom ← requireById db.boms bomRevision.bomId "bom"
  let routing ← requireById db.routings routingRevision.routingId "routing"
  check (bom.productId = productId ∧ routing.productId = productId)
    (masterDataError 409 "WORK_ORDER_PRODUCT_MISMATCH"
      "BOM and routing revisions must belong to the work-order product"
      [("product_code", .str payload.productCode.value)])
  payload.documentRevisionIds.forM fun identifier => do
    let _ ← requireById db.documentRevisions identifier "document_revision"
    return ()
  let (calendarId, _) ←
    requireByCode db.calendars (·.calendarCode) payload.calendarCode.value "calendar"
  let (shiftId, _) ← orFault (db.calendarShifts.first? fun shift =>
      shift.calendarId = calendarId && shift.shiftCode = payload.shiftCode.value)
    (masterDataError 409 "SHIFT_NOT_FOUND" "shift does not belong to the selected calendar"
      [("calendar_code", .str payload.calendarCode.value),
        ("shift_code", .str payload.shiftCode.value)])
  payload.operationAssignments.forM fun assignment => do
    let _ ← requireByCode db.equipment (·.equipmentCode) assignment.equipmentCode "equipment"
    let _ ← requireByCode db.personnel (·.personnelCode) assignment.personnelCode "personnel"
    return ()
  return {
    workOrderCode := payload.workOrderCode
    productId
    quantity := payload.quantity
    bomRevisionId := payload.bomRevisionId
    routingRevisionId := payload.routingRevisionId
    documentRevisionIds := payload.documentRevisionIds
    calendarId
    shiftId
    operationAssignments := payload.operationAssignments
    createdBy := actor
    createdAt := now }

def createAudit (payload : WorkOrderIn) (actor : String) (now : Timestamp) : MasterDataAudit where
  actor := actor
  action := "master-data:work-order-created"
  resourceType := "work_order"
  resourceId := payload.workOrderCode.value
  detail := dumpJson env.codec.format (.obj payload.fields)
  createdAt := now

def createWorkOrder (payload : WorkOrderIn) (actor : String) (now : Timestamp) :
    Procedure MasterDataFault MasterDataTables FormattedWorkOrder := .transaction do
  let db ← get
  let row ← .lift (newWorkOrder db payload actor now)
  let workOrders ← .lift (db.workOrders.insertUnique
    (·.workOrderCode.value = payload.workOrderCode.value) row
    (masterDataError 409 "DUPLICATE_MASTER_DATA" "work_order already exists"
      [("resource_type", .str "work_order"),
        ("resource_code", .str payload.workOrderCode.value)]))
  set { db with workOrders }
  auditMasterData env (createAudit env payload actor now)
  let after ← get
  .lift (formatWorkOrder after db.workOrders.nextId)

def releaseFields (order : WorkOrderRow) : Fields :=
  [("bom_revision_id", .int order.bomRevisionId),
    ("routing_revision_id", .int order.routingRevisionId),
    ("document_revision_ids", jsonIds order.documentRevisionIds),
    ("operation_assignments", jsonAssignments order.operationAssignments)]

def releaseDetail (order : WorkOrderRow) : String :=
  dumpJson env.codec.format (.obj (releaseFields order))

def releaseAudit (order : WorkOrderRow) (actor : String) (now : Timestamp) :
    MasterDataAudit where
  actor := actor
  action := "master-data:work-order-released"
  resourceType := "work_order"
  resourceId := order.workOrderCode.value
  detail := releaseDetail env order
  createdAt := now

def WorkOrderRow.released (order : WorkOrderRow) (actor : String) (now : Timestamp) :
    WorkOrderRow :=
  { order with status := .released, releasedBy := some actor, releasedAt := some now }

def writeRelease (id : Nat) (order : WorkOrderRow) (actor : String) (now : Timestamp) :
    Procedure MasterDataFault MasterDataTables FormattedWorkOrder := do
  let db ← get
  let workOrders ← .lift (db.workOrders.updateOne id (·.status = .draft)
    (fun row => row.released actor now) (masterDataError 409 "WORK_ORDER_RELEASE_CONFLICT"
      "work order changed while release validation was in progress"
      [("work_order_code", .str order.workOrderCode.value)]))
  set { db with workOrders }
  auditMasterData env (releaseAudit env order actor now)
  let after ← get
  .lift (formatWorkOrder after id)

def releaseWorkOrder (workOrderCode actor : String) (now : Timestamp) :
    Procedure MasterDataFault MasterDataTables FormattedWorkOrder := .transaction do
  let db ← get
  let (id, order) ←
    .lift (requireByCode db.workOrders (·.workOrderCode.value) workOrderCode "work_order")
  if order.status = .released then .lift (formatWorkOrder db id)
  else do
    .lift (releaseGate db now order)
    writeRelease env id order actor now

end Calls

/-- Between its calls other operations may change the other tables. -/
inductive MasterDataCall where
  | create (payload : WorkOrderIn) (actor : String) (now : Timestamp)
  | release (workOrderCode actor : String) (now : Timestamp)
  | others (after : MasterDataTables)

def MasterDataCall.perform (env : MasterDataEnv) :
    MasterDataCall → Procedure MasterDataFault MasterDataTables (Option FormattedWorkOrder)
  | .create payload actor now => do
    let answer ← createWorkOrder env payload actor now
    return some answer
  | .release workOrderCode actor now => do
    let answer ← releaseWorkOrder env workOrderCode actor now
    return some answer
  | .others after => do
    set after
    return none

def masterDataAuthority (env : MasterDataEnv) : Authority MasterDataCall MasterDataTables
    (Except MasterDataFault (Option FormattedWorkOrder)) Empty :=
  Procedure.serially (MasterDataCall.perform env)

structure References (db : MasterDataTables) (order : WorkOrderRow) : Prop where
  product : (db.products.find? order.productId).isSome = true
  calendar : (db.calendars.find? order.calendarId).isSome = true
  shift : (db.calendarShifts.find? order.shiftId).isSome = true

structure MasterDataSound (env : MasterDataEnv) (db : MasterDataTables) : Prop where
  orderCodes : db.workOrders.Keyed (·.workOrderCode.value)
  equipmentCodes : db.equipment.Keyed (·.equipmentCode)
  personnelCodes : db.personnel.Keyed (·.personnelCode)
  references : ∀ id order, db.workOrders.find? id = some order → References db order
  details : ∀ id order, db.workOrders.find? id = some order →
    (releaseDetail env order).length ≤ 4096
  numbered : db.auditLogs.nextId < 2 ^ 63
  messages : MessagesNumbered env db

/-- The other operations keep the references and leave the orders. -/
def Admissible (env : MasterDataEnv) (db : MasterDataTables) : MasterDataCall → Prop
  | .others after => after.workOrders = db.workOrders ∧ MasterDataSound env after
  | _ => db.auditLogs.nextId + 1 < 2 ^ 63

section ReleaseLaws

variable {env : MasterDataEnv} {db : MasterDataTables} {id : Nat} {order : WorkOrderRow}
  {actor : String} {now : Timestamp} {after : MasterDataTables} {answer : FormattedWorkOrder}

theorem Code.length (code : Code) : 1 ≤ code.value.length ∧ code.value.length ≤ 128 := by
  have matches' := code.matchesPattern
  unfold matchesCodePattern at matches'
  rw [← String.length_toList]
  split at matches'
  next => cases matches'
  next c cs given =>
    simp only [Bool.and_eq_true, decide_eq_true_eq] at matches'
    rw [given, List.length_cons]
    omega

theorem releaseAudit_named (order : WorkOrderRow) (actor : String) (now : Timestamp) :
    (releaseAudit env order actor now).Named where
  action := by
    have named : 1 ≤ "master-data:work-order-released".length ∧
        "master-data:work-order-released".length ≤ 128 := by decide
    exact named
  resourceType := by
    show nodeToken "work_order" = true
    decide
  resourceId := order.workOrderCode.length

theorem releaseAudit_fits_iff (sound : MasterDataSound env db)
    (found : db.workOrders.find? id = some order) :
    (releaseAudit env order actor now).Fits ↔ actor.length ≤ 128 :=
  ⟨fun fits => fits.actor, fun short => ⟨short, sound.details id order found⟩⟩

theorem exists_formatted (found : db.workOrders.find? id = some order)
    (references : References db order) : ∃ answer, formatWorkOrder db id = .ok answer := by
  obtain ⟨product, productFound⟩ := Option.isSome_iff_exists.mp references.product
  obtain ⟨calendar, calendarFound⟩ := Option.isSome_iff_exists.mp references.calendar
  obtain ⟨shift, shiftFound⟩ := Option.isSome_iff_exists.mp references.shift
  refine ⟨⟨id, order, product.productCode, calendar.calendarCode, shift.shiftCode⟩, ?_⟩
  refine orFault_eq_ok.mpr ?_
  unfold formattedWorkOrder?
  simp only [found, productFound, calendarFound, shiftFound, Option.bind_eq_bind, Option.bind_some]
  rfl

def releasedTables (db : MasterDataTables) (id : Nat) (order : WorkOrderRow) (actor : String)
    (now : Timestamp) : MasterDataTables :=
  { db with workOrders := db.workOrders.set id (order.released actor now) }

theorem updateOne_released (found : db.workOrders.find? id = some order)
    (draft : order.status = .draft) (fault : MasterDataFault) :
    db.workOrders.updateOne id (·.status = .draft) (fun row => row.released actor now) fault =
      .ok (db.workOrders.set id (order.released actor now)) :=
  Table.updateOne_eq_ok.mpr ⟨order, found, decide_eq_true draft, rfl⟩

theorem writeRelease_ok (sound : MasterDataSound env db)
    (found : db.workOrders.find? id = some order) (draft : order.status = .draft)
    (short : actor.length ≤ 128) (now : Timestamp) :
    ∃ answer fields message, writeRelease env id order actor now db = .ok answer
      (recordAudit (releasedTables db id order actor now) (releaseAudit env order actor now)
        (env.codec.messageIdOf "audit" (("id", .int db.auditLogs.nextId) :: fields)) message) := by
  have fits : (releaseAudit env order actor now).Fits :=
    (releaseAudit_fits_iff sound found).mpr short
  have messages : MessagesNumbered env (releasedTables db id order actor now) := sound.messages
  have numbered : (releasedTables db id order actor now).auditLogs.nextId < 2 ^ 63 :=
    sound.numbered
  obtain ⟨fields, message, recorded⟩ :=
    auditMasterData_ok (releaseAudit_named order actor now) fits numbered messages
  have released : (recordAudit (releasedTables db id order actor now)
      (releaseAudit env order actor now) (env.codec.messageIdOf "audit"
        (("id", .int db.auditLogs.nextId) :: fields)) message).workOrders.find? id =
      some (order.released actor now) := by
    unfold recordAudit releasedTables
    simp [Table.find?_set, found]
  have references := sound.references id order found
  obtain ⟨answer, shown⟩ := exists_formatted released
    { references with }
  refine ⟨answer, fields, message, ?_⟩
  refine (Procedure.bind_ok (Procedure.lift_ok (updateOne_released found draft _))).trans ?_
  refine (Procedure.bind_ok rfl).trans ((Procedure.bind_ok recorded).trans ?_)
  exact (Procedure.bind_ok rfl).trans (Procedure.lift_ok shown)

theorem writeRelease_error (sound : MasterDataSound env db)
    (found : db.workOrders.find? id = some order) (draft : order.status = .draft)
    (long : ¬ actor.length ≤ 128) :
    ∃ fault after, writeRelease env id order actor now db = .error fault after := by
  have unfit : ¬ (releaseAudit env order actor now).Fits := by
    rwa [releaseAudit_fits_iff sound found]
  have numbered : (releasedTables db id order actor now).auditLogs.nextId < 2 ^ 63 :=
    sound.numbered
  obtain ⟨after, refused⟩ := auditMasterData_error env
    (releaseAudit_named order actor now) unfit numbered
  refine ⟨.validation, after, ?_⟩
  refine (Procedure.bind_ok (Procedure.lift_ok (updateOne_released found draft _))).trans ?_
  exact (Procedure.bind_ok rfl).trans (Procedure.bind_error refused)

theorem requireByCode_order (sound : MasterDataSound env db)
    (found : db.workOrders.find? id = some order) :
    requireByCode db.workOrders (·.workOrderCode.value) order.workOrderCode.value "work_order" =
      .ok (id, order) := by
  refine requireByCode_eq_ok.mpr (sound.orderCodes.first? found (decide_eq_true rfl) ?_)
  intro j other _ same
  exact of_decide_eq_true same

theorem releaseWorkOrder_of_released (sound : MasterDataSound env db)
    (found : db.workOrders.find? id = some order) (released : order.status = .released)
    (actor : String) (now : Timestamp) :
    ∃ answer, releaseWorkOrder env order.workOrderCode.value actor now db = .ok answer db := by
  obtain ⟨answer, shown⟩ := exists_formatted found (sound.references id order found)
  refine ⟨answer, Procedure.transaction_ok ?_⟩
  refine (Procedure.bind_ok (Procedure.lift_ok (requireByCode_order sound found))).trans ?_
  dsimp only
  rw [if_pos released]
  exact Procedure.lift_ok shown

theorem releaseWorkOrder_ok (sound : MasterDataSound env db)
    (found : db.workOrders.find? id = some order) (releasable : Releasable db now order)
    (short : actor.length ≤ 128) :
    ∃ answer fields message, releaseWorkOrder env order.workOrderCode.value actor now db =
      .ok answer (recordAudit (releasedTables db id order actor now)
        (releaseAudit env order actor now)
        (env.codec.messageIdOf "audit" (("id", .int db.auditLogs.nextId) :: fields)) message) := by
  obtain ⟨answer, fields, message, written⟩ :=
    writeRelease_ok sound found releasable.draft short now
  have gate := (releaseGate_ok_iff sound.equipmentCodes sound.personnelCodes order).mpr releasable
  have unreleased : order.status ≠ .released := by
    rw [releasable.draft]
    decide
  refine ⟨answer, fields, message, Procedure.transaction_ok ?_⟩
  refine (Procedure.bind_ok (Procedure.lift_ok (requireByCode_order sound found))).trans ?_
  dsimp only
  rw [if_neg unreleased]
  exact (Procedure.bind_ok (Procedure.lift_ok gate)).trans written

theorem releaseWorkOrder_error (sound : MasterDataSound env db)
    (found : db.workOrders.find? id = some order) (unreleased : order.status ≠ .released)
    (refused : ¬ (Releasable db now order ∧ actor.length ≤ 128)) :
    ∃ fault, releaseWorkOrder env order.workOrderCode.value actor now db = .error fault db := by
  have rest : ∃ fault after, (Procedure.lift (releaseGate db now order) >>= fun _ =>
      writeRelease env id order actor now) db = .error fault after := by
    cases gate : releaseGate db now order with
    | error fault => exact ⟨fault, db, Procedure.bind_error (Procedure.lift_error rfl)⟩
    | ok =>
      have releasable :=
        (releaseGate_ok_iff sound.equipmentCodes sound.personnelCodes order).mp gate
      have long : ¬ actor.length ≤ 128 := fun short => refused ⟨releasable, short⟩
      obtain ⟨fault, after, raised⟩ := writeRelease_error sound found releasable.draft long
      exact ⟨fault, after, (Procedure.bind_ok (Procedure.lift_ok rfl)).trans raised⟩
  obtain ⟨fault, after, raised⟩ := rest
  have whole : (get >>= fun db => Procedure.lift (requireByCode db.workOrders
      (·.workOrderCode.value) order.workOrderCode.value "work_order") >>= fun found =>
      if found.2.status = .released then Procedure.lift (formatWorkOrder db found.1)
      else Procedure.lift (releaseGate db now found.2) >>= fun _ =>
        writeRelease env found.1 found.2 actor now) db = .error fault after := by
    refine (Procedure.bind_ok (Procedure.lift_ok (requireByCode_order sound found))).trans ?_
    exact (congrFun (if_neg unreleased) db).trans raised
  exact ⟨fault, Procedure.transaction_error whole⟩

theorem MasterDataSound.record (sound : MasterDataSound env db)
    (room : db.auditLogs.nextId + 1 < 2 ^ 63) (log : MasterDataAudit) (fields : Fields)
    (message : MasterDataMessage) : MasterDataSound env (recordAudit db log
      (env.codec.messageIdOf "audit" (("id", .int db.auditLogs.nextId) :: fields)) message) := by
  have next : (db.auditLogs.insert log).nextId = db.auditLogs.nextId + 1 := by
    simp [Table.insert, Table.nextId]
  exact { sound with
    references := fun id order found => { sound.references id order found with }
    numbered := next ▸ room
    messages := sound.messages.record fields message }

theorem MasterDataSound.release (sound : MasterDataSound env db)
    (found : db.workOrders.find? id = some order) :
    MasterDataSound env (releasedTables db id order actor now) := by
  have old := sound.references id order found
  refine { sound with
    orderCodes := sound.orderCodes.set found rfl
    references := Table.forall_set { old with } fun other row there => ?_
    details := Table.forall_set (sound.details id order found) sound.details }
  have own := sound.references other row there
  exact { own with }

theorem MasterDataSound.insert {row : WorkOrderRow} (sound : MasterDataSound env db)
    (fresh : db.workOrders.any (·.workOrderCode.value = row.workOrderCode.value) = false)
    (references : References db row) (detail : (releaseDetail env row).length ≤ 4096) :
    MasterDataSound env { db with workOrders := db.workOrders.insert row } := by
  refine { sound with
    orderCodes := sound.orderCodes.insert ?_
    references := Table.forall_insert { references with } fun other given there => ?_
    details := Table.forall_insert detail sound.details }
  · intro other given there
    exact of_decide_eq_false (Table.any_eq_false_iff.mp fresh other given there)
  · have own := sound.references other given there
    exact { own with }

theorem newWorkOrder_spec {payload : WorkOrderIn} {row : WorkOrderRow}
    (made : newWorkOrder db payload actor now = .ok row) :
    References db row ∧ row.workOrderCode = payload.workOrderCode ∧ row.status = .draft ∧
      (releaseFields row).Sublist payload.fields := by
  obtain ⟨⟨productId, product⟩, productFound, made⟩ := of_bind made
  obtain ⟨bomRevision, -, made⟩ := of_bind made
  obtain ⟨routingRevision, -, made⟩ := of_bind made
  obtain ⟨bom, -, made⟩ := of_bind made
  obtain ⟨routing, -, made⟩ := of_bind made
  obtain ⟨-, -, made⟩ := of_bind made
  obtain ⟨-, -, made⟩ := of_bind made
  obtain ⟨⟨calendarId, calendar⟩, calendarFound, made⟩ := of_bind made
  obtain ⟨⟨shiftId, shift⟩, shiftFound, made⟩ := of_bind made
  obtain ⟨-, -, made⟩ := of_bind made
  cases made
  have productThere := (Table.first?_spec (requireByCode_eq_ok.mp productFound)).1
  have calendarThere := (Table.first?_spec (requireByCode_eq_ok.mp calendarFound)).1
  have shiftThere := (Table.first?_spec (orFault_eq_ok.mp shiftFound)).1
  refine ⟨⟨Option.isSome_of_eq_some productThere, Option.isSome_of_eq_some calendarThere,
    Option.isSome_of_eq_some shiftThere⟩, rfl, rfl, ?_⟩
  refine .cons _ (.cons _ (.cons _ (.cons_cons _ (.cons_cons _ (.cons_cons _ ?_)))))
  exact .cons _ (.cons _ (.cons_cons _ .slnil))

theorem createAudit_named (payload : WorkOrderIn) (actor : String) (now : Timestamp) :
    (createAudit env payload actor now).Named where
  action := by
    have named : 1 ≤ "master-data:work-order-created".length ∧
        "master-data:work-order-created".length ≤ 128 := by decide
    exact named
  resourceType := by
    show nodeToken "work_order" = true
    decide
  resourceId := payload.workOrderCode.length

theorem auditMasterData_eq_ok {log : MasterDataAudit} {u : Unit} (named : log.Named)
    (small : db.auditLogs.nextId < 2 ^ 63) (fresh : MessagesNumbered env db)
    (done : auditMasterData env log db = .ok u after) :
    log.Fits ∧ ∃ fields message, after = recordAudit db log
      (env.codec.messageIdOf "audit" (("id", .int db.auditLogs.nextId) :: fields)) message := by
  by_cases fits : log.Fits
  · obtain ⟨fields, message, recorded⟩ := auditMasterData_ok named fits small fresh
    rw [recorded] at done
    injection done with _ same
    exact ⟨fits, fields, message, same.symm⟩
  · obtain ⟨left, refused⟩ := auditMasterData_error env named fits small
    rw [refused] at done
    cases done

/-- The call releases an order that meets the conditions. -/
def Releases (db : MasterDataTables) (draft : WorkOrderRow) (call : MasterDataCall)
    (order : WorkOrderRow) : Prop :=
  ∃ actor now, call = .release draft.workOrderCode.value actor now ∧ Releasable db now draft ∧
    actor.length ≤ 128 ∧ order = draft.released actor now

/-- What a call leaves of a sound state. -/
structure LeavesOrders (env : MasterDataEnv) (db : MasterDataTables) (call : MasterDataCall)
    (after : MasterDataTables) : Prop where
  sound : MasterDataSound env after
  released : ∀ {id order}, order.status = .released → (after.workOrders.find? id = some order ↔
    db.workOrders.find? id = some order ∨
      ∃ draft, db.workOrders.find? id = some draft ∧ Releases db draft call order)

theorem leavesOrders_same {call : MasterDataCall} (sound : MasterDataSound env after)
    (same : after.workOrders = db.workOrders)
    (refused : ∀ id draft order, db.workOrders.find? id = some draft →
      ¬ Releases db draft call order) : LeavesOrders env db call after := by
  refine ⟨sound, fun {id order} _ => ?_⟩
  rw [same, iff_self_or]
  rintro ⟨draft, found, releases⟩
  exact absurd releases (refused id draft order found)

theorem createWorkOrder_leaves (payload : WorkOrderIn) (sound : MasterDataSound env db)
    (room : db.auditLogs.nextId + 1 < 2 ^ 63) : LeavesOrders env db (.create payload actor now)
      (Procedure.after (createWorkOrder env payload actor now) db) := by
  cases done : createWorkOrder env payload actor now db with
  | error fault left =>
    obtain rfl := Procedure.transaction_eq_error done
    rw [Procedure.after_error done]
    refine leavesOrders_same sound rfl ?_
    rintro id draft order - ⟨_, _, same, -⟩
    cases same
  | ok answer after =>
    rw [Procedure.after_ok done]
    have body := Procedure.transaction_eq_ok.mp done
    obtain ⟨_, _, begun, body⟩ := Procedure.of_bind body
    cases begun
    obtain ⟨row, _, checked, body⟩ := Procedure.of_bind body
    obtain ⟨made, rfl⟩ := Procedure.lift_eq_ok.mp checked
    obtain ⟨orders, _, entered, body⟩ := Procedure.of_bind body
    obtain ⟨inserted, rfl⟩ := Procedure.lift_eq_ok.mp entered
    obtain ⟨fresh, rfl⟩ := Table.insertUnique_eq_ok.mp inserted
    obtain ⟨_, _, written, body⟩ := Procedure.of_bind body
    cases written
    obtain ⟨_, recorded, audited, body⟩ := Procedure.of_bind body
    obtain ⟨_, _, read, body⟩ := Procedure.of_bind body
    cases read
    obtain ⟨-, rfl⟩ := Procedure.lift_eq_ok.mp body
    obtain ⟨references, code, draft, sub⟩ := newWorkOrder_spec made
    have messages : MessagesNumbered env { db with workOrders := db.workOrders.insert row } :=
      sound.messages
    obtain ⟨fits, fields, message, rfl⟩ := auditMasterData_eq_ok
      (createAudit_named payload actor now) (by exact sound.numbered) messages audited
    have detail : (releaseDetail env row).length ≤ 4096 :=
      (dumpJson_length_le env.codec.format sub).trans fits.detail
    refine ⟨(sound.insert (code ▸ fresh) references detail).record room _ fields message,
      fun {id order} released => ⟨fun found => ?_, ?_⟩⟩
    · rcases Table.of_find?_insert found with ⟨-, rfl⟩ | found
      · cases draft.symm.trans released
      · exact .inl found
    · rintro (found | ⟨_, _, _, _, releases, -⟩)
      · exact Table.find?_insert_of_find? row found
      · cases releases

theorem releaseWorkOrder_leaves (workOrderCode : String) (sound : MasterDataSound env db)
    (room : db.auditLogs.nextId + 1 < 2 ^ 63) :
    LeavesOrders env db (.release workOrderCode actor now)
      (Procedure.after (releaseWorkOrder env workOrderCode actor now) db) := by
  by_cases suited : ∃ id order, db.workOrders.find? id = some order ∧
      order.workOrderCode.value = workOrderCode ∧ Releasable db now order ∧ actor.length ≤ 128
  · obtain ⟨id, order, found, rfl, releasable, short⟩ := suited
    obtain ⟨answer, fields, message, done⟩ := releaseWorkOrder_ok sound found releasable short
    rw [Procedure.after_ok done]
    refine ⟨(sound.release found).record room _ fields message,
      fun {other given} released => ⟨fun there => ?_, ?_⟩⟩
    · rcases Table.of_find?_set there with ⟨rfl, rfl⟩ | ⟨-, there⟩
      · exact .inr ⟨order, found, actor, now, rfl, releasable, short, rfl⟩
      · exact .inl there
    · rintro (there | ⟨old, there, _, _, same, -, -, rfl⟩)
      · refine (Table.find?_set_ne _ ?_).trans there
        rintro rfl
        obtain rfl := Option.some.inj (found.symm.trans there)
        cases releasable.draft.symm.trans released
      · injection same with code actors times
        obtain rfl := sound.orderCodes id other order old found there code
        obtain rfl := Option.some.inj (found.symm.trans there)
        rw [← actors, ← times]
        exact Table.find?_set_self _ found
  · have stays : Procedure.after (releaseWorkOrder env workOrderCode actor now) db = db := by
      cases done : releaseWorkOrder env workOrderCode actor now db with
      | error fault left =>
        rw [Procedure.after_error done, Procedure.transaction_eq_error done]
      | ok answer left =>
        rw [Procedure.after_ok done]
        obtain ⟨_, _, begun, body⟩ := Procedure.of_bind (Procedure.transaction_eq_ok.mp done)
        cases begun
        obtain ⟨⟨id, order⟩, _, checked, -⟩ := Procedure.of_bind body
        obtain ⟨met, -⟩ := Procedure.lift_eq_ok.mp checked
        obtain ⟨found, same⟩ := Table.first?_spec (requireByCode_eq_ok.mp met)
        obtain rfl := of_decide_eq_true same
        by_cases released : order.status = .released
        · obtain ⟨shown, again⟩ := releaseWorkOrder_of_released sound found released actor now
          exact (EStateM.Result.ok.inj (done.symm.trans again)).2
        · obtain ⟨fault, raised⟩ := releaseWorkOrder_error sound found released
            fun accepted => suited ⟨id, order, found, rfl, accepted⟩
          cases done.symm.trans raised
    rw [stays]
    refine leavesOrders_same sound rfl ?_
    rintro id draft _ found ⟨_, _, same, releasable, short, -⟩
    injection same with code actors times
    subst actors times
    exact suited ⟨id, draft, found, code.symm, releasable, short⟩

theorem masterDataCall_leaves {call : MasterDataCall} (sound : MasterDataSound env db)
    (admissible : Admissible env db call) :
    LeavesOrders env db call ((masterDataAuthority env).serve db call) := by
  have serve : (masterDataAuthority env).serve db call = Procedure.after (call.perform env) db :=
    rfl
  cases call with
  | create payload actor now =>
    rw [serve, MasterDataCall.perform, Procedure.after_bind_pure]
    exact createWorkOrder_leaves payload sound admissible
  | release workOrderCode actor now =>
    rw [serve, MasterDataCall.perform, Procedure.after_bind_pure]
    exact releaseWorkOrder_leaves workOrderCode sound admissible
  | others after =>
    refine leavesOrders_same admissible.2 admissible.1 ?_
    rintro id draft order - ⟨_, _, same, -⟩
    cases same

/-- In every run the released orders are those that were released before it, and those that a
call of the run releases when they meet the conditions, and they stay as that call leaves them. -/
theorem workOrders_released_run {calls : List MasterDataCall} (sound : MasterDataSound env db)
    (along : (masterDataAuthority env).Along (Admissible env) db calls)
    (released : order.status = .released) :
    ((masterDataAuthority env).run db calls).workOrders.find? id = some order ↔
      db.workOrders.find? id = some order ∨
        ∃ before call later, calls = before ++ call :: later ∧
          ∃ draft, ((masterDataAuthority env).run db before).workOrders.find? id = some draft ∧
            Releases ((masterDataAuthority env).run db before) draft call order :=
  Authority.run_iff (I := MasterDataSound env)
    (F := fun after => (MasterDataTables.workOrders after).find? id = some order)
    (fun sound admissible => (masterDataCall_leaves sound admissible).sound)
    (fun sound admissible => (masterDataCall_leaves sound admissible).released released)
    sound along

end ReleaseLaws

/-- The call returns, and the order, which had another status, is released. -/
def ReleasesOrder (env : MasterDataEnv) (db : MasterDataTables) (id : Nat)
    (workOrderCode actor : String) (now : Timestamp) : Prop :=
  ∃ answer after, releaseWorkOrder env workOrderCode actor now db = .ok answer after ∧
    (db.workOrders.find? id).map (·.status) ≠ some .released ∧
    (after.workOrders.find? id).map (·.status) = some .released

/-- A release goes through exactly if the order meets the conditions and the audit contract takes
the name of the actor; else it fails and leaves all tables as they are, as does the release of an
order that has been released. -/
theorem releaseWorkOrder_exact {env : MasterDataEnv} {db : MasterDataTables} {id : Nat}
    {order : WorkOrderRow} (sound : MasterDataSound env db)
    (found : db.workOrders.find? id = some order) (actor : String) (now : Timestamp) :
    (ReleasesOrder env db id order.workOrderCode.value actor now ↔
      Releasable db now order ∧ actor.length ≤ 128) ∧
    (order.status ≠ .released → ¬ (Releasable db now order ∧ actor.length ≤ 128) →
      ∃ fault, releaseWorkOrder env order.workOrderCode.value actor now db = .error fault db) ∧
    (order.status = .released →
      ∃ answer, releaseWorkOrder env order.workOrderCode.value actor now db =
        .ok answer db) := by
  refine ⟨?_, releaseWorkOrder_error sound found,
    fun released => releaseWorkOrder_of_released sound found released actor now⟩
  constructor
  · rintro ⟨answer, after, done, unreleased, -⟩
    by_contra refused
    have other : order.status ≠ .released := by
      simpa [found] using unreleased
    obtain ⟨fault, raised⟩ := releaseWorkOrder_error sound found other refused
    rw [raised] at done
    cases done
  · rintro ⟨releasable, short⟩
    obtain ⟨answer, fields, message, done⟩ := releaseWorkOrder_ok sound found releasable short
    refine ⟨answer, _, done, ?_, ?_⟩
    · rw [found, Option.map_some, releasable.draft]
      decide
    · unfold recordAudit releasedTables
      simp [Table.find?_set, found, WorkOrderRow.released]

def sampleMessageId (_ : String) (fields : Fields) : String :=
  match fields.get "id" with
  | .int n => String.ofList (writeInt n)
  | _ => ""

theorem sampleMessageId_id (n m : Int) (fields other : Fields)
    (same : sampleMessageId "audit" (("id", .int n) :: fields) =
      sampleMessageId "audit" (("id", .int m) :: other)) : n = m := by
  have text : writeInt n = writeInt m := String.ofList_injective same
  have reads := readInteger_writeInt n
  rw [text, readInteger_writeInt] at reads
  exact (Option.some.inj reads).symm

theorem sampleUuid_messageId (kind : String) (fields : Fields) :
    (fun _ : String => true) (sampleMessageId kind fields) = true := rfl

def sampleMasterDataEnv : MasterDataEnv where
  builtins := sampleBuiltins
  codec := { sampleCodec with uuid := fun _ => true, messageIdOf := sampleMessageId }
  int_int := sampleInt_int
  uuid_messageIdOf := sampleUuid_messageId
  messageIdOf_id := sampleMessageId_id

def sampleWorkOrder : WorkOrderRow where
  workOrderCode := sampleCode "WO-1"
  productId := 1
  quantity := 5
  bomRevisionId := 1
  routingRevisionId := 1
  documentRevisionIds := [1]
  calendarId := 1
  shiftId := 1
  operationAssignments := [⟨10, "LATHE-1", "P-1"⟩]
  createdBy := "planner"
  createdAt := 0

def sampleMasterData : MasterDataTables where
  products := ⟨[⟨"PROD-1"⟩]⟩
  calendars := ⟨[⟨"CAL-1"⟩]⟩
  calendarShifts := ⟨[⟨1, "DAY"⟩]⟩
  boms := ⟨[⟨1⟩]⟩
  routings := ⟨[⟨1⟩]⟩
  bomRevisions := ⟨[⟨1, .effective⟩]⟩
  routingRevisions := ⟨[⟨1, .effective, [⟨10, "TURN", "TURNING", 2, "SOP-1"⟩]⟩]⟩
  controlledDocuments := ⟨[⟨"SOP-1"⟩]⟩
  documentRevisions := ⟨[⟨1, .effective⟩]⟩
  equipment := ⟨[⟨"LATHE-1", true⟩]⟩
  equipmentCapabilities := ⟨[⟨1, "TURN"⟩]⟩
  skills := ⟨[⟨"TURNING"⟩]⟩
  personnel := ⟨[⟨"P-1", true⟩]⟩
  personnelQualifications := ⟨[⟨1, 1, 3, 0, 100⟩]⟩
  workOrders := ⟨[sampleWorkOrder]⟩
  auditLogs := .empty
  outboxMessages := .empty

theorem sampleWorkOrder_found : sampleMasterData.workOrders.find? 1 = some sampleWorkOrder := rfl

theorem keyed_singleton {α K : Type} (row : α) (key : α → K) :
    (Table.mk [row]).Keyed key :=
  Table.keyed_empty.insert fun _ _ found => by simp at found

theorem find?_singleton {α : Type} {row other : α} {id : Nat}
    (found : (Table.mk [row]).find? id = some other) : other = row := by
  have inserted : (Table.empty.insert row).find? id = some other := found
  rcases Table.of_find?_insert inserted with ⟨-, rfl⟩ | inserted
  · rfl
  · simp at inserted

theorem sampleMasterData_sound : MasterDataSound sampleMasterDataEnv sampleMasterData where
  orderCodes := keyed_singleton _ _
  equipmentCodes := keyed_singleton _ _
  personnelCodes := keyed_singleton _ _
  references id order found := by
    rw [find?_singleton found]
    exact ⟨rfl, rfl, rfl⟩
  details id order found := by
    rw [find?_singleton found]
    unfold releaseDetail
    decide +kernel
  numbered := by decide
  messages n fields present := by cases present

theorem sampleWorkOrder_releasable : Releasable sampleMasterData 50 sampleWorkOrder where
  draft := rfl
  bom := ⟨_, rfl, rfl⟩
  documents identifier member := by
    rw [List.mem_singleton.mp member]
    exact ⟨"SOP-1", _, _, rfl, rfl, rfl, rfl⟩
  routing := by
    refine ⟨_, rfl, rfl, ?_, ?_⟩
    · intro sequence
      simp [sampleWorkOrder]
    · intro operation member
      rw [List.mem_singleton.mp member]
      refine ⟨⟨10, "LATHE-1", "P-1"⟩, rfl, ⟨1, _, rfl, rfl, rfl, 1, _, rfl, rfl, rfl⟩, ?_, ?_⟩
      · exact ⟨1, _, rfl, rfl, rfl, 1, _, _, rfl, rfl, rfl, rfl, by decide, by decide, by decide⟩
      · exact ⟨1, List.mem_singleton.mpr rfl, _, _, rfl, rfl, rfl, rfl⟩

theorem sampleWorkOrder_exact :
    ReleasesOrder sampleMasterDataEnv sampleMasterData 1 "WO-1" "planner" 50 :=
  (releaseWorkOrder_exact sampleMasterData_sound sampleWorkOrder_found "planner" 50).1.mpr
    ⟨sampleWorkOrder_releasable, by decide⟩

theorem sampleRelease_admissible : (masterDataAuthority sampleMasterDataEnv).Along
    (Admissible sampleMasterDataEnv) sampleMasterData [.release "WO-1" "planner" 50] := by
  refine ⟨?_, trivial⟩
  show sampleMasterData.auditLogs.nextId + 1 < 2 ^ 63
  decide

theorem sampleWorkOrder_released : ((masterDataAuthority sampleMasterDataEnv).run
    sampleMasterData [.release "WO-1" "planner" 50]).workOrders.find? 1 =
      some (sampleWorkOrder.released "planner" 50) :=
  (workOrders_released_run sampleMasterData_sound sampleRelease_admissible rfl).mpr
    (.inr ⟨[], _, [], rfl, sampleWorkOrder, rfl, "planner", 50, rfl, sampleWorkOrder_releasable,
      by decide, rfl⟩)

def longActor : String := String.ofList (List.replicate 129 'a')

theorem long_actor_refused : ¬ ∀ (env : MasterDataEnv) (db : MasterDataTables) (id : Nat)
    (order : WorkOrderRow), MasterDataSound env db → db.workOrders.find? id = some order →
      ∀ (actor : String) (now : Timestamp),
        (ReleasesOrder env db id order.workOrderCode.value actor now ↔
          Releasable db now order) := by
  intro always
  have releases := (always sampleMasterDataEnv sampleMasterData 1 sampleWorkOrder
    sampleMasterData_sound sampleWorkOrder_found longActor 50).mpr sampleWorkOrder_releasable
  obtain ⟨answer, after, done, -⟩ := releases
  have long : ¬ longActor.length ≤ 128 := by decide +kernel
  have draft : sampleWorkOrder.status ≠ .released := by decide
  have refused : ¬ (Releasable sampleMasterData 50 sampleWorkOrder ∧ longActor.length ≤ 128) :=
    fun both => long both.2
  obtain ⟨fault, raised⟩ :=
    releaseWorkOrder_error sampleMasterData_sound sampleWorkOrder_found draft refused
  rw [raised] at done
  cases done

end MiniOgas
