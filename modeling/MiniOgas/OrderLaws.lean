import MiniOgas.MachineInterlock

namespace MiniOgas

open Relational Serial

/-- No required item of the checklist of the order has a result other than a pass. -/
def ItemsPassable (tables : MaintenanceTables) (orderId : Nat) (order : MaintenanceOrder) : Prop :=
  ∀ itemId item, tables.checklistItems.find? itemId = some item →
    item.checklistId = order.checklistId → item.required = true →
    ∀ id result, tables.checkResults.find? id = some result →
    result.maintenanceOrderId = orderId → result.checklistItemId = itemId → result.result = .pass

/-- The code is registered for the type, or is not registered. -/
def Usable (tables : MaintenanceTables) (codeType : MaintenanceCodeType) (code : Code) : Prop :=
  ∀ id row, tables.codes.find? id = some row → row.code = code.value →
    row.codeType = codeType ∧ row.active = true

/-- There are codes of the three types that `complete_work` asks for, or codes left for them. -/
def CodesAvailable (tables : MaintenanceTables) : Prop :=
  ∃ codeOf : MaintenanceCodeType → Code, Function.Injective codeOf ∧
    ∀ codeType, Usable tables codeType (codeOf codeType)

def Completable (tables : MaintenanceTables) (orderId : Nat) (order : MaintenanceOrder) : Prop :=
  ItemsPassable tables orderId order ∧ CodesAvailable tables

variable {tables tables' : MaintenanceTables} {env : MaintenanceEnv} {actor : String}
  {operation : MaintenanceOperation} {orderId : Nat} {order order' : MaintenanceOrder}
  {plant plant' : PlantTables} {call : PlantCall} {response : Json}

theorem Completable.of_grows (grows : Grows tables tables')
    (same : order'.checklistId = order.checklistId) (h : Completable tables' orderId order') :
    Completable tables orderId order := by
  obtain ⟨items, codeOf, injective, usable⟩ := h
  refine ⟨fun itemId item found of required id result recorded => ?_, codeOf, injective,
    fun codeType id row found => usable codeType id row (grows.codes id row found)⟩
  exact items itemId item (grows.items itemId item found) (of.trans same.symm) required id result
    (grows.results id result recorded)

theorem requireCodeOfType_ok {code : String} {codeType : MaintenanceCodeType} {id : Nat}
    {fact : MaintenanceCode} (h : requireCodeOfType tables code codeType = .ok (id, fact)) :
    tables.codes.find? id = some fact ∧ fact.code = code ∧ fact.codeType = codeType ∧
      fact.active = true := by
  obtain ⟨⟨_, _⟩, found, h⟩ := of_bind h
  obtain ⟨_, typed, h⟩ := of_bind h
  cases h
  obtain ⟨hfind, named⟩ := Table.first?_spec (orFault_eq_ok.mp found)
  exact ⟨hfind, by simpa using named, check_eq_ok.mp typed⟩

def byCodeType {α : Type} (failure cause remedy : α) : MaintenanceCodeType → α
  | .failure => failure
  | .cause => cause
  | .remedy => remedy

theorem codesAvailable_of_required (sound : RecordsSound tables) {payload : WorkCompleteIn}
    {failure cause remedy : Nat × MaintenanceCode}
    (hfailure : requireCodeOfType tables payload.failureCode.value .failure = .ok failure)
    (hcause : requireCodeOfType tables payload.causeCode.value .cause = .ok cause)
    (hremedy : requireCodeOfType tables payload.remedyCode.value .remedy = .ok remedy) :
    CodesAvailable tables := by
  let codeOf : MaintenanceCodeType → Code :=
    byCodeType payload.failureCode payload.causeCode payload.remedyCode
  have required : ∀ codeType, ∃ id fact, tables.codes.find? id = some fact ∧
      fact.code = (codeOf codeType).value ∧ fact.codeType = codeType ∧ fact.active = true := by
    intro codeType
    cases codeType with
    | failure => exact ⟨_, _, requireCodeOfType_ok hfailure⟩
    | cause => exact ⟨_, _, requireCodeOfType_ok hcause⟩
    | remedy => exact ⟨_, _, requireCodeOfType_ok hremedy⟩
  have one : ∀ {i j a b}, tables.codes.find? i = some a → tables.codes.find? j = some b →
      a.code = b.code → a = b := by
    intro i j a b hi hj same
    obtain rfl := sound.codes i j a b hi hj same
    exact Option.some.inj (hi.symm.trans hj)
  refine ⟨codeOf, fun s t same => ?_, fun codeType id row found named => ?_⟩
  · obtain ⟨i, a, hi, ha, sa, -⟩ := required s
    obtain ⟨j, b, hj, hb, sb, -⟩ := required t
    rw [← sa, ← sb, one hi hj (by rw [ha, hb, same])]
  · obtain ⟨i, a, hi, ha, typed⟩ := required codeType
    rw [one found hi (named.trans ha.symm)]
    exact typed

theorem mem_incompleteItems {itemId : Nat} {item : ChecklistItem} :
    (itemId, item) ∈ incompleteItems tables orderId order ↔
      (tables.checklistItems.find? itemId = some item ∧ item.checklistId = order.checklistId ∧
        item.required = true) ∧
      ∀ id result, tables.checkResults.find? id = some result →
        result.maintenanceOrderId = orderId → result.checklistItemId = itemId →
        result.result ≠ .pass := by
  simp only [incompleteItems, List.mem_filter, Table.mem_select, Bool.not_eq_true',
    Table.any_eq_false_iff, Bool.and_eq_true, decide_eq_true_eq, Bool.and_eq_false_iff,
    decide_eq_false_iff_not]
  refine and_congr_right fun _ => forall_congr' fun id => forall_congr' fun result =>
    forall_congr' fun _ => ?_
  tauto

theorem itemsPassable_of_complete (sound : RecordsSound tables)
    (complete : incompleteItems tables orderId order = []) :
    ItemsPassable tables orderId order := by
  intro itemId item found of required id result recorded ofOrder ofItem
  have absent : (itemId, item) ∉ incompleteItems tables orderId order := by simp [complete]
  rw [mem_incompleteItems] at absent
  push Not at absent
  obtain ⟨j, passed, hj, sameOrder, sameItem, pass⟩ := absent ⟨found, of, required⟩
  have := sound.results id j result passed recorded hj
    (Prod.ext (ofOrder.trans sameOrder.symm) (ofItem.trans sameItem.symm))
  subst this
  rw [recorded] at hj
  cases hj
  exact pass

theorem inProgress_written (sound : RecordsSound tables)
    (write : MaintenanceWrite env actor operation tables tables')
    (found : tables.orders.find? orderId = some order) (inProgress : order.status = .inProgress) :
    ∃ order', tables'.orders.find? orderId = some order' ∧
      order'.checklistId = order.checklistId ∧
      (order'.status = .inProgress ∨ Completable tables orderId order) := by
  cases write with
  | unmoved _ orders | assetCreated _ _ orders =>
    exact ⟨order, by rw [orders, found], rfl, .inl inProgress⟩
  | orderCreated _ _ _ orders =>
    exact ⟨order, by rw [orders, Table.find?_insert_of_find? _ found], rfl, .inl inProgress⟩
  | @orderMoved id old new written hold move same _ orders =>
    by_cases he : orderId = id
    · subst he
      rw [hold] at found
      cases found
      refine ⟨new, by rw [orders, Table.find?_set_self _ hold], same.checklistId, ?_⟩
      generalize new.status = toStatus at move
      cases move with
      | approve draft => simp [inProgress] at draft
      | start => exact .inl rfl
      | completeWork _ _ complete hfailure hcause hremedy =>
        exact .inr ⟨itemsPassable_of_complete sound complete,
          codesAvailable_of_required sound hfailure hcause hremedy⟩
      | verify _ completed => simp [inProgress] at completed
    · exact ⟨order, by rw [orders, Table.find?_set_ne _ he, found], rfl, .inl inProgress⟩

theorem plant_recorded (h : plantAuthority.attempt call plant = .ok (response, plant')) :
    Recorded plant.maintenance plant'.maintenance := by
  rcases plant_cases h with ⟨_, -, -, same⟩ | ⟨_, _, -, performed, rfl⟩
  · rw [same]
    exact fun sound => ⟨sound, Grows.refl _⟩
  · exact (maintenance_step _ _ performed).recorded

theorem recordsSound_run (calls : List PlantCall) :
    RecordsSound (plantAuthority.run .empty calls).maintenance :=
  Authority.invariant (I := fun plant : PlantTables => RecordsSound plant.maintenance)
    (fun hi h => (plant_recorded h hi).1) calls recordsSound_empty

theorem completable_of_verified (later : List PlantCall) (sound : RecordsSound plant.maintenance)
    (found : plant.maintenance.orders.find? orderId = some order)
    (inProgress : order.status = .inProgress)
    (verified : ∃ order', (plantAuthority.run plant later).maintenance.orders.find? orderId =
      some order' ∧ order'.status = .verified) : Completable plant.maintenance orderId order := by
  induction later generalizing plant order with
  | nil =>
    obtain ⟨row, hrow, verified⟩ := verified
    rw [Authority.run_nil, found] at hrow
    cases hrow
    simp [inProgress] at verified
  | cons call later ih =>
    rw [Authority.run_cons] at verified
    rcases Authority.serve_cases (A := plantAuthority) plant call with same | ⟨response, h⟩
    · rw [same] at verified
      exact ih sound found inProgress verified
    · obtain ⟨sound', grows⟩ := plant_recorded h sound
      rcases plant_write h with ⟨-, same⟩ | ⟨operation, -, write, -⟩
      · exact (ih sound' (by rw [same, found]) inProgress verified).of_grows grows rfl
      · obtain ⟨row, hrow, same, still | done⟩ := inProgress_written sound write found inProgress
        · exact (ih sound' hrow still verified).of_grows grows same
        · exact done

variable {env : MaintenanceEnv} {db : MaintenanceStore} {actor : String} {response : Json}
  {tables : MaintenanceTables} {orderId itemId : Nat} {order : MaintenanceOrder}
  {item : ChecklistItem}

theorem exists_and_of_eq {α β Fault : Type} {x : Except Fault α} {a : α} {p : α → β → Prop}
    (h : x = .ok a) (after : ∃ b, p a b) : ∃ a b, x = .ok a ∧ p a b := by
  obtain ⟨b, hb⟩ := after
  exact ⟨a, b, h, hb⟩

theorem maintained_succeeds {body : MaintenanceTables → Except Fault MaintenanceOutcome}
    (Q : MaintenanceTables → Prop) (accepted : ∀ log, env.auditAccepted log = true)
    (h : ∃ outcome response, body db.tables = .ok outcome ∧ outcome.response = .ok response ∧
      Q outcome.tables) :
    ∃ response store, maintained env db actor body = .ok (response, store) ∧ Q store.tables := by
  obtain ⟨outcome, response, hbody, responds, after⟩ := h
  exact ⟨response, _, bind_eq_ok.mpr ⟨outcome, hbody, bind_eq_ok.mpr ⟨(),
    check_eq_ok.mpr (accepted _), bind_eq_ok.mpr ⟨response, responds, rfl⟩⟩⟩, after⟩

theorem requireOrder_of_find? (sound : RecordsSound tables)
    (found : tables.orders.find? orderId = some order) :
    requireOrder tables order.orderCode = .ok (orderId, order) :=
  orFault_eq_ok.mpr (sound.orderCodes.first? found (by simp) (by simp))

theorem formatOrder_ok (sound : RecordsSound tables)
    (found : tables.orders.find? orderId = some order)
    (assigned : (env.master.personnel.find? order.assignedPersonnelId).isSome = true) :
    ∃ response, formatOrder env tables orderId = .ok response := by
  have refers := sound.orders orderId order found
  obtain ⟨request, hrequest⟩ := Option.isSome_iff_exists.mp refers.request
  obtain ⟨asset, hasset⟩ := Option.isSome_iff_exists.mp refers.asset
  obtain ⟨checklist, hchecklist⟩ := Option.isSome_iff_exists.mp refers.checklist
  obtain ⟨personnel, hpersonnel⟩ := Option.isSome_iff_exists.mp assigned
  refine ⟨_, bind_eq_ok.mpr ⟨order, orFault_eq_ok.mpr found, bind_eq_ok.mpr
    ⟨request, orFault_eq_ok.mpr hrequest, bind_eq_ok.mpr ⟨asset, orFault_eq_ok.mpr hasset,
      bind_eq_ok.mpr ⟨personnel, orFault_eq_ok.mpr hpersonnel, bind_eq_ok.mpr
        ⟨checklist, orFault_eq_ok.mpr hchecklist, rfl⟩⟩⟩⟩⟩⟩

theorem recordCheckResult_succeeds (env : MaintenanceEnv) (db : MaintenanceStore) (actor : String)
    (sound : RecordsSound db.tables)
    (found : db.tables.orders.find? orderId = some order) (inProgress : order.status = .inProgress)
    (hitem : db.tables.checklistItems.find? itemId = some item)
    (of : item.checklistId = order.checklistId)
    (unrecorded : ∀ id result, db.tables.checkResults.find? id = some result →
      result.maintenanceOrderId = orderId → result.checklistItemId ≠ itemId)
    (accepted : ∀ log, env.auditAccepted log = true) (evidence : Text 1 240) :
    ∃ response store, recordCheckResult env db actor order.orderCode
        ⟨item.sequence, .pass, evidence, (sound.bounds itemId item hitem).1⟩ =
      .ok (response, store) ∧ store.tables = { db.tables with
        checkResults := (db.tables.checkResults.insert
          ⟨orderId, itemId, .pass, evidence.value, actor, env.now⟩) } := by
  have first : db.tables.checklistItems.first? (fun row => row.checklistId = order.checklistId &&
      row.sequence = item.sequence) = some (itemId, item) :=
    sound.items.first? hitem (by simp [of]) fun j row hrow meets => by simp_all
  have unused : db.tables.checkResults.any (fun row => row.maintenanceOrderId = orderId &&
      row.checklistItemId = itemId) = false := by
    refine Table.any_eq_false_iff.mpr fun id row hrow => ?_
    have := unrecorded id row hrow
    by_cases ofOrder : row.maintenanceOrderId = orderId <;> simp_all
  refine maintained_succeeds (fun tables => tables = _) accepted ⟨_, _, bind_eq_ok.mpr
    ⟨(orderId, order), requireOrder_of_find? sound found, bind_eq_ok.mpr ⟨(),
      check_eq_ok.mpr inProgress, bind_eq_ok.mpr ⟨(itemId, item), orFault_eq_ok.mpr first,
        bind_eq_ok.mpr ⟨(), check_eq_ok.mpr (by simp), bind_eq_ok.mpr
          ⟨_, insertMaintenance_eq_ok.mpr ⟨unused, rfl⟩, rfl⟩⟩⟩⟩⟩, rfl, rfl⟩

theorem createCode_succeeds (env : MaintenanceEnv) (db : MaintenanceStore) (actor : String)
    {code : Code} (codeType : MaintenanceCodeType) (description : Text 1 512)
    (unused : ∀ id row, db.tables.codes.find? id = some row → row.code ≠ code.value)
    (accepted : ∀ log, env.auditAccepted log = true) :
    ∃ response store, createCode env db actor ⟨code, codeType, description⟩ =
      .ok (response, store) ∧ store.tables = { db.tables with
        codes := (db.tables.codes.insert
          ⟨code.value, codeType, description.value, true, actor, env.now⟩) } := by
  have unused : db.tables.codes.any (·.code = code.value) = false :=
    Table.any_eq_false_iff.mpr fun id row hrow => by simpa using unused id row hrow
  have formatted : ∃ response, formatCode { db.tables with
      codes := (db.tables.codes.insert
        ⟨code.value, codeType, description.value, true, actor, env.now⟩) }
          db.tables.codes.nextId = .ok response :=
    ⟨_, bind_eq_ok.mpr ⟨_, orFault_eq_ok.mpr (Table.find?_insert_self _ _), rfl⟩⟩
  obtain ⟨response, formatted⟩ := formatted
  exact maintained_succeeds (fun tables => tables = _) accepted ⟨_, response, bind_eq_ok.mpr
    ⟨_, insertMaintenance_eq_ok.mpr ⟨unused, rfl⟩, rfl⟩, formatted, rfl⟩

theorem moveOrder_responds {fromStatus toStatus : MaintenanceOrderStatus}
    {write : MaintenanceOrder → MaintenanceOrder} {assets : Table MaintenanceAsset}
    {code action evidence auditAction : String} {detail : Json} {Q : MaintenanceOrder → Prop}
    (sound : RecordsSound tables) (found : tables.orders.find? orderId = some order)
    (status : order.status = fromStatus) (same : SameOrder order (write order))
    (kept : ∀ id, (tables.assets.find? id).isSome = true → (assets.find? id).isSome = true)
    (assigned : (env.master.personnel.find? order.assignedPersonnelId).isSome = true)
    (after : Q { write order with status := toStatus }) :
    ∃ response, (moveOrder env actor tables orderId code fromStatus toStatus write assets action
        evidence auditAction detail).response = .ok response ∧
      ∃ order', (moveOrder env actor tables orderId code fromStatus toStatus write assets action
        evidence auditAction detail).tables.orders.find? orderId = some order' ∧ Q order' := by
  generalize h : moveOrder env actor tables orderId code fromStatus toStatus write assets action
    evidence auditAction detail = outcome
  have sound' : RecordsSound outcome.tables := by
    rw [← h]
    exact (moveOrder_recorded found status same kept sound).1
  have moved : outcome.tables.orders.find? orderId =
      some { write order with status := toStatus } := by
    have orders : outcome.tables.orders =
        tables.orders.set orderId { write order with status := toStatus } := by
      rw [← h]
      exact Table.updateAt_eq_set found (by simpa using status)
    rw [orders, Table.find?_set_self _ found]
  have responds : outcome.response = formatOrder env outcome.tables orderId := by
    rw [← h]
    rfl
  obtain ⟨response, formatted⟩ := formatOrder_ok sound' moved
    (by rw [same.assignedPersonnelId]; exact assigned)
  exact ⟨response, responds.trans formatted, _, moved, after⟩

def Registered (tables : MaintenanceTables) (codeType : MaintenanceCodeType) (code : Code) : Prop :=
  ∃ id fact, tables.codes.find? id = some fact ∧ fact.code = code.value ∧
    fact.codeType = codeType ∧ fact.active = true

theorem Registered.required {codeType : MaintenanceCodeType} {code : Code}
    (sound : RecordsSound tables) (h : Registered tables codeType code) :
    ∃ id fact, requireCodeOfType tables code.value codeType = .ok (id, fact) := by
  obtain ⟨id, fact, found, named, typed⟩ := h
  have first : tables.codes.first? (·.code = code.value) = some (id, fact) :=
    sound.codes.first? found (by simp [named]) fun j row _ meets => by simp_all
  exact ⟨id, fact, bind_eq_ok.mpr ⟨(id, fact), orFault_eq_ok.mpr first,
    bind_eq_ok.mpr ⟨(), check_eq_ok.mpr typed, rfl⟩⟩⟩

theorem completeWork_succeeds (env : MaintenanceEnv) (db : MaintenanceStore) (actor : String)
    (payload : WorkCompleteIn) (sound : RecordsSound db.tables)
    (found : db.tables.orders.find? orderId = some order) (inProgress : order.status = .inProgress)
    (complete : incompleteItems db.tables orderId order = [])
    (hfailure : Registered db.tables .failure payload.failureCode)
    (hcause : Registered db.tables .cause payload.causeCode)
    (hremedy : Registered db.tables .remedy payload.remedyCode)
    (assigned : (env.master.personnel.find? order.assignedPersonnelId).isSome = true)
    (accepted : ∀ log, env.auditAccepted log = true) :
    ∃ response store, completeWork env db actor order.orderCode payload = .ok (response, store) ∧
      ∃ order', store.tables.orders.find? orderId = some order' ∧ SameOrder order order' ∧
        order'.status = .workCompleted ∧ order'.completedBy = some actor := by
  obtain ⟨failureId, failure, hfailure⟩ := hfailure.required sound
  obtain ⟨causeId, cause, hcause⟩ := hcause.required sound
  obtain ⟨remedyId, remedy, hremedy⟩ := hremedy.required sound
  refine maintained_succeeds (fun tables => ∃ order', tables.orders.find? orderId = some order' ∧
    SameOrder order order' ∧ order'.status = .workCompleted ∧ order'.completedBy = some actor)
    accepted ?_
  refine exists_and_of_eq (bind_eq_ok.mpr ⟨(orderId, order), requireOrder_of_find? sound found,
    bind_eq_ok.mpr ⟨(), check_eq_ok.mpr inProgress, bind_eq_ok.mpr ⟨(), check_eq_ok.mpr complete,
      bind_eq_ok.mpr ⟨(failureId, failure), hfailure, bind_eq_ok.mpr ⟨(causeId, cause), hcause,
        bind_eq_ok.mpr ⟨(remedyId, remedy), hremedy, rfl⟩⟩⟩⟩⟩⟩) ?_
  exact moveOrder_responds sound found inProgress ⟨rfl, rfl, rfl, rfl, rfl, rfl⟩
    (fun _ known => known) assigned ⟨⟨rfl, rfl, rfl, rfl, rfl, rfl⟩, rfl, rfl⟩

theorem verifyOrder_succeeds (env : MaintenanceEnv) (db : MaintenanceStore) (actor : String)
    (payload : MaintenanceVerifyIn) (sound : RecordsSound db.tables)
    (found : db.tables.orders.find? orderId = some order)
    (completed : order.status = .workCompleted) (independent : order.completedBy ≠ some actor)
    (assigned : (env.master.personnel.find? order.assignedPersonnelId).isSome = true)
    (accepted : ∀ log, env.auditAccepted log = true) :
    ∃ response store, verifyOrder env db actor order.orderCode payload = .ok (response, store) ∧
      ∃ order', store.tables.orders.find? orderId = some order' ∧ order'.status = .verified := by
  refine maintained_succeeds (fun tables => ∃ order', tables.orders.find? orderId = some order' ∧
    order'.status = .verified) accepted ?_
  refine exists_and_of_eq (bind_eq_ok.mpr ⟨(orderId, order), requireOrder_of_find? sound found,
    bind_eq_ok.mpr ⟨(), check_eq_ok.mpr completed, bind_eq_ok.mpr ⟨(),
      check_eq_ok.mpr independent, rfl⟩⟩⟩) ?_
  exact moveOrder_responds sound found completed ⟨rfl, rfl, rfl, rfl, rfl, rfl⟩
    isSome_setAssetStatus assigned rfl

variable {plant'' : PlantTables}

def masterOf (personnelId : Nat) : MasterData where
  products := .empty
  workOrders := .empty
  routingRevisions := .empty
  equipment := .empty
  personnel := ⟨List.replicate personnelId ⟨"P-1", true⟩⟩

def maintenanceCall (personnelId : Nat) (actor : String) (operation : MaintenanceOperation) :
    PlantCall :=
  ⟨0, masterOf personnelId, [], fun _ => true, actor, .maintenance operation⟩

def continuationEnv (personnelId : Nat) (plant : PlantTables) : MaintenanceEnv :=
  ⟨0, masterOf personnelId, plant.execution.facts, [], fun _ => true⟩

def PlantTables.maintenanceStore (plant : PlantTables) : MaintenanceStore :=
  ⟨plant.maintenance, plant.execution.auditLogs⟩

def PlantCall.isMaintenance (call : PlantCall) : Prop :=
  ∃ operation, call.operation = .maintenance operation

/-- Some calls of maintenance operations lead from one state to the other. -/
def Continues (plant plant' : PlantTables) : Prop :=
  ∃ later : List PlantCall, (∀ call ∈ later, call.isMaintenance) ∧
    plantAuthority.run plant later = plant'

theorem Continues.refl (plant : PlantTables) : Continues plant plant := ⟨[], by simp, rfl⟩

theorem Continues.trans (h : Continues plant plant') (h' : Continues plant' plant'') :
    Continues plant plant'' := by
  obtain ⟨first, ofFirst, rfl⟩ := h
  obtain ⟨second, ofSecond, rfl⟩ := h'
  refine ⟨first ++ second, fun call member => ?_, Authority.run_append _ _ _⟩
  rcases List.mem_append.mp member with member | member
  · exact ofFirst call member
  · exact ofSecond call member

theorem continues_perform {personnelId : Nat} {actor : String} (operation : MaintenanceOperation)
    {response : Json} {store : MaintenanceStore}
    (h : operation.perform (continuationEnv personnelId plant) actor plant.maintenanceStore =
      .ok (response, store)) :
    ∃ plant', Continues plant plant' ∧ plant'.maintenance = store.tables := by
  have attempted : plantAuthority.attempt (maintenanceCall personnelId actor operation) plant =
      .ok (response, ⟨{ plant.execution with auditLogs := store.auditLogs }, store.tables⟩) :=
    bind_eq_ok.mpr ⟨(response, store), h, rfl⟩
  refine ⟨⟨{ plant.execution with auditLogs := store.auditLogs }, store.tables⟩,
    ⟨[maintenanceCall personnelId actor operation], ?_, ?_⟩, rfl⟩
  · simp [PlantCall.isMaintenance, maintenanceCall]
  · rw [Authority.run_cons, Authority.serve_of_ok attempted, Authority.run_nil]

theorem Continues.sound (h : Continues plant plant') (sound : RecordsSound plant.maintenance) :
    RecordsSound plant'.maintenance := by
  obtain ⟨later, -, rfl⟩ := h
  exact Authority.invariant (I := fun plant : PlantTables => RecordsSound plant.maintenance)
    (fun hi attempted => (plant_recorded attempted hi).1) later sound

def continuationEvidence : Text 1 240 := sampleEvidence.evidenceReference

theorem continues_recorded (todo : List (Nat × ChecklistItem))
    (sound : RecordsSound plant.maintenance)
    (found : plant.maintenance.orders.find? orderId = some order)
    (inProgress : order.status = .inProgress)
    (passable : ItemsPassable plant.maintenance orderId order)
    (covered : ∀ entry ∈ incompleteItems plant.maintenance orderId order, entry ∈ todo) :
    ∃ plant', Continues plant plant' ∧ plant'.maintenance.orders = plant.maintenance.orders ∧
      plant'.maintenance.codes = plant.maintenance.codes ∧
      incompleteItems plant'.maintenance orderId order = [] := by
  induction todo generalizing plant with
  | nil =>
    refine ⟨plant, .refl plant, rfl, rfl, List.eq_nil_iff_forall_not_mem.mpr fun entry member => ?_⟩
    simpa using covered entry member
  | cons entry todo ih =>
    obtain ⟨itemId, item⟩ := entry
    by_cases incomplete : (itemId, item) ∈ incompleteItems plant.maintenance orderId order
    · obtain ⟨⟨hitem, of, required⟩, unpassed⟩ := mem_incompleteItems.mp incomplete
      have unrecorded : ∀ id result, plant.maintenance.checkResults.find? id = some result →
          result.maintenanceOrderId = orderId → result.checklistItemId ≠ itemId :=
        fun id result recorded ofOrder ofItem => unpassed id result recorded ofOrder ofItem
          (passable itemId item hitem of required id result recorded ofOrder ofItem)
      obtain ⟨response, store, performed, recorded⟩ := recordCheckResult_succeeds
        (continuationEnv 0 plant) plant.maintenanceStore "planner" sound found inProgress hitem of
        unrecorded (fun _ => rfl) continuationEvidence
      obtain ⟨plant', continues, tables⟩ := continues_perform
        (.recordCheckResult order.orderCode _) performed
      have tables := tables.trans recorded
      have orders : plant'.maintenance.orders = plant.maintenance.orders := by
        rw [tables]
        rfl
      have items : plant'.maintenance.checklistItems = plant.maintenance.checklistItems := by
        rw [tables]
        rfl
      have results : plant'.maintenance.checkResults = plant.maintenance.checkResults.insert
          ⟨orderId, itemId, .pass, continuationEvidence.value, "planner", 0⟩ := by
        rw [tables]
        rfl
      have passable' : ItemsPassable plant'.maintenance orderId order := by
        intro itemId item hitem of required id result recorded ofOrder ofItem
        rw [items] at hitem
        rw [results] at recorded
        rcases Table.of_find?_insert recorded with ⟨-, rfl⟩ | recorded
        · rfl
        · exact passable itemId item hitem of required id result recorded ofOrder ofItem
      have covered' : ∀ entry ∈ incompleteItems plant'.maintenance orderId order, entry ∈ todo := by
        rintro ⟨otherId, other⟩ member
        obtain ⟨⟨hother, ofOther, needed⟩, unpassed'⟩ := mem_incompleteItems.mp member
        rw [items] at hother
        have before : (otherId, other) ∈ incompleteItems plant.maintenance orderId order :=
          mem_incompleteItems.mpr ⟨⟨hother, ofOther, needed⟩, fun id result recorded =>
            unpassed' id result (by rw [results, Table.find?_insert_of_find? _ recorded])⟩
        refine (List.mem_cons.mp (covered _ before)).resolve_left fun same => ?_
        obtain ⟨rfl, rfl⟩ := Prod.mk.inj same
        exact unpassed' _ _ (by rw [results, Table.find?_insert_self]) rfl rfl rfl
      obtain ⟨plant'', continues', orders', codes', complete⟩ := ih (continues.sound sound)
        (by rw [orders, found]) passable' covered'
      refine ⟨plant'', continues.trans continues', orders'.trans orders, codes'.trans ?_, complete⟩
      rw [tables]
      rfl
    · refine ih sound found passable fun other member => ?_
      rcases List.mem_cons.mp (covered other member) with rfl | member'
      · exact absurd member incomplete
      · exact member'

theorem continues_coded {codeOf : MaintenanceCodeType → Code}
    (injective : Function.Injective codeOf) (codeTypes : List MaintenanceCodeType)
    (usable : ∀ codeType, Usable plant.maintenance codeType (codeOf codeType)) :
    ∃ plant', Continues plant plant' ∧ plant'.maintenance.orders = plant.maintenance.orders ∧
      plant'.maintenance.checklistItems = plant.maintenance.checklistItems ∧
      plant'.maintenance.checkResults = plant.maintenance.checkResults ∧
      (∀ id row, plant.maintenance.codes.find? id = some row →
        plant'.maintenance.codes.find? id = some row) ∧
      ∀ codeType ∈ codeTypes, Registered plant'.maintenance codeType (codeOf codeType) := by
  induction codeTypes generalizing plant with
  | nil => exact ⟨plant, .refl plant, rfl, rfl, rfl, fun _ _ found => found, by simp⟩
  | cons codeType codeTypes ih =>
    by_cases registered : ∃ id row, plant.maintenance.codes.find? id = some row ∧
        row.code = (codeOf codeType).value
    · obtain ⟨id, row, found, named⟩ := registered
      obtain ⟨plant', continues, orders, items, results, codes, rest⟩ := ih usable
      refine ⟨plant', continues, orders, items, results, codes, fun other member => ?_⟩
      rcases List.mem_cons.mp member with rfl | member
      · exact ⟨id, row, codes id row found, named, usable other id row found named⟩
      · exact rest other member
    · push Not at registered
      obtain ⟨response, store, performed, recorded⟩ := createCode_succeeds
        (continuationEnv 0 plant) plant.maintenanceStore "planner" codeType
        ⟨"code", by decide +kernel, by decide +kernel⟩ registered fun _ => rfl
      obtain ⟨plant', continues, tables⟩ := continues_perform (.createCode _) performed
      have tables := tables.trans recorded
      have codes : plant'.maintenance.codes = plant.maintenance.codes.insert
          ⟨(codeOf codeType).value, codeType, "code", true, "planner", 0⟩ := by
        rw [tables]
        rfl
      have usable' : ∀ other, Usable plant'.maintenance other (codeOf other) := by
        intro other id row found named
        rw [codes] at found
        rcases Table.of_find?_insert found with ⟨-, rfl⟩ | found
        · have same : codeOf codeType = codeOf other := by
            cases hc : codeOf codeType
            cases ho : codeOf other
            simp_all
          exact ⟨injective same, rfl⟩
        · exact usable other id row found named
      obtain ⟨plant'', continues', orders, items, results, codes', rest⟩ := ih usable'
      refine ⟨plant'', continues.trans continues', ?_, ?_, ?_, fun id row found => ?_,
        fun other member => ?_⟩
      · rw [orders, tables]
        rfl
      · rw [items, tables]
        rfl
      · rw [results, tables]
        rfl
      · exact codes' id row (by rw [codes, Table.find?_insert_of_find? _ found])
      · rcases List.mem_cons.mp member with rfl | member
        · exact ⟨_, _, codes' _ _ (by rw [codes, Table.find?_insert_self]), rfl, rfl, rfl⟩
        · exact rest other member

theorem find?_masterOf {personnelId : Nat} (h : 1 ≤ personnelId) :
    ((masterOf personnelId).personnel.find? personnelId).isSome = true := by
  obtain ⟨n, rfl⟩ := Nat.exists_eq_add_of_le' h
  simp [masterOf, Table.find?]

theorem verified_of_completable (sound : RecordsSound plant.maintenance)
    (found : plant.maintenance.orders.find? orderId = some order)
    (inProgress : order.status = .inProgress)
    (completable : Completable plant.maintenance orderId order) :
    ∃ plant', Continues plant plant' ∧ ∃ order',
      plant'.maintenance.orders.find? orderId = some order' ∧ order'.status = .verified := by
  obtain ⟨passable, codeOf, injective, usable⟩ := completable
  obtain ⟨checked, toChecked, orders, codes, complete⟩ := continues_recorded
    (incompleteItems plant.maintenance orderId order) sound found inProgress passable
    fun _ member => member
  have usable' : ∀ codeType, Usable checked.maintenance codeType (codeOf codeType) := by
    intro codeType
    unfold Usable
    rw [codes]
    exact usable codeType
  obtain ⟨coded, toCoded, orders', items, results, -, registered⟩ :=
    continues_coded injective [.failure, .cause, .remedy] usable'
  have soundCoded := toCoded.sound (toChecked.sound sound)
  have foundCoded : coded.maintenance.orders.find? orderId = some order := by
    rw [orders', orders, found]
  have completeCoded : incompleteItems coded.maintenance orderId order = [] := by
    rw [← complete]
    simp only [incompleteItems, items, results]
  have assigned := find?_masterOf (sound.orders orderId order found).personnel
  obtain ⟨_, _, performed, order', foundAfter, same, completed, completer⟩ := completeWork_succeeds
    (continuationEnv order.assignedPersonnelId coded) coded.maintenanceStore "planner"
    ⟨codeOf .failure, codeOf .cause, codeOf .remedy, continuationEvidence⟩ soundCoded
    foundCoded inProgress completeCoded (registered .failure (by simp))
    (registered .cause (by simp)) (registered .remedy (by simp)) assigned fun _ => rfl
  obtain ⟨done, toDone, tables⟩ := continues_perform (.completeWork order.orderCode _) performed
  rw [← tables] at foundAfter
  have assigned' : ((masterOf order.assignedPersonnelId).personnel.find?
      order'.assignedPersonnelId).isSome = true := by
    rw [same.assignedPersonnelId]
    exact assigned
  obtain ⟨_, _, performed', verified, foundVerified, status⟩ := verifyOrder_succeeds
    (continuationEnv order.assignedPersonnelId done) done.maintenanceStore "inspector"
    ⟨continuationEvidence, .restored⟩ (toDone.sound soundCoded) foundAfter completed
    (by rw [completer]; decide) assigned' fun _ => rfl
  obtain ⟨last, toLast, tables'⟩ := continues_perform (.verifyOrder order'.orderCode _) performed'
  rw [← tables'] at foundVerified
  exact ⟨last, ((toChecked.trans toCoded).trans toDone).trans toLast, verified, foundVerified,
    status⟩

/-- An order in progress of a reachable state can be brought to `verified` by calls of
maintenance operations exactly when no required item has a result other than a pass and codes of
the three types are registered or left. -/
theorem verifiable_iff (calls : List PlantCall) (orderId : Nat) (order : MaintenanceOrder)
    (found : (plantAuthority.run .empty calls).maintenance.orders.find? orderId = some order)
    (inProgress : order.status = .inProgress) :
    (∃ plant', Continues (plantAuthority.run .empty calls) plant' ∧ ∃ order',
        plant'.maintenance.orders.find? orderId = some order' ∧ order'.status = .verified) ↔
      Completable (plantAuthority.run .empty calls).maintenance orderId order := by
  have sound := recordsSound_run calls
  refine ⟨?_, verified_of_completable sound found inProgress⟩
  rintro ⟨_, ⟨later, -, rfl⟩, verified⟩
  exact completable_of_verified later sound found inProgress verified

/-- The order has just been started. -/
theorem verifiable_iff_started : ∃ plant', Continues (plantAuthority.run .empty sampleMaintenance)
    plant' ∧ ∃ order', plant'.maintenance.orders.find? 1 = some order' ∧
      order'.status = .verified := by
  have started : ((plantAuthority.run .empty sampleMaintenance).maintenance.orders.find? 1).map
      (·.status) = some .inProgress := by
    decide +kernel
  obtain ⟨order, found, inProgress⟩ := Option.map_eq_some_iff.mp started
  refine (verifiable_iff sampleMaintenance 1 order found inProgress).mpr ⟨?_, ?_⟩
  · have unrecorded : (plantAuthority.run .empty sampleMaintenance).maintenance.checkResults.any
        (fun _ => true) = false := by
      decide +kernel
    intro _ _ _ _ _ id result recorded
    cases Table.any_eq_false_iff.mp unrecorded id result recorded
  · have uncoded : (plantAuthority.run .empty sampleMaintenance).maintenance.codes.any
        (fun _ => true) = false := by
      decide +kernel
    refine ⟨byCodeType (sampleCode "FC") (sampleCode "CC") (sampleCode "RC"), ?_,
      fun _ id row registered => ?_⟩
    · intro s t
      cases s <;> cases t <;> decide +kernel
    · cases Table.any_eq_false_iff.mp uncoded id row registered

/-- A required item fails: its result stays, and no calls lead to `verified`. -/
theorem failed_check_is_dead_end : ¬ ∀ (calls : List PlantCall) (orderId : Nat)
    (order : MaintenanceOrder),
    (plantAuthority.run .empty calls).maintenance.orders.find? orderId = some order →
    order.status = .inProgress →
    ∃ plant', Continues (plantAuthority.run .empty calls) plant' ∧ ∃ order',
      plant'.maintenance.orders.find? orderId = some order' ∧ order'.status = .verified := by
  intro h
  have holds := h (sampleMaintenance ++ [sampleCall (.maintenance (.recordCheckResult "MO-1"
    ⟨1, .fail, continuationEvidence, by decide⟩))]) 1
  have sound := recordsSound_run (sampleMaintenance ++ [sampleCall (.maintenance
    (.recordCheckResult "MO-1" ⟨1, .fail, continuationEvidence, by decide⟩))])
  generalize hplant : plantAuthority.run .empty (sampleMaintenance ++ [sampleCall (.maintenance
    (.recordCheckResult "MO-1" ⟨1, .fail, continuationEvidence, by decide⟩))]) = plant
    at holds sound
  have started : (plant.maintenance.orders.find? 1).map (fun order =>
      (order.status, order.checklistId)) = some (.inProgress, 1) := by
    rw [← hplant]; decide +kernel
  have listed : (plant.maintenance.checklistItems.find? 1).map (fun item =>
      (item.checklistId, item.required)) = some (1, true) := by
    rw [← hplant]; decide +kernel
  have failed : (plant.maintenance.checkResults.find? 1).map (fun result =>
      (result.maintenanceOrderId, result.checklistItemId, result.result)) = some (1, 1, .fail) := by
    rw [← hplant]; decide +kernel
  obtain ⟨order, found, horder⟩ := Option.map_eq_some_iff.mp started
  obtain ⟨item, foundItem, hitem⟩ := Option.map_eq_some_iff.mp listed
  obtain ⟨result, foundResult, hresult⟩ := Option.map_eq_some_iff.mp failed
  obtain ⟨inProgress, ofChecklist⟩ := Prod.mk.inj horder
  obtain ⟨of, required⟩ := Prod.mk.inj hitem
  obtain ⟨ofOrder, rest⟩ := Prod.mk.inj hresult
  obtain ⟨ofItem, fail⟩ := Prod.mk.inj rest
  obtain ⟨_, ⟨later, -, rfl⟩, verified⟩ := holds order found inProgress
  have completable := completable_of_verified later sound found inProgress verified
  have pass := completable.1 1 item foundItem (of.trans ofChecklist.symm) required 1 result
    foundResult ofOrder ofItem
  simp [fail] at pass

end MiniOgas
