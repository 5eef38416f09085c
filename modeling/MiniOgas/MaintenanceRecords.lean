import MiniOgas.ToolOperations

namespace MiniOgas

section MaintenanceAuthority

open Relational Serial

/-- The operations of `MaintenanceRepository` that write. -/
inductive MaintenanceOperation where
  | createAsset (payload : AssetIn)
  | createCode (payload : MaintenanceCodeIn)
  | createChecklist (payload : ChecklistIn)
  | transitionChecklist (checklistCode : String) (revision : Int) (target : ChecklistTarget)
      (payload : MaintenanceActionIn)
  | createRequest (payload : MaintenanceRequestIn)
  | createOrder (payload : MaintenanceOrderIn)
  | approveOrder (orderCode : String) (payload : MaintenanceActionIn)
  | startOrder (orderCode : String) (payload : MaintenanceActionIn)
  | recordCheckResult (orderCode : String) (payload : ChecklistResultIn)
  | completeWork (orderCode : String) (payload : WorkCompleteIn)
  | verifyOrder (orderCode : String) (payload : MaintenanceVerifyIn)
  | createTool (payload : ToolIn)
  | assignTool (toolCode : String) (payload : ToolAssignmentIn)
  | recordToolLife (toolCode : String) (payload : ToolLifeEventIn)
  | recordCalibration (toolCode : String) (payload : CalibrationIn)
  | createPreventivePlan (payload : PreventivePlanIn)
  | effectivePreventivePlan (planCode : String) (payload : MaintenanceActionIn)
  | generatePreventiveWork (planCode : String) (payload : PreventiveGenerateIn)
  | recordSpareUse (orderCode : String) (payload : SpareUseIn)

def MaintenanceOperation.perform (operation : MaintenanceOperation) (env : MaintenanceEnv)
    (actor : String) (db : MaintenanceStore) : Except Fault (Json × MaintenanceStore) :=
  match operation with
  | .createAsset payload => MiniOgas.createAsset env db actor payload
  | .createCode payload => MiniOgas.createCode env db actor payload
  | .createChecklist payload => MiniOgas.createChecklist env db actor payload
  | .transitionChecklist code revision target payload =>
    MiniOgas.transitionChecklist env db actor code revision target payload
  | .createRequest payload => MiniOgas.createRequest env db actor payload
  | .createOrder payload => MiniOgas.createOrder env db actor payload
  | .approveOrder code payload => MiniOgas.approveOrder env db actor code payload
  | .startOrder code payload => MiniOgas.startOrder env db actor code payload
  | .recordCheckResult code payload => MiniOgas.recordCheckResult env db actor code payload
  | .completeWork code payload => MiniOgas.completeWork env db actor code payload
  | .verifyOrder code payload => MiniOgas.verifyOrder env db actor code payload
  | .createTool payload => MiniOgas.createTool env db actor payload
  | .assignTool code payload => MiniOgas.assignTool env db actor code payload
  | .recordToolLife code payload => MiniOgas.recordToolLife env db actor code payload
  | .recordCalibration code payload => MiniOgas.recordCalibration env db actor code payload
  | .createPreventivePlan payload => MiniOgas.createPreventivePlan env db actor payload
  | .effectivePreventivePlan code payload =>
    MiniOgas.effectivePreventivePlan env db actor code payload
  | .generatePreventiveWork code payload =>
    MiniOgas.generatePreventiveWork env db actor code payload
  | .recordSpareUse code payload => MiniOgas.recordSpareUse env db actor code payload

end MaintenanceAuthority

open Relational Serial

inductive OrderStep : MaintenanceOrderStatus → MaintenanceOrderStatus → Prop
  | approve : OrderStep .draft .approved
  | start : OrderStep .approved .inProgress
  | completeWork : OrderStep .inProgress .workCompleted
  | verify : OrderStep .workCompleted .verified

/-- What a successful call can do to the assets and the orders. -/
inductive MaintenanceEffect (env : MaintenanceEnv) (operation : MaintenanceOperation)
    (tables tables' : MaintenanceTables) : Prop
  | unmoved (assets : tables'.assets = tables.assets) (orders : tables'.orders = tables.orders)
  | assetCreated {asset : MaintenanceAsset} (assets : tables'.assets = tables.assets.insert asset)
      (orders : tables'.orders = tables.orders)
  | orderCreated {order : MaintenanceOrder} (draft : order.status = .draft)
      (registered : (tables.assets.find? order.assetId).isSome = true)
      (assets : tables'.assets = tables.assets)
      (orders : tables'.orders = tables.orders.insert order)
  | orderMoved {orderId : Nat} {order order' : MaintenanceOrder}
      (found : tables.orders.find? orderId = some order)
      (step : OrderStep order.status order'.status)
      (started : order'.status = .inProgress → (∃ payload, operation =
        .startOrder order.orderCode payload) ∧ requireDowntime env order = .ok ())
      (same : order'.assetId = order.assetId ∧ order'.productionImpact = order.productionImpact)
      (equipment : ∀ id, (tables'.assets.find? id).map (·.equipmentId) =
        (tables.assets.find? id).map (·.equipmentId))
      (orders : tables'.orders = tables.orders.set orderId order')

/-- How a successful call moves an order, and the status that it writes on the asset. -/
inductive OrderMove (env : MaintenanceEnv) (actor : String) (tables : MaintenanceTables)
    (operation : MaintenanceOperation) (orderId : Nat) (order : MaintenanceOrder) :
    MaintenanceOrderStatus → Option AssetStatus → Prop
  | approve (draft : order.status = .draft) :
      OrderMove env actor tables operation orderId order .approved none
  | start {payload : MaintenanceActionIn} (called : operation = .startOrder order.orderCode payload)
      (approved : order.status = .approved) (downtime : requireDowntime env order = .ok ()) :
      OrderMove env actor tables operation orderId order .inProgress
        order.productionImpact.assetStatus
  | completeWork {payload : WorkCompleteIn} {failure cause remedy : Nat × MaintenanceCode}
      (called : operation = .completeWork order.orderCode payload)
      (inProgress : order.status = .inProgress)
      (complete : incompleteItems tables orderId order = [])
      (hfailure : requireCodeOfType tables payload.failureCode.value .failure = .ok failure)
      (hcause : requireCodeOfType tables payload.causeCode.value .cause = .ok cause)
      (hremedy : requireCodeOfType tables payload.remedyCode.value .remedy = .ok remedy) :
      OrderMove env actor tables operation orderId order .workCompleted none
  | verify {payload : MaintenanceVerifyIn}
      (called : operation = .verifyOrder order.orderCode payload)
      (completed : order.status = .workCompleted) (independent : order.completedBy ≠ some actor) :
      OrderMove env actor tables operation orderId order .verified
        (some payload.verificationResult.assetStatus)

structure SameOrder (order order' : MaintenanceOrder) : Prop where
  orderCode : order'.orderCode = order.orderCode
  requestId : order'.requestId = order.requestId
  assetId : order'.assetId = order.assetId
  assignedPersonnelId : order'.assignedPersonnelId = order.assignedPersonnelId
  checklistId : order'.checklistId = order.checklistId
  productionImpact : order'.productionImpact = order.productionImpact

def writeAssetStatus (assets : Table MaintenanceAsset) (assetId : Nat) :
    Option AssetStatus → Table MaintenanceAsset
  | some status => setAssetStatus assets assetId status
  | none => assets

/-- What a successful call writes on the assets and the orders. -/
inductive MaintenanceWrite (env : MaintenanceEnv) (actor : String)
    (operation : MaintenanceOperation) (tables tables' : MaintenanceTables) : Prop
  | unmoved (assets : tables'.assets = tables.assets) (orders : tables'.orders = tables.orders)
  | assetCreated {asset : MaintenanceAsset} (active : asset.status = .active)
      (assets : tables'.assets = tables.assets.insert asset)
      (orders : tables'.orders = tables.orders)
  | orderCreated {order : MaintenanceOrder} (draft : order.status = .draft)
      (registered : (tables.assets.find? order.assetId).isSome = true)
      (assets : tables'.assets = tables.assets)
      (orders : tables'.orders = tables.orders.insert order)
  | orderMoved {orderId : Nat} {order order' : MaintenanceOrder} {written : Option AssetStatus}
      (found : tables.orders.find? orderId = some order)
      (move : OrderMove env actor tables operation orderId order order'.status written)
      (same : SameOrder order order')
      (assets : tables'.assets = writeAssetStatus tables.assets order.assetId written)
      (orders : tables'.orders = tables.orders.set orderId order')

variable {env : MaintenanceEnv} {db db' : MaintenanceStore} {actor code : String} {response : Json}
  {tables : MaintenanceTables} {operation : MaintenanceOperation} {order : MaintenanceOrder}
  {payload : MaintenanceActionIn} {orderId : Nat}

theorem maintained_outcome {P : MaintenanceTables → Prop}
    {body : MaintenanceTables → Except Fault MaintenanceOutcome}
    (h : maintained env db actor body = .ok (response, db'))
    (run : ∀ outcome, body db.tables = .ok outcome → P outcome.tables) : P db'.tables := by
  obtain ⟨outcome, hbody, htables⟩ := maintained_tables h
  rw [← htables]
  exact run outcome hbody

theorem requireOrder_ok (h : requireOrder tables code = .ok (orderId, order)) :
    tables.orders.find? orderId = some order ∧ order.orderCode = code := by
  obtain ⟨found, named⟩ := Table.first?_spec (orFault_eq_ok.mp h)
  exact ⟨found, by simpa using named⟩

theorem setAssetStatus_equipment (assets : Table MaintenanceAsset) (assetId : Nat)
    (status : AssetStatus) (id : Nat) :
    ((setAssetStatus assets assetId status).find? id).map (·.equipmentId) =
      (assets.find? id).map (·.equipmentId) := by
  rw [setAssetStatus, Table.find?_updateAt, Option.map_map]
  refine congrFun (congrArg Option.map (funext fun asset => ?_)) _
  simp only [Function.comp_apply]
  split <;> rfl

theorem writeAssetStatus_equipment (assets : Table MaintenanceAsset) (assetId : Nat)
    (written : Option AssetStatus) (id : Nat) :
    ((writeAssetStatus assets assetId written).find? id).map (·.equipmentId) =
      (assets.find? id).map (·.equipmentId) := by
  cases written with
  | none => rfl
  | some status => exact setAssetStatus_equipment assets assetId status id

theorem MaintenanceWrite.effect {tables' : MaintenanceTables}
    (h : MaintenanceWrite env actor operation tables tables') :
    MaintenanceEffect env operation tables tables' := by
  cases h with
  | unmoved assets orders => exact .unmoved assets orders
  | assetCreated _ assets orders => exact .assetCreated assets orders
  | orderCreated draft registered assets orders =>
    exact .orderCreated draft registered assets orders
  | @orderMoved orderId order order' written found move same assets orders =>
    have equipment : ∀ id, (tables'.assets.find? id).map (·.equipmentId) =
        (tables.assets.find? id).map (·.equipmentId) := by
      intro id
      rw [assets]
      exact writeAssetStatus_equipment _ _ _ id
    have step : OrderStep order.status order'.status ∧ (order'.status = .inProgress →
        (∃ payload, operation = .startOrder order.orderCode payload) ∧
          requireDowntime env order = .ok ()) := by
      generalize order'.status = toStatus at move
      cases move with
      | approve draft => exact ⟨draft ▸ .approve, by simp⟩
      | start called approved downtime =>
        exact ⟨approved ▸ .start, fun _ => ⟨⟨_, called⟩, downtime⟩⟩
      | completeWork _ inProgress => exact ⟨inProgress ▸ .completeWork, by simp⟩
      | verify _ completed => exact ⟨completed ▸ .verify, by simp⟩
    exact .orderMoved found step.1 step.2 ⟨same.assetId, same.productionImpact⟩ equipment orders

structure Referenced (tables : MaintenanceTables) (order : MaintenanceOrder) : Prop where
  personnel : 1 ≤ order.assignedPersonnelId
  request : (tables.requests.find? order.requestId).isSome = true
  asset : (tables.assets.find? order.assetId).isSome = true
  checklist : (tables.checklists.find? order.checklistId).isSome = true

structure RecordsSound (tables : MaintenanceTables) : Prop where
  orderCodes : tables.orders.Keyed (·.orderCode)
  codes : tables.codes.Keyed (·.code)
  items : tables.checklistItems.Keyed fun item => (item.checklistId, item.sequence)
  results : tables.checkResults.Keyed fun result =>
    (result.maintenanceOrderId, result.checklistItemId)
  bounds : ∀ id item, tables.checklistItems.find? id = some item →
    (1 ≤ item.sequence ∧ item.sequence ≤ 10000) ∧ item.checklistId < tables.checklists.nextId
  orders : ∀ id order, tables.orders.find? id = some order → Referenced tables order
  plans : ∀ id plan, tables.plans.find? id = some plan →
    (tables.checklists.find? plan.checklistId).isSome = true

structure Grows (tables tables' : MaintenanceTables) : Prop where
  codes : ∀ id row, tables.codes.find? id = some row → tables'.codes.find? id = some row
  items : ∀ id row, tables.checklistItems.find? id = some row →
    tables'.checklistItems.find? id = some row
  results : ∀ id row, tables.checkResults.find? id = some row →
    tables'.checkResults.find? id = some row
  assets : ∀ id, (tables.assets.find? id).isSome = true → (tables'.assets.find? id).isSome = true
  requests : ∀ id, (tables.requests.find? id).isSome = true →
    (tables'.requests.find? id).isSome = true
  checklists : ∀ id, (tables.checklists.find? id).isSome = true →
    (tables'.checklists.find? id).isSome = true

theorem Grows.refl (tables : MaintenanceTables) : Grows tables tables :=
  ⟨fun _ _ h => h, fun _ _ h => h, fun _ _ h => h, fun _ h => h, fun _ h => h, fun _ h => h⟩

variable {tables' : MaintenanceTables} {checklist : MaintenanceChecklist}
  {assets : Table MaintenanceAsset}

theorem Referenced.grows (h : Referenced tables order) (grows : Grows tables tables') :
    Referenced tables' order :=
  ⟨h.personnel, grows.requests _ h.request, grows.assets _ h.asset,
    grows.checklists _ h.checklist⟩

def Recorded (tables tables' : MaintenanceTables) : Prop :=
  RecordsSound tables → RecordsSound tables' ∧ Grows tables tables'

theorem recorded_frame (grows : Grows tables tables') (orders : tables'.orders = tables.orders)
    (codes : tables'.codes = tables.codes)
    (items : tables'.checklistItems = tables.checklistItems)
    (results : tables'.checkResults = tables.checkResults)
    (nextId : tables.checklists.nextId ≤ tables'.checklists.nextId)
    (plans : RecordsSound tables → ∀ id plan, tables'.plans.find? id = some plan →
      (tables.checklists.find? plan.checklistId).isSome = true) : Recorded tables tables' := by
  intro h
  refine ⟨⟨orders ▸ h.orderCodes, codes ▸ h.codes, items ▸ h.items, results ▸ h.results, ?_, ?_,
    fun id plan found => grows.checklists _ (plans h id plan found)⟩, grows⟩
  · intro id item found
    rw [items] at found
    have := h.bounds id item found
    exact ⟨this.1, Nat.lt_of_lt_of_le this.2 nextId⟩
  · intro id order found
    rw [orders] at found
    exact (h.orders id order found).grows grows

theorem requireChecklistRevision_ok {revision : Int} {checklistId : Nat}
    (h : requireChecklistRevision tables code revision = .ok (checklistId, checklist)) :
    tables.checklists.find? checklistId = some checklist := by
  obtain ⟨⟨id, row⟩, found, h⟩ := of_bind h
  replace h := of_then h
  cases h
  exact (Table.first?_spec (orFault_eq_ok.mp found)).1

/-- What a successful call writes on the assets and the orders, and does to the records. -/
structure MaintenanceStep (env : MaintenanceEnv) (actor : String)
    (operation : MaintenanceOperation) (tables tables' : MaintenanceTables) : Prop where
  write : MaintenanceWrite env actor operation tables tables'
  recorded : Recorded tables tables'

/-- What holds of a call whenever it succeeds. -/
def Maintains (env : MaintenanceEnv) (db : MaintenanceStore) (actor : String)
    (operation : MaintenanceOperation) (call : Except Fault (Json × MaintenanceStore)) : Prop :=
  ∀ response db', call = .ok (response, db') →
    MaintenanceStep env actor operation db.tables db'.tables

theorem maintained_step {body : MaintenanceTables → Except Fault MaintenanceOutcome}
    (run : ∀ outcome, body db.tables = .ok outcome →
      MaintenanceStep env actor operation db.tables outcome.tables) :
    Maintains env db actor operation (maintained env db actor body) :=
  fun _ _ h => maintained_outcome h run

theorem createAsset_step {payload : AssetIn} :
    Maintains env db actor operation (createAsset env db actor payload) := by
  refine maintained_step fun outcome h => ?_
  obtain ⟨⟨equipmentId, _⟩, -, h⟩ := of_bind h
  obtain ⟨parent, -, h⟩ := of_bind h
  obtain ⟨assets, inserted, h⟩ := of_bind h
  cases h
  obtain ⟨-, rfl⟩ := insertMaintenance_eq_ok.mp inserted
  refine ⟨.assetCreated rfl rfl rfl, ?_⟩
  refine recorded_frame ?_ rfl rfl rfl rfl (Nat.le_refl _) (·.plans)
  exact { Grows.refl db.tables with assets := fun _ => Table.isSome_find?_insert }

theorem createRequest_step {payload : MaintenanceRequestIn} :
    Maintains env db actor operation (createRequest env db actor payload) := by
  refine maintained_step fun outcome h => ?_
  obtain ⟨⟨assetId, _⟩, -, h⟩ := of_bind h
  obtain ⟨requests, inserted, h⟩ := of_bind h
  cases h
  refine ⟨.unmoved rfl rfl, ?_⟩
  refine recorded_frame ?_ rfl rfl rfl rfl (Nat.le_refl _) (·.plans)
  obtain ⟨-, rfl⟩ := insertMaintenance_eq_ok.mp inserted
  exact { Grows.refl db.tables with requests := fun _ => Table.isSome_find?_insert }

theorem transitionChecklist_step {revision : Int} {target : ChecklistTarget} :
    Maintains env db actor operation
      (transitionChecklist env db actor code revision target payload) := by
  refine maintained_step fun outcome h => ?_
  obtain ⟨⟨id, checklist⟩, -, h⟩ := of_bind h
  replace h := of_then h
  cases h
  refine ⟨.unmoved rfl rfl, ?_⟩
  refine recorded_frame ?_ rfl rfl rfl rfl ?_ (·.plans)
  · refine { Grows.refl db.tables with checklists := fun j known => ?_ }
    cases target with
    | approved => simpa [maintenanceHistory, Table.isSome_find?_updateAt] using known
    | effective =>
      simpa [maintenanceHistory, Table.isSome_find?_updateAt, Table.find?_updateWhere] using known
  · cases target <;> simp [maintenanceHistory]

theorem effectivePreventivePlan_step :
    Maintains env db actor operation (effectivePreventivePlan env db actor code payload) := by
  refine maintained_step fun outcome h => ?_
  obtain ⟨⟨planId, plan⟩, -, h⟩ := of_bind h
  replace h := of_then h
  cases h
  refine ⟨.unmoved rfl rfl, ?_⟩
  refine recorded_frame { Grows.refl db.tables with } rfl rfl rfl rfl (Nat.le_refl _) ?_
  intro sound id plan found
  obtain ⟨old, hold, same⟩ := Option.map_eq_some_iff.mp
    ((Table.find?_updateAt _ _ _ _ id).symm.trans found)
  have := sound.plans id old hold
  rw [← same]
  split <;> exact this

theorem createPreventivePlan_step {payload : PreventivePlanIn} :
    Maintains env db actor operation (createPreventivePlan env db actor payload) := by
  refine maintained_step fun outcome h => ?_
  obtain ⟨⟨assetId, _⟩, -, h⟩ := of_bind h
  obtain ⟨⟨checklistId, checklist⟩, effective, h⟩ := of_bind h
  obtain ⟨plans, inserted, h⟩ := of_bind h
  cases h
  refine ⟨.unmoved rfl rfl, ?_⟩
  refine recorded_frame { Grows.refl db.tables with } rfl rfl rfl rfl (Nat.le_refl _) ?_
  obtain ⟨-, rfl⟩ := insertMaintenance_eq_ok.mp inserted
  intro sound id plan found
  have found := (Table.find?_insert _ _ id).symm.trans found
  split at found
  next =>
    cases found
    exact Option.isSome_iff_exists.mpr ⟨checklist, requireChecklistRevision_ok effective⟩
  next => exact sound.plans id plan found

theorem createCode_step {payload : MaintenanceCodeIn} :
    Maintains env db actor operation (createCode env db actor payload) := by
  refine maintained_step fun outcome h => ?_
  obtain ⟨codes, inserted, h⟩ := of_bind h
  cases h
  refine ⟨.unmoved rfl rfl, fun sound => ?_⟩
  obtain ⟨unused, rfl⟩ := insertMaintenance_eq_ok.mp inserted
  have fresh := Table.any_eq_false_iff.mp unused
  refine ⟨{ sound with codes := sound.codes.insert fun id row found => ?_, orders := ?_ },
    { Grows.refl db.tables with codes := fun _ _ => Table.find?_insert_of_find? _ }⟩
  · simpa using fresh id row found
  · exact fun id order found => { sound.orders id order found with }

theorem recorded_checklist {rows : List ChecklistItem} {statusHistory : Table MaintenanceHistory}
    (bounds : ∀ row ∈ rows, (1 ≤ row.sequence ∧ row.sequence ≤ 10000) ∧
      row.checklistId = tables.checklists.nextId)
    (distinct : (rows.map fun item => (item.checklistId, item.sequence)).Nodup) :
    Recorded tables { tables with
      checklists := tables.checklists.insert checklist
      checklistItems := tables.checklistItems.insertAll rows
      statusHistory } := by
  intro sound
  have kept : ∀ id, (tables.checklists.find? id).isSome = true →
      ((tables.checklists.insert checklist).find? id).isSome = true :=
    fun _ => Table.isSome_find?_insert
  refine ⟨{ sound with
    items := ?_
    bounds := fun id row found => ?_
    orders := fun id order found => ?_
    plans := fun id plan found => kept _ (sound.plans id plan found) },
    { Grows.refl tables with checklists := kept, items := fun id row found => ?_ }⟩
  · refine sound.items.insertAll distinct fun id row found member => ?_
    obtain ⟨other, hother, same⟩ := List.mem_map.mp member
    have hlt := (sound.bounds id row found).2
    have := (bounds other hother).2
    have := (Prod.mk.inj same).1
    omega
  · rw [Table.nextId_insert]
    rcases Table.of_find?_insertAll found with found | ⟨-, member⟩
    · exact (sound.bounds id row found).imp_right (Nat.lt_succ_of_lt ·)
    · exact (bounds row member).imp_right (by omega)
  · have refers := sound.orders id order found
    exact { refers with checklist := kept _ refers.checklist }
  · rw [Table.find?_insertAll, if_pos (Table.lt_nextId_of_find? found), found]

theorem createChecklist_step {payload : ChecklistIn} :
    Maintains env db actor operation (createChecklist env db actor payload) := by
  refine maintained_step fun outcome h => ?_
  obtain ⟨checklists, inserted, h⟩ := of_bind h
  cases h
  obtain ⟨-, rfl⟩ := insertMaintenance_eq_ok.mp inserted
  refine ⟨.unmoved rfl rfl, ?_⟩
  refine recorded_checklist ?_ ?_
  · intro row member
    obtain ⟨item, -, rfl⟩ := List.mem_map.mp member
    exact ⟨item.sequence_bounds, rfl⟩
  · have := payload.items_unique.map (f := fun s => (db.tables.checklists.nextId, s))
      fun _ _ same => (Prod.mk.inj same).2
    simpa [List.map_map, Function.comp_def] using this

theorem recordCheckResult_step {payload : ChecklistResultIn} :
    Maintains env db actor operation (recordCheckResult env db actor code payload) := by
  refine maintained_step fun outcome h => ?_
  obtain ⟨⟨orderId, order⟩, -, h⟩ := of_bind h
  replace h := of_then h
  obtain ⟨⟨itemId, item⟩, -, h⟩ := of_bind h
  replace h := of_then h
  obtain ⟨checkResults, inserted, h⟩ := of_bind h
  cases h
  refine ⟨.unmoved rfl rfl, fun sound => ?_⟩
  obtain ⟨unused, rfl⟩ := insertMaintenance_eq_ok.mp inserted
  have fresh := Table.any_eq_false_iff.mp unused
  refine ⟨{ sound with results := sound.results.insert fun id row found same => ?_, orders := ?_ },
    { Grows.refl db.tables with results := fun _ _ => Table.find?_insert_of_find? _ }⟩
  · have := fresh id row found
    simp_all
  · exact fun id order found => { sound.orders id order found with }

theorem recorded_ordered {requests : Table MaintenanceRequest} {plans : Table PreventivePlan}
    {statusHistory : Table MaintenanceHistory} (unused : tables.orders.any order.conflicts = false)
    (kept : ∀ id, (tables.requests.find? id).isSome = true → (requests.find? id).isSome = true)
    (planned : RecordsSound tables → ∀ id plan, plans.find? id = some plan →
      (tables.checklists.find? plan.checklistId).isSome = true)
    (refers : RecordsSound tables → Referenced { tables with requests } order) :
    Recorded tables
      { tables with requests, plans, orders := tables.orders.insert order, statusHistory } := by
  intro sound
  refine ⟨{ sound with
    orderCodes := sound.orderCodes.insert fun id row found same => ?_
    orders := fun id row found => ?_
    plans := planned sound }, { Grows.refl tables with requests := kept }⟩
  · have := Table.any_eq_false_iff.mp unused id row found
    simp [MaintenanceOrder.conflicts, same] at this
  · rcases Table.of_find?_insert found with ⟨-, rfl⟩ | found
    · exact { refers sound with }
    · have refers := sound.orders id row found
      exact { refers with request := kept _ refers.request }

theorem find?_of_first? {α : Type} {t : Table α} {p : α → Bool} {fault : Fault} {id : Nat}
    {row : α} (h : orFault (t.first? p) fault = .ok (id, row)) : t.find? id = some row :=
  (Table.first?_spec (orFault_eq_ok.mp h)).1

theorem createOrder_step {payload : MaintenanceOrderIn} :
    Maintains env db actor operation (createOrder env db actor payload) := by
  refine maintained_step fun outcome h => ?_
  obtain ⟨⟨requestId, request⟩, requested, h⟩ := of_bind h
  replace h := of_then h
  obtain ⟨⟨assetId, asset⟩, registered, h⟩ := of_bind h
  replace h := of_then h
  obtain ⟨⟨checklistId, checklist⟩, effective, h⟩ := of_bind h
  obtain ⟨⟨personnelId, personnel⟩, assigned, h⟩ := of_bind h
  replace h := of_then (of_then h)
  obtain ⟨orders, inserted, h⟩ := of_bind h
  cases h
  obtain ⟨unused, rfl⟩ := insertMaintenance_eq_ok.mp inserted
  have requested := find?_of_first? requested
  have kept : ∀ id, ((db.tables.requests.updateAt requestId (·.status = .open) fun row =>
      { row with status := .converted, convertedAt := some env.now }).find? id).isSome =
        (db.tables.requests.find? id).isSome := Table.isSome_find?_updateAt _ _ _ _
  have registered := Option.isSome_iff_exists.mpr ⟨asset, find?_of_first? registered⟩
  refine ⟨.orderCreated rfl registered rfl rfl, ?_⟩
  refine recorded_ordered unused (fun id known => (kept id).trans known)
    (fun sound => sound.plans) fun _ => ⟨?_, ?_, registered, ?_⟩
  · exact Table.pos_of_find? (find?_of_first? assigned)
  · exact (kept requestId).trans (Option.isSome_iff_exists.mpr ⟨request, requested⟩)
  · exact Option.isSome_iff_exists.mpr ⟨checklist, requireChecklistRevision_ok effective⟩

theorem generatePreventiveWork_step {payload : PreventiveGenerateIn} :
    Maintains env db actor operation (generatePreventiveWork env db actor code payload) := by
  refine maintained_step fun outcome h => ?_
  obtain ⟨⟨planId, plan⟩, planned, h⟩ := of_bind h
  replace h := of_then (of_then h)
  obtain ⟨⟨personnelId, personnel⟩, assigned, h⟩ := of_bind h
  obtain ⟨asset, registered, h⟩ := of_bind h
  obtain ⟨requests, requested, h⟩ := of_bind h
  obtain ⟨orders, inserted, h⟩ := of_bind h
  cases h
  obtain ⟨-, rfl⟩ := insertMaintenance_eq_ok.mp requested
  obtain ⟨unused, rfl⟩ := insertMaintenance_eq_ok.mp inserted
  have planned := find?_of_first? planned
  have registered := Option.isSome_iff_exists.mpr ⟨asset, orFault_eq_ok.mp registered⟩
  refine ⟨.orderCreated rfl registered rfl rfl, ?_⟩
  refine recorded_ordered unused (fun _ => Table.isSome_find?_insert) ?_ fun sound =>
    ⟨?_, ?_, registered, ?_⟩
  · intro sound id row found
    obtain ⟨old, hold, same⟩ := Option.map_eq_some_iff.mp
      ((Table.find?_updateAt _ _ _ _ id).symm.trans found)
    have := sound.plans id old hold
    rw [← same]
    split <;> exact this
  · exact Table.pos_of_find? (find?_of_first? assigned)
  · exact congrArg Option.isSome (Table.find?_insert_self _ _)
  · exact sound.plans planId plan planned

theorem moveOrder_recorded {fromStatus toStatus : MaintenanceOrderStatus}
    {write : MaintenanceOrder → MaintenanceOrder} {action evidence auditAction : String}
    {detail : Json} (found : tables.orders.find? orderId = some order)
    (status : order.status = fromStatus) (same : SameOrder order (write order))
    (kept : ∀ id, (tables.assets.find? id).isSome = true → (assets.find? id).isSome = true) :
    Recorded tables (moveOrder env actor tables orderId code fromStatus toStatus write assets action
      evidence auditAction detail).tables := by
  intro sound
  have orders : (moveOrder env actor tables orderId code fromStatus toStatus write assets action
      evidence auditAction detail).tables.orders =
      tables.orders.set orderId { write order with status := toStatus } :=
    Table.updateAt_eq_set found (by simpa using status)
  have grows : Grows tables (moveOrder env actor tables orderId code fromStatus toStatus write
      assets action evidence auditAction detail).tables :=
    { Grows.refl tables with assets := kept }
  refine ⟨{ sound with orderCodes := ?_, orders := ?_ }, grows⟩
  · rw [orders]
    exact sound.orderCodes.set found same.orderCode
  · intro id row hrow
    rw [orders] at hrow
    rcases Table.of_find?_set hrow with ⟨-, rfl⟩ | ⟨-, hrow⟩
    · have refers := (sound.orders orderId order found).grows grows
      refine ⟨?_, ?_, ?_, ?_⟩
      · exact same.assignedPersonnelId ▸ refers.personnel
      · exact same.requestId ▸ refers.request
      · exact same.assetId ▸ refers.asset
      · exact same.checklistId ▸ refers.checklist
    · exact (sound.orders id row hrow).grows grows

theorem isSome_setAssetStatus {assetId : Nat} {status : AssetStatus} (id : Nat)
    (known : (assets.find? id).isSome = true) :
    ((setAssetStatus assets assetId status).find? id).isSome = true := by
  rw [setAssetStatus, Table.isSome_find?_updateAt, known]

theorem moveOrder_step {fromStatus toStatus : MaintenanceOrderStatus}
    {write : MaintenanceOrder → MaintenanceOrder} {action evidence auditAction : String}
    {detail : Json} {written : Option AssetStatus}
    (found : tables.orders.find? orderId = some order) (status : order.status = fromStatus)
    (move : OrderMove env actor tables operation orderId order toStatus written)
    (same : SameOrder order (write order))
    (writes : assets = writeAssetStatus tables.assets order.assetId written) :
    MaintenanceStep env actor operation tables (moveOrder env actor tables orderId code fromStatus
      toStatus write assets action evidence auditAction detail).tables := by
  constructor
  · have stored : SameOrder order { write order with status := toStatus } :=
      ⟨same.1, same.2, same.3, same.4, same.5, same.6⟩
    exact .orderMoved found move stored writes
      (Table.updateAt_eq_set found (by simpa using status))
  · refine moveOrder_recorded found status same fun id known => ?_
    cases written with
    | none => rwa [writes]
    | some status => exact writes ▸ isSome_setAssetStatus id known

theorem approveOrder_step :
    Maintains env db actor operation (approveOrder env db actor code payload) := by
  refine maintained_step fun outcome h => ?_
  obtain ⟨⟨orderId, order⟩, found, h⟩ := of_bind h
  obtain ⟨_, draft, h⟩ := of_bind h
  cases h
  exact moveOrder_step (requireOrder_ok found).1 (check_eq_ok.mp draft)
    (.approve (check_eq_ok.mp draft)) ⟨rfl, rfl, rfl, rfl, rfl, rfl⟩ rfl

theorem startOrder_step :
    Maintains env db actor (.startOrder code payload) (startOrder env db actor code payload) := by
  refine maintained_step fun outcome h => ?_
  obtain ⟨⟨orderId, order⟩, found, h⟩ := of_bind h
  obtain ⟨_, approved, h⟩ := of_bind h
  obtain ⟨_, downtime, h⟩ := of_bind h
  cases h
  obtain ⟨foundOrder, rfl⟩ := requireOrder_ok found
  refine moveOrder_step foundOrder (check_eq_ok.mp approved)
    (.start rfl (check_eq_ok.mp approved) downtime) ⟨rfl, rfl, rfl, rfl, rfl, rfl⟩ ?_
  cases order.productionImpact.assetStatus <;> rfl

theorem completeWork_step {payload : WorkCompleteIn} :
    Maintains env db actor (.completeWork code payload)
      (completeWork env db actor code payload) := by
  refine maintained_step fun outcome h => ?_
  obtain ⟨⟨orderId, order⟩, found, h⟩ := of_bind h
  obtain ⟨_, inProgress, h⟩ := of_bind h
  obtain ⟨_, complete, h⟩ := of_bind h
  obtain ⟨⟨failureId, _⟩, failure, h⟩ := of_bind h
  obtain ⟨⟨causeId, _⟩, cause, h⟩ := of_bind h
  obtain ⟨⟨remedyId, _⟩, remedy, h⟩ := of_bind h
  cases h
  obtain ⟨foundOrder, rfl⟩ := requireOrder_ok found
  exact moveOrder_step foundOrder (check_eq_ok.mp inProgress)
    (.completeWork rfl (check_eq_ok.mp inProgress) (check_eq_ok.mp complete) failure cause remedy)
    ⟨rfl, rfl, rfl, rfl, rfl, rfl⟩ rfl

theorem verifyOrder_step {payload : MaintenanceVerifyIn} :
    Maintains env db actor (.verifyOrder code payload)
      (verifyOrder env db actor code payload) := by
  refine maintained_step fun outcome h => ?_
  obtain ⟨⟨orderId, order⟩, found, h⟩ := of_bind h
  obtain ⟨_, completed, h⟩ := of_bind h
  obtain ⟨_, independent, h⟩ := of_bind h
  cases h
  obtain ⟨foundOrder, rfl⟩ := requireOrder_ok found
  exact moveOrder_step foundOrder (check_eq_ok.mp completed)
    (.verify rfl (check_eq_ok.mp completed) (check_eq_ok.mp independent))
    ⟨rfl, rfl, rfl, rfl, rfl, rfl⟩ rfl

/-- The step lemma: one case for each operation of the service. -/
theorem maintenance_step : Maintains env db actor operation (operation.perform env actor db) := by
  cases operation with
  | createAsset => exact createAsset_step
  | createCode => exact createCode_step
  | createChecklist => exact createChecklist_step
  | transitionChecklist => exact transitionChecklist_step
  | createRequest => exact createRequest_step
  | createOrder => exact createOrder_step
  | approveOrder => exact approveOrder_step
  | startOrder => exact startOrder_step
  | recordCheckResult => exact recordCheckResult_step
  | completeWork => exact completeWork_step
  | verifyOrder => exact verifyOrder_step
  | createPreventivePlan => exact createPreventivePlan_step
  | effectivePreventivePlan => exact effectivePreventivePlan_step
  | generatePreventiveWork => exact generatePreventiveWork_step
  | _ =>
    simp only [MaintenanceOperation.perform]
    refine maintained_step fun outcome h => ?_
    repeat obtain ⟨_, -, h⟩ := of_bind h
    cases h
    exact ⟨.unmoved rfl rfl, recorded_frame { Grows.refl db.tables with } rfl rfl rfl rfl
      (Nat.le_refl _) (·.plans)⟩

theorem recordsSound_empty : RecordsSound .empty where
  orderCodes := Table.keyed_empty
  codes := Table.keyed_empty
  items := Table.keyed_empty
  results := Table.keyed_empty
  bounds := fun _ _ found => by simp [MaintenanceTables.empty] at found
  orders := fun _ _ found => by simp [MaintenanceTables.empty] at found
  plans := fun _ _ found => by simp [MaintenanceTables.empty] at found

end MiniOgas
