import MiniOgas.MachineInterlock

namespace MiniOgas

open Relational Serial

variable {env : MaintenanceEnv} {actor : String} {operation : MaintenanceOperation}
  {maintenance maintenance' : MaintenanceTables} {assets : Table MaintenanceAsset}
  {order order' : MaintenanceOrder} {orderId : Nat} {written : Option AssetStatus}

/-- An asset with an order that makes its equipment unavailable is out of service. -/
def OutOfServiceShown (maintenance : MaintenanceTables) : Prop :=
  ∀ orderId order asset, maintenance.orders.find? orderId = some order →
    order.makesUnavailable = true → maintenance.assets.find? order.assetId = some asset →
    asset.status ≠ .retired → asset.status = .outOfService

/-- An asset that is out of service has an order that makes its equipment unavailable. -/
def OutOfServiceHeld (maintenance : MaintenanceTables) : Prop :=
  ∀ assetId asset, maintenance.assets.find? assetId = some asset →
    asset.status = .outOfService → ∃ orderId order, maintenance.orders.find? orderId = some order ∧
      order.assetId = assetId ∧ order.makesUnavailable = true

/-- Another order than this one makes the equipment of the asset unavailable. -/
def OtherUnavailable (maintenance : MaintenanceTables) (orderId assetId : Nat) : Prop :=
  ∃ otherId other, maintenance.orders.find? otherId = some other ∧ otherId ≠ orderId ∧
    other.assetId = assetId ∧ other.makesUnavailable = true

theorem find?_writeAssetStatus {assetId id : Nat} {asset : MaintenanceAsset}
    (h : (writeAssetStatus assets assetId written).find? id = some asset) :
    ∃ old, assets.find? id = some old ∧
      ((asset = old ∧ (id = assetId → written ≠ none → old.status = .retired)) ∨
        id = assetId ∧ written = some asset.status) := by
  cases written with
  | none => exact ⟨asset, h, .inl ⟨rfl, fun _ absurd => (absurd rfl).elim⟩⟩
  | some status =>
    rw [writeAssetStatus, setAssetStatus, Table.find?_updateAt] at h
    obtain ⟨old, found, h⟩ := Option.map_eq_some_iff.mp h
    refine ⟨old, found, ?_⟩
    split at h
    next at_ =>
      rw [← h]
      exact .inr ⟨at_.1, rfl⟩
    next not =>
      rw [← h]
      refine .inl ⟨rfl, fun same _ => ?_⟩
      by_contra kept
      exact not ⟨same, by simpa using kept⟩

theorem makesUnavailable_moved {toStatus : MaintenanceOrderStatus}
    (move : OrderMove env actor maintenance operation orderId order toStatus written)
    (moved : order'.status = toStatus) (same : SameOrder order order')
    (unavailable : order'.makesUnavailable = true) :
    (order.makesUnavailable = true ∧ written = none) ∨ written = some .outOfService := by
  simp only [MaintenanceOrder.makesUnavailable, moved, same.productionImpact, Bool.and_eq_true,
    decide_eq_true_eq] at unavailable ⊢
  obtain ⟨active, impact⟩ := unavailable
  cases move with
  | approve => simp at active
  | start =>
    right
    rw [impact]
    rfl
  | completeWork _ inProgress => exact .inl ⟨⟨by simp [inProgress], impact⟩, rfl⟩
  | verify => simp at active

theorem shown_written (write : MaintenanceWrite env actor operation maintenance maintenance')
    (registered : OrdersRegistered maintenance)
    (restores : ∀ orderId order toStatus status, maintenance.orders.find? orderId = some order →
      OrderMove env actor maintenance operation orderId order toStatus (some status) →
        status ≠ .outOfService →
      ¬ OtherUnavailable maintenance orderId order.assetId)
    (h : OutOfServiceShown maintenance) : OutOfServiceShown maintenance' := by
  intro orderId order asset found unavailable of working
  cases write with
  | unmoved assets orders =>
    rw [orders] at found
    rw [assets] at of
    exact h orderId order asset found unavailable of working
  | assetCreated _ assets orders =>
    rw [orders] at found
    obtain ⟨old, hold⟩ := Option.isSome_iff_exists.mp (registered orderId order found)
    rw [assets, Table.find?_insert_of_find? _ hold] at of
    cases of
    exact h orderId order asset found unavailable hold working
  | orderCreated draft _ assets orders =>
    rw [orders, Table.find?_insert] at found
    rw [assets] at of
    split at found
    next =>
      cases found
      simp [MaintenanceOrder.makesUnavailable, draft] at unavailable
    next => exact h orderId order asset found unavailable of working
  | @orderMoved id old new written hold move same assets orders =>
    rw [orders, Table.find?_set] at found
    rw [assets] at of
    obtain ⟨before, hbefore, kept | ⟨at_, wrote⟩⟩ := find?_writeAssetStatus of
    · obtain ⟨rfl, still⟩ := kept
      split at found
      next he =>
        rw [hold] at found
        cases found
        rw [same.assetId] at hbefore still
        rcases makesUnavailable_moved move rfl same unavailable with ⟨was, -⟩ | wrote
        · exact h id old asset hold was hbefore working
        · exact absurd (still rfl (by simp [wrote])) working
      next => exact h orderId order asset found unavailable hbefore working
    · by_contra shown
      split at found
      next he =>
        rw [hold] at found
        cases found
        rcases makesUnavailable_moved move rfl same unavailable with ⟨-, none⟩ | out
        · simp [none] at wrote
        · exact shown (Option.some.inj (wrote.symm.trans out))
      next he =>
        subst wrote
        exact restores id old _ asset.status hold move shown
          ⟨orderId, order, found, he, at_, unavailable⟩

theorem makesUnavailable_of_moved
    (move : OrderMove env actor maintenance operation orderId order order'.status written)
    (same : SameOrder order order') (unavailable : order.makesUnavailable = true) :
    order'.makesUnavailable = true ∨ written ≠ none := by
  simp only [MaintenanceOrder.makesUnavailable, same.productionImpact, Bool.and_eq_true,
    decide_eq_true_eq] at unavailable ⊢
  obtain ⟨active, impact⟩ := unavailable
  generalize order'.status = toStatus at move
  cases move with
  | approve draft => simp [draft] at active
  | start => exact .inl ⟨by simp, impact⟩
  | completeWork => exact .inl ⟨by simp, impact⟩
  | verify => exact .inr (by simp)

theorem held_written (write : MaintenanceWrite env actor operation maintenance maintenance')
    (withdraws : ∀ orderId order, maintenance.orders.find? orderId = some order →
      OrderMove env actor maintenance operation orderId order .verified (some .outOfService) →
      OtherUnavailable maintenance orderId order.assetId)
    (h : OutOfServiceHeld maintenance) : OutOfServiceHeld maintenance' := by
  intro assetId asset found out
  cases write with
  | unmoved assets orders =>
    rw [assets] at found
    rw [orders]
    exact h assetId asset found out
  | assetCreated active assets orders =>
    rw [assets, Table.find?_insert] at found
    rw [orders]
    split at found
    next =>
      cases found
      simp [active] at out
    next => exact h assetId asset found out
  | orderCreated _ _ assets orders =>
    rw [assets] at found
    obtain ⟨orderId, order, hold, of, unavailable⟩ := h assetId asset found out
    refine ⟨orderId, order, ?_, of, unavailable⟩
    rw [orders]
    exact Table.find?_insert_of_find? _ hold
  | @orderMoved id old new written hold move same assets orders =>
    rw [assets] at found
    obtain ⟨before, hbefore, ⟨rfl, still⟩ | ⟨at_, wrote⟩⟩ := find?_writeAssetStatus found
    · obtain ⟨orderId, order, horder, of, unavailable⟩ := h assetId asset hbefore out
      by_cases he : orderId = id
      · subst he
        rw [hold] at horder
        cases horder
        refine ⟨orderId, new, ?_, same.assetId.trans of, ?_⟩
        · rw [orders, Table.find?_set_self _ hold]
        · refine (makesUnavailable_of_moved move same unavailable).resolve_right fun wrote => ?_
          simp [out] at still
          exact wrote (still of.symm)
      · refine ⟨orderId, order, ?_, of, unavailable⟩
        rw [orders, Table.find?_set_ne _ he, horder]
    · rw [out] at wrote
      subst wrote
      generalize moved : new.status = toStatus at move
      generalize wrote : some AssetStatus.outOfService = written at move
      cases move with
      | approve | completeWork => cases wrote
      | start =>
        refine ⟨id, new, ?_, same.assetId.trans at_.symm, ?_⟩
        · rw [orders, Table.find?_set_self _ hold]
        · have impact : old.productionImpact = .equipmentUnavailable := by
            cases h : old.productionImpact <;> simp [h, ProductionImpact.assetStatus] at wrote ⊢
          simp [MaintenanceOrder.makesUnavailable, moved, same.productionImpact, impact]
      | verify called completed independent =>
        obtain ⟨otherId, other, hother, he, of, unavailable⟩ := withdraws id old hold
          (by rw [wrote]; exact .verify called completed independent)
        refine ⟨otherId, other, ?_, of.trans at_.symm, unavailable⟩
        rw [orders, Table.find?_set_ne _ he, hother]

variable {plant plant' : PlantTables} {call : PlantCall} {response : Json} {env : ExecutionEnv}
  {facts facts' : ExecutionFacts} {taskId : Nat}

/-- A call writes another status than out of service only on an asset that no other order
makes unavailable. -/
def RestoresFree (plant : PlantTables) (call : PlantCall) : Prop :=
  ∀ operation orderId order toStatus status, call.operation = .maintenance operation →
    plant.maintenance.orders.find? orderId = some order →
    OrderMove (call.maintenanceEnv plant) call.actor plant.maintenance
      operation orderId order toStatus (some status) →
    status ≠ .outOfService → ¬ OtherUnavailable plant.maintenance orderId order.assetId

/-- A verification finds an asset not restored only while another order makes it unavailable. -/
def WithdrawsHeld (plant : PlantTables) (call : PlantCall) : Prop :=
  ∀ operation orderId order, call.operation = .maintenance operation →
    plant.maintenance.orders.find? orderId = some order →
    OrderMove (call.maintenanceEnv plant) call.actor plant.maintenance
      operation orderId order .verified
      (some .outOfService) →
    OtherUnavailable plant.maintenance orderId order.assetId

theorem registered_attempt (h : plantAuthority.attempt call plant = .ok (response, plant'))
    (registered : OrdersRegistered plant.maintenance) : OrdersRegistered plant'.maintenance := by
  rcases plant_effect h with ⟨-, same⟩ | ⟨operation, -, effect, -⟩
  · rwa [same]
  · exact ordersRegistered_maintained effect registered

/-- In a run that restores assets only while no other order makes them unavailable, every
asset that an order makes unavailable is out of service. -/
theorem shown_along (calls : List PlantCall)
    (restores : plantAuthority.Along RestoresFree .empty calls) :
    OutOfServiceShown (plantAuthority.run .empty calls).maintenance := by
  refine (Authority.invariant_along (I := fun plant : PlantTables =>
    OrdersRegistered plant.maintenance ∧ OutOfServiceShown plant.maintenance)
    ?_ ⟨ordersRegistered_empty, fun _ _ _ found => ?_⟩ restores).2
  · intro plant call response plant' hi free h
    refine ⟨registered_attempt h hi.1, ?_⟩
    rcases plant_write h with ⟨-, same⟩ | ⟨operation, called, write, -⟩
    · rw [same]
      exact hi.2
    · exact shown_written write hi.1 (fun orderId order toStatus status =>
        free operation orderId order toStatus status called) hi.2
  · simp [PlantTables.empty, MaintenanceTables.empty] at found

/-- An order that makes the asset unavailable is started: the asset is out of service. -/
theorem shown_along_started :
    OutOfServiceShown (plantAuthority.run .empty sampleMaintenance).maintenance :=
  shown_along _ (Authority.along_mono (P := fun plant _ =>
      plant.maintenance.orders.any (·.makesUnavailable) = false)
    (fun _ _ idle => by
      rintro _ _ _ _ _ _ _ _ _ ⟨otherId, other, found, -, -, unavailable⟩
      simp [Table.any_eq_false_iff.mp idle otherId other found] at unavailable)
    (by decide +kernel))

def sampleReduced : List PlantCall :=
  [MaintenanceOperation.createRequest ⟨sampleCode "RQ-2", sampleCode "AS-1", .manual,
      sampleReference, ⟨"heat", by decide +kernel, by decide +kernel⟩, .high, 0⟩,
    sampleMaintenanceOrder "MO-2" "RQ-2" .reducedCapacity,
    .approveOrder "MO-2" sampleEvidence,
    .startOrder "MO-2" sampleEvidence].map (sampleCall ∘ .maintenance)

/-- The start of the second order overwrites the status that the first one has set. -/
theorem start_order_overwrites_status : ¬ ∀ calls,
    OutOfServiceShown (plantAuthority.run .empty calls).maintenance := by
  intro h
  have holds := h (sampleMaintenance ++ sampleReduced)
  generalize hplant : plantAuthority.run .empty (sampleMaintenance ++ sampleReduced) = plant
    at holds
  have order : (plant.maintenance.orders.find? 1).map (fun order =>
      (order.assetId, order.makesUnavailable)) = some (1, true) := by
    rw [← hplant]; decide +kernel
  have asset : (plant.maintenance.assets.find? 1).map (·.status) = some .degraded := by
    rw [← hplant]; decide +kernel
  obtain ⟨order, foundOrder, horder⟩ := Option.map_eq_some_iff.mp order
  obtain ⟨asset, foundAsset, degraded⟩ := Option.map_eq_some_iff.mp asset
  obtain ⟨of, unavailable⟩ := Prod.mk.inj horder
  have out := holds 1 order asset foundOrder unavailable (by rw [of]; exact foundAsset)
    (by simp [degraded])
  simp [degraded] at out

theorem held_along (calls : List PlantCall)
    (withdraws : plantAuthority.Along WithdrawsHeld .empty calls) :
    OutOfServiceHeld (plantAuthority.run .empty calls).maintenance := by
  refine Authority.invariant_along (I := fun plant : PlantTables =>
    OutOfServiceHeld plant.maintenance) ?_ (fun _ _ found => ?_) withdraws
  · intro plant call response plant' hi held h
    rcases plant_write h with ⟨-, same⟩ | ⟨operation, called, write, -⟩
    · rw [same]
      exact hi
    · exact held_written write (fun orderId order => held operation orderId order called) hi
  · simp [PlantTables.empty, MaintenanceTables.empty] at found

def EntersRunning (facts facts' : ExecutionFacts) (taskId : Nat) : Prop :=
  (∃ task, facts'.tasks.find? taskId = some task ∧ task.status = .running) ∧
    ∀ task, facts.tasks.find? taskId = some task → task.status ≠ .running

def AssetOf (plant : PlantTables) (assetId : Nat) (asset : MaintenanceAsset) (taskId : Nat) :
    Prop :=
  plant.maintenance.assets.find? assetId = some asset ∧
    ∃ id assignment, plant.execution.facts.assignments.find? id = some assignment ∧
      assignment.operationTaskId = taskId ∧ assignment.equipmentId = asset.equipmentId

theorem entered_unblocked (effect : ExecutionEffect env facts facts')
    (enters : EntersRunning facts facts' taskId) :
    maintenanceBlockers env facts taskId = [] ∧ facts'.assignments = facts.assignments := by
  obtain ⟨⟨task, found, running⟩, before⟩ := enters
  cases effect with
  | replayed | orderCreated | attached | orderReleased | reported | executionClosed
  | orderClosed => exact absurd running (before task found)
  | @dispatched _ _ _ _ tasks _ _ _ _ _ _ _ _ materialized =>
    rcases Table.of_find?_insertAll found with found | ⟨-, member⟩
    · exact absurd running (before task found)
    · have := (materialized.owned task member).2.2
      simp [running] at this
  | @moved id old toStatus change _ _ _ _ _ hold _ unblocked _ rollUp =>
    rw [rollUp.tasks] at found
    rcases Table.of_find?_set found with ⟨rfl, rfl⟩ | ⟨-, same⟩
    · exact ⟨unblocked running (before old hold), rollUp.assignments⟩
    · exact absurd running (before task same)

/-- In a run whose verifications leave an asset out of service only while another order holds
it, no call moves a task into `running` on an asset that is out of service. -/
theorem entered_in_service_along (calls : List PlantCall) (call : PlantCall) (response : Json)
    (plant' : PlantTables) (taskId assetId : Nat) (asset : MaintenanceAsset)
    (withdraws : plantAuthority.Along WithdrawsHeld .empty calls)
    (attempted : plantAuthority.attempt call (plantAuthority.run .empty calls) =
      .ok (response, plant'))
    (enters : EntersRunning (plantAuthority.run .empty calls).execution.facts
      plant'.execution.facts taskId)
    (of : AssetOf plant' assetId asset taskId) : asset.status ≠ .outOfService := by
  intro out
  have held := held_along calls withdraws
  generalize plantAuthority.run .empty calls = plant at attempted enters held
  obtain ⟨registered, id, assignment, assigned, task, equipment⟩ := of
  rcases plant_write attempted with ⟨effect, same⟩ | ⟨_, -, -, same⟩
  · obtain ⟨unblocked, kept⟩ := entered_unblocked effect enters
    rw [same] at registered
    rw [kept] at assigned
    obtain ⟨orderId, order, found, rfl, unavailable⟩ := held assetId asset registered out
    have free := maintenanceBlockers_nil unblocked found
      ⟨asset, id, assignment, registered, assigned, task, equipment⟩
    simp [unavailable] at free
  · obtain ⟨⟨row, found, running⟩, before⟩ := enters
    rw [same] at found
    exact before row found running

theorem sampleStart_enters {status : AssetStatus} (calls : List PlantCall)
    (starts : (plantAuthority.attempt sampleStart (plantAuthority.run .empty calls)).isOk = true)
    (asset : ((plantAuthority.serve (plantAuthority.run .empty calls)
      sampleStart).maintenance.assets.find? 1).map
        (fun asset => (asset.equipmentId, asset.status)) = some (1, status))
    (assignment : ((plantAuthority.serve (plantAuthority.run .empty calls)
      sampleStart).execution.facts.assignments.find? 1).map (fun assignment =>
        (assignment.operationTaskId, assignment.equipmentId)) = some (1, 1))
    (after : ((plantAuthority.serve (plantAuthority.run .empty calls)
      sampleStart).execution.facts.tasks.find? 1).map (·.status) = some .running)
    (before : ((plantAuthority.run .empty calls).execution.facts.tasks.find? 1).map (·.status) =
      some .ready) :
    ∃ response plant' asset, plantAuthority.attempt sampleStart (plantAuthority.run .empty calls) =
        .ok (response, plant') ∧
      EntersRunning (plantAuthority.run .empty calls).execution.facts plant'.execution.facts 1 ∧
      AssetOf plant' 1 asset 1 ∧ asset.status = status := by
  obtain ⟨⟨response, plant'⟩, attempted⟩ := exists_ok starts
  rw [Authority.serve_of_ok attempted] at asset assignment after
  obtain ⟨asset, foundAsset, own⟩ := Option.map_eq_some_iff.mp asset
  obtain ⟨equipment, reached⟩ := Prod.mk.inj own
  obtain ⟨assignment, foundAssignment, assigned⟩ := Option.map_eq_some_iff.mp assignment
  obtain ⟨task, equipment'⟩ := Prod.mk.inj assigned
  refine ⟨response, plant', asset, attempted, ⟨Option.map_eq_some_iff.mp after, ?_⟩,
    ⟨foundAsset, 1, assignment, foundAssignment, task, equipment'.trans equipment.symm⟩, reached⟩
  intro row found running
  rw [found, Option.map_some, running] at before
  cases before

/-- The asset is registered, and the task starts on it. -/
theorem entered_in_service_along_active : ∃ response plant' asset,
    plantAuthority.attempt sampleStart (plantAuthority.run .empty
        (sampleSetup ++ sampleMaintenance.take 1)) = .ok (response, plant') ∧
      AssetOf plant' 1 asset 1 ∧ asset.status ≠ .outOfService := by
  obtain ⟨response, plant', asset, attempted, enters, of, -⟩ := @sampleStart_enters .active
    (sampleSetup ++ sampleMaintenance.take 1) (by decide +kernel) (by decide +kernel)
    (by decide +kernel) (by decide +kernel) (by decide +kernel)
  refine ⟨response, plant', asset, attempted, of, entered_in_service_along _ sampleStart response
    plant' 1 1 asset ?_ attempted enters of⟩
  exact Authority.along_mono (P := fun plant _ =>
      plant.maintenance.orders.any (fun _ => true) = false)
    (fun _ _ none => by
      intro _ orderId order _ found
      cases Table.any_eq_false_iff.mp none orderId order found)
    (by decide +kernel)

def sampleWithdrawal : List PlantCall :=
  [MaintenanceOperation.createCode ⟨sampleCode "FC-1", .failure,
      ⟨"wear", by decide +kernel, by decide +kernel⟩⟩,
    .createCode ⟨sampleCode "CC-1", .cause,
      ⟨"dust", by decide +kernel, by decide +kernel⟩⟩,
    .createCode ⟨sampleCode "RC-1", .remedy,
      ⟨"clean", by decide +kernel, by decide +kernel⟩⟩,
    .recordCheckResult "MO-1" ⟨sampleItem.sequence, .pass, sampleReference,
      sampleItem.sequence_bounds⟩,
    .completeWork "MO-1" ⟨sampleCode "FC-1", sampleCode "CC-1", sampleCode "RC-1",
      sampleReference⟩].map (sampleCall ∘ .maintenance) ++
    [{ sampleCall (.maintenance (.verifyOrder "MO-1" ⟨sampleReference, .notRestored⟩)) with
      actor := "inspector" }]

/-- No order is active any more, so the task starts on the asset that is out of service. -/
theorem start_task_out_of_service : ¬ ∀ (calls : List PlantCall) (call : PlantCall)
    (response : Json) (plant' : PlantTables) (taskId assetId : Nat) (asset : MaintenanceAsset),
    plantAuthority.attempt call (plantAuthority.run .empty calls) = .ok (response, plant') →
    EntersRunning (plantAuthority.run .empty calls).execution.facts plant'.execution.facts taskId →
    AssetOf plant' assetId asset taskId → asset.status ≠ .outOfService := by
  intro h
  obtain ⟨response, plant', asset, attempted, enters, of, out⟩ := @sampleStart_enters .outOfService
    (sampleSetup ++ sampleMaintenance ++ sampleWithdrawal) (by decide +kernel) (by decide +kernel)
    (by decide +kernel) (by decide +kernel) (by decide +kernel)
  exact h _ sampleStart response plant' 1 1 asset attempted enters of out

end MiniOgas
