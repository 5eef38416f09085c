import MiniOgas.MaintenanceRecords
import MiniOgas.TaskInvariant

namespace MiniOgas

open Relational Serial

structure PlantTables where
  execution : ExecutionTables
  maintenance : MaintenanceTables

def PlantTables.empty : PlantTables := ⟨.empty, .empty⟩

inductive PlantOperation where
  | execution (operation : ExecutionOperation)
  | maintenance (operation : MaintenanceOperation)

structure PlantCall where
  now : Timestamp
  master : MasterData
  movements : List SpareMovement
  auditAccepted : AuditLog → Bool
  actor : String
  operation : PlantOperation

def PlantCall.executionEnv (call : PlantCall) (plant : PlantTables) : ExecutionEnv :=
  ⟨call.now, call.master, plant.maintenance, call.auditAccepted⟩

def PlantCall.maintenanceEnv (call : PlantCall) (plant : PlantTables) : MaintenanceEnv :=
  ⟨call.now, call.master, plant.execution.facts, call.movements, call.auditAccepted⟩

def PlantCall.attempt (call : PlantCall) (plant : PlantTables) :
    Except Fault (Json × PlantTables) :=
  match call.operation with
  | .execution operation => do
    let (response, execution) ←
      operation.perform (call.executionEnv plant) call.actor plant.execution
    return (response, { plant with execution })
  | .maintenance operation => do
    let (response, store) ← operation.perform (call.maintenanceEnv plant) call.actor
      ⟨plant.maintenance, plant.execution.auditLogs⟩
    return (response, ⟨{ plant.execution with auditLogs := store.auditLogs }, store.tables⟩)

def plantAuthority : Authority PlantCall PlantTables Json Fault := ⟨PlantCall.attempt⟩

variable {plant plant' : PlantTables} {call : PlantCall} {response : Json}

theorem plant_cases (h : plantAuthority.attempt call plant = .ok (response, plant')) :
    (∃ operation, call.operation = .execution operation ∧ operation.perform
        (call.executionEnv plant) call.actor plant.execution = .ok (response, plant'.execution) ∧
        plant'.maintenance = plant.maintenance) ∨
      ∃ operation store, call.operation = .maintenance operation ∧
        operation.perform (call.maintenanceEnv plant) call.actor
          ⟨plant.maintenance, plant.execution.auditLogs⟩ = .ok (response, store) ∧
        plant' = ⟨{ plant.execution with auditLogs := store.auditLogs }, store.tables⟩ := by
  change call.attempt plant = _ at h
  unfold PlantCall.attempt at h
  split at h
  next operation called =>
    obtain ⟨⟨response, execution⟩, performed, h⟩ := of_bind h
    cases h
    exact .inl ⟨operation, called, performed, rfl⟩
  next operation called =>
    obtain ⟨⟨response, store⟩, performed, h⟩ := of_bind h
    cases h
    exact .inr ⟨operation, store, called, performed, rfl⟩

theorem plant_write (h : plantAuthority.attempt call plant = .ok (response, plant')) :
    ExecutionEffect (call.executionEnv plant) plant.execution.facts plant'.execution.facts ∧
        plant'.maintenance = plant.maintenance ∨
      ∃ operation, call.operation = .maintenance operation ∧
        MaintenanceWrite (call.maintenanceEnv plant) call.actor operation plant.maintenance
          plant'.maintenance ∧ plant'.execution.facts = plant.execution.facts := by
  rcases plant_cases h with ⟨_, -, performed, same⟩ | ⟨operation, _, called, performed, rfl⟩
  · exact .inl ⟨perform_effect _ _ performed, same⟩
  · exact .inr ⟨operation, called, (maintenance_step _ _ performed).write, rfl⟩

theorem plant_effect (h : plantAuthority.attempt call plant = .ok (response, plant')) :
    ExecutionEffect (call.executionEnv plant) plant.execution.facts plant'.execution.facts ∧
        plant'.maintenance = plant.maintenance ∨
      ∃ operation, call.operation = .maintenance operation ∧
        MaintenanceEffect (call.maintenanceEnv plant) operation plant.maintenance
          plant'.maintenance ∧ plant'.execution.facts = plant.execution.facts := by
  rcases plant_write h with executed | ⟨operation, called, write, same⟩
  · exact .inl executed
  · exact .inr ⟨operation, called, write.effect, same⟩

variable {maintenance maintenance' : MaintenanceTables} {facts facts' : ExecutionFacts}
  {taskId : Nat} {task : OperationTask} {order : MaintenanceOrder}
  {operation : MaintenanceOperation}

/-- The asset of the order is the equipment assigned to the task. -/
def OnEquipmentOf (maintenance : MaintenanceTables) (facts : ExecutionFacts)
    (order : MaintenanceOrder) (taskId : Nat) : Prop :=
  ∃ asset id assignment, maintenance.assets.find? order.assetId = some asset ∧
    facts.assignments.find? id = some assignment ∧ assignment.operationTaskId = taskId ∧
    assignment.equipmentId = asset.equipmentId

/-- No task is running on equipment that maintenance has made unavailable. -/
def Interlocked (maintenance : MaintenanceTables) (facts : ExecutionFacts) : Prop :=
  ∀ taskId task, facts.tasks.find? taskId = some task → task.status = .running →
    ∀ orderId order, maintenance.orders.find? orderId = some order →
    OnEquipmentOf maintenance facts order taskId → order.makesUnavailable = false

theorem maintenanceBlockers_nil {env : ExecutionEnv}
    (h : maintenanceBlockers env facts taskId = []) {orderId : Nat}
    (found : env.maintenance.orders.find? orderId = some order)
    (on : OnEquipmentOf env.maintenance facts order taskId) : order.makesUnavailable = false := by
  obtain ⟨asset, id, assignment, hasset, hassignment, rfl, hequipment⟩ := on
  have assigned : assignment.equipmentId ∈ assignedEquipment facts assignment.operationTaskId :=
    List.mem_map.mpr ⟨(id, assignment), Table.mem_select.mpr ⟨hassignment, by simp⟩, rfl⟩
  by_contra unavailable
  have blocks : (orderId, order) ∈ env.maintenance.blockers assignment.equipmentId := by
    refine Table.mem_select.mpr ⟨found, ?_⟩
    rw [Bool.and_eq_true, List.any_eq_true]
    exact ⟨by simpa using unavailable, (order.assetId, asset), Table.mem_entries.mpr hasset,
      by simp [hequipment]⟩
  have := List.mem_flatMap.mpr ⟨assignment.equipmentId, assigned, blocks⟩
  rw [show (assignedEquipment facts assignment.operationTaskId).flatMap env.maintenance.blockers =
    [] from h] at this
  cases this

theorem interlocked_executed {env : ExecutionEnv} (effect : ExecutionEffect env facts facts')
    (h : Interlocked env.maintenance facts) : Interlocked env.maintenance facts' := by
  cases effect with
  | replayed | orderCreated | attached | orderReleased | reported | executionClosed
  | orderClosed => exact h
  | @dispatched _ _ _ _ tasks assignments _ _ _ _ _ _ _ materialized =>
    intro taskId task found running orderId order horder on
    rcases Table.of_find?_insertAll found with found | ⟨-, member⟩
    · refine h taskId task found running orderId order horder ?_
      have := Table.lt_nextId_of_find? found
      obtain ⟨asset, id, assignment, hasset, hassignment, of, hequipment⟩ := on
      rcases Table.of_find?_insertAll hassignment with hassignment | ⟨-, member⟩
      · exact ⟨asset, id, assignment, hasset, hassignment, of, hequipment⟩
      · have := materialized.assigned assignment member
        omega
    · have := (materialized.owned task member).2.2
      simp [running] at this
  | @moved id old toStatus change _ _ _ _ _ found _ unblocked _ rollUp =>
    intro taskId task htask running orderId order horder on
    have on : OnEquipmentOf env.maintenance facts order taskId := by
      obtain ⟨asset, id, assignment, hasset, hassignment, of, hequipment⟩ := on
      rw [rollUp.assignments] at hassignment
      exact ⟨asset, id, assignment, hasset, hassignment, of, hequipment⟩
    rw [rollUp.tasks] at htask
    rcases Table.of_find?_set htask with ⟨rfl, rfl⟩ | ⟨-, hold⟩
    · by_cases still : old.status = .running
      · exact h taskId old found still orderId order horder on
      · exact maintenanceBlockers_nil (unblocked running still) horder on
    · exact h taskId task hold running orderId order horder on

/-- The order that a call starts, and that the checks of `start_order` let through. -/
def Starts (env : MaintenanceEnv) (maintenance : MaintenanceTables)
    (operation : MaintenanceOperation) (order : MaintenanceOrder) : Prop :=
  (∃ payload, operation = .startOrder order.orderCode payload) ∧
    (∃ id, maintenance.orders.find? id = some order) ∧ order.status = .approved ∧
    requireDowntime env order = .ok ()

/-- Maintenance starts to make equipment unavailable only while no task runs on it. -/
def StartsIdle (plant : PlantTables) (call : PlantCall) : Prop :=
  ∀ operation order, call.operation = .maintenance operation →
    Starts (call.maintenanceEnv plant) plant.maintenance operation order →
    order.productionImpact = .equipmentUnavailable →
    ∀ taskId task, plant.execution.facts.tasks.find? taskId = some task →
    OnEquipmentOf plant.maintenance plant.execution.facts order taskId → task.status ≠ .running

def OrdersRegistered (maintenance : MaintenanceTables) : Prop :=
  ∀ id order, maintenance.orders.find? id = some order →
    (maintenance.assets.find? order.assetId).isSome = true

theorem ordersRegistered_maintained {env : MaintenanceEnv}
    (effect : MaintenanceEffect env operation maintenance maintenance')
    (h : OrdersRegistered maintenance) : OrdersRegistered maintenance' := by
  intro id order found
  cases effect with
  | unmoved assets orders =>
    rw [orders] at found
    rw [assets]
    exact h id order found
  | assetCreated assets orders =>
    rw [orders] at found
    rw [assets]
    exact Table.isSome_find?_insert (h id order found)
  | orderCreated draft registered assets orders =>
    rw [orders, Table.find?_insert] at found
    rw [assets]
    split at found
    next =>
      cases found
      exact registered
    next => exact h id order found
  | @orderMoved orderId old new hold step started same equipment orders =>
    have kept : ∀ assetId, (maintenance'.assets.find? assetId).isSome =
        (maintenance.assets.find? assetId).isSome := by
      intro assetId
      simpa using congrArg Option.isSome (equipment assetId)
    rw [orders, Table.find?_set] at found
    rw [kept]
    split at found
    next he =>
      rw [hold] at found
      cases found
      rw [same.1]
      exact h _ old hold
    next => exact h id order found

theorem onEquipmentOf_of_kept
    (kept : (maintenance'.assets.find? order.assetId).map (·.equipmentId) =
      (maintenance.assets.find? order.assetId).map (·.equipmentId))
    (on : OnEquipmentOf maintenance' facts order taskId) :
    OnEquipmentOf maintenance facts order taskId := by
  obtain ⟨asset, id, assignment, hasset, hassignment, of, hequipment⟩ := on
  rw [hasset] at kept
  obtain ⟨old, hold, same⟩ := Option.map_eq_some_iff.mp kept.symm
  exact ⟨old, id, assignment, hold, hassignment, of, hequipment.trans same.symm⟩

theorem interlocked_maintained {env : MaintenanceEnv}
    (effect : MaintenanceEffect env operation maintenance maintenance')
    (registered : OrdersRegistered maintenance)
    (idle : ∀ order, Starts env maintenance operation order →
      order.productionImpact = .equipmentUnavailable →
      ∀ taskId task, facts.tasks.find? taskId = some task →
      OnEquipmentOf maintenance facts order taskId → task.status ≠ .running)
    (h : Interlocked maintenance facts) : Interlocked maintenance' facts := by
  intro taskId task found running orderId order horder on
  cases effect with
  | unmoved assets orders =>
    rw [orders] at horder
    refine h taskId task found running orderId order horder (onEquipmentOf_of_kept ?_ on)
    rw [assets]
  | assetCreated assets orders =>
    rw [orders] at horder
    refine h taskId task found running orderId order horder (onEquipmentOf_of_kept ?_ on)
    obtain ⟨asset, hasset⟩ := Option.isSome_iff_exists.mp (registered orderId order horder)
    rw [assets, Table.find?_insert_of_find? _ hasset, hasset]
  | orderCreated draft _ assets orders =>
    rw [orders] at horder
    rcases Table.of_find?_insert horder with ⟨-, rfl⟩ | horder
    · simp [MaintenanceOrder.makesUnavailable, draft]
    · refine h taskId task found running orderId order horder (onEquipmentOf_of_kept ?_ on)
      rw [assets]
  | @orderMoved id old new hold step started same equipment orders =>
    have on := onEquipmentOf_of_kept (equipment order.assetId) on
    rw [orders] at horder
    rcases Table.of_find?_set horder with ⟨rfl, made⟩ | ⟨-, horder⟩
    · subst made
      have onOld : OnEquipmentOf maintenance facts old taskId := by
        unfold OnEquipmentOf at on ⊢
        rwa [← same.1]
      have before := h taskId task found running orderId old hold onOld
      by_contra unavailable
      simp only [MaintenanceOrder.makesUnavailable, Bool.not_eq_false, Bool.and_eq_true,
        decide_eq_true_eq, same.2] at unavailable
      generalize ho : old.status = fromStatus at step
      generalize hn : order.status = toStatus at step
      cases step with
      | approve => simp [hn] at unavailable
      | start =>
        obtain ⟨called, downtime⟩ := started hn
        exact idle old ⟨called, ⟨orderId, hold⟩, ho, downtime⟩ unavailable.2 taskId task found
          onOld running
      | completeWork =>
        simp [MaintenanceOrder.makesUnavailable, ho, unavailable.2] at before
      | verify => simp [hn] at unavailable
    · exact h taskId task found running orderId order horder on

theorem interlocked_empty : Interlocked .empty .empty := by
  intro taskId task found
  simp [ExecutionFacts.empty] at found

theorem ordersRegistered_empty : OrdersRegistered .empty := by
  intro id order found
  simp [MaintenanceTables.empty] at found

/-- In a run whose maintenance starts find their equipment idle, the interlock
holds in every state. -/
theorem interlocked_along (calls : List PlantCall)
    (idle : plantAuthority.Along StartsIdle .empty calls) :
    Interlocked (plantAuthority.run .empty calls).maintenance
      (plantAuthority.run .empty calls).execution.facts := by
  refine (Authority.invariant_along (I := fun plant : PlantTables =>
    OrdersRegistered plant.maintenance ∧ Interlocked plant.maintenance plant.execution.facts)
    ?_ ⟨ordersRegistered_empty, interlocked_empty⟩ idle).2
  intro plant call response plant' hi starts h
  rcases plant_effect h with ⟨effect, same⟩ | ⟨operation, called, effect, same⟩
  · rw [same]
    exact ⟨hi.1, interlocked_executed effect hi.2⟩
  · rw [same]
    exact ⟨ordersRegistered_maintained effect hi.1,
      interlocked_maintained effect hi.1 (fun order => starts operation order called) hi.2⟩

def sampleMaster : MasterData where
  products := ⟨[⟨"PR-1"⟩]⟩
  workOrders := ⟨[⟨"WO-1", 1, 10, 1, [⟨10, "EQ-1", "P-1"⟩], .released⟩]⟩
  routingRevisions := ⟨[⟨[⟨10, "OP-10", "cut"⟩]⟩]⟩
  equipment := ⟨[⟨"EQ-1"⟩]⟩
  personnel := ⟨[⟨"P-1", true⟩]⟩

def sampleCall (operation : PlantOperation) : PlantCall :=
  ⟨0, sampleMaster, [], fun _ => true, "planner", operation⟩

def sampleAction (key : Text 1 128) : ExecutionActionIn :=
  ⟨key, .empty⟩

def sampleEvidence : MaintenanceActionIn := ⟨sampleReference⟩

/-- A production order of one more than `n` pieces. -/
def sampleProductionOrder (n : Nat) : ExecutionOperation :=
  .createProductionOrder ⟨sampleCode "PO-1", sampleCode "PR-1", n + 1, 1, 0,
    quantity_pos n, by decide⟩

def sampleSetup : List PlantCall :=
  [sampleProductionOrder 9,
    .attachWorkOrder "PO-1" "WO-1" (sampleAction (sampleKey "K-1")),
    .releaseProductionOrder "PO-1" (sampleAction (sampleKey "K-2")),
    .dispatchWorkOrder "WO-1" (sampleAction (sampleKey "K-3")),
    .startSetup 1 (sampleAction (sampleKey "K-4")),
    .completeSetup 1 ⟨sampleKey "K-5", sampleReference, []⟩].map (sampleCall ∘ .execution)

def sampleStart : PlantCall :=
  sampleCall (.execution (.startTask 1 (sampleAction (sampleKey "K-6"))))

def sampleItem : ChecklistItemIn :=
  ⟨1, ⟨"look", by decide +kernel, by decide +kernel⟩, true, by decide⟩

def sampleMaintenanceOrder (orderCode requestCode : String) (impact : ProductionImpact) :
    MaintenanceOperation :=
  .createOrder ⟨sampleCode orderCode, sampleCode requestCode, sampleCode "AS-1", .corrective,
    .high, sampleCode "P-1", sampleCode "CL-1", 1, none, none, impact, 0, 1, firstRevision_pos,
    taskId_none, taskId_none, firstPeriod_valid, nofun⟩

def sampleMaintenance : List PlantCall :=
  [MaintenanceOperation.createAsset ⟨sampleCode "AS-1", sampleCode "EQ-1",
      ⟨"press", by decide +kernel, by decide +kernel⟩, none, .high⟩,
    .createChecklist ⟨sampleCode "CL-1", 1, ⟨"check", by decide +kernel, by decide +kernel⟩,
      [sampleItem], by decide, by decide, by decide⟩,
    .transitionChecklist "CL-1" 1 .approved sampleEvidence,
    .transitionChecklist "CL-1" 1 .effective sampleEvidence,
    .createRequest ⟨sampleCode "RQ-1", sampleCode "AS-1", .manual, sampleReference,
      ⟨"noise", by decide +kernel, by decide +kernel⟩, .high, 0⟩,
    sampleMaintenanceOrder "MO-1" "RQ-1" .equipmentUnavailable,
    .approveOrder "MO-1" sampleEvidence,
    .startOrder "MO-1" sampleEvidence].map (sampleCall ∘ .maintenance)

/-- Maintenance first: the task does not start. -/
theorem interlocked_along_maintenance_first :
    Interlocked (plantAuthority.run .empty
      (sampleSetup ++ sampleMaintenance ++ [sampleStart])).maintenance
      (plantAuthority.run .empty
        (sampleSetup ++ sampleMaintenance ++ [sampleStart])).execution.facts :=
  interlocked_along _ (Authority.along_mono (P := fun plant _ =>
      plant.execution.facts.tasks.any (·.status = .running) = false)
    (fun _ _ idle => by
      intro _ _ _ _ _ taskId task found _
      simpa using Table.any_eq_false_iff.mp idle taskId task found)
    (by decide +kernel))

/-- The task first: `start_order` does not look at it, and it goes on running. -/
theorem start_order_breaks_interlock :
    ¬ ∀ calls, Interlocked (plantAuthority.run .empty calls).maintenance
      (plantAuthority.run .empty calls).execution.facts := by
  intro h
  have holds := h (sampleSetup ++ [sampleStart] ++ sampleMaintenance)
  generalize hplant : plantAuthority.run .empty (sampleSetup ++ [sampleStart] ++
    sampleMaintenance) = plant at holds
  have task : (plant.execution.facts.tasks.find? 1).map (·.status) = some .running := by
    rw [← hplant]; decide +kernel
  have order : (plant.maintenance.orders.find? 1).map (fun order =>
      (order.assetId, order.makesUnavailable)) = some (1, true) := by
    rw [← hplant]; decide +kernel
  have asset : (plant.maintenance.assets.find? 1).map (·.equipmentId) = some 1 := by
    rw [← hplant]; decide +kernel
  have assignment : (plant.execution.facts.assignments.find? 1).map (fun assignment =>
      (assignment.operationTaskId, assignment.equipmentId)) = some (1, 1) := by
    rw [← hplant]; decide +kernel
  obtain ⟨task, foundTask, running⟩ := Option.map_eq_some_iff.mp task
  obtain ⟨order, foundOrder, horder⟩ := Option.map_eq_some_iff.mp order
  obtain ⟨asset, foundAsset, hasset⟩ := Option.map_eq_some_iff.mp asset
  obtain ⟨assignment, foundAssignment, hassignment⟩ := Option.map_eq_some_iff.mp assignment
  obtain ⟨hid, unavailable⟩ := Prod.mk.inj horder
  obtain ⟨hof, hequipment⟩ := Prod.mk.inj hassignment
  have := holds 1 task foundTask running 1 order foundOrder
    ⟨asset, 1, assignment, by rw [hid]; exact foundAsset, foundAssignment, hof,
      hequipment.trans hasset.symm⟩
  simp [unavailable] at this

end MiniOgas
