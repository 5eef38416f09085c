import MiniOgas.TaskEffects

namespace MiniOgas

open Relational Serial

variable {env : ExecutionEnv} {db db' : ExecutionTables} {facts facts' : ExecutionFacts}
  {actor code : String} {response : Json} {payload : ExecutionActionIn}

theorem createProductionOrder_effect {payload : ProductionOrderIn} :
    HasEffect env db (createProductionOrder env db payload actor) := by
  refine audited_effect fun outcome h => ?_
  obtain ⟨_, -, h⟩ := of_bind h
  obtain ⟨_, -, h⟩ := of_bind h
  obtain ⟨_, -, h⟩ := of_bind h
  cases h
  exact .orderCreated rfl rfl

theorem attachWorkOrder_effect {workOrderCode : String} :
    HasEffect env db (attachWorkOrder env db code workOrderCode payload actor) := by
  refine idempotent_effect fun outcome h => ?_
  obtain ⟨⟨orderId, order⟩, found, h⟩ := of_bind h
  obtain ⟨_, -, h⟩ := of_bind h
  obtain ⟨_, draft, h⟩ := of_bind h
  replace h := of_then (of_then h)
  obtain ⟨_, fresh, h⟩ := of_bind h
  cases h
  exact .attached (Table.first?_spec (orFault_eq_ok.mp found)).1 (check_eq_ok.mp draft)
    (Table.free_iff_any.mpr (check_eq_ok.mp fresh))

theorem attachedWorkOrders_link {orderId : Nat} (h : attachedWorkOrders env facts orderId ≠ []) :
    ∃ id link, facts.links.find? id = some link ∧ link.productionOrderId = orderId := by
  obtain ⟨workOrder, hm⟩ := List.exists_mem_of_ne_nil _ h
  obtain ⟨id, link, found, hlink⟩ := Table.any_iff.mp (List.mem_filter.mp hm).2
  simp only [Bool.and_eq_true, decide_eq_true_eq] at hlink
  exact ⟨id, link, found, hlink.1⟩

theorem releaseProductionOrder_effect :
    HasEffect env db (releaseProductionOrder env db code payload actor) := by
  refine idempotent_effect fun outcome h => ?_
  obtain ⟨⟨orderId, order⟩, found, h⟩ := of_bind h
  obtain ⟨_, draft, h⟩ := of_bind h
  obtain ⟨_, nonempty, h⟩ := of_bind h
  replace h := of_then (of_then (of_then h))
  obtain ⟨productionOrders, updated, h⟩ := of_bind h
  obtain ⟨_, -, h⟩ := of_bind h
  cases h
  obtain ⟨linkId, link, attached, of⟩ := attachedWorkOrders_link (check_eq_ok.mp nonempty)
  obtain ⟨row, foundRow, -, rfl⟩ := Table.updateOne_eq_ok.mp updated
  exact .orderReleased (Table.first?_spec (orFault_eq_ok.mp found)).1 (check_eq_ok.mp draft)
    attached of rfl rfl

theorem dispatchOperations_ok {executionId workOrderId : Nat} {workOrder : WorkOrder}
    {operations : List RoutingOperation}
    (h : operations.foldlM (dispatchOperation env executionId workOrderId workOrder payload actor)
      facts = .ok facts') :
    ∃ tasks assignments history,
      facts' = { facts with
        tasks := facts.tasks.insertAll tasks
        assignments := facts.assignments.insertAll assignments
        history := facts.history.insertAll history } ∧
      tasks.length = operations.length ∧
      (∀ task ∈ tasks, task.workOrderExecutionId = executionId ∧ task.workOrderId = workOrderId ∧
        task.status = .dispatched) ∧
      (∀ task ∈ tasks, 0 < task.plannedQuantity) ∧
      (∀ task ∈ tasks, ∀ id other, facts.tasks.find? id = some other →
        other.workOrderId = workOrderId → other.sequence ≠ task.sequence) ∧
      (tasks.map (·.sequence)).Nodup ∧
      (∀ assignment ∈ assignments, facts.tasks.nextId ≤ assignment.operationTaskId) ∧
      history.map (·.operationTaskId) =
        (List.range tasks.length).map (facts.tasks.nextId + ·) ∧
      ∀ row ∈ history, row.fromStatus = none ∧ row.toStatus = .dispatched := by
  induction operations generalizing facts with
  | nil =>
    cases h
    exact ⟨[], [], [], by simp⟩
  | cons operation operations ih =>
    obtain ⟨facts₁, first, h⟩ := of_bind h
    obtain ⟨tasks, assignments, history, rfl, hlength, howned, hplanned, hfresh, hnodup, hassigned,
      hrecorded, hstarted⟩ := ih h
    obtain ⟨_, -, first⟩ := of_bind first
    obtain ⟨⟨equipmentId, _⟩, -, first⟩ := of_bind first
    obtain ⟨⟨personnelId, _⟩, -, first⟩ := of_bind first
    obtain ⟨_, valid, first⟩ := of_bind first
    obtain ⟨_, unique, first⟩ := of_bind first
    have hfirst := recordHistory_ok first
    subst hfirst
    let task := dispatchedTask env executionId workOrderId workOrder operation
    have hself : (facts.tasks.insert task).find? facts.tasks.nextId = some task := by
      simp [Table.find?_insert]
    refine ⟨task :: tasks, _ :: assignments, _ :: history,
      by simp only [Table.insertAll_insert]; rfl,
      by simp [hlength], ?_, ?_, ?_, ?_, ?_, ?_, ?_⟩
    · intro new hm
      rcases List.mem_cons.mp hm with rfl | hm
      · exact ⟨rfl, rfl, rfl⟩
      · exact howned new hm
    · intro new hm
      rcases List.mem_cons.mp hm with rfl | hm
      · exact (check_eq_ok.mp valid).2
      · exact hplanned new hm
    · intro new hm id other found of
      rcases List.mem_cons.mp hm with rfl | hm
      · have := Table.any_eq_false_iff.mp (check_eq_ok.mp unique) id other found
        simpa [of] using this
      · exact hfresh new hm id other (Table.find?_insert_of_find? _ found) of
    · refine List.nodup_cons.mpr ⟨?_, hnodup⟩
      intro hm
      obtain ⟨new, hnew, hsequence⟩ := List.mem_map.mp hm
      exact hfresh new hnew _ task hself rfl hsequence.symm
    · intro assignment hm
      rcases List.mem_cons.mp hm with rfl | hm
      · exact Nat.le_refl _
      · have := hassigned assignment hm
        simp only [Table.nextId_insert] at this
        omega
    · simp only [Table.nextId_insert] at hrecorded
      rw [List.map_cons, hrecorded, List.length_cons, List.range_succ_eq_map, List.map_cons,
        List.map_map]
      refine congrArg₂ List.cons (by simp) (List.map_congr_left fun n _ => ?_)
      simp only [Function.comp]
      omega
    · intro row hm
      rcases List.mem_cons.mp hm with rfl | hm
      · exact ⟨rfl, rfl⟩
      · exact hstarted row hm

theorem dispatchWorkOrder_effect :
    HasEffect env db (dispatchWorkOrder env db code payload actor) := by
  refine idempotent_effect fun outcome h => ?_
  obtain ⟨⟨workOrderId, workOrder⟩, -, h⟩ := of_bind h
  replace h := of_then h
  obtain ⟨⟨linkId, link⟩, first, h⟩ := of_bind h
  obtain ⟨order, found, h⟩ := of_bind h
  obtain ⟨_, released, h⟩ := of_bind h
  obtain ⟨_, fresh, h⟩ := of_bind h
  obtain ⟨_, nonempty, h⟩ := of_bind h
  obtain ⟨dispatched, loop, h⟩ := of_bind h
  obtain ⟨_, -, h⟩ := of_bind h
  cases h
  obtain ⟨attached, of⟩ := Table.first?_spec (orFault_eq_ok.mp first)
  obtain rfl : link.workOrderId = workOrderId := by simpa using of
  obtain ⟨tasks, assignments, history, rfl, hlength, howned, hplanned, -, hnodup, hassigned,
    hrecorded, hstarted⟩ := dispatchOperations_ok loop
  refine .dispatched attached (orFault_eq_ok.mp found) (check_eq_ok.mp released)
    (Table.free_iff_any.mpr (check_eq_ok.mp fresh)) ⟨rfl, rfl, rfl⟩ ?_
    ⟨howned, hplanned, hnodup, hassigned, hrecorded, hstarted⟩
  rintro rfl
  simp only [List.length_nil, List.length_insertionSort] at hlength
  exact check_eq_ok.mp nonempty (List.length_eq_zero_iff.mp hlength.symm)

theorem closeWorkOrder_effect :
    HasEffect env db (closeWorkOrder env db code payload actor) := by
  refine idempotent_effect fun outcome h => ?_
  obtain ⟨_, -, h⟩ := of_bind h
  obtain ⟨⟨executionId, execution⟩, first, h⟩ := of_bind h
  obtain ⟨_, completed, h⟩ := of_bind h
  obtain ⟨_, none_open, h⟩ := of_bind h
  obtain ⟨executions, updated, h⟩ := of_bind h
  obtain ⟨_, -, h⟩ := of_bind h
  cases h
  obtain ⟨row, foundRow, -, rfl⟩ := Table.updateOne_eq_ok.mp updated
  refine .executionClosed (Table.first?_spec (orFault_eq_ok.mp first)).1 (check_eq_ok.mp completed)
    ?_ rfl ?_
  · intro id task found of
    have := Table.count_eq_zero_iff.mp (check_eq_ok.mp none_open) id task found
    simpa [OperationTask.isOf, of] using this
  · obtain rfl := Option.some.inj
      ((Table.first?_spec (orFault_eq_ok.mp first)).1.symm.trans foundRow)
    exact ⟨rfl, rfl⟩

theorem closeProductionOrder_effect :
    HasEffect env db (closeProductionOrder env db code payload actor) := by
  refine idempotent_effect fun outcome h => ?_
  obtain ⟨⟨orderId, order⟩, first, h⟩ := of_bind h
  obtain ⟨_, completed, h⟩ := of_bind h
  obtain ⟨_, closed, h⟩ := of_bind h
  obtain ⟨productionOrders, updated, h⟩ := of_bind h
  obtain ⟨_, -, h⟩ := of_bind h
  cases h
  have found := (Table.first?_spec (orFault_eq_ok.mp first)).1
  obtain ⟨row, foundRow, -, rfl⟩ := Table.updateOne_eq_ok.mp updated
  obtain rfl := Option.some.inj (found.symm.trans foundRow)
  exact .orderClosed found (check_eq_ok.mp completed)
    (List.countP_eq_length.mp (check_eq_ok.mp closed).2.symm) rfl rfl

theorem perform_effect {operation : ExecutionOperation} :
    HasEffect env db (operation.perform env actor db) := by
  cases operation with
  | createProductionOrder => exact createProductionOrder_effect
  | attachWorkOrder => exact attachWorkOrder_effect
  | releaseProductionOrder => exact releaseProductionOrder_effect
  | dispatchWorkOrder => exact dispatchWorkOrder_effect
  | startSetup => exact startSetup_effect
  | completeSetup => exact completeSetup_effect
  | startTask => exact startTask_effect
  | pauseTask => exact pauseTask_effect
  | resumeTask => exact resumeTask_effect
  | holdTask => exact holdTask_effect
  | releaseHold => exact releaseHold_effect
  | reportQuantity => exact reportQuantity_effect
  | completeTask => exact completeTask_effect
  | startDowntime => exact startDowntime_effect
  | endDowntime => exact endDowntime_effect
  | closeTask => exact closeTask_effect
  | closeWorkOrder => exact closeWorkOrder_effect
  | closeProductionOrder => exact closeProductionOrder_effect

section RollUp

open Relational Serial

variable {env : ExecutionEnv} {facts mid facts' : ExecutionFacts} {task : OperationTask}
  {toStatus : TaskStatus}

def completedExecutions (env : ExecutionEnv) (facts : ExecutionFacts) (executionId : Nat) :
    Table WorkOrderExecution :=
  facts.executions.updateAt executionId
    (fun row => row.status = .released || row.status = .dispatched || row.status = .inProgress)
    fun row => { row with status := .completed, completedAt := some env.now }

def completedOrders (env : ExecutionEnv) (facts : ExecutionFacts) (orderId : Nat) :
    Table ProductionOrder :=
  facts.productionOrders.updateAt orderId (·.status = .inProgress)
    fun row => { row with status := .completed, completedAt := some env.now }

def AllDone (facts : ExecutionFacts) (executionId : Nat) : Prop :=
  ∀ id task, facts.tasks.find? id = some task → task.workOrderExecutionId = executionId →
    task.status.done = true

/-- Every row of the links of an order is joined with a finished execution. -/
def AllExecuted (facts : ExecutionFacts) (orderId : Nat) : Prop :=
  ∀ row ∈ linkedExecutions facts orderId, row.any (·.status.done) = true

theorem updateCompletionAggregates_ok (h : updateCompletionAggregates env facts task = .ok facts') :
    ¬AllDone facts task.workOrderExecutionId ∧ facts' = facts ∨
      AllDone facts task.workOrderExecutionId ∧
        ∃ execution executed, (completedExecutions env facts task.workOrderExecutionId).find?
            task.workOrderExecutionId = some execution ∧
          executed = { facts with
            executions := completedExecutions env facts task.workOrderExecutionId } ∧
          (AllExecuted executed execution.productionOrderId ∧ facts' = { executed with
              productionOrders := completedOrders env facts execution.productionOrderId } ∨
            ¬AllExecuted executed execution.productionOrderId ∧ facts' = executed) := by
  have hall : AllDone facts task.workOrderExecutionId ↔
      facts.tasks.count (fun other => other.isOf task.workOrderExecutionId && !other.status.done) =
        0 := by
    rw [Table.count_eq_zero_iff]
    refine forall₃_congr fun id other found => ?_
    simp [OperationTask.isOf]
  unfold updateCompletionAggregates at h
  by_cases hcount : facts.tasks.count
      (fun other => other.isOf task.workOrderExecutionId && !other.status.done) = 0
  · right
    rw [if_neg (by simpa using hcount)] at h
    obtain ⟨execution, found, h⟩ := of_bind h
    refine ⟨hall.mpr hcount, execution, _, orFault_eq_ok.mp found, rfl, ?_⟩
    dsimp only at h
    split at h
    next hrows =>
      exact .inl ⟨List.countP_eq_length.mp hrows.symm, (Except.ok.inj h).symm⟩
    next hrows =>
      exact .inr ⟨fun all => hrows (List.countP_eq_length.mpr all).symm, (Except.ok.inj h).symm⟩
  · rw [if_pos hcount] at h
    exact .inl ⟨fun all => hcount (hall.mp all), (Except.ok.inj h).symm⟩

theorem RollUp.frame (h : RollUp env task toStatus mid facts') :
    facts' = { mid with
      executions := facts'.executions, productionOrders := facts'.productionOrders } ∧
    facts'.executions.nextId = mid.executions.nextId := by
  cases h with
  | unchanged => exact ⟨rfl, rfl⟩
  | started => exact ⟨rfl, by simp⟩
  | completed _ aggregates =>
    rcases updateCompletionAggregates_ok aggregates with
      ⟨-, rfl⟩ | ⟨-, execution, executed, -, rfl, h⟩
    · exact ⟨rfl, rfl⟩
    · rcases h with ⟨-, rfl⟩ | ⟨-, rfl⟩
      · exact ⟨rfl, by simp [completedExecutions]⟩
      · exact ⟨rfl, by simp [completedExecutions]⟩

theorem RollUp.tasks (h : RollUp env task toStatus mid facts') : facts'.tasks = mid.tasks := by
  rw [h.frame.1]

theorem RollUp.reports (h : RollUp env task toStatus mid facts') :
    facts'.reports = mid.reports := by
  rw [h.frame.1]

theorem RollUp.assignments (h : RollUp env task toStatus mid facts') :
    facts'.assignments = mid.assignments := by
  rw [h.frame.1]

theorem RollUp.holds (h : RollUp env task toStatus mid facts') : facts'.holds = mid.holds := by
  rw [h.frame.1]

theorem RollUp.stores (h : RollUp env task toStatus mid facts') {taskId : Nat}
    {row : OperationTask} {life : Life} :
    facts'.Stores taskId row life ↔ mid.Stores taskId row life := by
  rw [h.frame.1]
  rfl

end RollUp

variable {taskId : Nat} {task : OperationTask} {life : Life}

structure Coupled (facts : ExecutionFacts) : Prop where
  alive : ∀ id task, facts.tasks.find? id = some task → ∃ life, facts.Stores id task life
  unborn : ∀ id task, facts.tasks.nextId ≤ id → task.status = .dispatched →
    facts.Stores id task (.active .dispatched)

theorem coupled_empty : Coupled .empty where
  alive := fun id task found => by simp [ExecutionFacts.empty] at found
  unborn := fun _ _ _ status =>
    ⟨status, Table.free_empty, Table.free_empty, Table.free_empty⟩

theorem coupled_preserved (effect : ExecutionEffect env facts facts') (h : Coupled facts) :
    Coupled facts' := by
  cases effect with
  | replayed | orderCreated | attached | orderReleased | reported | executionClosed
  | orderClosed => exact ⟨h.alive, h.unborn⟩
  | @dispatched linkId link order execution tasks _ _ _ _ _ _ _ _ materialized =>
    refine ⟨?_, ?_⟩
    · intro id task found
      rcases Table.of_find?_insertAll found with found | ⟨beyond, member⟩
      · exact h.alive id task found
      · exact ⟨_, h.unborn id task beyond (materialized.owned task member).2.2⟩
    · intro id task hle status
      rw [Table.nextId_insertAll] at hle
      exact h.unborn id task (by omega) status
  | moved found move _ _ rollUp =>
    refine ⟨?_, ?_⟩
    · intro id row hrow
      rw [rollUp.tasks] at hrow
      rcases Table.of_find?_set hrow with ⟨rfl, rfl⟩ | ⟨hne, hrow⟩
      · obtain ⟨life, stored⟩ := h.alive _ _ found
        obtain ⟨life', -, stored'⟩ := move.life_step env.now stored
        exact ⟨life', rollUp.stores.mpr stored'⟩
      · obtain ⟨life, stored⟩ := h.alive id row hrow
        exact ⟨life, rollUp.stores.mpr (move.frame hne stored)⟩
    · intro id row hle status
      rw [rollUp.tasks] at hle
      have hle : facts.tasks.nextId ≤ id := by simpa [ExecutionFacts.move] using hle
      have hlt := Table.lt_nextId_of_find? found
      exact rollUp.stores.mpr (move.frame (by omega) (h.unborn id row hle status))

def effectiveStatus (facts : ExecutionFacts) (taskId : Nat) (task : OperationTask) : TaskStatus :=
  if task.status = .held then
    match facts.holds.first? (·.isOpenOf taskId) with
    | some (_, hold) => hold.priorStatus
    | none => .held
  else task.status

theorem effectiveStatus_eq (h : facts.Stores taskId task life) :
    effectiveStatus facts taskId task = life.effective := by
  unfold effectiveStatus
  split
  next held =>
    obtain ⟨stage, rfl⟩ := Life.held_of_status (h.status.symm.trans held)
    obtain ⟨-, id, hold, sole, prior⟩ := h.holds
    rw [sole.first?]
    exact prior
  next active =>
    rw [h.status, Life.effective_of_active (by rw [← h.status]; exact active)]

def setupStatus (facts : ExecutionFacts) (taskId : Nat) : Option SetupStatus :=
  (facts.setups.first? (·.isOf taskId)).map (·.2.status)

def expectedSetup : TaskStatus → Option SetupStatus
  | .dispatched => none
  | .setup => some .inProgress
  | _ => some .completed

/-- How a task and its holds, setups and downtimes belong together. -/
structure SideTablesCoupled (facts : ExecutionFacts) (taskId : Nat) (task : OperationTask) :
    Prop where
  held_iff : task.status = .held ↔ facts.holds.count (·.isOpenOf taskId) = 1 ∧
    ∀ id hold, facts.holds.find? id = some hold → hold.isOpenOf taskId = true →
      task.holdReturnStatus = some hold.priorStatus ∧
        hold.priorStatus ∈ [TaskStatus.dispatched, .setup, .ready, .running, .paused]
  setups_unique : facts.setups.count (·.isOf taskId) ≤ 1
  setup_absent_iff : setupStatus facts taskId = none ↔
    effectiveStatus facts taskId task = .dispatched
  setup_inProgress_iff : setupStatus facts taskId = some .inProgress ↔
    effectiveStatus facts taskId task = .setup
  setup_completed_iff : setupStatus facts taskId = some .completed ↔
    effectiveStatus facts taskId task ≠ .dispatched ∧ effectiveStatus facts taskId task ≠ .setup
  downtimes_unique : facts.downtimes.count (·.isOpenOf taskId) ≤ 1
  down_paused : 0 < facts.downtimes.count (·.isOpenOf taskId) →
    effectiveStatus facts taskId task = .paused
  running_up : task.status = .running → facts.downtimes.count (·.isOpenOf taskId) = 0

theorem Stage.status_mem (stage : Stage) :
    stage.status ∈ [TaskStatus.dispatched, .setup, .ready, .running, .paused] := by
  cases stage <;> simp [Stage.status]

theorem HoldsMatch.free {holds : Table OperationHold} {status : Option TaskStatus}
    (h : HoldsMatch holds taskId status life) (active : life.status ≠ .held) :
    holds.Free (·.isOpenOf taskId) := by
  cases life with
  | held stage => exact absurd rfl active
  | _ => exact h

theorem SetupsMatch.status {status : TaskStatus} (h : SetupsMatch facts.setups taskId status) :
    facts.setups.count (·.isOf taskId) ≤ 1 ∧
      setupStatus facts taskId = expectedSetup status := by
  cases status with
  | dispatched =>
    refine ⟨Nat.le_of_eq (Table.free_iff_count.mp h) |>.trans (Nat.zero_le 1), ?_⟩
    rw [setupStatus, Table.first?_eq_none_iff.mpr h]
    rfl
  | _ =>
    obtain ⟨id, setup, sole, value⟩ := h
    refine ⟨Nat.le_of_eq sole.count, ?_⟩
    rw [setupStatus, sole.first?]
    exact congrArg some value

theorem Life.paused_of_down (h : life.down = true) : life.effective = .paused := by
  cases life with
  | active stage | held stage =>
    cases stage <;> simp_all [Life.down, Stage.down, Life.effective, Stage.status]
  | _ => simp [Life.down] at h

theorem sideTablesCoupled_of_stores (h : facts.Stores taskId task life) :
    SideTablesCoupled facts taskId task := by
  have heff := effectiveStatus_eq h
  obtain ⟨hunique, hsetup⟩ := h.setups.status
  have hdown : facts.downtimes.count (·.isOpenOf taskId) = if life.down then 1 else 0 := by
    have hd := h.downtimes
    cases hl : life.down with
    | true =>
      rw [hl] at hd
      obtain ⟨id, downtime, sole⟩ := hd
      exact sole.count
    | false =>
      rw [hl] at hd
      exact Table.free_iff_count.mp hd
  refine ⟨⟨?_, ?_⟩, hunique, ?_, ?_, ?_, ?_, ?_, ?_⟩
  · intro held
    obtain ⟨stage, rfl⟩ := Life.held_of_status (h.status.symm.trans held)
    obtain ⟨hreturn, id, hold, sole, prior⟩ := h.holds
    refine ⟨sole.count, ?_⟩
    intro j row hj hopen
    obtain ⟨rfl, rfl⟩ := sole.eq hj hopen
    exact ⟨by rw [hreturn, prior], by rw [prior]; exact stage.status_mem⟩
  · rintro ⟨hone, -⟩
    by_contra active
    have := Table.free_iff_count.mp (h.holds.free (by rw [← h.status]; exact active))
    omega
  · rw [heff, hsetup]
    cases life.effective <;> simp [expectedSetup]
  · rw [heff, hsetup]
    cases life.effective <;> simp [expectedSetup]
  · rw [heff, hsetup]
    cases life.effective <;> simp [expectedSetup]
  · rw [hdown]
    split <;> omega
  · intro hpos
    rw [heff]
    refine Life.paused_of_down ?_
    by_contra hup
    simp [hup] at hdown
    omega
  · intro running
    have hl : life = .active .running :=
      Life.active_of_status .running (h.status.symm.trans running) (by simp)
    rw [hdown, hl]
    rfl

/-- The coupling of every task with its side tables. -/
def TasksCoupled (facts : ExecutionFacts) : Prop :=
  ∀ taskId task, facts.tasks.find? taskId = some task → SideTablesCoupled facts taskId task

theorem coupled_run (calls : List ExecutionCall) :
    Coupled (executionAuthority.run .empty calls).facts :=
  Authority.invariant (I := fun db : ExecutionTables => Coupled db.facts)
    (fun hi h => coupled_preserved (perform_effect _ _ h) hi) calls coupled_empty

/-- In every run a task and its setups, holds and downtimes say the same. -/
theorem tasksCoupled_run (calls : List ExecutionCall) :
    TasksCoupled (executionAuthority.run .empty calls).facts := by
  intro taskId task found
  obtain ⟨life, stored⟩ := (coupled_run calls).alive taskId task found
  exact sideTablesCoupled_of_stores stored

end MiniOgas
