import Mathlib.Tactic.Linarith
import MiniOgas.CompletionRollUp

namespace MiniOgas

open Relational Serial

variable {env : ExecutionEnv} {facts facts' : ExecutionFacts} {taskId : Nat} {task : OperationTask}
  {toStatus : TaskStatus} {change : StatusChange} {holds : Table OperationHold}
  {setups : Table OperationSetup} {downtimes : Table OperationDowntime} {life : Life}

def ExecutionFacts.reportsOf (facts : ExecutionFacts) (taskId : Nat) : List QuantityReport :=
  facts.reports.rows.filter (·.isOf taskId)

/-- A finished task is fully accounted for and has its evidence. -/
def Finished (facts : ExecutionFacts) (taskId : Nat) (task : OperationTask) : Prop :=
  sameQuantity (facts.accounted taskId) task.plannedQuantity = true ∧
    ∃ evidence, task.completionEvidenceReference = some evidence ∧ isBlank evidence = false

structure Conserved (facts : ExecutionFacts) : Prop where
  referenced : ∀ id, facts.tasks.nextId ≤ id → facts.reports.any (·.isOf id) = false
  bounded : ∀ id task, facts.tasks.find? id = some task →
    facts.accounted id ≤ task.plannedQuantity + 1 / 1000000000
  finished : ∀ id task, facts.tasks.find? id = some task → task.status.done = true →
    Finished facts id task

theorem conserved_empty : Conserved .empty where
  referenced := fun _ _ => rfl
  bounded := fun _ _ found => by simp [ExecutionFacts.empty] at found
  finished := fun _ _ found => by simp [ExecutionFacts.empty] at found

theorem TaskMove.finishes (move : TaskMove facts taskId task toStatus change holds setups downtimes)
    (stored : facts.Stores taskId task life) (done : toStatus.done = true) :
    (sameQuantity (facts.accounted taskId) task.plannedQuantity = true ∧
        change.setCompleted = true ∧ isBlank change.evidenceReference = false) ∨
      task.status.done = true ∧ change.setCompleted = false := by
  cases move with
  | complete _ conserved evidence change_eq => exact .inl ⟨conserved, change_eq.1, evidence⟩
  | close status plain => exact .inr ⟨by rw [status]; rfl, plain.1⟩
  | releaseHold held found isOpen =>
    obtain ⟨stage, rfl⟩ := Life.held_of_status (stored.status.symm.trans held)
    rw [(stored.holds.open_hold found isOpen).1, stage.status_not_done] at done
    cases done
  | _ => cases done

theorem reportsOf_insert (facts : ExecutionFacts) (report : QuantityReport) (taskId : Nat) :
    ExecutionFacts.reportsOf { facts with reports := facts.reports.insert report } taskId =
      facts.reportsOf taskId ++ if report.isOf taskId then [report] else [] := by
  simp only [ExecutionFacts.reportsOf, Table.insert, List.filter_append]
  by_cases h : report.isOf taskId = true <;> simp [h]

theorem accounted_insert (facts : ExecutionFacts) (report : QuantityReport) (taskId : Nat) :
    ExecutionFacts.accounted { facts with reports := facts.reports.insert report } taskId =
      facts.accounted taskId + if report.isOf taskId then report.accounted else 0 :=
  Table.sum_insert _ _ _ _

theorem accounted_congr (h : facts'.reports = facts.reports) (taskId : Nat) :
    facts'.accounted taskId = facts.accounted taskId := by
  rw [ExecutionFacts.accounted, h]
  rfl

theorem conserved_reported {report : QuantityReport}
    (found : facts.tasks.find? report.operationTaskId = some task)
    (working : task.status = .running ∨ task.status = .paused)
    (within : facts.accounted report.operationTaskId + report.accounted ≤
      task.plannedQuantity + 1 / 1000000000) (h : Conserved facts) :
    Conserved { facts with reports := facts.reports.insert report } := by
  refine ⟨?_, ?_, ?_⟩
  · intro id hle
    have hle : facts.tasks.nextId ≤ id := hle
    have hlt := Table.lt_nextId_of_find? found
    have hne : report.isOf id = false := by
      simp only [QuantityReport.isOf, decide_eq_false_iff_not]
      omega
    have := h.referenced id hle
    simpa [Table.any, Table.insert, hne] using this
  · intro id row hrow
    rw [accounted_insert]
    split
    next hof =>
      obtain rfl : report.operationTaskId = id := by simpa [QuantityReport.isOf] using hof
      obtain rfl := Option.some.inj (found.symm.trans hrow)
      exact within
    next => simpa using h.bounded id row hrow
  · intro id row hrow done
    obtain ⟨conserved, evidence⟩ := h.finished id row hrow done
    refine ⟨?_, evidence⟩
    rw [accounted_insert]
    split
    next hof =>
      obtain rfl : report.operationTaskId = id := by simpa [QuantityReport.isOf] using hof
      obtain rfl := Option.some.inj (found.symm.trans hrow)
      rcases working with running | paused
      · simp [running, TaskStatus.done] at done
      · simp [paused, TaskStatus.done] at done
    next => simpa using conserved

theorem conserved_preserved (effect : ExecutionEffect env facts facts') (coupled : Coupled facts)
    (h : Conserved facts) : Conserved facts' := by
  cases effect with
  | replayed | orderCreated | attached | orderReleased | executionClosed | orderClosed =>
    exact { h with }
  | reported found working within => exact conserved_reported found working within h
  | @dispatched _ _ _ _ tasks _ _ _ _ _ _ _ _ materialized =>
    refine ⟨?_, ?_, ?_⟩
    · intro id hle
      rw [Table.nextId_insertAll] at hle
      exact h.referenced id (by omega)
    · intro id row hrow
      rcases Table.of_find?_insertAll hrow with hrow | ⟨beyond, member⟩
      · exact h.bounded id row hrow
      · have hpos := materialized.planned row member
        have hzero : facts.accounted id = 0 := Table.sum_eq_zero _ (h.referenced id beyond)
        change facts.accounted id ≤ _
        linarith
    · intro id row hrow done
      rcases Table.of_find?_insertAll hrow with hrow | ⟨-, member⟩
      · exact h.finished id row hrow done
      · have hstatus := (materialized.owned row member).2.2
        simp [hstatus, TaskStatus.done] at done
  | @moved taskId task toStatus change _ _ _ _ _ found move _ _ rollUp =>
    have haccounted : ∀ id, facts'.accounted id = facts.accounted id :=
      accounted_congr (rollUp.reports.trans rfl)
    refine ⟨?_, ?_, ?_⟩
    · intro id hle
      rw [rollUp.reports]
      refine h.referenced id ?_
      rw [rollUp.tasks] at hle
      simpa [ExecutionFacts.move] using hle
    · intro id row hrow
      rw [rollUp.tasks] at hrow
      rw [haccounted]
      rcases Table.of_find?_set hrow with ⟨rfl, rfl⟩ | ⟨-, old⟩
      · exact h.bounded _ task found
      · exact h.bounded id row old
    · intro id row hrow done
      rw [rollUp.tasks] at hrow
      unfold Finished
      rw [haccounted]
      rcases Table.of_find?_set hrow with ⟨rfl, rfl⟩ | ⟨-, old⟩
      · obtain ⟨life, stored⟩ := coupled.alive _ task found
        rcases move.finishes stored done with ⟨conserved, completes, evidence⟩ | ⟨olddone, keeps⟩
        · exact ⟨conserved, change.evidenceReference,
            by simp [StatusChange.apply, completes], evidence⟩
        · obtain ⟨conserved, evidence⟩ := h.finished _ task found olddone
          exact ⟨conserved, by simpa [StatusChange.apply, keeps] using evidence⟩
      · exact h.finished id row old done

variable {facts mid facts' : ExecutionFacts} {taskId : Nat}
  {task new : OperationTask} {life life' : Life} {old : WorkOrderExecution}

theorem LifeStep.done_iff (step : LifeStep life life') (unfinished : life'.status ≠ .completed) :
    life'.status.done = life.status.done := by
  cases step with
  | complete => exact absurd rfl unfinished
  | hold stage => exact stage.status_not_done.symm
  | release stage => exact stage.status_not_done
  | _ => rfl

theorem LifeStep.not_closed (step : LifeStep life life') : life.status ≠ .closed := by
  cases step with
  | hold stage => cases stage <;> simp [Life.status, Stage.status]
  | _ => simp [Life.status, Stage.status]

theorem LifeStep.completed (step : LifeStep life life') (h : life'.status = .completed) :
    life.status = .running := by
  cases step with
  | complete => rfl
  | release stage => cases stage <;> cases h
  | _ => cases h

theorem rolledUp_unfinished (found : facts.tasks.find? taskId = some task)
    (running : task.status = .running) (tasks : mid.tasks = facts.tasks.set taskId new)
    (same : new.workOrderExecutionId = task.workOrderExecutionId)
    (links : mid.links = facts.links) (executions : mid.executions = facts.executions)
    (orders : mid.productionOrders = facts.productionOrders)
    (unfinished : ¬AllDone mid task.workOrderExecutionId) (h : RolledUp facts) : RolledUp mid := by
  have evolves : Evolves facts mid :=
    ⟨links, fun id => by rw [executions], fun id => by rw [orders]⟩
  refine evolves.rolledUp h (by rw [executions, orders]; exact h.execution_order) ?_ ?_
    (by rw [orders]; exact h.unreleased) ?_ (by rw [executions, orders]; exact h.closed_executions)
  · intro id row hrow
    rw [executions] at hrow
    by_cases hid : id = task.workOrderExecutionId
    · subst hid
      refine iff_of_false (fun done => ?_) unfinished
      have := (h.execution_done _ row hrow).mp done taskId task found rfl
      simp [running, TaskStatus.done] at this
    · rw [h.execution_done id row hrow]
      exact (allDone_set found tasks same fun heq => absurd heq hid).symm
  · intro id row hrow hclosed tid t ht hof
    rw [executions] at hrow
    rw [tasks] at ht
    rcases Table.of_find?_set ht with ⟨rfl, rfl⟩ | ⟨-, old⟩
    · have := h.closed_tasks id row hrow hclosed _ task found (same.symm.trans hof)
      simp [running] at this
    · exact h.closed_tasks id row hrow hclosed tid t old hof
  · intro id order horder
    rw [orders] at horder
    rw [h.order_done id order horder]
    refine and_congr_right fun _ => Iff.symm ?_
    exact executed_congr links fun _ _ _ _ => WorkOrderDone.congr fun id => by rw [executions]

theorem RolledUp.order_inProgress (h : RolledUp facts) {executionId : Nat}
    (found : facts.executions.find? executionId = some old) (undone : old.status.done = false) :
    ∃ order, facts.productionOrders.find? old.productionOrderId = some order ∧
      order.status = .inProgress := by
  obtain ⟨linkId, link, attached, hwork, horder⟩ := h.execution_link executionId old found
  obtain ⟨order, foundO⟩ := Option.isSome_iff_exists.mp (h.link_order linkId link attached)
  rw [horder] at foundO
  have issued := h.execution_order executionId old order found foundO
  have notCancelled := (h.unreleased _ order foundO).2
  have notDone : order.status.done ≠ true := fun done => by
    obtain ⟨eid, e, he, hw, hd⟩ := ((h.order_done _ order foundO).mp done).2 linkId link attached
      horder
    obtain rfl := h.execution_unique eid executionId e old he found (hw.trans hwork)
    obtain rfl := Option.some.inj (he.symm.trans found)
    simp [undone] at hd
  cases hs : order.status <;> simp_all [ProductionOrderStatus.done]

theorem rolledUp_finished {executionId : Nat} {order : ProductionOrder}
    (execution : WorkOrderExecution) (order' : ProductionOrder) (evolves : Evolves facts facts')
    (found : facts.executions.find? executionId = some old) (undone : old.status.done = false)
    (same : execution.keys = old.keys) (completed : execution.status = .completed)
    (executions : facts'.executions = facts.executions.set executionId execution)
    (all : AllDone facts' executionId)
    (others : ∀ id, id ≠ executionId → (AllDone facts' id ↔ AllDone facts id))
    (closed : ∀ id, id ≠ executionId → ∀ taskId row, facts'.tasks.find? taskId = some row →
      row.workOrderExecutionId = id → facts.tasks.find? taskId = some row)
    (foundO : facts.productionOrders.find? old.productionOrderId = some order)
    (inProgress : order.status = .inProgress)
    (orders : Executed facts' old.productionOrderId ∧ order'.status = .completed ∧
        order'.releasedAt = order.releasedAt ∧ facts'.productionOrders =
          facts.productionOrders.set old.productionOrderId order' ∨
      ¬Executed facts' old.productionOrderId ∧
        facts'.productionOrders = facts.productionOrders) (h : RolledUp facts) :
    RolledUp facts' := by
  obtain ⟨sameOrder, sameWork⟩ := Prod.mk.inj same
  have splitE : ∀ id row, facts'.executions.find? id = some row →
      id = executionId ∧ row = execution ∨
        id ≠ executionId ∧ facts.executions.find? id = some row := by
    intro id row hrow
    rw [executions] at hrow
    exact Table.of_find?_set hrow
  have splitO : ∀ id row, facts'.productionOrders.find? id = some row →
      id = old.productionOrderId ∧ row.releasedAt = order.releasedAt ∧
          (row.status = .completed ∧ Executed facts' id ∨
            row.status = .inProgress ∧ ¬Executed facts' id) ∨
        id ≠ old.productionOrderId ∧ facts.productionOrders.find? id = some row := by
    intro id row hrow
    rcases orders with ⟨executed, hstatus, hstamp, hset⟩ | ⟨unexecuted, hsame⟩
    · rw [hset] at hrow
      rcases Table.of_find?_set hrow with ⟨rfl, rfl⟩ | ⟨hne, oldO⟩
      · exact .inl ⟨rfl, hstamp, .inl ⟨hstatus, executed⟩⟩
      · exact .inr ⟨hne, oldO⟩
    · rw [hsame] at hrow
      by_cases hid : id = old.productionOrderId
      · subst hid
        obtain rfl := Option.some.inj (foundO.symm.trans hrow)
        exact .inl ⟨rfl, rfl, .inr ⟨inProgress, unexecuted⟩⟩
      · exact .inr ⟨hid, hrow⟩
  refine evolves.rolledUp h ?_ ?_ ?_ ?_ ?_ ?_
  · intro id row other hrow hother
    rcases splitO _ other hother with ⟨-, -, ⟨hs, -⟩ | ⟨hs, -⟩⟩ | ⟨hne, oldO⟩
    · simp [hs]
    · simp [hs]
    · rcases splitE id row hrow with ⟨rfl, rfl⟩ | ⟨-, oldE⟩
      · exact absurd sameOrder hne
      · exact h.execution_order id row other oldE oldO
  · intro id row hrow
    rcases splitE id row hrow with ⟨rfl, rfl⟩ | ⟨hne, oldE⟩
    · exact iff_of_true (by rw [completed]; rfl) all
    · rw [others id hne]
      exact h.execution_done id row oldE
  · intro id row hrow hclosed tid t ht hof
    rcases splitE id row hrow with ⟨rfl, rfl⟩ | ⟨hne, oldE⟩
    · simp [completed] at hclosed
    · exact h.closed_tasks id row oldE hclosed tid t (closed id hne tid t ht hof) hof
  · intro id row hrow
    rcases splitO id row hrow with ⟨-, hstamp, hs⟩ | ⟨-, oldO⟩
    · rw [hstamp, (h.unreleased _ order foundO).1, inProgress]
      rcases hs with ⟨hs, -⟩ | ⟨hs, -⟩ <;> simp [hs]
    · exact h.unreleased id row oldO
  · intro id row hrow
    rcases splitO id row hrow with ⟨-, -, ⟨hs, executed⟩ | ⟨hs, unexecuted⟩⟩ | ⟨hne, oldO⟩
    · exact iff_of_true (by rw [hs]; rfl) ⟨by simp [hs], executed⟩
    · exact iff_of_false (by simp [hs, ProductionOrderStatus.done]) fun hx => unexecuted hx.2
    · rw [h.order_done id row oldO]
      refine and_congr_right fun _ => Iff.symm ?_
      refine executed_congr evolves.links fun linkId link attached of => ?_
      constructor
      · rintro ⟨eid, e, he, hwork, hdone⟩
        rcases splitE eid e he with ⟨rfl, rfl⟩ | ⟨-, oldE⟩
        · have := h.owner attached found (sameWork.symm.trans hwork)
          exact absurd (of.symm.trans this.symm) hne
        · exact ⟨eid, e, oldE, hwork, hdone⟩
      · rintro ⟨eid, e, he, hwork, hdone⟩
        by_cases hid : eid = executionId
        · subst hid
          obtain rfl := Option.some.inj (found.symm.trans he)
          simp [undone] at hdone
        · exact ⟨eid, e, by rw [executions, Table.find?_set_ne _ hid, he], hwork, hdone⟩
  · intro id row hrow hclosed eid e he hof
    rcases splitO id row hrow with ⟨-, -, ⟨hs, -⟩ | ⟨hs, -⟩⟩ | ⟨hne, oldO⟩
    · simp [hs] at hclosed
    · simp [hs] at hclosed
    · rcases splitE eid e he with ⟨rfl, rfl⟩ | ⟨-, oldE⟩
      · exact absurd (hof.symm.trans sameOrder) hne
      · exact h.closed_executions id row oldO hclosed eid e oldE hof

section ExecutionRun

open Relational Serial

variable {env : ExecutionEnv} {facts facts' : ExecutionFacts} {taskId : Nat}
  {task : OperationTask} {toStatus : TaskStatus} {change : StatusChange}
  {holds : Table OperationHold} {setups : Table OperationSetup}
  {downtimes : Table OperationDowntime} {row : TaskHistory}

theorem rolledUp_moved (coupled : Coupled facts)
    (found : facts.tasks.find? taskId = some task)
    (move : TaskMove facts taskId task toStatus change holds setups downtimes)
    (rollUp : RollUp env task toStatus
      (facts.move taskId (change.apply env.now toStatus task) holds setups downtimes row) facts')
    (h : RolledUp facts) : RolledUp facts' := by
  obtain ⟨life, stored⟩ := coupled.alive taskId task found
  obtain ⟨life', step, stored'⟩ := move.life_step env.now stored
  have hstatus : life'.status = toStatus := stored'.status.symm
  have unclosed : task.status ≠ .closed := by rw [stored.status]; exact step.not_closed
  have done : toStatus ≠ .completed → toStatus.done = task.status.done := by
    intro unfinished
    rw [stored.status, ← hstatus]
    exact step.done_iff (by rw [hstatus]; exact unfinished)
  cases rollUp with
  | unchanged unfinished =>
    exact rolledUp_kept (f := fun _ => id) found rfl rfl (done unfinished) unclosed rfl rfl
      (fun id => by simp [ExecutionFacts.move]) (fun _ _ => ⟨rfl, rfl, Iff.rfl⟩) h
  | started running =>
    refine rolledUp_kept found rfl rfl (done (by simp [running])) unclosed rfl rfl
      (Table.find?_updateAt _ _ _ _) (fun id execution => ?_) h
    split
    next hopen =>
      have hs : execution.status = .released ∨ execution.status = .dispatched := by
        simpa using hopen.2
      rcases hs with hs | hs <;> simp [WorkOrderExecution.keys, ExecutionStatus.done, hs]
    next => exact ⟨rfl, rfl, Iff.rfl⟩
  | completed completed aggregates =>
    have running : task.status = .running := by
      rw [stored.status]
      exact step.completed (hstatus.trans completed)
    rcases updateCompletionAggregates_ok aggregates with
      ⟨unfinished, rfl⟩ | ⟨all, execution, executed, foundE, rfl, result⟩
    · exact rolledUp_unfinished found running rfl rfl rfl rfl rfl unfinished h
    · obtain ⟨old, hold, hexecution⟩ :=
        Option.map_eq_some_iff.mp ((Table.find?_updateAt _ _ _ _ _).symm.trans foundE)
      have undone : old.status.done = false := by
        by_contra hdone
        have := (h.execution_done _ old hold).mp (by simpa using hdone) taskId task found rfl
        simp [running, TaskStatus.done] at this
      have opened : (old.status = .released || old.status = .dispatched ||
          old.status = .inProgress) = true := by
        cases hs : old.status <;> simp_all [ExecutionStatus.done]
      rw [if_pos ⟨rfl, opened⟩] at hexecution
      subst hexecution
      obtain ⟨order, foundO, inProgress⟩ := h.order_inProgress hold undone
      let finished : WorkOrderExecution :=
        { old with status := .completed, completedAt := some env.now }
      let closing : ProductionOrder :=
        { order with status := .completed, completedAt := some env.now }
      let mid := facts.move taskId (change.apply env.now toStatus task) holds setups downtimes row
      have hset : completedExecutions env mid task.workOrderExecutionId =
          facts.executions.set task.workOrderExecutionId finished :=
        Table.updateAt_eq_set hold opened
      have horders : completedOrders env mid old.productionOrderId =
          facts.productionOrders.set old.productionOrderId closing :=
        Table.updateAt_eq_set foundO (by simp [inProgress])
      rw [hset] at result
      rw [horders] at result
      have evolves : ∀ facts' : ExecutionFacts, facts'.links = facts.links →
          facts'.executions = facts.executions.set task.workOrderExecutionId finished →
          (∀ id, (facts'.productionOrders.find? id).isSome =
            (facts.productionOrders.find? id).isSome) → Evolves facts facts' :=
        fun _ hlinks hexecutions hsome =>
          evolves_setExecution finished hold rfl hexecutions hlinks hsome
      have unique := (evolves { mid with
        executions := facts.executions.set task.workOrderExecutionId finished } rfl rfl
        fun _ => rfl).unique h
      have others : ∀ id, id ≠ task.workOrderExecutionId → (AllDone mid id ↔ AllDone facts id) :=
        fun id hne => allDone_set found rfl rfl fun heq => absurd heq hne
      have elsewhere : ∀ id, id ≠ task.workOrderExecutionId → ∀ tid t,
          mid.tasks.find? tid = some t → t.workOrderExecutionId = id →
          facts.tasks.find? tid = some t := by
        intro id hne tid t ht hof
        rcases Table.of_find?_set ht with ⟨rfl, rfl⟩ | ⟨-, hold⟩
        · exact absurd hof.symm hne
        · exact hold
      rcases result with ⟨executed, rfl⟩ | ⟨unexecuted, rfl⟩
      · exact rolledUp_finished finished closing
          (evolves _ rfl rfl (Table.isSome_find?_set _ _ _)) hold undone rfl rfl rfl all others
          elsewhere foundO inProgress
          (.inl ⟨(allExecuted_iff unique).mp executed, rfl, rfl, rfl⟩) h
      · exact rolledUp_finished finished order (evolves _ rfl rfl fun _ => rfl) hold undone rfl
          rfl rfl all others elsewhere foundO inProgress
          (.inr ⟨fun hx => unexecuted ((allExecuted_iff unique).mpr hx), rfl⟩) h

theorem rolledUp_preserved (effect : ExecutionEffect env facts facts') (coupled : Coupled facts)
    (h : RolledUp facts) : RolledUp facts' := by
  cases effect with
  | replayed => exact h
  | reported =>
    exact { h with }
  | orderCreated draft unstamped => exact rolledUp_orderCreated draft unstamped h
  | attached found draft fresh => exact rolledUp_attached found draft fresh h
  | orderReleased found draft attached of released stamped =>
    exact rolledUp_orderReleased found draft attached of released stamped h
  | dispatched attached found released fresh of nonempty materialized =>
    exact rolledUp_dispatched attached found released fresh of nonempty materialized h rfl rfl rfl
      rfl
  | moved found move _ _ rollUp => exact rolledUp_moved coupled found move rollUp h
  | executionClosed found completed tasks closed same =>
    exact rolledUp_executionClosed found completed tasks closed same h
  | orderClosed found completed executions closed stamped =>
    exact rolledUp_orderClosed found completed executions closed stamped h

structure ExecutionInvariant (facts : ExecutionFacts) : Prop where
  coupled : Coupled facts
  routed : Routed facts
  conserved : Conserved facts
  rolledUp : RolledUp facts

theorem executionInvariant_preserved (effect : ExecutionEffect env facts facts')
    (h : ExecutionInvariant facts) : ExecutionInvariant facts' where
  coupled := coupled_preserved effect h.coupled
  routed := routed_preserved effect h.coupled h.routed
  conserved := conserved_preserved effect h.coupled h.conserved
  rolledUp := rolledUp_preserved effect h.coupled h.rolledUp

theorem executionInvariant_empty : ExecutionInvariant .empty :=
  ⟨coupled_empty, routed_empty, conserved_empty, rolledUp_empty⟩

theorem executionInvariant_run (calls : List ExecutionCall) :
    ExecutionInvariant (executionAuthority.run .empty calls).facts :=
  Authority.invariant (I := fun db : ExecutionTables => ExecutionInvariant db.facts)
    (fun hi h => executionInvariant_preserved (perform_effect _ _ h) hi) calls
    executionInvariant_empty

end ExecutionRun

def TaskStatus.active (status : TaskStatus) : Bool :=
  status ∈ [TaskStatus.setup, .ready, .running, .paused]

structure RoutingOrdered (facts : ExecutionFacts) : Prop where
  ordered : ∀ i j earlier later, facts.tasks.find? i = some earlier →
    facts.tasks.find? j = some later →
    earlier.workOrderExecutionId = later.workOrderExecutionId →
    earlier.sequence < later.sequence → effectiveStatus facts j later ≠ .dispatched →
    earlier.status = .completed ∨ earlier.status = .closed
  exclusive : ∀ i j a b, facts.tasks.find? i = some a → facts.tasks.find? j = some b →
    a.workOrderExecutionId = b.workOrderExecutionId →
    (effectiveStatus facts i a).active = true → (effectiveStatus facts j b).active = true → i = j

theorem effectiveStatus_of_done {taskId : Nat} {task : OperationTask}
    (done : task.status.done = true) : (effectiveStatus facts taskId task).active = false := by
  unfold effectiveStatus
  cases hs : task.status <;> simp_all [TaskStatus.done, TaskStatus.active]

theorem active_not_dispatched {status : TaskStatus} (active : status.active = true) :
    status ≠ .dispatched := by
  rintro rfl
  cases active

theorem Routed.exclusive (h : Routed facts) {i j : Nat} {a b : OperationTask}
    (hi : facts.tasks.find? i = some a) (hj : facts.tasks.find? j = some b)
    (same : a.workOrderExecutionId = b.workOrderExecutionId)
    (ha : (effectiveStatus facts i a).active = true)
    (hb : (effectiveStatus facts j b).active = true) : i = j := by
  rcases lt_trichotomy a.sequence b.sequence with hlt | heq | hgt
  · have done := h.ordered i j a b hi hj same hlt (active_not_dispatched hb)
    simp [effectiveStatus_of_done done] at ha
  · exact h.distinct i j a b hi hj same heq
  · have done := h.ordered j i b a hj hi same.symm hgt (active_not_dispatched ha)
    simp [effectiveStatus_of_done done] at hb

/-- In every run the operations of a work order go by their routing, one at a time. -/
theorem routingOrdered_run (calls : List ExecutionCall) :
    RoutingOrdered (executionAuthority.run .empty calls).facts := by
  have routed := (executionInvariant_run calls).routed
  refine ⟨?_, ?_⟩
  · intro i j earlier later hi hj same before started
    simpa [TaskStatus.done] using routed.ordered i j earlier later hi hj same before started
  · intro i j a b hi hj same
    exact routed.exclusive hi hj same

/-- The roll-up of tasks to executions and of executions to production orders. -/
structure OrdersRolledUp (facts : ExecutionFacts) : Prop where
  execution_done_iff : ∀ id execution, facts.executions.find? id = some execution →
    (execution.status = .completed ∨ execution.status = .closed ↔
      ∀ taskId task, facts.tasks.find? taskId = some task → task.workOrderExecutionId = id →
        task.status = .completed ∨ task.status = .closed)
  order_done_iff : ∀ id order, facts.productionOrders.find? id = some order →
    (order.status = .completed ∨ order.status = .closed ↔
      order.releasedAt.isSome = true ∧
      ∀ linkId link, facts.links.find? linkId = some link → link.productionOrderId = id →
        ∃ executionId execution, facts.executions.find? executionId = some execution ∧
          execution.workOrderId = link.workOrderId ∧
          (execution.status = .completed ∨ execution.status = .closed))
  closed_tasks : ∀ id execution, facts.executions.find? id = some execution →
    execution.status = .closed → ∀ taskId task, facts.tasks.find? taskId = some task →
    task.workOrderExecutionId = id → task.status = .closed
  closed_executions : ∀ id order, facts.productionOrders.find? id = some order →
    order.status = .closed → ∀ executionId execution,
    facts.executions.find? executionId = some execution →
    execution.productionOrderId = id → execution.status = .closed

/-- In every run an order is completed exactly when what it consists of is. -/
theorem ordersRolledUp_run (calls : List ExecutionCall) :
    OrdersRolledUp (executionAuthority.run .empty calls).facts := by
  have rolled := (executionInvariant_run calls).rolledUp
  refine ⟨?_, ?_, rolled.closed_tasks, rolled.closed_executions⟩
  · intro id execution found
    have := rolled.execution_done id execution found
    simpa [ExecutionStatus.done, TaskStatus.done, AllDone] using this
  · intro id order found
    have issued : order.releasedAt.isSome = true ↔ order.status ≠ .draft := by
      rw [Option.isSome_iff_ne_none, ne_eq, (rolled.unreleased id order found).1]
    have := rolled.order_done id order found
    rw [← issued] at this
    simpa [ProductionOrderStatus.done, Executed, WorkOrderDone, ExecutionStatus.done] using this

end MiniOgas
