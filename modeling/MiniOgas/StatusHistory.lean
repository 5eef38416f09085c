import Mathlib.Data.List.Chain
import MiniOgas.ExecutionRun

namespace MiniOgas

section StatusHistory

open Relational Serial

/-- The rows of a task in `operation_status_history`, in the order of their identifiers. -/
def ExecutionFacts.historyOf (facts : ExecutionFacts) (taskId : Nat) : List TaskHistory :=
  facts.history.rows.filter (·.operationTaskId = taskId)

/-- A row follows another: it starts where the other one ends, and takes an edge of the
transition table. -/
def TaskHistory.follows (row next : TaskHistory) : Prop :=
  next.fromStatus = some row.toStatus ∧ row.toStatus.allows next.toStatus = true

structure Replays (rows : List TaskHistory) (status : TaskStatus) : Prop where
  first : ∃ row ∈ rows.head?, row.fromStatus = none ∧ row.toStatus = .dispatched
  linked : rows.IsChain TaskHistory.follows
  last : ∃ row ∈ rows.getLast?, row.toStatus = status

/-- The history of every task leads to its status. -/
def HistoryReplays (facts : ExecutionFacts) : Prop :=
  ∀ taskId task, facts.tasks.find? taskId = some task →
    Replays (facts.historyOf taskId) task.status

/-- Nothing is recorded of a task that is not there yet. -/
def HistoryUnborn (facts : ExecutionFacts) : Prop :=
  ∀ taskId, facts.tasks.nextId ≤ taskId → facts.historyOf taskId = []

variable {env : ExecutionEnv} {facts facts' : ExecutionFacts} {taskId : Nat} {task : OperationTask}
  {rows : List TaskHistory} {row : TaskHistory} {status : TaskStatus} {tasks : List OperationTask}
  {assignments : List TaskAssignment} {history : List TaskHistory}

theorem LifeStep.allows {life life' : Life} (step : LifeStep life life') :
    life.status.allows life'.status = true := by
  cases step with
  | hold stage | release stage => cases stage <;> rfl
  | _ => rfl

theorem historyOf_insert (facts : ExecutionFacts) (row : TaskHistory) (taskId : Nat) :
    ExecutionFacts.historyOf { facts with history := facts.history.insert row } taskId =
      facts.historyOf taskId ++ if row.operationTaskId = taskId then [row] else [] := by
  simp only [ExecutionFacts.historyOf, Table.insert, List.filter_append]
  by_cases h : row.operationTaskId = taskId <;> simp [h]

theorem Replays.append (h : Replays rows status) (source : row.fromStatus = some status)
    (edge : status.allows row.toStatus = true) : Replays (rows ++ [row]) row.toStatus := by
  obtain ⟨first, hfirst, start⟩ := h.first
  obtain ⟨last, hlast, reached⟩ := h.last
  refine ⟨⟨first, by simp [List.head?_append, Option.mem_def.mp hfirst], start⟩, ?_,
    ⟨row, by simp, rfl⟩⟩
  refine List.isChain_append.mpr ⟨h.linked, List.isChain_singleton row, ?_⟩
  intro x hx y hy
  obtain rfl := Option.some.inj ((Option.mem_def.mp hlast).symm.trans hx)
  obtain rfl := Option.some.inj hy
  exact ⟨by rw [reached]; exact source, by rw [reached]; exact edge⟩

theorem Materialized.filter {workOrderId : Nat}
    (h : Materialized facts workOrderId tasks assignments history) {i : Nat}
    (bound : i < tasks.length) :
    ∃ row ∈ history, history.filter (·.operationTaskId = facts.tasks.nextId + i) = [row] := by
  have distinct : (history.map (·.operationTaskId)).Nodup := by
    rw [h.recorded]
    exact List.nodup_range.map fun a b same => Nat.add_left_cancel same
  have listed : facts.tasks.nextId + i ∈ history.map (·.operationTaskId) := by
    rw [h.recorded]
    exact List.mem_map_of_mem (List.mem_range.mpr bound)
  obtain ⟨row, hrow, own⟩ := List.mem_map.mp listed
  exact ⟨row, hrow, by rw [← own]; exact filter_key distinct hrow⟩

theorem Materialized.filter_other {workOrderId : Nat}
    (h : Materialized facts workOrderId tasks assignments history)
    (other : taskId < facts.tasks.nextId ∨ facts.tasks.nextId + tasks.length ≤ taskId) :
    history.filter (·.operationTaskId = taskId) = [] := by
  refine List.filter_eq_nil_iff.mpr fun row hrow own => ?_
  have listed := List.mem_map_of_mem (f := (·.operationTaskId)) hrow
  rw [h.recorded, of_decide_eq_true own] at listed
  obtain ⟨i, hi, rfl⟩ := List.mem_map.mp listed
  have := List.mem_range.mp hi
  omega

structure HistoryInvariant (facts : ExecutionFacts) : Prop where
  replays : HistoryReplays facts
  unborn : HistoryUnborn facts

theorem historyInvariant_empty : HistoryInvariant .empty :=
  ⟨fun _ _ found => by simp [ExecutionFacts.empty] at found, fun _ _ => rfl⟩

theorem historyInvariant_preserved (effect : ExecutionEffect env facts facts')
    (coupled : Coupled facts) (h : HistoryInvariant facts) : HistoryInvariant facts' := by
  cases effect with
  | replayed | orderCreated | attached | orderReleased | reported | executionClosed
  | orderClosed => exact ⟨h.replays, h.unborn⟩
  | @dispatched linkId link order execution tasks assignments history attached found released fresh
      of nonempty materialized =>
    have split : ∀ taskId, ExecutionFacts.historyOf
        { facts with history := facts.history.insertAll history } taskId =
          facts.historyOf taskId ++ history.filter (·.operationTaskId = taskId) := fun taskId => by
      simp [ExecutionFacts.historyOf, Table.insertAll]
    refine ⟨?_, ?_⟩
    · intro taskId task found
      rw [Table.find?_insertAll] at found
      change Replays (ExecutionFacts.historyOf
        { facts with history := facts.history.insertAll history } taskId) _
      rw [split]
      split at found
      next old =>
        rw [materialized.filter_other (.inl old), List.append_nil]
        exact h.replays taskId task found
      next new =>
        have bound := (List.getElem?_eq_some_iff.mp found).1
        obtain ⟨row, hrow, only⟩ := materialized.filter bound
        rw [h.unborn taskId (by omega)]
        rw [Nat.add_sub_cancel' (by omega)] at only
        rw [only, (materialized.owned task (List.mem_of_getElem? found)).2.2]
        have started := materialized.started row hrow
        exact ⟨⟨row, rfl, started⟩, List.isChain_singleton row, ⟨row, rfl, started.2⟩⟩
    · intro taskId unborn
      rw [Table.nextId_insertAll] at unborn
      change ExecutionFacts.historyOf
        { facts with history := facts.history.insertAll history } taskId = []
      rw [split, h.unborn taskId (by omega), materialized.filter_other (.inr unborn)]
      rfl
  | @moved taskId task toStatus change holds setups downtimes row facts' found move unblocked
      recorded rollUp =>
    obtain ⟨own, source, target⟩ := recorded
    have split : ∀ other, facts'.historyOf other =
        facts.historyOf other ++ if taskId = other then [row] else [] := by
      intro other
      rw [← own, ← historyOf_insert facts row other, rollUp.frame.1]
      rfl
    have tasks := rollUp.tasks
    refine ⟨?_, ?_⟩
    · intro other task' found'
      rw [split]
      rw [tasks] at found'
      rcases Table.of_find?_set found' with ⟨rfl, rfl⟩ | ⟨other', old⟩
      · obtain ⟨life, stored⟩ := coupled.alive _ task found
        obtain ⟨life', step, stored'⟩ := move.life_step env.now stored
        have edge := step.allows
        rw [← stored.status, ← stored'.status] at edge
        rw [if_pos rfl, apply_status, ← target]
        rw [apply_status, ← target] at edge
        exact (h.replays _ task found).append source edge
      · rw [if_neg (Ne.symm other'), List.append_nil]
        exact h.replays other task' old
    · intro other unborn
      rw [tasks] at unborn
      have unborn : facts.tasks.nextId ≤ other := by simpa [ExecutionFacts.move] using unborn
      have born := Table.lt_nextId_of_find? found
      rw [split, if_neg (by omega), h.unborn other unborn]
      rfl

/-- In every run the history of a task replays, by allowed transitions, to its status. -/
theorem historyReplays_run (calls : List ExecutionCall) :
    HistoryReplays (executionAuthority.run .empty calls).facts := by
  have invariant : Coupled (executionAuthority.run .empty calls).facts ∧
      HistoryInvariant (executionAuthority.run .empty calls).facts :=
    Authority.invariant
      (I := fun db : ExecutionTables => Coupled db.facts ∧ HistoryInvariant db.facts)
      (fun hi h => ⟨coupled_preserved (perform_effect _ _ h) hi.1,
        historyInvariant_preserved (perform_effect _ _ h) hi.1 hi.2⟩)
      calls ⟨coupled_empty, historyInvariant_empty⟩
  exact invariant.2.replays

end StatusHistory

open Relational Serial

variable {env : ExecutionEnv} {facts facts' : ExecutionFacts}

/-- The tasks that are done stay done, and no report is added to them. -/
def Settled (facts facts' : ExecutionFacts) : Prop :=
  ∀ id task, facts.tasks.find? id = some task → task.status.done = true →
    (∃ task', facts'.tasks.find? id = some task' ∧ task'.status.done = true) ∧
      facts'.reportsOf id = facts.reportsOf id

theorem settled_refl (facts : ExecutionFacts) : Settled facts facts :=
  fun _ task found done => ⟨⟨task, found, done⟩, rfl⟩

theorem Settled.trans {a b c : ExecutionFacts} (hab : Settled a b) (hbc : Settled b c) :
    Settled a c := by
  intro id task found done
  obtain ⟨⟨task', found', done'⟩, same⟩ := hab id task found done
  obtain ⟨later, same'⟩ := hbc id task' found' done'
  exact ⟨later, same'.trans same⟩

theorem settled_of_kept (tasks : ∀ id task, facts.tasks.find? id = some task →
    task.status.done = true → ∃ task', facts'.tasks.find? id = some task' ∧
      task'.status.done = true) (reports : facts'.reports = facts.reports) :
    Settled facts facts' := by
  intro id task found done
  exact ⟨tasks id task found done, by rw [ExecutionFacts.reportsOf, reports]; rfl⟩

theorem settled_step (effect : ExecutionEffect env facts facts') (coupled : Coupled facts) :
    Settled facts facts' := by
  cases effect with
  | replayed | orderCreated | attached | orderReleased | executionClosed | orderClosed =>
    exact settled_of_kept (fun id task found done => ⟨task, found, done⟩) rfl
  | dispatched =>
    refine settled_of_kept (fun id task found done => ⟨task, ?_, done⟩) rfl
    rw [Table.find?_insertAll, if_pos (Table.lt_nextId_of_find? found), found]
  | @reported report task found working =>
    intro id other hother done
    refine ⟨⟨other, hother, done⟩, ?_⟩
    have elsewhere : report.isOf id = false := by
      simp only [QuantityReport.isOf, decide_eq_false_iff_not]
      rintro rfl
      obtain rfl := Option.some.inj (found.symm.trans hother)
      rcases working with running | paused
      · simp [running, TaskStatus.done] at done
      · simp [paused, TaskStatus.done] at done
    rw [reportsOf_insert, elsewhere]
    simp
  | @moved taskId task toStatus change _ _ _ _ _ found move _ _ rollUp =>
    refine settled_of_kept (fun id other hother done => ?_) rollUp.reports
    rw [rollUp.tasks]
    by_cases hid : id = taskId
    · subst hid
      obtain rfl := Option.some.inj (found.symm.trans hother)
      obtain ⟨life, stored⟩ := coupled.alive _ task found
      obtain ⟨life', step, stored'⟩ := move.life_step env.now stored
      have hstatus : toStatus = life'.status := stored'.status
      refine ⟨_, Table.find?_set_self _ found, ?_⟩
      change toStatus.done = true
      by_cases completed : life'.status = .completed
      · rw [hstatus, completed]
        rfl
      · rw [hstatus, step.done_iff completed, ← stored.status]
        exact done
    · exact ⟨other, by rw [← hother]; exact Table.find?_set_ne _ hid, done⟩

theorem settled_run (calls later : List ExecutionCall) :
    Settled (executionAuthority.run .empty calls).facts
      (executionAuthority.run .empty (calls ++ later)).facts := by
  rw [Authority.run_append]
  exact Authority.related (I := fun db : ExecutionTables => Coupled db.facts)
    (R := fun db db' : ExecutionTables => Settled db.facts db'.facts)
    (fun hi h => coupled_preserved (perform_effect _ _ h) hi) (fun db => settled_refl db.facts)
    Settled.trans (fun hi h => settled_step (perform_effect _ _ h) hi) later (coupled_run calls)

structure QuantityConserved (facts later : ExecutionFacts) (taskId : Nat)
    (task : OperationTask) : Prop where
  bounded : ((facts.reportsOf taskId).map QuantityReport.accounted).sum ≤
    task.plannedQuantity + 1 / 1000000000
  balanced : task.status = .completed ∨ task.status = .closed →
    |((facts.reportsOf taskId).map QuantityReport.accounted).sum - task.plannedQuantity| ≤
      1 / 1000000000
  evidenced : task.status = .completed ∨ task.status = .closed →
    ∃ evidence, task.completionEvidenceReference = some evidence ∧ isBlank evidence = false
  frozen : task.status = .completed ∨ task.status = .closed →
    later.reportsOf taskId = facts.reportsOf taskId

def QuantitiesConserved (facts later : ExecutionFacts) : Prop :=
  ∀ taskId task, facts.tasks.find? taskId = some task →
    QuantityConserved facts later taskId task

theorem TaskStatus.done_iff {status : TaskStatus} :
    status.done = true ↔ status = .completed ∨ status = .closed := by
  cases status <;> simp [TaskStatus.done]

theorem sameQuantity_iff {left right : Quantity} :
    sameQuantity left right = true ↔ |left - right| ≤ 1 / 1000000000 := by
  rw [sameQuantity, decide_eq_true_iff]
  simp only [round_exact]
  rw [abs_le, neg_le_sub_iff_le_add, sub_le_iff_le_add',
    sub_le_iff_le_add']
  rw [and_comm]

/-- In every run the quantities of a task stay within its plan, and those of a completed task add up
to it and stay as they are. -/
theorem quantitiesConserved_run (calls later : List ExecutionCall) :
    QuantitiesConserved (executionAuthority.run .empty calls).facts
      (executionAuthority.run .empty (calls ++ later)).facts := by
  intro taskId task found
  have conserved := (executionInvariant_run calls).conserved
  refine ⟨conserved.bounded taskId task found, ?_, ?_, ?_⟩
  · intro done
    exact sameQuantity_iff.mp
      (conserved.finished taskId task found (TaskStatus.done_iff.mpr done)).1
  · intro done
    exact (conserved.finished taskId task found (TaskStatus.done_iff.mpr done)).2
  · intro done
    exact (settled_run calls later taskId task found (TaskStatus.done_iff.mpr done)).2

/-- Each work order of a production order that is done has an execution whose tasks are done and
accounted for, and stay so. -/
def OrdersSettled (facts later : ExecutionFacts) : Prop :=
  ∀ id order linkId link, facts.productionOrders.find? id = some order →
    order.status.done = true → facts.links.find? linkId = some link →
    link.productionOrderId = id → ∃ executionId execution,
      facts.executions.find? executionId = some execution ∧
      execution.workOrderId = link.workOrderId ∧
      ∀ taskId task, facts.tasks.find? taskId = some task →
        task.workOrderExecutionId = executionId →
        |((facts.reportsOf taskId).map QuantityReport.accounted).sum - task.plannedQuantity| ≤
          1 / 1000000000 ∧ later.reportsOf taskId = facts.reportsOf taskId ∧
        ∃ task', later.tasks.find? taskId = some task' ∧ task'.status.done = true

end MiniOgas
