import MiniOgas.ExecutionAuthority

namespace MiniOgas

open Relational

inductive Stage where
  | dispatched
  | setup
  | ready
  | running
  | paused (down : Bool)

def Stage.status : Stage → TaskStatus
  | .dispatched => .dispatched
  | .setup => .setup
  | .ready => .ready
  | .running => .running
  | .paused _ => .paused

inductive Life where
  | active (stage : Stage)
  | held (stage : Stage)
  | completed
  | closed

def Life.status : Life → TaskStatus
  | .active stage => stage.status
  | .held _ => .held
  | .completed => .completed
  | .closed => .closed

def Life.effective : Life → TaskStatus
  | .active stage | .held stage => stage.status
  | .completed => .completed
  | .closed => .closed

def Stage.down : Stage → Bool
  | .paused down => down
  | _ => false

def Life.down : Life → Bool
  | .active stage | .held stage => stage.down
  | _ => false

inductive LifeStep : Life → Life → Prop
  | startSetup : LifeStep (.active .dispatched) (.active .setup)
  | completeSetup : LifeStep (.active .setup) (.active .ready)
  | start : LifeStep (.active .ready) (.active .running)
  | pause : LifeStep (.active .running) (.active (.paused false))
  | resume : LifeStep (.active (.paused false)) (.active .running)
  | startDowntime : LifeStep (.active .running) (.active (.paused true))
  | endDowntime : LifeStep (.active (.paused true)) (.active .running)
  | hold (stage : Stage) : LifeStep (.active stage) (.held stage)
  | release (stage : Stage) : LifeStep (.held stage) (.active stage)
  | complete : LifeStep (.active .running) .completed
  | close : LifeStep .completed .closed

theorem LifeStep.done {life life' : Life} (step : LifeStep life life')
    (h : life.status.done = true) : life'.status.done = true := by
  cases step with
  | close => rfl
  | hold stage => cases stage <;> simp [Life.status, Stage.status, TaskStatus.done] at h
  | _ => simp [Life.status, Stage.status, TaskStatus.done] at h

theorem LifeStep.effective_dispatched {life life' : Life} (step : LifeStep life life')
    (h : life.effective = .dispatched) :
    life'.effective = .dispatched ∨ life = .active .dispatched ∧ life' = .active .setup := by
  cases step with
  | startSetup => exact .inr ⟨rfl, rfl⟩
  | hold stage => exact .inl h
  | release stage => exact .inl h
  | _ => simp [Life.effective, Stage.status] at h

theorem Life.effective_of_active {life : Life} (h : life.status ≠ .held) :
    life.effective = life.status := by
  cases life <;> simp_all [Life.effective, Life.status]

theorem Stage.status_not_done (stage : Stage) : stage.status.done = false := by
  cases stage <;> rfl

theorem Stage.status_ne_held (stage : Stage) : stage.status ≠ .held := by
  cases stage <;> simp [Stage.status]

theorem Life.done_iff {life : Life} :
    life.status.done = true ↔ life = .completed ∨ life = .closed := by
  cases life with
  | active stage => simp [Life.status, stage.status_not_done]
  | held stage => simp [Life.status, TaskStatus.done]
  | completed => simp [Life.status, TaskStatus.done]
  | closed => simp [Life.status, TaskStatus.done]

def HoldsMatch (holds : Table OperationHold) (taskId : Nat) (holdReturnStatus : Option TaskStatus) :
    Life → Prop
  | .held stage => holdReturnStatus = some stage.status ∧
      ∃ id hold, holds.Sole (·.isOpenOf taskId) id hold ∧ hold.priorStatus = stage.status
  | _ => holds.Free (·.isOpenOf taskId)

def SetupsMatch (setups : Table OperationSetup) (taskId : Nat) : TaskStatus → Prop
  | .dispatched => setups.Free (·.isOf taskId)
  | .setup => ∃ id setup, setups.Sole (·.isOf taskId) id setup ∧ setup.status = .inProgress
  | _ => ∃ id setup, setups.Sole (·.isOf taskId) id setup ∧ setup.status = .completed

def DowntimesMatch (downtimes : Table OperationDowntime) (taskId : Nat) (down : Bool) : Prop :=
  if down then ∃ id downtime, downtimes.Sole (·.isOpenOf taskId) id downtime
  else downtimes.Free (·.isOpenOf taskId)

structure Represents (holds : Table OperationHold) (setups : Table OperationSetup)
    (downtimes : Table OperationDowntime) (taskId : Nat) (task : OperationTask) (life : Life) :
    Prop where
  status : task.status = life.status
  holds : HoldsMatch holds taskId task.holdReturnStatus life
  setups : SetupsMatch setups taskId life.effective
  downtimes : DowntimesMatch downtimes taskId life.down

def ExecutionFacts.Stores (facts : ExecutionFacts) (taskId : Nat) (task : OperationTask)
    (life : Life) : Prop :=
  Represents facts.holds facts.setups facts.downtimes taskId task life

section TaskMove

open Relational

/-- Every task before this one in its execution is completed or closed. -/
def PredecessorsDone (facts : ExecutionFacts) (task : OperationTask) : Prop :=
  ∀ id other, facts.tasks.find? id = some other →
    other.workOrderExecutionId = task.workOrderExecutionId → other.sequence < task.sequence →
    other.status.done = true

/-- A status change that touches neither the hold status nor the evidence. -/
def StatusChange.Plain (change : StatusChange) : Prop :=
  change.setCompleted = false ∧ change.holdReturnStatus = none ∧ change.clearHoldReturn = false

/-- What a status change of a task does to the task and its side tables. -/
inductive TaskMove (facts : ExecutionFacts) (taskId : Nat) (task : OperationTask) :
    TaskStatus → StatusChange → Table OperationHold → Table OperationSetup →
      Table OperationDowntime → Prop
  | startSetup {change setup} (status : task.status = .dispatched)
      (predecessors : PredecessorsDone facts task) (fresh : facts.setups.Free (·.isOf taskId))
      (of : setup.operationTaskId = taskId) (inProgress : setup.status = .inProgress)
      (plain : change.Plain) :
      TaskMove facts taskId task .setup change facts.holds (facts.setups.insert setup)
        facts.downtimes
  | completeSetup {change setupId setup setup'} (status : task.status = .setup)
      (found : facts.setups.find? setupId = some setup) (old : setup.isOf taskId = true)
      (of : setup'.operationTaskId = taskId) (completed : setup'.status = .completed)
      (plain : change.Plain) :
      TaskMove facts taskId task .ready change facts.holds (facts.setups.set setupId setup')
        facts.downtimes
  | start {change} (status : task.status = .ready) (plain : change.Plain) :
      TaskMove facts taskId task .running change facts.holds facts.setups facts.downtimes
  | pause {change} (status : task.status = .running) (plain : change.Plain) :
      TaskMove facts taskId task .paused change facts.holds facts.setups facts.downtimes
  | resume {change} (status : task.status = .paused)
      (up : facts.downtimes.Free (·.isOpenOf taskId)) (plain : change.Plain) :
      TaskMove facts taskId task .running change facts.holds facts.setups facts.downtimes
  | hold {change hold} (status : task.status.done = false) (active : task.status ≠ .held)
      (fresh : facts.holds.Free (·.isOpenOf taskId)) (opens : hold.isOpenOf taskId = true)
      (prior : hold.priorStatus = task.status)
      (change_eq : change.setCompleted = false ∧ change.holdReturnStatus = some task.status ∧
        change.clearHoldReturn = false) :
      TaskMove facts taskId task .held change (facts.holds.insert hold) facts.setups
        facts.downtimes
  | releaseHold {change holdId hold hold'} (status : task.status = .held)
      (found : facts.holds.find? holdId = some hold) (isOpen : hold.isOpenOf taskId = true)
      (released : hold'.status = .released)
      (change_eq : change.setCompleted = false ∧ change.clearHoldReturn = true) :
      TaskMove facts taskId task hold.priorStatus change (facts.holds.set holdId hold')
        facts.setups facts.downtimes
  | startDowntime {change downtime} (status : task.status = .running)
      (fresh : facts.downtimes.Free (·.isOpenOf taskId))
      (opens : downtime.isOpenOf taskId = true) (plain : change.Plain) :
      TaskMove facts taskId task .paused change facts.holds facts.setups
        (facts.downtimes.insert downtime)
  | endDowntime {change downtimeId downtime downtime'} (status : task.status = .paused)
      (found : facts.downtimes.find? downtimeId = some downtime)
      (isOpen : downtime.isOpenOf taskId = true) (closed : downtime'.status = .closed)
      (plain : change.Plain) :
      TaskMove facts taskId task .running change facts.holds facts.setups
        (facts.downtimes.set downtimeId downtime')
  | complete {change} (status : task.status = .running)
      (conserved : sameQuantity (facts.accounted taskId) task.plannedQuantity = true)
      (evidence : isBlank change.evidenceReference = false)
      (change_eq : change.setCompleted = true ∧ change.holdReturnStatus = none ∧
        change.clearHoldReturn = false) :
      TaskMove facts taskId task .completed change facts.holds facts.setups facts.downtimes
  | close {change} (status : task.status = .completed) (plain : change.Plain) :
      TaskMove facts taskId task .closed change facts.holds facts.setups facts.downtimes

variable {facts : ExecutionFacts} {taskId other : Nat} {task row : OperationTask}
  {toStatus : TaskStatus} {change : StatusChange} {holds : Table OperationHold}
  {setups : Table OperationSetup} {downtimes : Table OperationDowntime} {life : Life}
  {hold : OperationHold} {downtime : OperationDowntime} {setup : OperationSetup}
  {status : Option TaskStatus}

@[simp] theorem apply_status (now : Timestamp) :
    (change.apply now toStatus task).status = toStatus := rfl

@[simp] theorem apply_workOrderExecutionId (now : Timestamp) :
    (change.apply now toStatus task).workOrderExecutionId = task.workOrderExecutionId := rfl

@[simp] theorem apply_workOrderId (now : Timestamp) :
    (change.apply now toStatus task).workOrderId = task.workOrderId := rfl

@[simp] theorem apply_sequence (now : Timestamp) :
    (change.apply now toStatus task).sequence = task.sequence := rfl

@[simp] theorem apply_plannedQuantity (now : Timestamp) :
    (change.apply now toStatus task).plannedQuantity = task.plannedQuantity := rfl

theorem isOpenOf_ne_hold (h : hold.isOpenOf taskId = true) (ne : other ≠ taskId) :
    hold.isOpenOf other = false := by
  simp only [OperationHold.isOpenOf, Bool.and_eq_true, decide_eq_true_eq] at h
  simp [OperationHold.isOpenOf, h.1, Ne.symm ne]

theorem isOpenOf_ne_downtime (h : downtime.isOpenOf taskId = true) (ne : other ≠ taskId) :
    downtime.isOpenOf other = false := by
  simp only [OperationDowntime.isOpenOf, Bool.and_eq_true, decide_eq_true_eq] at h
  simp [OperationDowntime.isOpenOf, h.1, Ne.symm ne]

theorem isOf_ne_setup (h : setup.isOf taskId = true) (ne : other ≠ taskId) :
    setup.isOf other = false := by
  simp only [OperationSetup.isOf, decide_eq_true_eq] at h
  simp [OperationSetup.isOf, h, Ne.symm ne]

theorem isOpenOf_released (h : hold.status = .released) :
    hold.isOpenOf other = false := by
  simp [OperationHold.isOpenOf, h]

theorem isOpenOf_closed (h : downtime.status = .closed) :
    downtime.isOpenOf other = false := by
  simp [OperationDowntime.isOpenOf, h]

theorem HoldsMatch.insert_other (h : HoldsMatch holds other status life)
    (new : hold.isOpenOf other = false) :
    HoldsMatch (holds.insert hold) other status life := by
  cases life with
  | held stage =>
    obtain ⟨ret, id, old, sole, prior⟩ := h
    exact ⟨ret, id, old, sole.insert new, prior⟩
  | active stage => exact Table.Free.insert h new
  | completed => exact Table.Free.insert h new
  | closed => exact Table.Free.insert h new

theorem HoldsMatch.set_other {hold hold' : OperationHold} {holdId : Nat}
    (h : HoldsMatch holds other status life) (found : holds.find? holdId = some hold)
    (old : hold.isOpenOf other = false) (new : hold'.isOpenOf other = false) :
    HoldsMatch (holds.set holdId hold') other status life := by
  cases life with
  | held stage =>
    obtain ⟨ret, id, row, sole, prior⟩ := h
    exact ⟨ret, id, row, sole.set_outside found old new, prior⟩
  | active stage => exact Table.Free.set h new
  | completed => exact Table.Free.set h new
  | closed => exact Table.Free.set h new

theorem SetupsMatch.insert_other {status : TaskStatus} (h : SetupsMatch setups other status)
    (new : setup.isOf other = false) :
    SetupsMatch (setups.insert setup) other status := by
  cases status with
  | dispatched => exact Table.Free.insert h new
  | _ =>
    obtain ⟨id, old, sole, value⟩ := h
    exact ⟨id, old, sole.insert new, value⟩

theorem SetupsMatch.set_other {setup setup' : OperationSetup} {setupId : Nat} {status : TaskStatus}
    (h : SetupsMatch setups other status) (found : setups.find? setupId = some setup)
    (old : setup.isOf other = false) (new : setup'.isOf other = false) :
    SetupsMatch (setups.set setupId setup') other status := by
  cases status with
  | dispatched => exact Table.Free.set h new
  | _ =>
    obtain ⟨id, row, sole, value⟩ := h
    exact ⟨id, row, sole.set_outside found old new, value⟩

theorem DowntimesMatch.insert_other {down : Bool} (h : DowntimesMatch downtimes other down)
    (new : downtime.isOpenOf other = false) :
    DowntimesMatch (downtimes.insert downtime) other down := by
  cases down with
  | true =>
    obtain ⟨id, row, sole⟩ := h
    exact ⟨id, row, sole.insert new⟩
  | false => exact Table.Free.insert h new

theorem DowntimesMatch.set_other {downtime downtime' : OperationDowntime} {downtimeId : Nat}
    {down : Bool} (h : DowntimesMatch downtimes other down)
    (found : downtimes.find? downtimeId = some downtime) (old : downtime.isOpenOf other = false)
    (new : downtime'.isOpenOf other = false) :
    DowntimesMatch (downtimes.set downtimeId downtime') other down := by
  cases down with
  | true =>
    obtain ⟨id, row, sole⟩ := h
    exact ⟨id, row, sole.set_outside found old new⟩
  | false => exact Table.Free.set h new

theorem TaskMove.frame (move : TaskMove facts taskId task toStatus change holds setups downtimes)
    (ne : other ≠ taskId) (h : facts.Stores other row life) :
    Represents holds setups downtimes other row life := by
  obtain ⟨hstatus, hholds, hsetups, hdowntimes⟩ := h
  cases move with
  | startSetup _ _ _ of _ _ =>
    exact ⟨hstatus, hholds,
      hsetups.insert_other (isOf_ne_setup (by simp [OperationSetup.isOf, of]) ne),
      hdowntimes⟩
  | completeSetup _ found old of _ _ =>
    exact ⟨hstatus, hholds, hsetups.set_other found (isOf_ne_setup old ne)
      (isOf_ne_setup (by simp [OperationSetup.isOf, of]) ne), hdowntimes⟩
  | hold _ _ _ opens _ _ =>
    exact ⟨hstatus, hholds.insert_other (isOpenOf_ne_hold opens ne), hsetups, hdowntimes⟩
  | releaseHold _ found isOpen released _ =>
    exact ⟨hstatus, hholds.set_other found (isOpenOf_ne_hold isOpen ne)
      (isOpenOf_released released), hsetups, hdowntimes⟩
  | startDowntime _ _ opens _ =>
    exact ⟨hstatus, hholds, hsetups, hdowntimes.insert_other (isOpenOf_ne_downtime opens ne)⟩
  | endDowntime _ found isOpen closed _ =>
    exact ⟨hstatus, hholds, hsetups, hdowntimes.set_other found (isOpenOf_ne_downtime isOpen ne)
      (isOpenOf_closed closed)⟩
  | start | pause | resume | complete | close => exact ⟨hstatus, hholds, hsetups, hdowntimes⟩

end TaskMove

open Relational

variable {facts : ExecutionFacts} {taskId : Nat} {task : OperationTask} {toStatus : TaskStatus}
  {change : StatusChange} {holds : Table OperationHold} {setups : Table OperationSetup}
  {downtimes : Table OperationDowntime} {life : Life} {now : Timestamp}

theorem Life.active_of_status (stage : Stage) (h : life.status = stage.status)
    (unpaused : ∀ down, stage ≠ .paused down) : life = .active stage := by
  cases life with
  | active other =>
    cases other <;> cases stage <;> simp_all [Life.status, Stage.status]
  | held other => exact absurd h.symm stage.status_ne_held
  | completed | closed => cases stage <;> simp [Life.status, Stage.status] at h

theorem Life.paused_of_status (h : life.status = .paused) :
    ∃ down, life = .active (.paused down) := by
  cases life with
  | active stage => cases stage <;> simp_all [Life.status, Stage.status]
  | _ => simp [Life.status] at h

theorem Life.held_of_status (h : life.status = .held) : ∃ stage, life = .held stage := by
  cases life with
  | active stage => exact absurd h stage.status_ne_held
  | held stage => exact ⟨stage, rfl⟩
  | _ => simp [Life.status] at h

theorem HoldsMatch.open_hold {stage : Stage} {status : Option TaskStatus} {holdId : Nat}
    {hold : OperationHold} (h : HoldsMatch holds taskId status (.held stage))
    (found : holds.find? holdId = some hold) (isOpen : hold.isOpenOf taskId = true) :
    hold.priorStatus = stage.status ∧ holds.Sole (·.isOpenOf taskId) holdId hold := by
  obtain ⟨-, id, row, sole, prior⟩ := h
  obtain ⟨rfl, rfl⟩ := sole.eq found isOpen
  exact ⟨prior, sole⟩

theorem SetupsMatch.sole {status : TaskStatus} {setupId : Nat} {setup : OperationSetup}
    (h : SetupsMatch setups taskId status) (found : setups.find? setupId = some setup)
    (old : setup.isOf taskId = true) : setups.Sole (·.isOf taskId) setupId setup := by
  cases status with
  | dispatched =>
    have := h setupId setup found
    simp [old] at this
  | _ =>
    obtain ⟨id, row, sole, -⟩ := h
    obtain ⟨rfl, rfl⟩ := sole.eq found old
    exact sole

theorem TaskMove.life_step
    (move : TaskMove facts taskId task toStatus change holds setups downtimes) (now : Timestamp)
    (h : facts.Stores taskId task life) :
    ∃ life', LifeStep life life' ∧
      Represents holds setups downtimes taskId (change.apply now toStatus task) life' := by
  obtain ⟨hstatus, hholds, hsetups, hdowntimes⟩ := h
  cases move with
  | @startSetup _ setup status _ fresh of inProgress plain =>
    obtain rfl := Life.active_of_status .dispatched (hstatus.symm.trans status) (by simp)
    exact ⟨_, .startSetup, rfl, hholds,
      ⟨_, _, fresh.insert_sole (by simp [OperationSetup.isOf, of]), inProgress⟩, hdowntimes⟩
  | @completeSetup _ setupId setup setup' status found old of completed plain =>
    obtain rfl := Life.active_of_status .setup (hstatus.symm.trans status) (by simp)
    have sole := hsetups.sole found old
    exact ⟨_, .completeSetup, rfl, hholds,
      ⟨_, _, sole.set_sole (by simp [OperationSetup.isOf, of]), completed⟩, hdowntimes⟩
  | start status plain =>
    obtain rfl := Life.active_of_status .ready (hstatus.symm.trans status) (by simp)
    exact ⟨_, .start, rfl, hholds, hsetups, hdowntimes⟩
  | pause status plain =>
    obtain rfl := Life.active_of_status .running (hstatus.symm.trans status) (by simp)
    exact ⟨_, .pause, rfl, hholds, hsetups, hdowntimes⟩
  | resume status up plain =>
    obtain ⟨down, rfl⟩ := Life.paused_of_status (hstatus.symm.trans status)
    cases down with
    | true =>
      obtain ⟨id, row, sole⟩ := hdowntimes
      exact absurd up sole.not_free
    | false => exact ⟨_, .resume, rfl, hholds, hsetups, hdowntimes⟩
  | @hold _ hold done active fresh opens prior change_eq =>
    obtain ⟨-, hreturn, hclear⟩ := change_eq
    have hlife : ∃ stage, life = .active stage := by
      cases life with
      | active stage => exact ⟨stage, rfl⟩
      | held stage => exact absurd hstatus active
      | completed | closed => simp [hstatus, Life.status, TaskStatus.done] at done
    obtain ⟨stage, rfl⟩ := hlife
    exact ⟨_, .hold stage, rfl,
      ⟨by simp [StatusChange.apply, hreturn, hclear, hstatus, Life.status],
        _, _, fresh.insert_sole opens, prior.trans hstatus⟩, hsetups, hdowntimes⟩
  | @releaseHold _ holdId hold hold' status found isOpen released change_eq =>
    obtain ⟨stage, rfl⟩ := Life.held_of_status (hstatus.symm.trans status)
    obtain ⟨prior, sole⟩ := hholds.open_hold found isOpen
    exact ⟨_, .release stage, prior, sole.set_free (isOpenOf_released released), hsetups,
      hdowntimes⟩
  | @startDowntime _ downtime status fresh opens plain =>
    obtain rfl := Life.active_of_status .running (hstatus.symm.trans status) (by simp)
    exact ⟨_, .startDowntime, rfl, hholds, hsetups, _, _, fresh.insert_sole opens⟩
  | @endDowntime _ downtimeId downtime downtime' status found isOpen closed plain =>
    obtain ⟨down, rfl⟩ := Life.paused_of_status (hstatus.symm.trans status)
    cases down with
    | true =>
      obtain ⟨id, row, sole⟩ := hdowntimes
      obtain ⟨rfl, rfl⟩ := sole.eq found isOpen
      exact ⟨_, .endDowntime, rfl, hholds, hsetups, sole.set_free (isOpenOf_closed closed)⟩
    | false =>
      have := hdowntimes downtimeId downtime found
      simp [isOpen] at this
  | complete status _ _ change_eq =>
    obtain rfl := Life.active_of_status .running (hstatus.symm.trans status) (by simp)
    exact ⟨_, .complete, rfl, hholds, hsetups, hdowntimes⟩
  | close status plain =>
    have hlife : life = .completed := by
      rcases Life.done_iff.mp (by rw [← hstatus, status]; rfl) with rfl | rfl
      · rfl
      · simp [Life.status, status] at hstatus
    subst hlife
    exact ⟨_, .close, rfl, hholds, hsetups, hdowntimes⟩

open Serial

def ExecutionFacts.move (facts : ExecutionFacts) (taskId : Nat) (task : OperationTask)
    (holds : Table OperationHold) (setups : Table OperationSetup)
    (downtimes : Table OperationDowntime) (row : TaskHistory) : ExecutionFacts :=
  { facts with
    tasks := facts.tasks.set taskId task, holds, setups, downtimes
    history := facts.history.insert row }

inductive RollUp (env : ExecutionEnv) (task : OperationTask) (toStatus : TaskStatus)
    (mid : ExecutionFacts) : ExecutionFacts → Prop
  | unchanged (unfinished : toStatus ≠ .completed) : RollUp env task toStatus mid mid
  | started (running : toStatus = .running) :
      RollUp env task toStatus mid { mid with
        executions := mid.executions.updateAt task.workOrderExecutionId
          (fun row => row.status = .released || row.status = .dispatched)
          fun row => { row with status := .inProgress } }
  | completed {facts'} (completed : toStatus = .completed)
      (aggregates : updateCompletionAggregates env mid task = .ok facts') :
      RollUp env task toStatus mid facts'

structure Materialized (facts : ExecutionFacts) (workOrderId : Nat) (tasks : List OperationTask)
    (assignments : List TaskAssignment) (history : List TaskHistory) : Prop where
  owned : ∀ task ∈ tasks, task.workOrderExecutionId = facts.executions.nextId ∧
    task.workOrderId = workOrderId ∧ task.status = .dispatched
  planned : ∀ task ∈ tasks, 0 < task.plannedQuantity
  sequences : (tasks.map (·.sequence)).Nodup
  assigned : ∀ assignment ∈ assignments, facts.tasks.nextId ≤ assignment.operationTaskId
  recorded : history.map (·.operationTaskId) =
    (List.range tasks.length).map (facts.tasks.nextId + ·)
  started : ∀ row ∈ history, row.fromStatus = none ∧ row.toStatus = .dispatched

/-- Everything that a successful call can do to the facts. -/
inductive ExecutionEffect (env : ExecutionEnv) (facts : ExecutionFacts) : ExecutionFacts → Prop
  | replayed : ExecutionEffect env facts facts
  | orderCreated {order : ProductionOrder} (draft : order.status = .draft)
      (unreleased : order.releasedAt = none) :
      ExecutionEffect env facts
        { facts with productionOrders := facts.productionOrders.insert order }
  | attached {link : ProductionOrderLink} {order : ProductionOrder}
      (found : facts.productionOrders.find? link.productionOrderId = some order)
      (draft : order.status = .draft)
      (fresh : facts.links.Free (·.workOrderId = link.workOrderId)) :
      ExecutionEffect env facts { facts with links := facts.links.insert link }
  | orderReleased {orderId linkId : Nat} {link : ProductionOrderLink}
    {order order' : ProductionOrder}
      (found : facts.productionOrders.find? orderId = some order) (draft : order.status = .draft)
      (attached : facts.links.find? linkId = some link) (of : link.productionOrderId = orderId)
      (released : order'.status = .released) (stamped : order'.releasedAt.isSome = true) :
      ExecutionEffect env facts
        { facts with productionOrders := facts.productionOrders.set orderId order' }
  | dispatched {linkId : Nat} {link : ProductionOrderLink} {order : ProductionOrder}
      {execution : WorkOrderExecution} {tasks : List OperationTask}
      {assignments : List TaskAssignment} {history : List TaskHistory}
      (attached : facts.links.find? linkId = some link)
      (found : facts.productionOrders.find? link.productionOrderId = some order)
      (released : order.status = .released ∨ order.status = .inProgress)
      (fresh : facts.executions.Free (·.workOrderId = link.workOrderId))
      (of : execution.productionOrderId = link.productionOrderId ∧
        execution.workOrderId = link.workOrderId ∧ execution.status = .dispatched)
      (nonempty : tasks ≠ [])
      (materialized : Materialized facts link.workOrderId tasks assignments history) :
      ExecutionEffect env facts
        { facts with
          executions := facts.executions.insert execution
          tasks := facts.tasks.insertAll tasks
          assignments := facts.assignments.insertAll assignments
          history := facts.history.insertAll history
          productionOrders := facts.productionOrders.updateAt link.productionOrderId
            (·.status = .released) fun row => { row with status := .inProgress } }
  | moved {taskId : Nat} {task : OperationTask} {toStatus : TaskStatus} {change : StatusChange}
      {holds : Table OperationHold} {setups : Table OperationSetup}
      {downtimes : Table OperationDowntime} {row : TaskHistory} {facts' : ExecutionFacts}
      (found : facts.tasks.find? taskId = some task)
      (move : TaskMove facts taskId task toStatus change holds setups downtimes)
      (unblocked : toStatus = .running → task.status ≠ .running →
        maintenanceBlockers env facts taskId = [])
      (recorded : row.operationTaskId = taskId ∧ row.fromStatus = some task.status ∧
        row.toStatus = toStatus)
      (rollUp : RollUp env task toStatus
        (facts.move taskId (change.apply env.now toStatus task) holds setups downtimes row)
        facts') :
      ExecutionEffect env facts facts'
  | reported {report : QuantityReport} {task : OperationTask}
      (found : facts.tasks.find? report.operationTaskId = some task)
      (working : task.status = .running ∨ task.status = .paused)
      (bounded : facts.accounted report.operationTaskId + report.accounted ≤
        task.plannedQuantity + 1 / 1000000000) :
      ExecutionEffect env facts { facts with reports := facts.reports.insert report }
  | executionClosed {executionId : Nat} {execution execution' : WorkOrderExecution}
      (found : facts.executions.find? executionId = some execution)
      (completed : execution.status = .completed)
      (tasks : ∀ id task, facts.tasks.find? id = some task →
        task.workOrderExecutionId = executionId → task.status = .closed)
      (closed : execution'.status = .closed)
      (same : execution'.productionOrderId = execution.productionOrderId ∧
        execution'.workOrderId = execution.workOrderId) :
      ExecutionEffect env facts { facts with
        executions := facts.executions.set executionId execution' }
  | orderClosed {orderId : Nat} {order order' : ProductionOrder}
      (found : facts.productionOrders.find? orderId = some order)
      (completed : order.status = .completed)
      (executions : ∀ row ∈ linkedExecutions facts orderId,
        row.any (fun execution => decide (execution.status = .closed)) = true)
      (closed : order'.status = .closed) (stamped : order'.releasedAt = order.releasedAt) :
      ExecutionEffect env facts
        { facts with productionOrders := facts.productionOrders.set orderId order' }

variable {env : ExecutionEnv} {db db' : ExecutionTables} {facts' : ExecutionFacts}
  {action actor : String} {key : Text 1 128} {response : Json}

@[simp] theorem requireTask_eq_ok :
    requireTask facts taskId = .ok task ↔ facts.tasks.find? taskId = some task := by
  simp [requireTask]

@[simp] theorem requireTransition_eq_ok {allowed : List TaskStatus} {u : Unit} :
    requireTransition taskId task allowed action = .ok u ↔ task.status ∈ allowed := by
  simp [requireTransition]

theorem validatePredecessors_ok {u : Unit} (h : validatePredecessors facts task = .ok u) :
    PredecessorsDone facts task := by
  intro id other found same earlier
  unfold validatePredecessors blockingPredecessor at h
  split at h
  next hnone =>
    by_contra hdone
    have hm : (id, other) ∈ facts.tasks.select fun other =>
        other.isOf task.workOrderExecutionId && decide (other.sequence < task.sequence) &&
          !other.status.done :=
      Table.mem_select.mpr ⟨found, by simp [OperationTask.isOf, same, earlier, hdone]⟩
    have hs := (List.mem_insertionSort (fun x y => x.2.sequence ≤ y.2.sequence)).mpr hm
    rw [List.head?_eq_none_iff.mp hnone] at hs
    simp at hs
  next => cases h

theorem recordHistory_ok {row : TaskHistory} (h : recordHistory facts row = .ok facts') :
    facts' = { facts with history := facts.history.insert row } := by
  obtain ⟨-, -, h⟩ := of_bind h
  exact (Except.ok.inj h).symm

theorem changeTaskStatus_ok (found : facts.tasks.find? taskId = some task)
    (h : changeTaskStatus env { facts with holds, setups, downtimes } taskId task toStatus action
      actor key change = .ok facts') :
    ∃ row : TaskHistory, (row.operationTaskId = taskId ∧ row.fromStatus = some task.status ∧
        row.toStatus = toStatus) ∧
      (task.status = toStatus ∨ task.status.allows toStatus = true) ∧
      (toStatus = .running → task.status ≠ .running → maintenanceBlockers env facts taskId = []) ∧
      facts' = facts.move taskId (change.apply env.now toStatus task) holds setups downtimes
        row := by
  obtain ⟨old, hold, h⟩ := of_bind h
  have hold : task = old := by
    simpa [found, Option.filter] using orFault_eq_ok.mp hold
  subst hold
  obtain ⟨_, hguard, h⟩ := of_bind h
  obtain ⟨_, hallowed, -⟩ := of_bind hguard
  obtain ⟨_, hmaintenance, h⟩ := of_bind h
  obtain ⟨_, hblock, -⟩ := of_bind hmaintenance
  refine ⟨_, ⟨rfl, rfl, rfl⟩, check_eq_ok.mp hallowed, ?_, recordHistory_ok h⟩
  intro running still
  exact check_eq_ok.mp hblock ⟨running, still⟩

variable {step : StatusStep} {prepare : ExecutionFacts → Except Fault StatusStep}
  {finish : StatusStep → ExecutionFacts → ExecutionFacts → Except Fault Outcome}
  {body : ExecutionFacts → Except Fault Outcome} {payload : ExecutionActionIn} {request : Json}

theorem of_required {allowed : List TaskStatus} {α : Type}
    {body : OperationTask → Except Fault α} {a : α}
    (h : (do
      let task ← requireTask facts taskId
      requireTransition taskId task allowed action
      body task) = .ok a) :
    ∃ task, facts.tasks.find? taskId = some task ∧ task.status ∈ allowed ∧ body task = .ok a := by
  obtain ⟨task, found, h⟩ := of_bind h
  obtain ⟨_, status, h⟩ := of_bind h
  exact ⟨task, requireTask_eq_ok.mp found, requireTransition_eq_ok.mp status, h⟩

theorem concludeTask_facts {auditAction : String} {detail : Json} {outcome : Outcome}
    (h : concludeTask env auditAction detail step facts = .ok outcome) : outcome.facts = facts := by
  obtain ⟨_, -, h⟩ := of_bind h
  cases h
  rfl

theorem concludeDowntime_facts {downtimeId : Nat} {auditAction : String} {detail : Json}
    {outcome : Outcome}
    (h : concludeDowntime downtimeId auditAction detail step facts = .ok outcome) :
    outcome.facts = facts := by
  obtain ⟨_, -, h⟩ := of_bind h
  cases h
  rfl

/-- The checks of a step found its task, and its side writes are those of a move. -/
structure StatusStep.Prepared (step : StatusStep) (facts : ExecutionFacts) : Prop where
  found : facts.tasks.find? step.taskId = some step.task
  move : TaskMove facts step.taskId step.task step.toStatus step.change step.holds step.setups
    step.downtimes

/-- What holds of a call whenever it succeeds. -/
def HasEffect (env : ExecutionEnv) (db : ExecutionTables)
    (call : Except Fault (Json × ExecutionTables)) : Prop :=
  ∀ response db', call = .ok (response, db') → ExecutionEffect env db.facts db'.facts

theorem audited_effect
    (run : ∀ outcome, body db.facts = .ok outcome → ExecutionEffect env db.facts outcome.facts) :
    HasEffect env db (audited env db actor body) := by
  intro response db' h
  obtain ⟨outcome, hbody, hfacts⟩ := audited_facts h
  rw [← hfacts]
  exact run outcome hbody

theorem idempotent_effect {key : ActionKey}
    (run : ∀ outcome, body db.facts = .ok outcome → ExecutionEffect env db.facts outcome.facts) :
    HasEffect env db (idempotent env db key request actor body) := by
  intro response db' h
  rcases idempotent_facts h with rfl | ⟨outcome, hbody, hfacts⟩
  · exact .replayed
  · rw [← hfacts]
    exact run outcome hbody

theorem task_effect {key : ActionKey} {k : Text 1 128}
    (run : ∀ step, prepare db.facts = .ok step → step.Prepared db.facts ∧
      ∀ changed outcome,
        step.task.status = step.toStatus ∨ step.task.status.allows step.toStatus = true →
        finish step db.facts changed = .ok outcome →
        RollUp env step.task step.toStatus changed outcome.facts) :
    HasEffect env db
      (idempotent env db key request actor (StatusStep.body prepare env actor k finish)) := by
  refine idempotent_effect fun outcome h => ?_
  obtain ⟨step, prepared, h⟩ := of_bind h
  obtain ⟨changed, recorded, h⟩ := of_bind h
  obtain ⟨⟨found, move⟩, rollUp⟩ := run step prepared
  obtain ⟨row, said, allowed, unblocked, rfl⟩ := changeTaskStatus_ok found recorded
  exact .moved found move unblocked said (rollUp _ outcome allowed h)

theorem plain_effect {key : ActionKey} {k : Text 1 128}
    (plain : ∀ step changed outcome, finish step db.facts changed = .ok outcome →
      outcome.facts = changed)
    (run : ∀ step, prepare db.facts = .ok step → step.Prepared db.facts ∧
      (step.task.status = .held ∨ step.toStatus ≠ .completed)) :
    HasEffect env db
      (idempotent env db key request actor (StatusStep.body prepare env actor k finish)) := by
  refine task_effect fun step prepared =>
    ⟨(run step prepared).1, fun changed outcome allowed h => ?_⟩
  rw [plain step changed outcome h]
  refine .unchanged ?_
  rcases (run step prepared).2 with held | unfinished
  · intro completed
    simp [held, completed, TaskStatus.allows] at allowed
  · exact unfinished

theorem startSetup_effect :
    HasEffect env db (startSetup env db taskId payload actor) := by
  refine plain_effect (fun _ _ _ => concludeTask_facts) fun step h => ?_
  obtain ⟨task, found, status, h⟩ := of_required h
  obtain ⟨_, predecessors, h⟩ := of_bind h
  obtain ⟨_, fresh, h⟩ := of_bind h
  cases h
  have dispatched : task.status = .dispatched := by simpa using status
  exact ⟨⟨found, .startSetup dispatched (validatePredecessors_ok predecessors)
    (Table.free_iff_any.mpr (check_eq_ok.mp fresh)) rfl rfl ⟨rfl, rfl, rfl⟩⟩, .inr (by simp)⟩

theorem completeSetup_effect {payload : SetupCompleteIn} :
    HasEffect env db (completeSetup env db taskId payload actor) := by
  refine plain_effect (fun _ _ _ => concludeTask_facts) fun step h => ?_
  obtain ⟨task, found, status, h⟩ := of_required h
  obtain ⟨_, active, h⟩ := of_bind h
  obtain ⟨setupId, setup, sole⟩ := Table.sole_of_count (check_eq_ok.mp active)
  rw [sole.updateWhere_eq_set] at h
  cases h
  have old : setup.isOf taskId = true ∧ setup.status = .inProgress := by simpa using sole.2.1
  have inSetup : task.status = .setup := by simpa using status
  exact ⟨⟨found, .completeSetup inSetup sole.1 old.1
    (by simpa [OperationSetup.isOf] using old.1) rfl ⟨rfl, rfl, rfl⟩⟩, .inr (by simp)⟩

theorem startTask_effect :
    HasEffect env db (startTask env db taskId payload actor) := by
  refine task_effect fun step h => ?_
  obtain ⟨task, found, status, h⟩ := of_required h
  cases of_then h
  refine ⟨⟨found, .start (by simpa using status) ⟨rfl, rfl, rfl⟩⟩, fun changed outcome _ h => ?_⟩
  rw [concludeTask_facts h]
  exact .started rfl

theorem pauseTask_effect :
    HasEffect env db (pauseTask env db taskId payload actor) := by
  refine plain_effect (fun _ _ _ => concludeTask_facts) fun step h => ?_
  obtain ⟨task, found, status, h⟩ := of_required h
  cases h
  exact ⟨⟨found, .pause (by simpa using status) ⟨rfl, rfl, rfl⟩⟩, .inr (by simp)⟩

theorem resumeTask_effect :
    HasEffect env db (resumeTask env db taskId payload actor) := by
  refine plain_effect (fun _ _ _ => concludeTask_facts) fun step h => ?_
  obtain ⟨task, found, status, h⟩ := of_required h
  obtain ⟨_, up, h⟩ := of_bind h
  cases of_then h
  have paused : task.status = .paused := by simpa using status
  exact ⟨⟨found, .resume paused (Table.free_iff_any.mpr (check_eq_ok.mp up)) ⟨rfl, rfl, rfl⟩⟩,
    .inr (by simp)⟩

theorem holdTask_effect {payload : HoldActionIn} :
    HasEffect env db (holdTask env db taskId payload actor) := by
  refine plain_effect (fun _ _ _ => concludeTask_facts) fun step h => ?_
  obtain ⟨task, found, status, h⟩ := of_required h
  obtain ⟨_, fresh, h⟩ := of_bind h
  cases h
  exact ⟨⟨found, .hold (by cases hs : task.status <;> simp_all [TaskStatus.done])
    (by rintro (held : task.status = .held); simp [held] at status)
    (Table.free_iff_any.mpr (check_eq_ok.mp fresh)) (by simp [OperationHold.isOpenOf]) rfl
    ⟨rfl, rfl, rfl⟩⟩, .inr (by simp)⟩

theorem releaseHold_effect {payload : HoldActionIn} :
    HasEffect env db (releaseHold env db taskId payload actor) := by
  refine plain_effect (fun _ _ _ => concludeTask_facts) fun step h => ?_
  obtain ⟨task, found, status, h⟩ := of_required h
  obtain ⟨⟨holdId, hold⟩, last, h⟩ := of_bind h
  obtain ⟨foundHold, isOpen⟩ := Table.last?_spec (orFault_eq_ok.mp last)
  have opened : hold.operationTaskId = taskId ∧ hold.status = .open := by
    simpa [OperationHold.isOpenOf] using isOpen
  dsimp only at h
  rw [Table.updateAt_eq_set foundHold (by simp [opened.2])] at h
  cases h
  have held : task.status = .held := by simpa using status
  exact ⟨⟨found, .releaseHold held foundHold isOpen rfl ⟨rfl, rfl⟩⟩, .inl held⟩

theorem startDowntime_effect {payload : DowntimeStartIn} :
    HasEffect env db (startDowntime env db taskId payload actor) := by
  refine plain_effect (fun _ _ _ => concludeDowntime_facts) fun step h => ?_
  obtain ⟨task, found, status, h⟩ := of_required h
  obtain ⟨_, fresh, h⟩ := of_bind h
  cases h
  have free : db.facts.downtimes.Free (·.isOpenOf taskId) := by
    intro id row foundRow
    have := Table.any_eq_false_iff.mp (check_eq_ok.mp fresh) id row foundRow
    simp only [Bool.or_eq_false_iff] at this
    exact this.2
  exact ⟨⟨found, .startDowntime (by simpa using status) free
    (by simp [OperationDowntime.isOpenOf]) ⟨rfl, rfl, rfl⟩⟩, .inr (by simp)⟩

theorem endDowntime_effect {downtimeId : Nat} {payload : DowntimeEndIn} :
    HasEffect env db (endDowntime env db downtimeId payload actor) := by
  refine plain_effect (fun _ _ _ => concludeDowntime_facts) fun step h => ?_
  obtain ⟨downtime, foundDowntime, h⟩ := of_bind h
  obtain ⟨_, isOpen, h⟩ := of_bind h
  obtain ⟨task, found, status, h⟩ := of_required h
  obtain ⟨downtimes, updated, h⟩ := of_bind (of_then h)
  cases h
  obtain ⟨row, foundRow, -, rfl⟩ := Table.updateOne_eq_ok.mp updated
  have paused : task.status = .paused := by simpa using status
  exact ⟨⟨found, .endDowntime paused (orFault_eq_ok.mp foundDowntime)
    (by simp [OperationDowntime.isOpenOf, check_eq_ok.mp isOpen]) rfl ⟨rfl, rfl, rfl⟩⟩,
    .inr (by simp)⟩

theorem closeTask_effect :
    HasEffect env db (closeTask env db taskId payload actor) := by
  refine plain_effect (fun _ _ _ => concludeTask_facts) fun step h => ?_
  obtain ⟨task, found, status, h⟩ := of_required h
  cases h
  have completed : task.status = .completed := by simpa using status
  exact ⟨⟨found, .close completed ⟨rfl, rfl, rfl⟩⟩, .inr (by simp)⟩

theorem completeTask_effect {payload : CompleteTaskIn} :
    HasEffect env db (completeTask env db taskId payload actor) := by
  refine task_effect fun step h => ?_
  obtain ⟨task, found, status, h⟩ := of_required h
  obtain ⟨_, conserved, h⟩ := of_bind h
  obtain ⟨_, evidence, h⟩ := of_bind h
  cases h
  refine ⟨⟨found, .complete (by simpa using status) (check_eq_ok.mp conserved)
    (strip_not_blank (check_eq_ok.mp evidence)) ⟨rfl, rfl, rfl⟩⟩, fun changed outcome _ h => ?_⟩
  obtain ⟨rolledUp, aggregates, h⟩ := of_bind h
  rw [concludeTask_facts h]
  exact .completed rfl aggregates

theorem reportQuantity_effect {payload : QuantityReportIn} :
    HasEffect env db (reportQuantity env db taskId payload actor) := by
  intro response db' h
  obtain ⟨task, found, h⟩ := of_bind h
  cases existing : db.facts.reports.first? (·.reportId = payload.reportId.value) with
  | some entry =>
    rw [existing] at h
    replace h := of_then h
    cases h
    exact .replayed
  | none =>
    rw [existing] at h
    refine audited_effect (fun outcome h => ?_) _ _ h
    obtain ⟨_, status, h⟩ := of_bind h
    obtain ⟨_, bounded, h⟩ := of_bind h
    replace h := of_then (of_then h)
    cases h
    exact .reported (requireTask_eq_ok.mp found)
      (by simpa using requireTransition_eq_ok.mp status) (check_eq_ok.mp bounded)

end MiniOgas
