import MiniOgas.IdempotentReplay
import MiniOgas.MachineInterlock

namespace MiniOgas

open Relational Serial

/-- The checks and side writes of an action on a task; `none` for the other operations. -/
def ExecutionOperation.prepare? : ExecutionOperation →
    Option (ExecutionEnv → String → ExecutionFacts → Except Fault StatusStep)
  | .startSetup taskId payload => some fun env actor facts =>
    prepareStartSetup env actor facts taskId payload
  | .completeSetup taskId payload => some fun env actor facts =>
    prepareCompleteSetup env actor facts taskId payload
  | .startTask taskId payload => some fun env _ facts => prepareStart env facts taskId payload
  | .pauseTask taskId payload => some fun _ _ facts => preparePause facts taskId payload
  | .resumeTask taskId payload => some fun env _ facts => prepareResume env facts taskId payload
  | .holdTask taskId payload => some fun env actor facts =>
    prepareHold env actor facts taskId payload
  | .releaseHold taskId payload => some fun env actor facts =>
    prepareRelease env actor facts taskId payload
  | .completeTask taskId payload => some fun _ _ facts => prepareComplete facts taskId payload
  | .startDowntime taskId payload => some fun env actor facts =>
    prepareStartDowntime env actor facts taskId payload
  | .endDowntime downtimeId payload => some fun env actor facts =>
    prepareEndDowntime env actor facts downtimeId payload
  | .closeTask taskId payload => some fun _ _ facts => prepareClose facts taskId payload
  | _ => none

/-- The same operation with another idempotency key. -/
def ExecutionOperation.withKey (key : Text 1 128) : ExecutionOperation → ExecutionOperation
  | .createProductionOrder payload => .createProductionOrder payload
  | .attachWorkOrder order workOrder payload =>
    .attachWorkOrder order workOrder { payload with idempotencyKey := key }
  | .releaseProductionOrder order payload =>
    .releaseProductionOrder order { payload with idempotencyKey := key }
  | .dispatchWorkOrder workOrder payload =>
    .dispatchWorkOrder workOrder { payload with idempotencyKey := key }
  | .startSetup taskId payload => .startSetup taskId { payload with idempotencyKey := key }
  | .completeSetup taskId payload => .completeSetup taskId { payload with idempotencyKey := key }
  | .startTask taskId payload => .startTask taskId { payload with idempotencyKey := key }
  | .pauseTask taskId payload => .pauseTask taskId { payload with idempotencyKey := key }
  | .resumeTask taskId payload => .resumeTask taskId { payload with idempotencyKey := key }
  | .holdTask taskId payload => .holdTask taskId { payload with idempotencyKey := key }
  | .releaseHold taskId payload => .releaseHold taskId { payload with idempotencyKey := key }
  | .reportQuantity taskId payload => .reportQuantity taskId payload
  | .completeTask taskId payload => .completeTask taskId { payload with idempotencyKey := key }
  | .startDowntime taskId payload => .startDowntime taskId { payload with idempotencyKey := key }
  | .endDowntime downtimeId payload =>
    .endDowntime downtimeId { payload with idempotencyKey := key }
  | .closeTask taskId payload => .closeTask taskId { payload with idempotencyKey := key }
  | .closeWorkOrder workOrder payload =>
    .closeWorkOrder workOrder { payload with idempotencyKey := key }
  | .closeProductionOrder order payload =>
    .closeProductionOrder order { payload with idempotencyKey := key }

/-- What the unique constraint of `operation_status_history` raises. -/
def historyConflict : Fault :=
  .database "duplicate key value violates unique constraint on operation_status_history"

def Outcome.forget (outcome : Outcome) : Outcome :=
  { outcome with facts := { outcome.facts with history := .empty } }

structure Concludes (finish : StatusStep → ExecutionFacts → ExecutionFacts → Except Fault Outcome) :
    Prop where
  forgets : ∀ step facts changed history,
    (finish step facts { changed with history }).map Outcome.forget =
      (finish step facts changed).map Outcome.forget
  raises : ∀ step facts changed, finish step facts changed ≠ .error historyConflict

variable {env : ExecutionEnv} {actor auditAction : String} {facts facts' : ExecutionFacts}
  {taskId : Nat} {task : OperationTask} {history : Table TaskHistory} {downtimeId : Nat}
  {step : StatusStep} {detail : Json} {payload : ExecutionActionIn} {key : Text 1 128}

theorem formatTask_ne : formatTask env facts taskId ≠ .error historyConflict := by
  unfold formatTask requireTask
  cases facts.tasks.find? taskId <;> intro h <;> cases h

theorem formatDowntime_ne :
    formatDowntime facts downtimeId ≠ .error historyConflict := by
  unfold formatDowntime
  cases facts.downtimes.find? downtimeId <;> intro h <;> cases h

theorem updateCompletionAggregates_ne :
    updateCompletionAggregates env facts task ≠ .error historyConflict := by
  unfold updateCompletionAggregates
  intro h
  dsimp only at h
  split at h
  next => cases h
  next =>
    generalize (facts.executions.updateAt _ _ _).find? _ = found at h
    cases found with
    | none => cases h
    | some execution =>
      simp only [orFault, bind, Except.bind] at h
      split at h <;> cases h

theorem updateCompletionAggregates_history :
    updateCompletionAggregates env { facts with history } task =
      (updateCompletionAggregates env facts task).map fun facts' => { facts' with history } := by
  unfold updateCompletionAggregates
  dsimp only
  split
  next => rfl
  next =>
    generalize (facts.executions.updateAt _ _ _).find? _ = found
    cases found with
    | none => rfl
    | some execution =>
      simp only [orFault, bind, Except.bind]
      rw [apply_ite (Except.map _)]
      rfl

theorem concludeTask_ne :
    concludeTask env auditAction detail step facts ≠ .error historyConflict := by
  intro h
  rcases bind_eq_error.mp h with h | ⟨_, -, h⟩
  · exact formatTask_ne h
  · cases h

theorem concludeTask_forgets (facts : ExecutionFacts) (history : Table TaskHistory) :
    (concludeTask env auditAction detail step { facts with history }).map Outcome.forget =
      (concludeTask env auditAction detail step facts).map Outcome.forget := by
  have same : formatTask env { facts with history } step.taskId =
      formatTask env facts step.taskId := rfl
  simp only [concludeTask, same]
  cases formatTask env facts step.taskId <;> rfl

theorem concludes_task (auditAction : String) (detail : StatusStep → Json) (env : ExecutionEnv) :
    Concludes fun step _ changed => concludeTask env auditAction (detail step) step changed :=
  ⟨fun _ _ => concludeTask_forgets, fun _ _ _ => concludeTask_ne⟩

structure Framed (env : ExecutionEnv) (actor : String) (operation : ExecutionOperation)
    (key : ActionKey) (prepare : ExecutionFacts → Except Fault StatusStep)
    (finish : StatusStep → ExecutionFacts → ExecutionFacts → Except Fault Outcome) : Prop where
  concludes : Concludes finish
  perform : ∀ k : Text 1 128, ∃ request, ∀ db, (operation.withKey k).perform env actor db =
    idempotent env db { key with idempotencyKey := k.value } request actor
      (StatusStep.body prepare env actor k finish)

theorem concludes_start (env : ExecutionEnv) :
    Concludes fun step _ changed => concludeStart env step changed :=
  ⟨fun step _ changed => concludeTask_forgets
    (changed.startExecution step.task.workOrderExecutionId), fun _ _ _ => concludeTask_ne⟩

theorem concludes_complete (env : ExecutionEnv) : Concludes (concludeComplete env) := by
  refine ⟨fun step facts changed history => ?_, fun step facts changed h => ?_⟩
  · simp only [concludeComplete, updateCompletionAggregates_history]
    cases updateCompletionAggregates env changed step.task with
    | ok rolledUp => exact concludeTask_forgets rolledUp history
    | error fault => rfl
  · rcases bind_eq_error.mp h with h | ⟨rolledUp, -, h⟩
    · exact updateCompletionAggregates_ne h
    · exact concludeTask_ne h

theorem concludeDowntime_ne :
    concludeDowntime downtimeId auditAction detail step facts ≠ .error historyConflict := by
  intro h
  rcases bind_eq_error.mp h with h | ⟨_, -, h⟩
  · exact formatDowntime_ne h
  · cases h

theorem concludeDowntime_forgets :
    (concludeDowntime downtimeId auditAction detail step { facts with history }).map
        Outcome.forget =
      (concludeDowntime downtimeId auditAction detail step facts).map Outcome.forget := by
  have same : formatDowntime { facts with history } downtimeId =
      formatDowntime facts downtimeId := rfl
  simp only [concludeDowntime, same]
  cases formatDowntime facts downtimeId <;> rfl

theorem concludes_downtime (downtimeId : ExecutionFacts → Nat) (auditAction : String)
    (detail : ExecutionFacts → Json) : Concludes fun step facts changed =>
      concludeDowntime (downtimeId facts) auditAction (detail facts) step changed :=
  ⟨fun _ _ _ _ => concludeDowntime_forgets, fun _ _ _ => concludeDowntime_ne⟩

theorem framed {operation : ExecutionOperation} {key : ActionKey} {request : Json}
    {prepare : ExecutionEnv → String → ExecutionFacts → Except Fault StatusStep}
    (h : operation.prepare? = some prepare) (named : operation.idempotency = some (key, request))
    (env : ExecutionEnv) (actor : String) :
    ∃ finish, Framed env actor operation key (prepare env actor) finish := by
  cases operation <;> cases h <;> cases named
  case startTask => exact ⟨_, concludes_start env, fun _ => ⟨_, fun _ => rfl⟩⟩
  case completeTask => exact ⟨_, concludes_complete env, fun _ => ⟨_, fun _ => rfl⟩⟩
  case startDowntime | endDowntime =>
    exact ⟨_, concludes_downtime _ _ _, fun _ => ⟨_, fun _ => by
      simp only [ExecutionOperation.withKey, ExecutionOperation.perform, startDowntime, endDowntime]
      rfl⟩⟩
  all_goals exact ⟨_, concludes_task _ _ env, fun _ => ⟨_, fun _ => by
    simp only [ExecutionOperation.withKey, ExecutionOperation.perform, startSetup, completeSetup,
      pauseTask, resumeTask, holdTask, releaseHold, closeTask]
    rfl⟩⟩

def outcomeOf (result : Except Fault (Json × ExecutionTables)) : Except Fault Unit :=
  result.map fun _ => ()

def ExecutionFacts.keyUsed (facts : ExecutionFacts) (taskId : Nat) (key : Text 1 128) : Bool :=
  facts.history.any fun row => row.operationTaskId = taskId && row.idempotencyKey = key.value

/-- The guarded update of `_change_task_status`, before its history is recorded. -/
def StatusStep.guarded (step : StatusStep) (env : ExecutionEnv) (facts : ExecutionFacts) :
    Except Fault ExecutionFacts := do
  let side := facts.sideTables step
  let old ← orFault ((side.tasks.find? step.taskId).filter (·.status = step.task.status))
    (executionError 409 "OPERATION_TRANSITION_CONFLICT"
      "operation task changed while the transition was being applied"
      [("task_id", .int step.taskId)])
  let new := step.change.apply env.now step.toStatus old
  guardOperationTransition side step.taskId old new
  guardOperationTaskMaintenance env side step.taskId old new
  return { side with tasks := side.tasks.set step.taskId new }

def StatusStep.row (step : StatusStep) (env : ExecutionEnv) (actor : String)
    (key : Text 1 128) : TaskHistory :=
  ⟨step.taskId, some step.task.status, step.toStatus, step.action, step.change.reason,
    step.change.evidenceReference, actor, env.now, key.value⟩

/-- An action that its checks and the guards of the database let through would record a key
that the status history of its task has already. -/
def KeyCollides (operation : ExecutionOperation) (key : Text 1 128) (env : ExecutionEnv)
    (actor : String) (facts : ExecutionFacts) : Prop :=
  ∃ prepare ∈ operation.prepare?, ∃ step changed, prepare env actor facts = .ok step ∧
    step.guarded env facts = .ok changed ∧ facts.keyUsed step.taskId key = true

variable {db : ExecutionTables} {changed : ExecutionFacts} {actionKey : ActionKey} {request : Json}
  {prepare : ExecutionFacts → Except Fault StatusStep}
  {finish : StatusStep → ExecutionFacts → ExecutionFacts → Except Fault Outcome}
  {body body' : ExecutionFacts → Except Fault Outcome}

theorem record_eq : step.record env actor key facts =
    (step.guarded env facts).bind fun changed =>
      recordHistory changed (step.row env actor key) := by
  simp only [StatusStep.record, changeTaskStatus, StatusStep.guarded]
  change _ = Bind.bind _ _
  simp only [bind_assoc, pure_bind]
  rfl

theorem guarded_history (h : step.guarded env facts = .ok changed) :
    changed.history = facts.history := by
  obtain ⟨old, -, h⟩ := of_bind h
  replace h := of_then (of_then h)
  cases h
  rfl

theorem body_eq (prepared : prepare facts = .ok step)
    (guarded : step.guarded env facts = .ok changed) :
    StatusStep.body prepare env actor key finish facts =
      if facts.keyUsed step.taskId key then .error historyConflict
      else finish step facts { changed with
        history := facts.history.insert (step.row env actor key) } := by
  have same := guarded_history guarded
  have conflicts : changed.history.any (fun other => other.operationTaskId = step.taskId &&
      other.idempotencyKey = key.value) = facts.keyUsed step.taskId key := by rw [same]; rfl
  unfold StatusStep.body
  rw [prepared]
  change (step.record env actor key facts).bind _ = _
  rw [record_eq, guarded]
  change ((check (changed.history.any (fun other => other.operationTaskId = step.taskId &&
    other.idempotencyKey = key.value) = false) historyConflict).bind fun _ => _).bind _ = _
  rw [conflicts, same]
  cases facts.keyUsed step.taskId key <;> rfl

theorem outcomeOf_audited_congr (same : (body db.facts).map Outcome.forget =
      (body' db.facts).map Outcome.forget) :
    outcomeOf (audited env db actor body) = outcomeOf (audited env db actor body') := by
  have audits : ∀ body : ExecutionFacts → Except Fault Outcome,
      outcomeOf (audited env db actor body) = ((body db.facts).map Outcome.forget).bind
        fun outcome => (audit env db.auditLogs actor outcome.auditAction outcome.auditResourceType
          outcome.auditResourceId outcome.auditDetail).map fun _ => () := by
    intro body
    unfold audited
    cases body db.facts with
    | error fault => rfl
    | ok outcome =>
      change outcomeOf ((audit env db.auditLogs actor outcome.auditAction _ _ _).bind _) =
        (audit env db.auditLogs actor outcome.auditAction outcome.auditResourceType
          outcome.auditResourceId outcome.auditDetail).map _
      cases audit env db.auditLogs actor outcome.auditAction outcome.auditResourceType
        outcome.auditResourceId outcome.auditDetail <;> rfl
  rw [audits, audits, same]

theorem outcomeOf_audited_ne (h : body db.facts ≠ .error historyConflict) :
    outcomeOf (audited env db actor body) ≠ .error historyConflict := by
  intro raised
  cases ran : body db.facts with
  | error fault =>
    simp only [audited, ran, bind, Except.bind, outcomeOf, Except.map, Except.error.injEq] at raised
    exact h (ran.trans (congrArg Except.error raised))
  | ok outcome =>
    simp only [audited, ran, audit, check, bind, Except.bind, outcomeOf] at raised
    by_cases accepted : env.auditAccepted ⟨"execution", actor, outcome.auditAction,
        outcome.auditResourceType, outcome.auditResourceId, canonicalJson outcome.auditDetail,
        env.now⟩ = true
    · rw [if_pos accepted] at raised
      cases raised
    · rw [if_neg accepted] at raised
      cases raised

theorem outcomeOf_idempotent (unused : db.idempotency.any (·.matchesKey actionKey) = false) :
    outcomeOf (idempotent env db actionKey request actor body) =
      outcomeOf (audited env db actor body) := by
  have missed : idempotentGet db.idempotency actionKey request = .ok none := by
    unfold idempotentGet
    rw [Table.first?_eq_none_iff.mpr (Table.any_eq_false_iff.mp unused)]
  unfold idempotent
  rw [missed]
  cases ran : audited env db actor body with
  | error fault => rfl
  | ok result =>
    have kept := audited_idempotency ran
    simp [idempotentStore, kept, unused, check, bind, Except.bind, outcomeOf, Except.map, pure,
      Except.pure]

/-- The action has not been called with its key before. -/
def ExecutionOperation.Unused (operation : ExecutionOperation) (db : ExecutionTables) : Prop :=
  ∀ actionKey request, operation.idempotency = some (actionKey, request) →
    db.idempotency.any (·.matchesKey actionKey) = false

def ExecutionTables.Fresh (db : ExecutionTables) (key : Text 1 128) : Prop :=
  db.idempotency.any (·.idempotencyKey = key.value) = false ∧
    db.facts.history.any (·.idempotencyKey = key.value) = false

theorem unused_of_fresh (h : db.Fresh key) (same : actionKey.idempotencyKey = key.value) :
    db.idempotency.any (·.matchesKey actionKey) = false := by
  refine Table.any_eq_false_iff.mpr fun id row found => ?_
  have := Table.any_eq_false_iff.mp h.1 id row found
  simp [IdempotencyRecord.matchesKey, same, this]

theorem keyUsed_of_fresh (h : db.Fresh key) (taskId : Nat) :
    db.facts.keyUsed taskId key = false := by
  refine Table.any_eq_false_iff.mpr fun id row found => ?_
  have := Table.any_eq_false_iff.mp h.2 id row found
  simp [this]

theorem idempotency_withKey {operation : ExecutionOperation}
    (h : operation.prepare?.isSome = true) : ∃ actionKey request,
      operation.idempotency = some (actionKey, request) ∧
      ∀ key : Text 1 128, ∃ request', (operation.withKey key).idempotency =
        some ({ actionKey with idempotencyKey := key.value }, request') := by
  cases operation with
  | createProductionOrder | attachWorkOrder | releaseProductionOrder | dispatchWorkOrder
  | reportQuantity | closeWorkOrder | closeProductionOrder => cases h
  | _ => exact ⟨_, _, rfl, fun _ => ⟨_, rfl⟩⟩

theorem body_forget (concludes : Concludes finish) {fresh : Text 1 128}
    (isFresh : ∀ taskId, facts.keyUsed taskId fresh = false)
    (free : ∀ step changed, prepare facts = .ok step → step.guarded env facts = .ok changed →
      facts.keyUsed step.taskId key = false) :
    (StatusStep.body prepare env actor key finish facts).map Outcome.forget =
      (StatusStep.body prepare env actor fresh finish facts).map Outcome.forget := by
  cases prepared : prepare facts with
  | error fault => simp only [StatusStep.body, prepared, bind, Except.bind]
  | ok step =>
    cases guarded : step.guarded env facts with
    | error fault =>
      simp only [StatusStep.body, prepared, record_eq, guarded, bind, Except.bind]
    | ok changed =>
      rw [body_eq prepared guarded, body_eq prepared guarded, free step changed prepared guarded,
        isFresh]
      exact (concludes.forgets step facts changed _).trans
        (concludes.forgets step facts changed _).symm

theorem body_ne (concludes : Concludes finish) {fresh : Text 1 128}
    (isFresh : ∀ taskId, facts.keyUsed taskId fresh = false)
    (prepared : prepare facts = .ok step) (guarded : step.guarded env facts = .ok changed) :
    StatusStep.body prepare env actor fresh finish facts ≠ .error historyConflict := by
  rw [body_eq prepared guarded, isFresh]
  exact concludes.raises _ _ _

/-- In every reachable state, an action on a task with a key that this action has not used has
the outcome that it has with a fresh key, unless the history of the task has the key. -/
theorem key_scoped_iff (calls : List ExecutionCall) (env : ExecutionEnv) (actor : String)
    (operation : ExecutionOperation) (key fresh : Text 1 128)
    (onTask : operation.prepare?.isSome = true)
    (unused : (operation.withKey key).Unused (executionAuthority.run .empty calls))
    (isFresh : (executionAuthority.run .empty calls).Fresh fresh) :
    outcomeOf (executionAuthority.attempt ⟨env, actor, operation.withKey key⟩
        (executionAuthority.run .empty calls)) =
      outcomeOf (executionAuthority.attempt ⟨env, actor, operation.withKey fresh⟩
        (executionAuthority.run .empty calls)) ↔
    ¬ KeyCollides operation key env actor (executionAuthority.run .empty calls).facts := by
  generalize executionAuthority.run .empty calls = db at unused isFresh ⊢
  obtain ⟨actionKey, request, named, renamed⟩ := idempotency_withKey onTask
  obtain ⟨prepare, prepares⟩ := Option.isSome_iff_exists.mp onTask
  obtain ⟨finish, frame⟩ := framed prepares named env actor
  have outcome : ∀ k : Text 1 128,
      db.idempotency.any (·.matchesKey { actionKey with idempotencyKey := k.value }) = false →
      outcomeOf (executionAuthority.attempt ⟨env, actor, operation.withKey k⟩ db) =
        outcomeOf
          (audited env db actor (StatusStep.body (prepare env actor) env actor k finish)) := by
    intro k free
    obtain ⟨_, performs⟩ := frame.perform k
    change outcomeOf ((operation.withKey k).perform env actor db) = _
    rw [performs, outcomeOf_idempotent free]
  obtain ⟨_, renames⟩ := renamed key
  rw [outcome key (unused _ _ renames), outcome fresh (unused_of_fresh isFresh rfl)]
  refine ⟨fun same collides => ?_, fun free => outcomeOf_audited_congr (body_forget frame.concludes
    (keyUsed_of_fresh isFresh) fun step changed prepared guarded => ?_)⟩
  · obtain ⟨_, prepares', step, changed, prepared, guarded, used⟩ := collides
    cases prepares.symm.trans prepares'
    have raised : outcomeOf (audited env db actor
        (StatusStep.body (prepare env actor) env actor key finish)) = .error historyConflict := by
      rw [audited, body_eq prepared guarded, used]
      rfl
    exact outcomeOf_audited_ne (body_ne frame.concludes (keyUsed_of_fresh isFresh) prepared
      guarded) (same.symm.trans raised)
  · by_contra used
    exact free ⟨prepare, prepares, step, changed, prepared, guarded, by simpa using used⟩

def sampleExecution (operation : ExecutionOperation) : ExecutionCall :=
  ⟨⟨0, sampleMaster, .empty, fun _ => true⟩, "planner", operation⟩

def sampleOrder : ExecutionCall :=
  sampleExecution (sampleProductionOrder 9)

def sampleAttach : ExecutionCall :=
  sampleExecution (.attachWorkOrder "PO-1" "WO-1" (sampleAction (sampleKey "K-1")))

def sampleDispatch : List ExecutionCall :=
  [sampleOrder, sampleAttach,
    sampleExecution (.releaseProductionOrder "PO-1" (sampleAction (sampleKey "K-2"))),
    sampleExecution (.dispatchWorkOrder "WO-1" (sampleAction (sampleKey "K-3")))]

def sampleRequest : Json := (sampleAction (sampleKey "K-1")).json

def sampleActionKey : ActionKey :=
  ⟨"production_order_work_order", "PO-1:WO-1", "attach", "K-1"⟩

/-- The work order is attached, the order is released, and the attachment is called again. -/
theorem replayed_run_attach : ∃ response db,
    executionAuthority.attempt sampleAttach (executionAuthority.run .empty [sampleOrder]) =
        .ok (response, db) ∧
      executionAuthority.attempt sampleAttach
          (executionAuthority.run db (sampleDispatch.drop 2)) =
        .ok (response, executionAuthority.run db (sampleDispatch.drop 2)) := by
  have succeeds : (executionAuthority.attempt sampleAttach
      (executionAuthority.run .empty [sampleOrder])).isOk = true := by
    decide +kernel
  obtain ⟨⟨response, db⟩, attempted⟩ := exists_ok succeeds
  have replayed := (replayed_run [sampleOrder] (sampleDispatch.drop 2) sampleAttach sampleAttach
    sampleActionKey sampleRequest sampleRequest response db rfl rfl attempted).1
  exact ⟨response, db, attempted, replayed.trans (if_pos rfl)⟩

/-- A key of another resource is as good as a fresh one. -/
theorem key_scoped_iff_release_key :
    outcomeOf (executionAuthority.attempt (sampleExecution (.startSetup 1
        (sampleAction (sampleKey "K-2"))))
        (executionAuthority.run .empty sampleDispatch)) =
      outcomeOf (executionAuthority.attempt (sampleExecution (.startSetup 1
        (sampleAction (sampleKey "K-9"))))
        (executionAuthority.run .empty sampleDispatch)) := by
  refine (key_scoped_iff sampleDispatch _ "planner" (.startSetup 1
    (sampleAction (sampleKey "K-9")))
    (sampleKey "K-2") (sampleKey "K-9")
    rfl ?_ ⟨by decide +kernel, by decide +kernel⟩).mpr ?_
  · rintro _ _ ⟨⟩
    decide +kernel
  · rintro ⟨_, ⟨⟩, step, changed, prepared, -, used⟩
    have unused : (executionAuthority.run .empty sampleDispatch).facts.history.any
        (·.idempotencyKey = (sampleKey "K-2").value) = false := by
      decide +kernel
    obtain ⟨id, row, found, matched⟩ := Table.any_iff.mp used
    have := Table.any_eq_false_iff.mp unused id row found
    simp_all

/-- The key of the dispatch is refused by the status history when the setup starts. -/
theorem history_refuses_dispatch_key : ¬ ∀ (calls : List ExecutionCall) (env : ExecutionEnv)
    (actor : String) (operation : ExecutionOperation) (key fresh : Text 1 128),
    operation.prepare?.isSome = true →
    (operation.withKey key).Unused (executionAuthority.run .empty calls) →
    (executionAuthority.run .empty calls).Fresh fresh →
    outcomeOf (executionAuthority.attempt ⟨env, actor, operation.withKey key⟩
        (executionAuthority.run .empty calls)) =
      outcomeOf (executionAuthority.attempt ⟨env, actor, operation.withKey fresh⟩
        (executionAuthority.run .empty calls)) := by
  intro h
  have same := h sampleDispatch ⟨0, sampleMaster, .empty, fun _ => true⟩ "planner" (.startSetup 1
    (sampleAction (sampleKey "K-9")))
    (sampleKey "K-3") (sampleKey "K-9")
    rfl (by rintro _ _ ⟨⟩; decide +kernel) ⟨by decide +kernel, by decide +kernel⟩
  have refused : (executionAuthority.attempt (sampleExecution (.startSetup 1
      (sampleAction (sampleKey "K-3"))))
      (executionAuthority.run .empty sampleDispatch)).isOk = false := by
    decide +kernel
  have accepted : (executionAuthority.attempt (sampleExecution (.startSetup 1
      (sampleAction (sampleKey "K-9"))))
      (executionAuthority.run .empty sampleDispatch)).isOk = true := by
    decide +kernel
  have agree := congrArg Except.isOk same
  have isOk : ∀ result, (outcomeOf result).isOk = result.isOk := by
    intro result
    cases result <;> rfl
  rw [isOk, isOk] at agree
  exact absurd (refused.symm.trans (agree.trans accepted)) (by decide)

end MiniOgas
