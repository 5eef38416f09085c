import MiniOgas.CompletionProgress
import MiniOgas.DuplicateLaws

namespace MiniOgas

open Relational Serial Interleaving

def TaskRequest.operation : TaskRequest → ExecutionOperation
  | .startSetup taskId payload => .startSetup taskId payload
  | .completeSetup taskId payload => .completeSetup taskId payload
  | .startTask taskId payload => .startTask taskId payload
  | .pauseTask taskId payload => .pauseTask taskId payload
  | .resumeTask taskId payload => .resumeTask taskId payload
  | .holdTask taskId payload => .holdTask taskId payload
  | .releaseHold taskId payload => .releaseHold taskId payload
  | .completeTask taskId payload => .completeTask taskId payload
  | .startDowntime taskId payload => .startDowntime taskId payload
  | .endDowntime downtimeId payload => .endDowntime downtimeId payload
  | .closeTask taskId payload => .closeTask taskId payload

variable {env : ExecutionEnv} {actor : String} {db : ExecutionTables} {taskId : Nat} {α β γ : Type}
  {task : OperationTask} {t : Table α} {p : α → Bool}

theorem run_updateFacts
    (query : ExecutionFacts → Except Fault (α × List TaskLock × List FactWrite)) :
    (updateFacts query).run ExecutionTables.put db = query db.facts >>= fun result =>
      .ok (result.1, { db with facts := result.2.2.foldl ExecutionFacts.put db.facts }) := by
  rw [updateFacts, run_execute]
  cases query db.facts with
  | error fault => rfl
  | ok result =>
    exact congrArg (fun db => Except.ok (result.1, db)) (List.foldl_map.trans
      (List.foldl_hom (fun facts => { db with facts }) fun _ _ => rfl))

theorem run_selectFacts (query : ExecutionFacts → Except Fault α) :
    (selectFacts query).run ExecutionTables.put db =
      query db.facts >>= fun a => .ok (a, db) := by
  rw [selectFacts, Script.select, run_execute]
  cases query db.facts <;> rfl

theorem run_checkTransition {allowed : List TaskStatus} {action : String} :
    (checkTransition taskId task allowed action).run ExecutionTables.put db =
      requireTransition taskId task allowed action >>= fun _ => .ok ((), db) := by
  unfold checkTransition
  cases requireTransition taskId task allowed action <;> rfl

theorem run_checkRead {p : Prop} [Decidable p] {fault : Fault} :
    (checkRead p fault).run ExecutionTables.put db = check p fault >>= fun _ => .ok ((), db) := by
  unfold checkRead check
  split <;> rfl

theorem updateAt_eq_elim {id : Nat} {f : α → α} :
    t.updateAt id p f = ((t.find? id).filter p).elim t fun row => t.set id (f row) := by
  unfold Table.updateAt
  cases t.find? id with
  | none => rfl
  | some row => cases h : p row <;> simp [Option.filter, h]

theorem run_updateIf {rows : ExecutionFacts → Table α} {id : Nat} {f : α → α} {lock : TaskLock}
    {write : α → FactWrite} (set : ExecutionFacts → Table α → ExecutionFacts)
    (put : ∀ facts row, facts.put (write row) = set facts ((rows facts).set id row))
    (same : ∀ facts, set facts (rows facts) = facts) :
    (updateIf rows id p f lock write).run ExecutionTables.put db =
      .ok ((), { db with facts := set db.facts ((rows db.facts).updateAt id p f) }) := by
  rw [updateIf, run_updateFacts, updateAt_eq_elim]
  cases ((rows db.facts).find? id).filter p with
  | none => simp [same, ok_bind]
  | some row => simp [put, ok_bind]

theorem run_updateExecution {id : Nat} {p : WorkOrderExecution → Bool}
    {f : WorkOrderExecution → WorkOrderExecution} :
    (updateIf (·.executions) id p f (.execution id) (.execution id)).run ExecutionTables.put db =
      .ok ((), { db with facts.executions := db.facts.executions.updateAt id p f }) :=
  run_updateIf (fun facts executions => { facts with executions }) (fun _ _ => rfl) fun _ => rfl

theorem run_updateOrder {id : Nat} {p : ProductionOrder → Bool}
    {f : ProductionOrder → ProductionOrder} :
    (updateIf (·.productionOrders) id p f (.order id) (.order id)).run ExecutionTables.put db =
      .ok ((), { db with
        facts.productionOrders := db.facts.productionOrders.updateAt id p f }) :=
  run_updateIf (fun facts productionOrders => { facts with productionOrders }) (fun _ _ => rfl)
    fun _ => rfl

theorem run_updateHold {id : Nat} {p : OperationHold → Bool} {f : OperationHold → OperationHold} :
    (updateIf (·.holds) id p f (.hold id) (.hold id)).run ExecutionTables.put db =
      .ok ((), { db with facts.holds := db.facts.holds.updateAt id p f }) :=
  run_updateIf (fun facts holds => { facts with holds }) (fun _ _ => rfl) fun _ => rfl

section Changed

variable {facts : ExecutionFacts} {toStatus : TaskStatus} {action : String} {key : Text 1 128}
  {change : StatusChange}

theorem run_changeStatus :
    (changeStatus env taskId task toStatus action actor key change).run ExecutionTables.put db =
      changeTaskStatus env db.facts taskId task toStatus action actor key change >>= fun facts =>
        requireTask facts taskId >>= fun changed => .ok (changed, { db with facts }) := by
  simp only [changeStatus, updateTaskStatus, insertHistory, changeTaskStatus, run_bind,
    run_updateFacts, run_selectFacts, recordHistory, bind_assoc, pure_bind, ok_bind]
  rfl

theorem bind_congr_ok {x : Except Fault α} {f g : α → Except Fault β}
    (same : ∀ a, x = .ok a → f a = g a) : x >>= f = x >>= g := by
  cases x with
  | ok a => exact same a rfl
  | error fault => rfl

theorem bind_changed {g : ExecutionFacts → OperationTask → Except Fault β}
    {f : ExecutionFacts → Except Fault β}
    (same : ∀ facts' old changed, facts.tasks.find? taskId = some old →
      changed.workOrderExecutionId = old.workOrderExecutionId → g facts' changed = f facts') :
    (changeTaskStatus env facts taskId task toStatus action actor key change >>= fun facts =>
      requireTask facts taskId >>= g facts) =
        changeTaskStatus env facts taskId task toStatus action actor key change >>= f := by
  refine bind_congr_ok fun facts' h => ?_
  obtain ⟨old, found, h⟩ := of_bind h
  cases of_then (of_then (of_then h))
  have there := (Option.filter_eq_some_iff.mp (orFault_eq_ok.mp found)).1
  rw [requireTask, Table.find?_set_self _ there, orFault, ok_bind]
  exact same _ old _ there rfl

theorem requireTask_changed (g : ExecutionFacts → Except Fault β) :
    (changeTaskStatus env facts taskId task toStatus action actor key change >>= fun facts =>
      requireTask facts taskId >>= fun _ => g facts) =
        changeTaskStatus env facts taskId task toStatus action actor key change >>= g :=
  bind_changed fun _ _ _ _ _ => rfl

end Changed

def ActionReply.outcome (reply : ActionReply) (facts : ExecutionFacts) : Outcome :=
  ⟨reply.response, facts, reply.auditAction, "operation_task", reply.auditResourceId,
    reply.auditDetail⟩

theorem run_idempotent {key : ActionKey} {request : Json} {script : TaskScript ActionReply}
    {body : ExecutionFacts → Except Fault Outcome}
    (computes : ∀ db, (fun result => (result.1.outcome result.2.facts, result.2)) <$>
        script.run ExecutionTables.put db =
      (fun outcome => (outcome, { db with facts := outcome.facts })) <$> body db.facts) :
    (idempotentScript env actor key request script).run ExecutionTables.put db =
      idempotent env db key request actor body := by
  rw [idempotentScript, idempotent, Script.select, run_bind, run_execute]
  dsimp only
  cases idempotentGet db.idempotency key request with
  | error fault => rfl
  | ok replay =>
    cases replay with
    | some response => rfl
    | none =>
      have same := computes db
      simp only [Except.map, ok_bind, run_bind, insertAudit, insertIdempotency, run_execute,
        audited, bind_assoc, List.foldl_nil]
      cases ran : script.run ExecutionTables.put db with
      | error fault =>
        rw [ran] at same
        cases done : body db.facts <;> rw [done] at same <;> cases same
        rfl
      | ok result =>
        obtain ⟨reply, facts, idempotency, auditLogs⟩ := result
        rw [ran] at same
        obtain ⟨outcome, done, same⟩ := map_eq_ok.mp same.symm
        cases same
        simp only [done, ok_bind, bind_assoc, audit, pure_bind, idempotentStore]
        rfl

theorem updateOne_eq_orFault {id : Nat} {f : α → α} {fault : Fault} :
    t.updateOne id p f fault =
      orFault ((t.find? id).filter p) fault >>= fun row => .ok (t.set id (f row)) := by
  unfold Table.updateOne
  cases t.find? id with
  | none => rfl
  | some row => cases h : p row <;> simp [Option.filter, h, orFault, bind, Except.bind]

theorem length_select : (t.select p).length = t.count p := by
  rw [Table.select, ← List.countP_eq_length_filter, Table.entries, List.countP_map]
  change t.rows.zipIdx.countP (p ∘ Prod.fst) = t.rows.countP p
  rw [← List.countP_map, List.zipIdx_map_fst]

theorem select_of_count (f : α → α) (h : t.count p = 1) :
    ∃ id row, t.select p = [(id, row)] ∧ t.updateWhere p f = t.set id (f row) := by
  obtain ⟨id, row, sole⟩ := Table.sole_of_count h
  obtain ⟨entry, only⟩ := List.length_eq_one_iff.mp (length_select.trans h)
  have first := sole.first?
  rw [Table.first?, only] at first
  cases first
  exact ⟨id, row, only, sole.updateWhere_eq_set f⟩

theorem run_completionAggregates {f : Unit × ExecutionTables → Except Fault β} :
    (completionAggregatesScript env task.workOrderExecutionId).run ExecutionTables.put db >>= f =
      updateCompletionAggregates env db.facts task >>= fun facts => f ((), { db with facts }) := by
  unfold completionAggregatesScript updateCompletionAggregates
  rw [run_bind, run_selectFacts]
  simp only [ok_bind]
  split
  · rfl
  · simp only [run_bind, run_updateExecution, run_selectFacts, ok_bind, bind_assoc]
    refine bind_congr fun execution => ?_
    split
    · rw [run_updateOrder]
      rfl
    · rfl

theorem run_script (call : TaskCall) : call.script.run ExecutionTables.put db =
    call.request.operation.perform call.env call.actor db := by
  obtain ⟨env, actor, request⟩ := call
  cases request <;> refine run_idempotent fun db => ?_ <;>
    simp only [TaskRequest.body, startSetupScript, completeSetupScript, startTaskScript,
      simpleTaskScript, resumeTaskScript, holdTaskScript, releaseHoldScript, completeTaskScript,
      startDowntimeScript, endDowntimeScript, closeTaskScript, lockTask, replyTask, run_bind,
      run_updateFacts, run_selectFacts, run_checkRead, run_checkTransition, run_changeStatus,
      run_updateExecution, run_updateHold, run_completionAggregates,
      updateOne_eq_orFault, bind_assoc, pure_bind, ok_bind, requireTask_changed, map_bind,
      List.foldl_nil, StatusStep.body, StatusStep.record, prepareStartSetup, prepareCompleteSetup,
      prepareStart, preparePause, prepareResume, prepareHold, prepareRelease, prepareComplete,
      prepareStartDowntime, prepareEndDowntime, prepareClose, concludeTask, concludeStart,
      concludeComplete, concludeDowntime]
  case completeSetup taskId payload =>
    refine bind_congr fun task => bind_congr fun _ => ?_
    rw [length_select]
    by_cases only : db.facts.setups.count
      (fun setup => setup.isOf taskId && setup.status = .inProgress) = 1
    · obtain ⟨id, setup, selected, updated⟩ := select_of_count _ only
      rw [selected, updated]
      rfl
    · simp only [check, only, if_false]
      rfl
  case completeTask taskId payload =>
    refine bind_congr_ok fun task found => bind_congr fun _ => bind_congr fun _ =>
      bind_congr fun _ => bind_changed fun facts old changed there same => ?_
    cases there.symm.trans (orFault_eq_ok.mp found)
    rw [updateCompletionAggregates, same]
    rfl
  all_goals rfl

def TaskCall.serial (call : TaskCall) : ExecutionCall :=
  ⟨call.env, call.actor, call.request.operation⟩

/-- The sessions can run one after another in every order, and each then leaves and answers what
its operation does in one step. -/
theorem taskProtocol_serial {S : Type} [DecidableEq S] (calls : S → TaskCall)
    (db : ExecutionTables) (order : List S) (distinct : order.Nodup) :
    ∃ events, (taskProtocol calls).exec ((taskProtocol calls).init db) events =
        order.foldl (fun σ s => σ.settle s (executionAuthority.attempt (calls s).serial σ.data))
          ((taskProtocol calls).init db) ∧
      ((taskProtocol calls).exec ((taskProtocol calls).init db) events).data =
        executionAuthority.run db (order.map fun s => (calls s).serial) :=
  exec_serially executionAuthority (fun s => (calls s).serial) (fun s t => by
    have ends := ends_script (s := s) (fun s => (calls s).script) ExecutionTables.put
      (calls s).script t
    rw [run_script] at ends
    exact ends) distinct (fun _ => rfl) fun _ _ => ⟨rfl, rfl⟩

theorem sampleDuplicates_serial : ∃ events,
    ((taskProtocol sampleDuplicates).exec sampleServer events).data =
      executionAuthority.run (executionAuthority.run .empty sampleDispatch)
        [(sampleDuplicates true).serial, (sampleDuplicates false).serial] := by
  obtain ⟨events, -, data⟩ := taskProtocol_serial sampleDuplicates
    (executionAuthority.run .empty sampleDispatch) [true, false] (by decide)
  exact ⟨events, data⟩

section Completion

variable {calls : Bool → CompletionCall} {s : Bool} {result : Except Fault (Json × ExecutionTables)}
  {x : Except Fault α} {k : α → Except Fault β} {g : α → CompletionAction}
  {h : β → CompletionAction} {f : α → Except Fault (Json × ExecutionTables)}

theorem ends_orRaise
    (next : ∀ a, x = .ok a → (completionProtocol calls).Ends s (g a) db (f a)) :
    (completionProtocol calls).Ends s (orRaise x g) db (x >>= f) := by
  cases x with
  | ok a => exact next a rfl
  | error fault => exact .raise fault db

theorem ends_bind
    (next : ∀ a, x = .ok a → (completionProtocol calls).Ends s (orRaise (k a) h) db (f a)) :
    (completionProtocol calls).Ends s (orRaise (x >>= k) h) db (x >>= f) := by
  cases x with
  | ok a => exact next a rfl
  | error fault => exact .raise fault db

theorem ends_found {a : α} (found : x = .ok a)
    (next : (completionProtocol calls).Ends s (orRaise (k a) h) db result) :
    (completionProtocol calls).Ends s (orRaise (x >>= k) h) db result := by
  subst found
  exact next

theorem ends_ok {a : α} (found : x = .ok a)
    (next : (completionProtocol calls).Ends s (g a) db result) :
    (completionProtocol calls).Ends s (orRaise x g) db result := by
  subst found
  exact next

theorem ends_ite {p : Prop} [Decidable p] {a b : CompletionAction} {x y : Except Fault α}
    (pos : p → (completionProtocol calls).Ends s a db (x >>= f))
    (neg : ¬ p → (completionProtocol calls).Ends s b db (y >>= f)) :
    (completionProtocol calls).Ends s (if p then a else b) db ((if p then x else y) >>= f) := by
  split
  next holds => exact pos holds
  next fails => exact neg fails

theorem ends_check {p : Prop} [Decidable p] {fault : Fault} {action : CompletionAction}
    {f : Unit → Except Fault (Json × ExecutionTables)}
    (next : p → (completionProtocol calls).Ends s action db (f ())) :
    (completionProtocol calls).Ends s (if p then action else .raise fault) db
      (check p fault >>= f) := by
  unfold check
  split
  next holds => exact next holds
  next => exact .raise fault db

variable {accounted : Quantity} {executionId orderId : Nat}

theorem ends_updateExecution {executions : Table WorkOrderExecution}
    (updated : executions = db.facts.executions.updateAt executionId
      (fun row => row.status = .released || row.status = .dispatched || row.status = .inProgress)
      fun row => { row with status := .completed, completedAt := some (calls s).env.now })
    (next : (completionProtocol calls).Ends s
      (completionStatement (calls s) (.selectExecution executionId accounted)
        { db with facts.executions := executions }) { db with facts.executions := executions }
      result) :
    (completionProtocol calls).Ends s
      (completionStatement (calls s) (.updateExecution executionId accounted) db) db result := by
  rw [updateAt_eq_elim] at updated
  unfold completionStatement
  dsimp only
  split <;> next found =>
    rw [found] at updated
    subst updated
    exact .go next

theorem ends_updateOrder {orders : Table ProductionOrder}
    (updated : orders = db.facts.productionOrders.updateAt orderId (·.status = .inProgress)
      fun row => { row with status := .completed, completedAt := some (calls s).env.now })
    (next : (completionProtocol calls).Ends s (completionStatement (calls s) (.formatTask accounted)
        { db with facts.productionOrders := orders })
      { db with facts.productionOrders := orders } result) :
    (completionProtocol calls).Ends s
      (completionStatement (calls s) (.updateOrder orderId accounted) db) db result := by
  rw [updateAt_eq_elim] at updated
  unfold completionStatement
  dsimp only
  split <;> next found =>
    rw [found] at updated
    subst updated
    exact .go next

/-- `complete_task`, after its aggregates. -/
def CompletionCall.answer (call : CompletionCall) (accounted : Quantity) (db : ExecutionTables) :
    Except Fault (Json × ExecutionTables) := do
  let response ← formatTask call.env db.facts call.taskId
  let auditLogs ← audit call.env db.auditLogs call.actor "execution:operation-completed"
    "operation_task" (toString call.taskId) (.obj [("accounted_quantity", .float accounted),
      ("evidence_reference", .str (strip call.payload.evidenceReference.value))])
  let idempotency ← idempotentStore db.idempotency call.key call.payload.json response
  return (response, { db with auditLogs, idempotency })

theorem ends_answer {accounted : Quantity} : (completionProtocol calls).Ends s
    (completionStatement (calls s) (.formatTask accounted) db) db
    ((calls s).answer accounted db) := by
  simp only [CompletionCall.answer, audit, idempotentStore, bind_assoc, pure_bind]
  exact ends_orRaise fun _ _ => .go (ends_check fun _ => .go (ends_bind fun _ _ =>
    .go (.commit ..)))

theorem ends_aggregates {executionId : Nat} {accounted : Quantity}
    (own : task.workOrderExecutionId = executionId) : (completionProtocol calls).Ends s
    (completionStatement (calls s) (.countTasks executionId accounted) db) db
    (updateCompletionAggregates (calls s).env db.facts task >>= fun facts =>
      (calls s).answer accounted { db with facts }) := by
  subst own
  unfold updateCompletionAggregates
  refine ends_ite (fun _ => .go ends_answer) fun _ => ?_
  simp only [bind_assoc]
  exact .go (ends_updateExecution rfl (ends_orRaise fun _ _ =>
    .go (ends_ite (fun _ => .go (ends_updateOrder rfl ends_answer)) fun _ => .go ends_answer)))

def CompletionCall.serial (call : CompletionCall) : ExecutionCall :=
  ⟨call.env, call.actor, .completeTask call.taskId call.payload⟩

theorem ends_completion : (completionProtocol calls).Ends s
    (completionStatement (calls s) .selectIdempotency db) db
    (executionAuthority.attempt (calls s).serial db) := by
  change (completionProtocol calls).Ends s _ db (completeTask (calls s).env db (calls s).taskId
    (calls s).payload (calls s).actor)
  unfold completeTask idempotent StatusStep.body prepareComplete concludeComplete concludeTask
  refine ends_orRaise fun replay _ => ?_
  cases replay with
  | some response => exact .commit response db
  | none =>
    simp only [audited, StatusStep.record, changeTaskStatus, recordHistory, bind_assoc, pure_bind]
    refine .go (ends_orRaise fun task found => .go (ends_found found (ends_bind fun _ _ =>
      ends_bind fun _ _ => ends_bind fun _ _ => .go ?_)))
    refine ends_bind fun old current => ends_bind fun _ _ => ends_bind fun _ _ =>
      .go (ends_bind fun _ _ => .go ?_)
    have there := (Option.filter_eq_some_iff.mp (orFault_eq_ok.mp current)).1
    refine ends_ok (orFault_eq_ok.mpr (Table.find?_set_self _ there)) (.go (ends_aggregates ?_))
    cases there.symm.trans (orFault_eq_ok.mp found)
    rfl

/-- The completions can run one after the other, and each then leaves and answers what
`complete_task` does in one step. -/
theorem completionProtocol_serial (calls : Bool → CompletionCall) (db : ExecutionTables)
    (order : List Bool) (distinct : order.Nodup) :
    ∃ events, (completionProtocol calls).exec ((completionProtocol calls).init db) events =
        order.foldl (fun σ s => σ.settle s (executionAuthority.attempt (calls s).serial σ.data))
          ((completionProtocol calls).init db) ∧
      ((completionProtocol calls).exec ((completionProtocol calls).init db) events).data =
        executionAuthority.run db (order.map fun s => (calls s).serial) :=
  exec_serially executionAuthority (fun s => (calls s).serial) (fun _ _ => ends_completion)
    distinct (fun _ => rfl) fun _ _ => ⟨rfl, rfl⟩

end Completion

end MiniOgas
