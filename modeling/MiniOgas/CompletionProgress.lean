import MiniOgas.Interleaving
import MiniOgas.OrderRollUp
import Mathlib.Tactic.Tauto

namespace MiniOgas

open Relational Serial Interleaving

inductive CompletionWrite where
  | task (id : Nat) (row : OperationTask)
  | history (row : TaskHistory)
  | execution (id : Nat) (row : WorkOrderExecution)
  | order (id : Nat) (row : ProductionOrder)
  | auditLogs (row : AuditLog)
  | idempotency (row : IdempotencyRecord)

def ExecutionTables.write (db : ExecutionTables) : CompletionWrite → ExecutionTables
  | .task id row => { db with facts := { db.facts with tasks := db.facts.tasks.set id row } }
  | .history row => { db with facts := { db.facts with history := db.facts.history.insert row } }
  | .execution id row =>
    { db with facts := { db.facts with executions := db.facts.executions.set id row } }
  | .order id row =>
    { db with facts := { db.facts with productionOrders := db.facts.productionOrders.set id row } }
  | .auditLogs row => { db with auditLogs := db.auditLogs.insert row }
  | .idempotency row => { db with idempotency := db.idempotency.insert row }

inductive CompletionLock where
  | task (id : Nat)
  | execution (id : Nat)
  | order (id : Nat)
  | history (taskId : Nat) (key : String)
  | idempotency (key : ActionKey)
deriving DecidableEq

structure CompletionCall where
  env : ExecutionEnv
  taskId : Nat
  payload : CompleteTaskIn
  actor : String

def CompletionCall.key (call : CompletionCall) : ActionKey :=
  taskKey call.taskId "complete" call.payload.idempotencyKey

/-- The statement of `complete_task` that is next, with what the ones before it have read. -/
inductive CompletionPhase where
  | selectIdempotency
  | lockTask
  | selectAccounted
  | updateTask (task : OperationTask) (accounted : Quantity)
  | insertHistory (task : OperationTask) (accounted : Quantity)
  | selectTask (accounted : Quantity)
  | countTasks (executionId : Nat) (accounted : Quantity)
  | updateExecution (executionId : Nat) (accounted : Quantity)
  | selectExecution (executionId : Nat) (accounted : Quantity)
  | countExecutions (orderId : Nat) (accounted : Quantity)
  | updateOrder (orderId : Nat) (accounted : Quantity)
  | formatTask (accounted : Quantity)
  | insertAudit (response : Json) (accounted : Quantity)
  | insertIdempotency (response : Json)
  | commit (response : Json)

abbrev CompletionAction :=
  Action CompletionPhase CompletionWrite CompletionLock Json Fault

def orRaise {α : Type} (x : Except Fault α) (next : α → CompletionAction) : CompletionAction :=
  match x with
  | .ok a => next a
  | .error fault => .raise fault

/-- The statements of `complete_task` and `_update_completion_aggregates`. -/
def completionStatement (call : CompletionCall) (phase : CompletionPhase) (db : ExecutionTables) :
    CompletionAction :=
  let env := call.env
  let taskId := call.taskId
  let evidence := strip call.payload.evidenceReference.value
  match phase with
  | .selectIdempotency =>
    orRaise (idempotentGet db.idempotency call.key call.payload.json) fun replay =>
      match replay with
      | some response => .commit response
      | none => .go [] [] .lockTask
  | .lockTask =>
    -- `SELECT .. FOR UPDATE`, which reads the row when it has the lock
    orRaise (requireTask db.facts taskId) fun _ => .go [.task taskId] [] .selectAccounted
  | .selectAccounted =>
    orRaise (do
      let task ← requireTask db.facts taskId
      requireTransition taskId task [.running] "complete"
      let accounted := db.facts.accounted taskId
      check (sameQuantity accounted task.plannedQuantity = true) (executionError 409
        "QUANTITY_NOT_CONSERVED"
        "operation cannot complete until accepted reports exactly conserve planned quantity"
        [("planned_quantity", .float task.plannedQuantity),
          ("accounted_quantity", .float accounted)])
      check (evidence ≠ "") (executionError 409 "COMPLETION_EVIDENCE_REQUIRED"
        "operation completion requires a durable evidence reference" [("task_id", .int taskId)])
      return task) fun task => .go [] [] (.updateTask task (db.facts.accounted taskId))
  | .updateTask task accounted =>
    let change : StatusChange := { evidenceReference := evidence, setCompleted := true }
    orRaise (do
      let old ← orFault ((db.facts.tasks.find? taskId).filter (·.status = task.status))
        (executionError 409 "OPERATION_TRANSITION_CONFLICT"
          "operation task changed while the transition was being applied"
          [("task_id", .int taskId)])
      let new := change.apply env.now .completed old
      guardOperationTransition db.facts taskId old new
      guardOperationTaskMaintenance env db.facts taskId old new
      return new) fun new => .go [.task taskId] [.task taskId new] (.insertHistory task accounted)
  | .insertHistory task accounted =>
    let row : TaskHistory := ⟨taskId, some task.status, .completed, "complete", "", evidence,
      call.actor, env.now, call.payload.idempotencyKey.value⟩
    orRaise (recordHistory db.facts row) fun _ =>
      .go [.history taskId row.idempotencyKey] [.history row] (.selectTask accounted)
  | .selectTask accounted =>
    orRaise (requireTask db.facts taskId) fun task =>
      .go [] [] (.countTasks task.workOrderExecutionId accounted)
  | .countTasks executionId accounted =>
    if db.facts.tasks.count (fun other => other.isOf executionId && !other.status.done) ≠ 0 then
      .go [] [] (.formatTask accounted)
    else .go [] [] (.updateExecution executionId accounted)
  | .updateExecution executionId accounted =>
    match (db.facts.executions.find? executionId).filter fun row =>
      row.status = .released || row.status = .dispatched || row.status = .inProgress with
    | some row => .go [.execution executionId]
        [.execution executionId { row with status := .completed, completedAt := some env.now }]
        (.selectExecution executionId accounted)
    | none => .go [] [] (.selectExecution executionId accounted)
  | .selectExecution executionId accounted =>
    orRaise (orFault (db.facts.executions.find? executionId)
      (.runtime "'NoneType' object is not iterable")) fun execution =>
      .go [] [] (.countExecutions execution.productionOrderId accounted)
  | .countExecutions orderId accounted =>
    let rows := linkedExecutions db.facts orderId
    if rows.length = rows.countP (·.any (·.status.done)) then
      .go [] [] (.updateOrder orderId accounted)
    else .go [] [] (.formatTask accounted)
  | .updateOrder orderId accounted =>
    match (db.facts.productionOrders.find? orderId).filter (·.status = .inProgress) with
    | some row => .go [.order orderId]
        [.order orderId { row with status := .completed, completedAt := some env.now }]
        (.formatTask accounted)
    | none => .go [] [] (.formatTask accounted)
  | .formatTask accounted =>
    orRaise (MiniOgas.formatTask env db.facts taskId) fun response =>
      .go [] [] (.insertAudit response accounted)
  | .insertAudit response accounted =>
    let log : AuditLog := ⟨"execution", call.actor, "execution:operation-completed",
      "operation_task", toString taskId, canonicalJson (.obj
        [("accounted_quantity", .float accounted), ("evidence_reference", .str evidence)]),
      env.now⟩
    if env.auditAccepted log then .go [] [.auditLogs log] (.insertIdempotency response)
    else .raise (.runtime "failed to enqueue the execution audit envelope")
  | .insertIdempotency response =>
    orRaise (idempotentStore db.idempotency call.key call.payload.json response) fun _ =>
      .go [.idempotency call.key]
        [.idempotency ⟨call.key.resourceType, call.key.resourceId, call.key.action,
          call.key.idempotencyKey, requestHash call.payload.json, response⟩] (.commit response)
  | .commit response => .commit response

/-- Two `complete_task` transactions. -/
def completionProtocol (calls : Bool → CompletionCall) :
    Protocol Bool CompletionPhase ExecutionTables CompletionWrite CompletionLock Json Fault where
  start _ := .selectIdempotency
  statement s := completionStatement (calls s)
  apply := ExecutionTables.write

/-- The tasks of the two calls are the last open ones of two executions, and these are the last
open ones of a production order in progress. No response of either call is stored. -/
structure LastTasks (db : ExecutionTables) (orderId : Nat) (calls : Bool → CompletionCall)
    (executionId : Bool → Nat) : Prop where
  apart : executionId false ≠ executionId true
  inProgress : ∃ order, db.facts.productionOrders.find? orderId = some order ∧
    order.status = .inProgress
  task : ∀ p, ∃ task, db.facts.tasks.find? (calls p).taskId = some task ∧
    task.workOrderExecutionId = executionId p
  lastTask : ∀ p id task, db.facts.tasks.find? id = some task →
    task.workOrderExecutionId = executionId p → id ≠ (calls p).taskId → task.status.done = true
  execution : ∀ p, ∃ execution, db.facts.executions.find? (executionId p) = some execution ∧
    execution.productionOrderId = orderId ∧ execution.status.done = false ∧
    ∃ linkId link, db.facts.links.find? linkId = some link ∧ link.productionOrderId = orderId ∧
      link.workOrderId = execution.workOrderId
  lastExecution : ∀ linkId link, db.facts.links.find? linkId = some link →
    link.productionOrderId = orderId →
    (∃ id execution, db.facts.executions.find? id = some execution ∧
      execution.workOrderId = link.workOrderId) ∧
    ∀ id execution, db.facts.executions.find? id = some execution →
      execution.workOrderId = link.workOrderId → (∀ p, id ≠ executionId p) →
      execution.status.done = true
  unanswered : ∀ p, db.idempotency.any (·.matchesKey (calls p).key) = false

/-- How far the two calls have come in the facts: the tasks that are done, the executions that
are done, and whether the order is completed. -/
structure Progress (db : ExecutionTables) (orderId : Nat) (calls : Bool → CompletionCall)
    (executionId : Bool → Nat) (facts : ExecutionFacts) (finished executed : Bool → Prop)
    (closed : Prop) : Prop where
  links : facts.links = db.facts.links
  otherTasks : ∀ id, (∀ p, id ≠ (calls p).taskId) →
    facts.tasks.find? id = db.facts.tasks.find? id
  ownTask : ∀ p, ∃ task, facts.tasks.find? (calls p).taskId = some task ∧
    task.workOrderExecutionId = executionId p ∧ (finished p → task.status.done = true)
  otherExecutions : ∀ id, (∀ p, id ≠ executionId p) →
    facts.executions.find? id = db.facts.executions.find? id
  ownExecution : ∀ p, ∃ before after, db.facts.executions.find? (executionId p) = some before ∧
    facts.executions.find? (executionId p) = some after ∧
    after.workOrderId = before.workOrderId ∧ after.productionOrderId = orderId ∧
    (after.status.done = true ↔ executed p)
  order : ∃ order, facts.productionOrders.find? orderId = some order ∧
    (closed → order.status = .completed) ∧ (¬ closed → order.status = .inProgress)

variable {db db' : ExecutionTables} {orderId : Nat} {calls : Bool → CompletionCall}
  {executionId : Bool → Nat} {facts : ExecutionFacts} {finished executed : Bool → Prop}
  {closed : Prop} {p q : Bool}

theorem LastTasks.progress (last : LastTasks db orderId calls executionId) :
    Progress db orderId calls executionId db.facts (fun _ => False) (fun _ => False) False where
  links := rfl
  otherTasks _ _ := rfl
  ownTask p := by
    obtain ⟨task, found, ofExecution⟩ := last.task p
    exact ⟨task, found, ofExecution, False.elim⟩
  otherExecutions _ _ := rfl
  ownExecution p := by
    obtain ⟨execution, found, ofOrder, isOpen, -⟩ := last.execution p
    exact ⟨execution, execution, found, found, rfl, ofOrder, by simp [isOpen]⟩
  order := by
    obtain ⟨order, found, status⟩ := last.inProgress
    exact ⟨order, found, False.elim, fun _ => status⟩

theorem LastTasks.executionId_ne (last : LastTasks db orderId calls executionId) (ne : p ≠ q) :
    executionId p ≠ executionId q := by
  have apart := last.apart
  cases p <;> cases q
  · exact absurd rfl ne
  · exact apart
  · exact apart.symm
  · exact absurd rfl ne

theorem LastTasks.taskId_ne (last : LastTasks db orderId calls executionId) (ne : p ≠ q) :
    (calls p).taskId ≠ (calls q).taskId := by
  intro same
  obtain ⟨task, found, ofExecution⟩ := last.task p
  obtain ⟨task', found', ofExecution'⟩ := last.task q
  rw [same, found'] at found
  cases found
  exact last.executionId_ne ne (ofExecution.symm.trans ofExecution')

theorem Progress.noneRemaining (last : LastTasks db orderId calls executionId)
    (progress : Progress db orderId calls executionId facts finished executed closed)
    (done : finished p) :
    facts.tasks.count (fun other => other.isOf (executionId p) && !other.status.done) = 0 := by
  rw [Table.count_eq_zero_iff]
  intro id task found
  rw [Bool.eq_false_iff]
  intro remaining
  simp only [OperationTask.isOf, Bool.and_eq_true, decide_eq_true_eq,
    Bool.not_eq_true'] at remaining
  obtain ⟨ofExecution, isOpen⟩ := remaining
  by_cases own : ∃ q, id = (calls q).taskId
  · obtain ⟨q, rfl⟩ := own
    obtain ⟨task', found', ofExecution', finishes⟩ := progress.ownTask q
    rw [found] at found'
    cases found'
    by_cases same : q = p
    · subst same
      rw [finishes done] at isOpen
      cases isOpen
    · exact last.executionId_ne same (ofExecution'.symm.trans ofExecution)
  · push Not at own
    rw [progress.otherTasks id own] at found
    rw [last.lastTask p id task found ofExecution (own p)] at isOpen
    cases isOpen

theorem Progress.allDone_iff (last : LastTasks db orderId calls executionId)
    (progress : Progress db orderId calls executionId facts finished executed closed) :
    (linkedExecutions facts orderId).length =
        (linkedExecutions facts orderId).countP (·.any (·.status.done)) ↔
      ∀ p, executed p := by
  rw [eq_comm, List.countP_eq_length]
  constructor
  · intro all p
    obtain ⟨before, after, found, found', sameOrder, -, done⟩ := progress.ownExecution p
    obtain ⟨execution, isExecution, -, -, linkId, link, isLink, ofOrder, ofLink⟩ :=
      last.execution p
    rw [found] at isExecution
    cases isExecution
    have member : some after ∈ linkedExecutions facts orderId :=
      mem_linkedExecutions.mpr ⟨linkId, link, by rw [progress.links]; exact isLink, ofOrder,
        .inr ⟨_, after, rfl, found', sameOrder.trans ofLink.symm⟩⟩
    exact done.mp (by simpa using all _ member)
  · intro both row member
    obtain ⟨linkId, link, isLink, ofOrder, cases'⟩ := mem_linkedExecutions.mp member
    rw [progress.links] at isLink
    obtain ⟨⟨id, execution, found, ofLink⟩, others⟩ := last.lastExecution linkId link isLink ofOrder
    rcases cases' with ⟨-, none⟩ | ⟨id', execution', rfl, found', ofLink'⟩
    · -- the execution that the link had at first is still there
      exfalso
      by_cases own : ∃ p, id = executionId p
      · obtain ⟨p, rfl⟩ := own
        obtain ⟨before, after, isBefore, isAfter, sameOrder, -⟩ := progress.ownExecution p
        rw [found] at isBefore
        cases isBefore
        have := none _ _ isAfter
        simp [sameOrder, ofLink] at this
      · push Not at own
        rw [← progress.otherExecutions id own] at found
        have := none _ _ found
        simp [ofLink] at this
    · by_cases own : ∃ p, id' = executionId p
      · obtain ⟨p, rfl⟩ := own
        obtain ⟨before, after, -, isAfter, -, -, done⟩ := progress.ownExecution p
        rw [found'] at isAfter
        cases isAfter
        simpa using done.mpr (both p)
      · push Not at own
        rw [progress.otherExecutions id' own] at found'
        simpa using others id' execution' found' ofLink' own

def WriteOf (db : ExecutionTables) (orderId : Nat) (calls : Bool → CompletionCall)
    (executionId : Bool → Nat) (p : Bool) : CompletionWrite → Prop
  | .task id row => id = (calls p).taskId ∧ row.workOrderExecutionId = executionId p ∧
    row.status.done = true
  | .execution id row => id = executionId p ∧ row.productionOrderId = orderId ∧
    row.status.done = true ∧ ∀ before, db.facts.executions.find? id = some before →
      row.workOrderId = before.workOrderId
  | .order id row => id = orderId ∧ row.status = .completed
  | .idempotency row => row.matchesKey (calls p).key = true
  | .history _ | .auditLogs _ => True

@[simp] def CompletionWrite.isTask : CompletionWrite → Bool
  | .task _ _ => true
  | _ => false

@[simp] def CompletionWrite.isExecution : CompletionWrite → Bool
  | .execution _ _ => true
  | _ => false

@[simp] def CompletionWrite.isOrder : CompletionWrite → Bool
  | .order _ _ => true
  | _ => false

/-- Progress by a set of calls, and what one of them has not committed. -/
def withOwn (committed : Bool → Prop) (p : Bool) (own : Bool) (q : Bool) : Prop :=
  committed q ∨ q = p ∧ own = true

theorem Progress.of_iff {finished' executed' : Bool → Prop} {closed' : Prop}
    (progress : Progress db orderId calls executionId facts finished executed closed)
    (same : ∀ q, finished' q ↔ finished q) (same' : ∀ q, executed' q ↔ executed q)
    (same'' : closed' ↔ closed) :
    Progress db orderId calls executionId facts finished' executed' closed' := by
  rw [funext fun q => propext (same q), funext fun q => propext (same' q), propext same'']
  exact progress

theorem withOwn_false {committed : Bool → Prop} : withOwn committed p false q ↔ committed q := by
  simp [withOwn]

theorem Progress.write_task (last : LastTasks db orderId calls executionId)
    (progress : Progress db orderId calls executionId db'.facts finished executed closed)
    {row : OperationTask} (ofExecution : row.workOrderExecutionId = executionId p)
    (done : row.status.done = true) :
    Progress db orderId calls executionId (db'.write (.task (calls p).taskId row)).facts
      (withOwn finished p true) executed closed := by
  refine { progress with
    otherTasks := fun id others =>
      (Table.find?_set_ne row (others p)).trans (progress.otherTasks id others)
    ownTask := fun q => ?_ }
  obtain ⟨task, found, ofExecution', finishes⟩ := progress.ownTask q
  by_cases same : q = p
  · subst same
    exact ⟨row, Table.find?_set_self row found, ofExecution, fun _ => done⟩
  · refine ⟨task, (Table.find?_set_ne row (last.taskId_ne same)).trans found, ofExecution', ?_⟩
    rintro (finished | ⟨same', -⟩)
    · exact finishes finished
    · exact absurd same' same

theorem Progress.write_execution (last : LastTasks db orderId calls executionId)
    (progress : Progress db orderId calls executionId db'.facts finished executed closed)
    {row : WorkOrderExecution} (ofOrder : row.productionOrderId = orderId)
    (done : row.status.done = true)
    (sameOrder : ∀ before, db.facts.executions.find? (executionId p) = some before →
      row.workOrderId = before.workOrderId) :
    Progress db orderId calls executionId (db'.write (.execution (executionId p) row)).facts
      finished (withOwn executed p true) closed := by
  refine { progress with
    otherExecutions := fun id others =>
      (Table.find?_set_ne row (others p)).trans (progress.otherExecutions id others)
    ownExecution := fun q => ?_ }
  obtain ⟨before, after, found, found', sameOrder', ofOrder', executes⟩ := progress.ownExecution q
  by_cases same : q = p
  · subst same
    exact ⟨before, row, found, Table.find?_set_self row found', sameOrder before found, ofOrder,
      by simp [withOwn, done]⟩
  · refine ⟨before, after, found,
      (Table.find?_set_ne row (last.executionId_ne same)).trans found', sameOrder', ofOrder', ?_⟩
    simpa [withOwn, same] using executes

theorem Progress.write_order
    (progress : Progress db orderId calls executionId db'.facts finished executed closed)
    {row : ProductionOrder} (completed : row.status = .completed) :
    Progress db orderId calls executionId (db'.write (.order orderId row)).facts finished executed
      True := by
  obtain ⟨order, found, -⟩ := progress.order
  exact { progress with
    order := ⟨row, Table.find?_set_self row found, fun _ => completed,
      fun isOpen => absurd trivial isOpen⟩ }

theorem Progress.write (last : LastTasks db orderId calls executionId)
    (progress : Progress db orderId calls executionId db'.facts finished executed closed)
    {w : CompletionWrite} (own : WriteOf db orderId calls executionId p w) :
    Progress db orderId calls executionId (db'.write w).facts
      (withOwn finished p w.isTask) (withOwn executed p w.isExecution)
      (closed ∨ w.isOrder = true) := by
  have still : ¬ w.isOrder = true → (closed ∨ w.isOrder = true ↔ closed) := fun other =>
    ⟨fun h => h.resolve_right other, .inl⟩
  cases w with
  | task id row =>
    obtain ⟨rfl, ofExecution, done⟩ := own
    exact (progress.write_task last ofExecution done).of_iff (fun _ => Iff.rfl)
      (fun _ => withOwn_false) (still Bool.false_ne_true)
  | execution id row =>
    obtain ⟨rfl, ofOrder, done, sameOrder⟩ := own
    exact (progress.write_execution last ofOrder done sameOrder).of_iff (fun _ => withOwn_false)
      (fun _ => Iff.rfl) (still Bool.false_ne_true)
  | order id row =>
    obtain ⟨rfl, completed⟩ := own
    exact (progress.write_order completed).of_iff (fun _ => withOwn_false)
      (fun _ => withOwn_false) ⟨fun _ => trivial, fun _ => .inr rfl⟩
  | history row =>
    have progress : Progress db orderId calls executionId (db'.write (.history row)).facts
        finished executed closed := { progress with }
    exact progress.of_iff (fun _ => withOwn_false) (fun _ => withOwn_false)
      (still Bool.false_ne_true)
  | auditLogs row | idempotency row =>
    exact progress.of_iff (fun _ => withOwn_false) (fun _ => withOwn_false)
      (still Bool.false_ne_true)

theorem Progress.writes (last : LastTasks db orderId calls executionId) {ws : List CompletionWrite}
    (progress : Progress db orderId calls executionId db'.facts finished executed closed)
    (own : ∀ w ∈ ws, WriteOf db orderId calls executionId p w) :
    Progress db orderId calls executionId (ws.foldl ExecutionTables.write db').facts
      (withOwn finished p (ws.any (·.isTask))) (withOwn executed p (ws.any (·.isExecution)))
      (closed ∨ ws.any (·.isOrder) = true) := by
  induction ws generalizing db' finished executed closed with
  | nil =>
    exact progress.of_iff (fun _ => withOwn_false) (fun _ => withOwn_false)
      (by simp)
  | cons w ws ih =>
    have first := progress.write last (own w List.mem_cons_self)
    refine (ih first fun w hw => own w (List.mem_cons_of_mem _ hw)).of_iff (fun q => ?_)
      (fun q => ?_) ?_
    · simp only [withOwn, List.any_cons, Bool.or_eq_true]
      tauto
    · simp only [withOwn, List.any_cons, Bool.or_eq_true]
      tauto
    · simp only [List.any_cons, Bool.or_eq_true]
      tauto

end MiniOgas
