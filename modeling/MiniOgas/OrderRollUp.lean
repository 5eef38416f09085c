import MiniOgas.TaskInvariant

namespace MiniOgas

open Relational Serial

variable {env : ExecutionEnv} {facts facts' : ExecutionFacts} {taskId : Nat} {task : OperationTask}
  {toStatus : TaskStatus} {change : StatusChange} {holds : Table OperationHold}
  {setups : Table OperationSetup} {downtimes : Table OperationDowntime}

structure Routed (facts : ExecutionFacts) : Prop where
  owned : ∀ id task, facts.tasks.find? id = some task →
    task.workOrderExecutionId < facts.executions.nextId
  distinct : ∀ i j a b, facts.tasks.find? i = some a → facts.tasks.find? j = some b →
    a.workOrderExecutionId = b.workOrderExecutionId → a.sequence = b.sequence → i = j
  ordered : ∀ i j a b, facts.tasks.find? i = some a → facts.tasks.find? j = some b →
    a.workOrderExecutionId = b.workOrderExecutionId → a.sequence < b.sequence →
    effectiveStatus facts j b ≠ .dispatched → a.status.done = true

theorem routed_empty : Routed .empty where
  owned := fun _ _ found => by simp [ExecutionFacts.empty] at found
  distinct := fun _ _ _ _ found => by simp [ExecutionFacts.empty] at found
  ordered := fun _ _ _ _ found => by simp [ExecutionFacts.empty] at found

theorem TaskMove.predecessors
    (move : TaskMove facts taskId task toStatus change holds setups downtimes)
    (dispatched : task.status = .dispatched) (setup : toStatus = .setup) :
    PredecessorsDone facts task := by
  cases move with
  | startSetup _ predecessors => exact predecessors
  | releaseHold held => simp [held] at dispatched
  | _ => cases setup

theorem effectiveStatus_frame {facts' : ExecutionFacts} {id : Nat} {row : OperationTask}
    {life : Life} (h : facts.Stores id row life) (h' : facts'.Stores id row life) :
    effectiveStatus facts' id row = effectiveStatus facts id row :=
  (effectiveStatus_eq h').trans (effectiveStatus_eq h).symm

theorem routed_dispatched {tasks : List OperationTask} {assignments : List TaskAssignment}
    {history : List TaskHistory} {workOrderId : Nat}
    (materialized : Materialized facts workOrderId tasks assignments history)
    (htasks : facts'.tasks = facts.tasks.insertAll tasks) (hholds : facts'.holds = facts.holds)
    (hexecutions : facts'.executions.nextId = facts.executions.nextId + 1) (h : Routed facts) :
    Routed facts' := by
  have split : ∀ id row, facts'.tasks.find? id = some row →
      facts.tasks.find? id = some row ∨
        facts.tasks.nextId ≤ id ∧ tasks[id - facts.tasks.nextId]? = some row := by
    intro id row found
    rw [htasks, Table.find?_insertAll] at found
    split at found
    next => exact .inl found
    next hge => exact .inr ⟨by omega, found⟩
  have new : ∀ {k : Nat} {row : OperationTask}, tasks[k]? = some row →
      row.workOrderExecutionId = facts.executions.nextId ∧ row.status = .dispatched := by
    intro k row hk
    obtain ⟨howner, -, hstatus⟩ := materialized.owned row (List.mem_of_getElem? hk)
    exact ⟨howner, hstatus⟩
  refine ⟨?_, ?_, ?_⟩
  · intro id row found
    rcases split id row found with old | ⟨-, hk⟩
    · have := h.owned id row old
      omega
    · have := (new hk).1
      omega
  · intro i j a b hi hj same sequence
    rcases split i a hi with oldi | ⟨hgei, hki⟩
    · rcases split j b hj with oldj | ⟨-, hkj⟩
      · exact h.distinct i j a b oldi oldj same sequence
      · have := h.owned i a oldi
        have := (new hkj).1
        omega
    · rcases split j b hj with oldj | ⟨hgej, hkj⟩
      · have := h.owned j b oldj
        have := (new hki).1
        omega
      · have hnodup := materialized.sequences
        have ha : (tasks.map (·.sequence))[i - facts.tasks.nextId]? = some a.sequence := by
          simp [hki]
        have hb : (tasks.map (·.sequence))[j - facts.tasks.nextId]? = some b.sequence := by
          simp [hkj]
        obtain ⟨hlt, -⟩ := List.getElem?_eq_some_iff.mp ha
        have := (List.getElem?_inj hlt hnodup).mp (ha.trans (by rw [sequence, hb]))
        omega
  · intro i j a b hi hj same sequence effective
    rcases split j b hj with oldj | ⟨-, hkj⟩
    · rcases split i a hi with oldi | ⟨-, hki⟩
      · refine h.ordered i j a b oldi oldj same sequence ?_
        simpa only [effectiveStatus, hholds] using effective
      · have := h.owned j b oldj
        have := (new hki).1
        omega
    · exact absurd (by simp [effectiveStatus, (new hkj).2]) effective

theorem routed_moved (env : ExecutionEnv) (row : TaskHistory) (coupled : Coupled facts)
    (found : facts.tasks.find? taskId = some task)
    (move : TaskMove facts taskId task toStatus change holds setups downtimes)
    (h : Routed facts) :
    Routed (facts.move taskId (change.apply env.now toStatus task) holds setups downtimes row) := by
  obtain ⟨life, stored⟩ := coupled.alive taskId task found
  obtain ⟨life', step, stored'⟩ := move.life_step env.now stored
  have stored' : (facts.move taskId (change.apply env.now toStatus task) holds setups downtimes
    row).Stores taskId (change.apply env.now toStatus task) life' := stored'
  have frame : ∀ id other, id ≠ taskId → facts.tasks.find? id = some other →
      effectiveStatus (facts.move taskId (change.apply env.now toStatus task) holds setups
        downtimes row) id other = effectiveStatus facts id other := by
    intro id other hne hother
    obtain ⟨l, hl⟩ := coupled.alive id other hother
    exact effectiveStatus_frame hl (move.frame hne hl)
  refine ⟨?_, ?_, ?_⟩
  · intro id new hnew
    rcases Table.of_find?_set hnew with ⟨rfl, rfl⟩ | ⟨-, old⟩
    · exact h.owned _ task found
    · exact h.owned id new old
  · intro i j a b hi hj same sequence
    rcases Table.of_find?_set hi with ⟨rfl, rfl⟩ | ⟨-, oldi⟩
    · rcases Table.of_find?_set hj with ⟨rfl, rfl⟩ | ⟨-, oldj⟩
      · rfl
      · exact h.distinct _ j task b found oldj same sequence
    · rcases Table.of_find?_set hj with ⟨rfl, rfl⟩ | ⟨-, oldj⟩
      · exact h.distinct i _ a task oldi found same sequence
      · exact h.distinct i j a b oldi oldj same sequence
  · intro i j a b hi hj same sequence effective
    rcases Table.of_find?_set hi with ⟨rfl, rfl⟩ | ⟨-, oldi⟩
    · rcases Table.of_find?_set hj with ⟨rfl, rfl⟩ | ⟨hnej, oldj⟩
      · exact absurd sequence (lt_irrefl _)
      · rw [frame j b hnej oldj] at effective
        have done := h.ordered _ j task b found oldj same sequence effective
        rw [stored'.status]
        exact step.done (by rw [← stored.status]; exact done)
    · rcases Table.of_find?_set hj with ⟨rfl, rfl⟩ | ⟨hnej, oldj⟩
      · rw [effectiveStatus_eq stored'] at effective
        by_cases dispatched : life.effective = .dispatched
        · rcases step.effective_dispatched dispatched with still | ⟨rfl, rfl⟩
          · exact absurd still effective
          · exact move.predecessors stored.status stored'.status i a oldi same sequence
        · exact h.ordered i _ a task oldi found same sequence
            (by rw [effectiveStatus_eq stored]; exact dispatched)
      · rw [frame j b hnej oldj] at effective
        exact h.ordered i j a b oldi oldj same sequence effective

/-- The step lemma: every effect on the execution tables keeps the routing invariant. -/
theorem routed_preserved (effect : ExecutionEffect env facts facts') (coupled : Coupled facts)
    (h : Routed facts) : Routed facts' := by
  cases effect with
  | replayed | orderCreated | attached | orderReleased | reported | orderClosed =>
    exact { h with }
  | executionClosed =>
    exact ⟨fun id task found => by simpa using h.owned id task found, h.distinct, h.ordered⟩
  | dispatched _ _ _ _ _ _ materialized =>
    exact routed_dispatched materialized rfl rfl (by simp) h
  | @moved _ _ _ _ _ _ _ row _ found move _ _ rollUp =>
    have hmid := routed_moved env row coupled found move h
    obtain ⟨hframe, hnext⟩ := rollUp.frame
    refine ⟨?_, ?_, ?_⟩
    · intro id row hrow
      rw [rollUp.tasks] at hrow
      rw [hnext]
      exact hmid.owned id row hrow
    · intro i j a b hi hj
      rw [rollUp.tasks] at hi hj
      exact hmid.distinct i j a b hi hj
    · intro i j a b hi hj same sequence effective
      rw [rollUp.tasks] at hi hj
      refine hmid.ordered i j a b hi hj same sequence ?_
      simpa only [effectiveStatus, rollUp.holds] using effective

variable {orderId : Nat}

def ProductionOrderStatus.done (status : ProductionOrderStatus) : Bool :=
  status = .completed || status = .closed

def WorkOrderDone (facts : ExecutionFacts) (workOrderId : Nat) : Prop :=
  ∃ id execution, facts.executions.find? id = some execution ∧
    execution.workOrderId = workOrderId ∧ execution.status.done = true

def Executed (facts : ExecutionFacts) (orderId : Nat) : Prop :=
  ∀ id link, facts.links.find? id = some link → link.productionOrderId = orderId →
    WorkOrderDone facts link.workOrderId

structure RolledUp (facts : ExecutionFacts) : Prop where
  link_order : ∀ id link, facts.links.find? id = some link →
    (facts.productionOrders.find? link.productionOrderId).isSome = true
  link_unique : ∀ i j a b, facts.links.find? i = some a → facts.links.find? j = some b →
    a.workOrderId = b.workOrderId → i = j
  execution_link : ∀ id execution, facts.executions.find? id = some execution →
    ∃ linkId link, facts.links.find? linkId = some link ∧
      link.workOrderId = execution.workOrderId ∧
      link.productionOrderId = execution.productionOrderId
  execution_unique : ∀ i j a b, facts.executions.find? i = some a →
    facts.executions.find? j = some b → a.workOrderId = b.workOrderId → i = j
  execution_order : ∀ id execution order, facts.executions.find? id = some execution →
    facts.productionOrders.find? execution.productionOrderId = some order →
    order.status ≠ .draft ∧ order.status ≠ .released
  execution_done : ∀ id execution, facts.executions.find? id = some execution →
    (execution.status.done = true ↔ AllDone facts id)
  closed_tasks : ∀ id execution, facts.executions.find? id = some execution →
    execution.status = .closed → ∀ taskId task, facts.tasks.find? taskId = some task →
    task.workOrderExecutionId = id → task.status = .closed
  unreleased : ∀ id order, facts.productionOrders.find? id = some order →
    (order.releasedAt = none ↔ order.status = .draft) ∧ order.status ≠ .cancelled
  order_done : ∀ id order, facts.productionOrders.find? id = some order →
    (order.status.done = true ↔ order.status ≠ .draft ∧ Executed facts id)
  closed_executions : ∀ id order, facts.productionOrders.find? id = some order →
    order.status = .closed → ∀ executionId execution,
    facts.executions.find? executionId = some execution →
    execution.productionOrderId = id → execution.status = .closed

theorem rolledUp_empty : RolledUp .empty := by
  refine ⟨?_, ?_, ?_, ?_, ?_, ?_, ?_, ?_, ?_, ?_⟩ <;>
    intro _ _ <;> simp [ExecutionFacts.empty]

theorem RolledUp.owner (h : RolledUp facts) {linkId executionId : Nat} {link : ProductionOrderLink}
    {execution : WorkOrderExecution} (attached : facts.links.find? linkId = some link)
    (found : facts.executions.find? executionId = some execution)
    (same : execution.workOrderId = link.workOrderId) :
    execution.productionOrderId = link.productionOrderId := by
  obtain ⟨otherId, other, hother, hwork, horder⟩ := h.execution_link executionId execution found
  obtain rfl := h.link_unique otherId linkId other link hother attached (hwork.trans same)
  obtain rfl := Option.some.inj (hother.symm.trans attached)
  exact horder.symm

theorem mem_linkedExecutions {row : Option WorkOrderExecution} :
    row ∈ linkedExecutions facts orderId ↔ ∃ id link, facts.links.find? id = some link ∧
      link.productionOrderId = orderId ∧
      (row = none ∧ facts.executions.Free (·.workOrderId = link.workOrderId) ∨
        ∃ executionId execution, row = some execution ∧
          facts.executions.find? executionId = some execution ∧
          execution.workOrderId = link.workOrderId) := by
  simp only [linkedExecutions, List.mem_flatMap, Prod.exists, Table.mem_select, decide_eq_true_eq,
    and_assoc]
  refine exists₂_congr fun id link => and_congr_right fun _ => and_congr_right fun _ => ?_
  cases hs : facts.executions.select (·.workOrderId = link.workOrderId) with
  | nil =>
    have hfree := Table.select_eq_nil_iff.mp hs
    simp only [List.mem_singleton]
    constructor
    · rintro rfl
      exact .inl ⟨rfl, hfree⟩
    · rintro (⟨rfl, -⟩ | ⟨executionId, execution, -, found, same⟩)
      · rfl
      · simpa [same] using hfree executionId execution found
  | cons entry entries =>
    change row ∈ (entry :: entries).map (fun execution => some execution.2) ↔ _
    rw [← hs]
    constructor
    · intro hm
      obtain ⟨⟨executionId, execution⟩, hentry, rfl⟩ := List.mem_map.mp hm
      obtain ⟨found, same⟩ := Table.mem_select.mp hentry
      exact .inr ⟨executionId, execution, rfl, found, by simpa using same⟩
    · rintro (⟨rfl, hfree⟩ | ⟨executionId, execution, rfl, found, same⟩)
      · rw [Table.select_eq_nil_iff.mpr hfree] at hs
        cases hs
      · exact List.mem_map.mpr ⟨(executionId, execution),
          Table.mem_select.mpr ⟨found, by simpa using same⟩, rfl⟩

theorem allExecuted_iff
    (unique : ∀ i j a b, facts.executions.find? i = some a → facts.executions.find? j = some b →
      a.workOrderId = b.workOrderId → i = j) :
    AllExecuted facts orderId ↔ Executed facts orderId := by
  constructor
  · intro all id link attached of
    by_cases hfree : facts.executions.Free (·.workOrderId = link.workOrderId)
    · have := all none (mem_linkedExecutions.mpr ⟨id, link, attached, of, .inl ⟨rfl, hfree⟩⟩)
      simp at this
    · have hany : facts.executions.any (·.workOrderId = link.workOrderId) = true := by
        by_contra hno
        exact hfree (Table.free_iff_any.mpr (by simpa using hno))
      obtain ⟨executionId, execution, found, same⟩ := Table.any_iff.mp hany
      have same : execution.workOrderId = link.workOrderId := by simpa using same
      have := all (some execution) (mem_linkedExecutions.mpr
        ⟨id, link, attached, of, .inr ⟨executionId, execution, rfl, found, same⟩⟩)
      exact ⟨executionId, execution, found, same, by simpa using this⟩
  · intro executed row hm
    obtain ⟨id, link, attached, of, hrow⟩ := mem_linkedExecutions.mp hm
    obtain ⟨doneId, done, hdone, hwork, hstatus⟩ := executed id link attached of
    rcases hrow with ⟨rfl, hfree⟩ | ⟨executionId, execution, rfl, found, same⟩
    · have := hfree doneId done hdone
      simp [hwork] at this
    · obtain rfl := unique executionId doneId execution done found hdone (same.trans hwork.symm)
      obtain rfl := Option.some.inj (found.symm.trans hdone)
      simpa using hstatus

theorem executed_congr (hlinks : facts'.links = facts.links)
    (same : ∀ id link, facts.links.find? id = some link → link.productionOrderId = orderId →
      (WorkOrderDone facts' link.workOrderId ↔ WorkOrderDone facts link.workOrderId)) :
    Executed facts' orderId ↔ Executed facts orderId := by
  unfold Executed
  rw [hlinks]
  exact forall₄_congr fun id link attached of => same id link attached of

end MiniOgas
