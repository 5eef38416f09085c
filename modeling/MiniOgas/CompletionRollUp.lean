import MiniOgas.OrderRollUp

namespace MiniOgas

open Relational Serial

variable {facts facts' : ExecutionFacts} {order : ProductionOrder}
  {link : ProductionOrderLink} {executionId : Nat}

def WorkOrderExecution.keys (execution : WorkOrderExecution) : Nat × Nat :=
  (execution.productionOrderId, execution.workOrderId)

structure Evolves (facts facts' : ExecutionFacts) : Prop where
  links : facts'.links = facts.links
  executions : ∀ id, (facts'.executions.find? id).map WorkOrderExecution.keys =
    (facts.executions.find? id).map WorkOrderExecution.keys
  orders : ∀ id, (facts'.productionOrders.find? id).isSome =
    (facts.productionOrders.find? id).isSome

theorem Evolves.execution (h : Evolves facts facts') {id : Nat} {execution' : WorkOrderExecution}
    (found : facts'.executions.find? id = some execution') :
    ∃ execution, facts.executions.find? id = some execution ∧
      execution.productionOrderId = execution'.productionOrderId ∧
      execution.workOrderId = execution'.workOrderId := by
  have hmap := h.executions id
  rw [found] at hmap
  obtain ⟨execution, hfound, hkeys⟩ := Option.map_eq_some_iff.mp hmap.symm
  obtain ⟨horder, hwork⟩ := Prod.mk.inj hkeys
  exact ⟨execution, hfound, horder, hwork⟩

theorem Evolves.unique (evolves : Evolves facts facts') (h : RolledUp facts) :
    ∀ i j a b, facts'.executions.find? i = some a → facts'.executions.find? j = some b →
      a.workOrderId = b.workOrderId → i = j := by
  intro i j a b hi hj same
  obtain ⟨olda, hfounda, -, hworka⟩ := evolves.execution hi
  obtain ⟨oldb, hfoundb, -, hworkb⟩ := evolves.execution hj
  exact h.execution_unique i j olda oldb hfounda hfoundb (by rw [hworka, hworkb, same])

theorem Evolves.rolledUp (evolves : Evolves facts facts') (h : RolledUp facts)
    (execution_order : ∀ id execution order, facts'.executions.find? id = some execution →
      facts'.productionOrders.find? execution.productionOrderId = some order →
      order.status ≠ .draft ∧ order.status ≠ .released)
    (execution_done : ∀ id execution, facts'.executions.find? id = some execution →
      (execution.status.done = true ↔ AllDone facts' id))
    (closed_tasks : ∀ id execution, facts'.executions.find? id = some execution →
      execution.status = .closed → ∀ taskId task, facts'.tasks.find? taskId = some task →
      task.workOrderExecutionId = id → task.status = .closed)
    (unreleased : ∀ id order, facts'.productionOrders.find? id = some order →
      (order.releasedAt = none ↔ order.status = .draft) ∧ order.status ≠ .cancelled)
    (order_done : ∀ id order, facts'.productionOrders.find? id = some order →
      (order.status.done = true ↔ order.status ≠ .draft ∧ Executed facts' id))
    (closed_executions : ∀ id order, facts'.productionOrders.find? id = some order →
      order.status = .closed → ∀ executionId execution,
      facts'.executions.find? executionId = some execution →
      execution.productionOrderId = id → execution.status = .closed) : RolledUp facts' := by
  refine ⟨?_, ?_, ?_, evolves.unique h, execution_order, execution_done, closed_tasks, unreleased,
    order_done, closed_executions⟩
  · intro id link attached
    rw [evolves.links] at attached
    rw [evolves.orders]
    exact h.link_order id link attached
  · rw [evolves.links]
    exact h.link_unique
  · intro id execution' found
    obtain ⟨execution, hfound, horder, hwork⟩ := evolves.execution found
    rw [evolves.links, ← horder, ← hwork]
    exact h.execution_link id execution hfound

theorem evolves_setOrder (orderId : Nat) (order' : ProductionOrder) :
    Evolves facts { facts with productionOrders := facts.productionOrders.set orderId order' } :=
  ⟨rfl, fun _ => rfl, fun id => Table.isSome_find?_set _ _ _ id⟩

theorem evolves_setExecution {old : WorkOrderExecution}
    (execution : WorkOrderExecution)
    (found : facts.executions.find? executionId = some old) (same : execution.keys = old.keys)
    (executions : facts'.executions = facts.executions.set executionId execution)
    (links : facts'.links = facts.links)
    (orders : ∀ id, (facts'.productionOrders.find? id).isSome =
      (facts.productionOrders.find? id).isSome) : Evolves facts facts' := by
  refine ⟨links, fun id => ?_, orders⟩
  rw [executions, Table.find?_set]
  split
  next he =>
    subst he
    simp [found, same]
  next => rfl

theorem rolledUp_orderCreated (draft : order.status = .draft) (unstamped : order.releasedAt = none)
    (h : RolledUp facts) :
    RolledUp { facts with productionOrders := facts.productionOrders.insert order } := by
  refine { h with
    link_order := ?_, execution_order := ?_
    unreleased := Table.forall_insert (by simp [draft, unstamped]) h.unreleased
    order_done := Table.forall_insert (by simp [draft, ProductionOrderStatus.done]) h.order_done
    closed_executions := Table.forall_insert (by simp [draft]) h.closed_executions }
  · intro id link attached
    exact Table.isSome_find?_insert (h.link_order id link attached)
  · intro id execution row found hrow
    rcases Table.of_find?_insert hrow with ⟨hid, rfl⟩ | old
    · obtain ⟨linkId, link, attached, -, horder⟩ := h.execution_link id execution found
      have := h.link_order linkId link attached
      simp [horder, hid] at this
    · exact h.execution_order id execution row found old

theorem rolledUp_attached
    (found : facts.productionOrders.find? link.productionOrderId = some order)
    (draft : order.status = .draft) (fresh : facts.links.Free (·.workOrderId = link.workOrderId))
    (h : RolledUp facts) : RolledUp { facts with links := facts.links.insert link } := by
  have other : ∀ id row, facts.links.find? id = some row → row.workOrderId ≠ link.workOrderId :=
    fun id row hrow => by simpa using fresh id row hrow
  refine { h with link_order := ?_, link_unique := ?_, execution_link := ?_, order_done := ?_ }
  · exact Table.forall_insert (Option.isSome_iff_exists.mpr ⟨order, found⟩) h.link_order
  · intro i j a b hi hj same
    rcases Table.of_find?_insert hi with ⟨hi, rfl⟩ | oldi
    · rcases Table.of_find?_insert hj with ⟨hj, rfl⟩ | oldj
      · omega
      · exact absurd same.symm (other j b oldj)
    · rcases Table.of_find?_insert hj with ⟨-, rfl⟩ | oldj
      · exact absurd same (other i a oldi)
      · exact h.link_unique i j a b oldi oldj same
  · intro id execution hexecution
    obtain ⟨linkId, row, attached, hwork, horder⟩ := h.execution_link id execution hexecution
    exact ⟨linkId, row, Table.find?_insert_of_find? _ attached, hwork, horder⟩
  · intro id row hrow
    refine (h.order_done id row hrow).trans (and_congr_right fun issued => ?_)
    constructor
    · intro executed linkId new hnew of
      rcases Table.of_find?_insert hnew with ⟨-, rfl⟩ | old
      · obtain rfl := Option.some.inj (found.symm.trans (of ▸ hrow))
        exact absurd draft issued
      · exact executed linkId new old of
    · intro executed linkId old hold of
      exact executed linkId old (Table.find?_insert_of_find? _ hold) of

theorem rolledUp_orderReleased {orderId linkId : Nat} {order order' : ProductionOrder}
    (found : facts.productionOrders.find? orderId = some order) (draft : order.status = .draft)
    (attached : facts.links.find? linkId = some link) (of : link.productionOrderId = orderId)
    (released : order'.status = .released) (stamped : order'.releasedAt.isSome = true)
    (h : RolledUp facts) :
    RolledUp { facts with productionOrders := facts.productionOrders.set orderId order' } := by
  have idle : ∀ id execution, facts.executions.find? id = some execution →
      execution.productionOrderId ≠ orderId := by
    rintro id execution hexecution rfl
    exact (h.execution_order id execution order hexecution found).1 draft
  refine (evolves_setOrder orderId order').rolledUp h ?_ h.execution_done h.closed_tasks ?_ ?_ ?_
  · intro id execution row hexecution hrow
    rcases Table.of_find?_set hrow with ⟨hid, -⟩ | ⟨-, old⟩
    · exact absurd hid (idle id execution hexecution)
    · exact h.execution_order id execution row hexecution old
  · obtain ⟨at_, hat⟩ := Option.isSome_iff_exists.mp stamped
    exact Table.forall_set (by simp [released, hat]) h.unreleased
  · refine Table.forall_set ?_ h.order_done
    simp only [released, ProductionOrderStatus.done]
    refine iff_of_false (by simp) ?_
    rintro ⟨-, executed⟩
    obtain ⟨id, execution, hexecution, hwork, -⟩ := executed linkId link attached of
    exact idle id execution hexecution ((h.owner attached hexecution hwork).trans of)
  · exact Table.forall_set (by simp [released]) h.closed_executions

theorem rolledUp_orderClosed {orderId : Nat} {order order' : ProductionOrder}
    (found : facts.productionOrders.find? orderId = some order)
    (completed : order.status = .completed)
    (executions : ∀ row ∈ linkedExecutions facts orderId,
      row.any (fun execution => decide (execution.status = .closed)) = true)
    (closed : order'.status = .closed) (stamped : order'.releasedAt = order.releasedAt)
    (h : RolledUp facts) :
    RolledUp { facts with productionOrders := facts.productionOrders.set orderId order' } := by
  refine (evolves_setOrder orderId order').rolledUp h ?_ h.execution_done h.closed_tasks ?_ ?_ ?_
  · intro id execution row hexecution hrow
    rcases Table.of_find?_set hrow with ⟨-, rfl⟩ | ⟨-, old⟩
    · simp [closed]
    · exact h.execution_order id execution row hexecution old
  · refine Table.forall_set ?_ h.unreleased
    rw [stamped, closed, (h.unreleased orderId order found).1, completed]
    simp
  · have := (h.order_done _ order found).mp (by rw [completed]; rfl)
    exact Table.forall_set (iff_of_true (by rw [closed]; rfl) ⟨by simp [closed], this.2⟩)
      h.order_done
  · refine Table.forall_set (fun _ executionId execution hexecution of => ?_) h.closed_executions
    obtain ⟨linkId, link, attached, hwork, horder⟩ :=
      h.execution_link executionId execution hexecution
    have := executions (some execution) (mem_linkedExecutions.mpr ⟨linkId, link, attached,
      horder.trans of, .inr ⟨executionId, execution, rfl, hexecution, hwork.symm⟩⟩)
    simpa using this

variable {mid : ExecutionFacts} {taskId : Nat} {task : OperationTask}

theorem WorkOrderDone.congr {workOrderId : Nat}
    (same : ∀ id, (facts'.executions.find? id).map (fun e => (e.workOrderId, e.status.done)) =
      (facts.executions.find? id).map fun e => (e.workOrderId, e.status.done)) :
    WorkOrderDone facts' workOrderId ↔ WorkOrderDone facts workOrderId := by
  have key : ∀ f : ExecutionFacts, WorkOrderDone f workOrderId ↔
      ∃ id, (f.executions.find? id).map (fun e => (e.workOrderId, e.status.done)) =
        some (workOrderId, true) := by
    intro f
    constructor
    · rintro ⟨id, execution, found, hwork, hdone⟩
      exact ⟨id, by rw [found, Option.map_some, hwork, hdone]⟩
    · rintro ⟨id, h⟩
      obtain ⟨execution, found, hpair⟩ := Option.map_eq_some_iff.mp h
      obtain ⟨hwork, hdone⟩ := Prod.mk.inj hpair
      exact ⟨id, execution, found, hwork, hdone⟩
  rw [key, key]
  simp only [same]

theorem rolledUp_executionClosed {execution execution' : WorkOrderExecution}
    (found : facts.executions.find? executionId = some execution)
    (completed : execution.status = .completed)
    (tasks : ∀ id task, facts.tasks.find? id = some task →
      task.workOrderExecutionId = executionId → task.status = .closed)
    (closed : execution'.status = .closed)
    (same : execution'.productionOrderId = execution.productionOrderId ∧
      execution'.workOrderId = execution.workOrderId) (h : RolledUp facts) :
    RolledUp { facts with executions := facts.executions.set executionId execution' } := by
  have evolves : Evolves facts
      { facts with executions := facts.executions.set executionId execution' } :=
    evolves_setExecution execution' found (Prod.ext same.1 same.2) rfl rfl fun _ => rfl
  refine evolves.rolledUp h ?_ ?_ ?_ h.unreleased ?_ ?_
  · intro id row order hrow horder
    rcases Table.of_find?_set hrow with ⟨rfl, rfl⟩ | ⟨-, old⟩
    · exact h.execution_order _ execution order found (by rw [← same.1]; exact horder)
    · exact h.execution_order id row order old horder
  · exact Table.forall_set (iff_of_true (by rw [closed]; rfl)
      ((h.execution_done _ execution found).mp (by rw [completed]; rfl))) h.execution_done
  · exact Table.forall_set (fun _ => tasks) h.closed_tasks
  · intro id order horder
    rw [h.order_done id order horder]
    refine and_congr_right fun _ => Iff.symm ?_
    refine executed_congr rfl fun _ _ _ _ => WorkOrderDone.congr fun id => ?_
    simp only [Table.find?_set]
    split
    next he =>
      subst he
      simp [found, same, closed, completed, ExecutionStatus.done]
    next => rfl
  · intro id order horder hclosed eid row hrow of
    rcases Table.of_find?_set hrow with ⟨rfl, rfl⟩ | ⟨-, old⟩
    · exact closed
    · exact h.closed_executions id order horder hclosed eid row old of

theorem allDone_set {new : OperationTask}
    (found : facts.tasks.find? taskId = some task)
    (tasks : mid.tasks = facts.tasks.set taskId new)
    (same : new.workOrderExecutionId = task.workOrderExecutionId)
    (done : executionId = task.workOrderExecutionId → new.status.done = task.status.done) :
    AllDone mid executionId ↔ AllDone facts executionId := by
  constructor
  · intro all id old hold of
    by_cases hid : id = taskId
    · subst hid
      obtain rfl := Option.some.inj (found.symm.trans hold)
      rw [← done of.symm]
      exact all id new (by rw [tasks, Table.find?_set_self new found]) (same.trans of)
    · exact all id old (by rw [tasks, Table.find?_set_ne new hid, hold]) of
  · intro all id row hrow of
    rw [tasks] at hrow
    rcases Table.of_find?_set hrow with ⟨rfl, rfl⟩ | ⟨-, old⟩
    · rw [done (of.symm.trans same)]
      exact all _ task found (same.symm.trans of)
    · exact all id row old of

theorem rolledUp_kept {new : OperationTask}
    {f : Nat → WorkOrderExecution → WorkOrderExecution}
    (found : facts.tasks.find? taskId = some task)
    (tasks : facts'.tasks = facts.tasks.set taskId new)
    (same : new.workOrderExecutionId = task.workOrderExecutionId)
    (done : new.status.done = task.status.done) (unclosed : task.status ≠ .closed)
    (links : facts'.links = facts.links)
    (orders : facts'.productionOrders = facts.productionOrders)
    (executions : ∀ id, facts'.executions.find? id = (facts.executions.find? id).map (f id))
    (keeps : ∀ id execution, (f id execution).keys = execution.keys ∧
      (f id execution).status.done = execution.status.done ∧
      ((f id execution).status = .closed ↔ execution.status = .closed)) (h : RolledUp facts) :
    RolledUp facts' := by
  have back : ∀ {id execution'}, facts'.executions.find? id = some execution' →
      ∃ execution, facts.executions.find? id = some execution ∧ f id execution = execution' :=
    fun hrow => Option.map_eq_some_iff.mp ((executions _).symm.trans hrow)
  have evolves : Evolves facts facts' := by
    refine ⟨links, fun id => ?_, fun id => by rw [orders]⟩
    rw [executions, Option.map_map]
    exact congrFun (congrArg Option.map (funext fun e => (keeps id e).1)) _
  refine evolves.rolledUp h ?_ ?_ ?_ (by rw [orders]; exact h.unreleased) ?_ ?_
  · intro id row order hrow horder
    obtain ⟨old, hold, rfl⟩ := back hrow
    rw [orders] at horder
    obtain ⟨hkeys, -⟩ := Prod.mk.inj (keeps id old).1
    exact h.execution_order id old order hold (by rw [← hkeys]; exact horder)
  · intro id row hrow
    obtain ⟨old, hold, rfl⟩ := back hrow
    rw [(keeps id old).2.1, h.execution_done id old hold]
    exact (allDone_set found tasks same fun _ => done).symm
  · intro id row hrow hclosed tid new' hnew of
    obtain ⟨old, hold, rfl⟩ := back hrow
    have allClosed := h.closed_tasks id old hold ((keeps id old).2.2.mp hclosed)
    rw [tasks] at hnew
    rcases Table.of_find?_set hnew with ⟨rfl, rfl⟩ | ⟨-, hold'⟩
    · exact absurd (allClosed _ task found (same.symm.trans of)) unclosed
    · exact allClosed tid new' hold' of
  · intro id order horder
    rw [orders] at horder
    rw [h.order_done id order horder]
    refine and_congr_right fun _ => (executed_congr links fun _ _ _ _ => ?_).symm
    refine WorkOrderDone.congr fun id => ?_
    rw [executions, Option.map_map]
    refine congrFun (congrArg Option.map (funext fun e => ?_)) _
    obtain ⟨-, hwork⟩ := Prod.mk.inj (keeps id e).1
    exact Prod.ext hwork (keeps id e).2.1
  · intro id order horder hclosed eid row hrow of
    rw [orders] at horder
    obtain ⟨old, hold, rfl⟩ := back hrow
    obtain ⟨hkeys, -⟩ := Prod.mk.inj (keeps eid old).1
    exact (keeps eid old).2.2.mpr
      (h.closed_executions id order horder hclosed eid old hold (by rw [← hkeys]; exact of))

/-- The dispatch of a work order keeps the roll-up of its production order. -/
theorem rolledUp_dispatched {linkId : Nat} {link : ProductionOrderLink} {order : ProductionOrder}
    {execution : WorkOrderExecution} {tasks : List OperationTask}
    {assignments : List TaskAssignment} {history : List TaskHistory}
    (attached : facts.links.find? linkId = some link)
    (found : facts.productionOrders.find? link.productionOrderId = some order)
    (released : order.status = .released ∨ order.status = .inProgress)
    (fresh : facts.executions.Free (·.workOrderId = link.workOrderId))
    (of : execution.productionOrderId = link.productionOrderId ∧
      execution.workOrderId = link.workOrderId ∧ execution.status = .dispatched)
    (nonempty : tasks ≠ [])
    (materialized : Materialized facts link.workOrderId tasks assignments history)
    (h : RolledUp facts)
    (hlinks : facts'.links = facts.links)
    (hexecutions : facts'.executions = facts.executions.insert execution)
    (htasks : facts'.tasks = facts.tasks.insertAll tasks)
    (horders : facts'.productionOrders = facts.productionOrders.updateAt link.productionOrderId
      (·.status = .released) fun row => { row with status := .inProgress }) : RolledUp facts' := by
  have splitE : ∀ id row, facts'.executions.find? id = some row →
      id = facts.executions.nextId ∧ row = execution ∨ facts.executions.find? id = some row := by
    intro id row hrow
    rw [hexecutions] at hrow
    exact Table.of_find?_insert hrow
  have splitO : ∀ id row, facts'.productionOrders.find? id = some row →
      id = link.productionOrderId ∧ row.status = .inProgress ∧ row.releasedAt = order.releasedAt ∨
        id ≠ link.productionOrderId ∧ facts.productionOrders.find? id = some row := by
    intro id row hrow
    rw [horders, Table.find?_updateAt] at hrow
    obtain ⟨old, hold, hrow⟩ := Option.map_eq_some_iff.mp hrow
    by_cases hid : id = link.productionOrderId
    · subst hid
      obtain rfl := Option.some.inj (found.symm.trans hold)
      refine .inl ⟨rfl, ?_⟩
      rcases released with hs | hs
      · rw [← hrow, if_pos ⟨rfl, by simp [hs]⟩]
        exact ⟨rfl, rfl⟩
      · rw [← hrow, if_neg (by simp [hs])]
        exact ⟨hs, rfl⟩
    · rw [if_neg (by simp [hid])] at hrow
      exact .inr ⟨hid, by rw [hold, hrow]⟩
  have splitT : ∀ id row, facts'.tasks.find? id = some row →
      row.workOrderExecutionId = facts.executions.nextId ∨ facts.tasks.find? id = some row := by
    intro id row hrow
    rw [htasks] at hrow
    rcases Table.of_find?_insertAll hrow with hrow | ⟨-, member⟩
    · exact .inr hrow
    · exact .inl (materialized.owned row member).1
  have keepT : ∀ id row, facts.tasks.find? id = some row → facts'.tasks.find? id = some row := by
    intro id row hrow
    rw [htasks, Table.find?_insertAll, if_pos (Table.lt_nextId_of_find? hrow), hrow]
  have keepE : ∀ id row, facts.executions.find? id = some row →
      facts'.executions.find? id = some row := by
    intro id row hrow
    rw [hexecutions, Table.find?_insert_of_find? _ hrow]
  have idle : ∀ id row, facts.executions.find? id = some row →
      row.workOrderId ≠ link.workOrderId := fun id row hrow => by simpa using fresh id row hrow
  refine ⟨?_, ?_, ?_, ?_, ?_, ?_, ?_, ?_, ?_, ?_⟩
  · intro id row hrow
    rw [horders, Table.isSome_find?_updateAt]
    rw [hlinks] at hrow
    exact h.link_order id row hrow
  · rw [hlinks]
    exact h.link_unique
  · intro id row hrow
    rw [hlinks]
    rcases splitE id row hrow with ⟨-, rfl⟩ | old
    · exact ⟨linkId, link, attached, of.2.1.symm, of.1.symm⟩
    · exact h.execution_link id row old
  · intro i j a b hi hj same
    rcases splitE i a hi with ⟨hi, rfl⟩ | oldi
    · rcases splitE j b hj with ⟨hj, rfl⟩ | oldj
      · omega
      · exact absurd (same.symm.trans of.2.1) (idle j b oldj)
    · rcases splitE j b hj with ⟨-, rfl⟩ | oldj
      · exact absurd (same.trans of.2.1) (idle i a oldi)
      · exact h.execution_unique i j a b oldi oldj same
  · intro id row other hrow hother
    rcases splitO _ other hother with ⟨-, hs, -⟩ | ⟨hne, oldO⟩
    · simp [hs]
    · rcases splitE id row hrow with ⟨-, rfl⟩ | oldE
      · exact absurd of.1 hne
      · exact h.execution_order id row other oldE oldO
  · intro id row hrow
    rcases splitE id row hrow with ⟨rfl, rfl⟩ | old
    · refine iff_of_false (by simp [of.2.2, ExecutionStatus.done]) fun all => ?_
      obtain ⟨task, hm⟩ := List.exists_mem_of_ne_nil _ nonempty
      obtain ⟨k, hk⟩ := List.mem_iff_getElem?.mp hm
      obtain ⟨howner, -, hstatus⟩ := materialized.owned task hm
      have := all (facts.tasks.nextId + k) task
        (by rw [htasks, Table.find?_insertAll, if_neg (by omega), Nat.add_sub_cancel_left, hk])
        howner
      simp [hstatus, TaskStatus.done] at this
    · rw [h.execution_done id row old]
      have hlt := Table.lt_nextId_of_find? old
      constructor
      · intro all tid task htask hof
        rcases splitT tid task htask with hnew | hold
        · omega
        · exact all tid task hold hof
      · intro all tid task htask hof
        exact all tid task (keepT tid task htask) hof
  · intro id row hrow hclosed tid task htask hof
    rcases splitE id row hrow with ⟨-, rfl⟩ | old
    · simp [of.2.2] at hclosed
    · have hlt := Table.lt_nextId_of_find? old
      rcases splitT tid task htask with hnew | hold
      · omega
      · exact h.closed_tasks id row old hclosed tid task hold hof
  · intro id row hrow
    rcases splitO id row hrow with ⟨rfl, hs, hr⟩ | ⟨-, old⟩
    · have hold := (h.unreleased _ order found).1
      rw [hr, hold, hs]
      rcases released with hs' | hs' <;> simp [hs']
    · exact h.unreleased id row old
  · intro id row hrow
    rcases splitO id row hrow with ⟨rfl, hs, -⟩ | ⟨hne, old⟩
    · refine iff_of_false (by simp [hs, ProductionOrderStatus.done]) ?_
      rintro ⟨-, executed⟩
      obtain ⟨eid, e, he, hwork, hdone⟩ :=
        executed linkId link (by rw [hlinks]; exact attached) rfl
      rcases splitE eid e he with ⟨-, rfl⟩ | oldE
      · simp [of.2.2, ExecutionStatus.done] at hdone
      · exact idle eid e oldE hwork
    · rw [h.order_done id row old]
      refine and_congr_right fun _ => (executed_congr hlinks fun lid l hl hlo => ?_).symm
      constructor
      · rintro ⟨eid, e, he, hwork, hdone⟩
        rcases splitE eid e he with ⟨-, rfl⟩ | oldE
        · simp [of.2.2, ExecutionStatus.done] at hdone
        · exact ⟨eid, e, oldE, hwork, hdone⟩
      · rintro ⟨eid, e, he, hwork, hdone⟩
        exact ⟨eid, e, keepE eid e he, hwork, hdone⟩
  · intro id row hrow hclosed eid e he hof
    rcases splitO id row hrow with ⟨-, hs, -⟩ | ⟨hne, old⟩
    · simp [hs] at hclosed
    · rcases splitE eid e he with ⟨-, rfl⟩ | oldE
      · exact absurd (hof.symm.trans of.1) hne
      · exact h.closed_executions id row old hclosed eid e oldE hof

end MiniOgas
