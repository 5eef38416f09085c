import MiniOgas.ControlTables
import Mathlib.Data.List.MinMax

namespace MiniOgas

/-- The names in `PRODUCTS`. -/
def productNames : List (String × String) :=
  [("P1", "标准轴"), ("P2", "法兰"), ("P3", "齿轮毛坯"), ("P4", "精密套筒"), ("P5", "定制连接器")]

def productName (productCode : String) : String :=
  (productNames.lookup (canonicalProductCode productCode)).getD productCode

structure PlannedTask extends DispatchTask where
  productName : String
  route : List String

/-- The part of `MemoryStore` that the dispatch is built from. -/
structure DispatchState where
  store : MemoryStore
  productionPlans : List ProductionPlan
  dispatchTasks : List PlannedTask
  dispatchSeq : Nat

def Machine.usable (store : MemoryStore) (machine : Machine) : Bool :=
  !(["maintenance", "offline"].contains machine.status) &&
    (store.nodes.get? machine.nodeCode).any fun node =>
      node.status ≠ .isolated && node.status ≠ .offline

section Dispatch

variable (store : MemoryStore)

def availableMachineFor (process : String) : Option Machine :=
  let usableMachines := store.machines.filter (·.usable store)
  let preferred : List Machine := match processWorkshop.lookup process with
    | none => []
    | some preferredType => usableMachines.filter fun machine =>
      (store.nodes.get? machine.nodeCode).any (·.workshopType = preferredType)
  (if preferred.isEmpty then usableMachines else preferred).argmin (·.loadRate)

/-- The task of `rebuild_dispatch` for a step of a plan. -/
def dispatchTask (id : Nat) (plan : ProductionPlan) (process : String) : PlannedTask :=
  match availableMachineFor store process with
  | none =>
    { id
      productCode := plan.productCode
      productName := productName plan.productCode
      route := [process]
      assignedNode := ""
      assignedMachine := "waiting-capacity"
      quantity := plan.targetQuantity
      priority := plan.priority
      status := "blocked"
      reason := s!"{process} 工序暂无可用设备，等待产能释放。" }
  | some machine =>
    { id
      productCode := plan.productCode
      productName := productName plan.productCode
      route := [process]
      assignedNode := machine.nodeCode
      assignedMachine := machine.machineCode
      quantity := plan.targetQuantity
      priority := plan.priority
      status := if machine.loadRate < 80 then "scheduled" else "queued"
      reason := s!"{process} 工序分配到 {machine.machineCode}" ++
        s!"（负载 {roundHalfEven machine.loadRate}%）。" }

/-- One round of the inner loop of `rebuild_dispatch`. -/
def DispatchState.dispatch (plan : ProductionPlan) (state : DispatchState) (process : String) :
    DispatchState :=
  { state with
    dispatchSeq := state.dispatchSeq + 1
    dispatchTasks := state.dispatchTasks ++
      [dispatchTask state.store (state.dispatchSeq + 1) plan process] }

def rebuildDispatch (state : DispatchState) : DispatchState :=
  state.productionPlans.foldl (fun state plan => plan.route.foldl (·.dispatch plan) state)
    { state with dispatchTasks := [] }

end Dispatch

/-- A machine that can take a task: it runs, and so does its node. -/
def Machine.CanRun (store : MemoryStore) (machine : Machine) : Prop :=
  machine.status ≠ "maintenance" ∧ machine.status ≠ "offline" ∧
    ∃ node, store.nodes.get? machine.nodeCode = some node ∧ node.status ≠ .isolated ∧
      node.status ≠ .offline

def Machine.Suits (store : MemoryStore) (process : String) (machine : Machine) : Prop :=
  ∃ node, store.nodes.get? machine.nodeCode = some node ∧
    processWorkshop.lookup process = some node.workshopType

structure Machine.Chosen (store : MemoryStore) (process : String) (machine : Machine) : Prop where
  member : machine ∈ store.machines
  canRun : machine.CanRun store
  suited : (∃ other ∈ store.machines, other.CanRun store ∧ other.Suits store process) →
    machine.Suits store process ∧ ∀ other ∈ store.machines, other.CanRun store →
      other.Suits store process → machine.loadRate ≤ other.loadRate
  unsuited : (¬∃ other ∈ store.machines, other.CanRun store ∧ other.Suits store process) →
    ∀ other ∈ store.machines, other.CanRun store → machine.loadRate ≤ other.loadRate

structure PlannedTask.Serves (store : MemoryStore) (step : ProductionPlan × String)
    (task : PlannedTask) : Prop where
  product : task.productCode = step.1.productCode
  process : task.route = [step.2]
  quantity : task.quantity = step.1.targetQuantity
  priority : task.priority = step.1.priority
  blocked : task.status = "blocked" ↔ ∀ machine ∈ store.machines, ¬machine.CanRun store
  waiting : task.status = "blocked" → task.assignedNode = ""
  assigned : task.status ≠ "blocked" → ∃ machine : Machine, machine.Chosen store step.2 ∧
    task.assignedMachine = machine.machineCode ∧ task.assignedNode = machine.nodeCode

def planSteps (plans : List ProductionPlan) : List (ProductionPlan × String) :=
  plans.flatMap fun plan => plan.route.map fun process => (plan, process)

section Laws

variable {store : MemoryStore} {state : DispatchState} {plan : ProductionPlan}
  {process : String} {machine : Machine} {id : Nat} {steps : List (ProductionPlan × String)}
  {seq : Nat}

theorem usable_iff : machine.usable store = true ↔ machine.CanRun store := by
  unfold Machine.usable Machine.CanRun
  rw [Bool.and_eq_true, Option.any_eq_true]
  simp [and_assoc]

theorem chosen_of_argmin {machines : List Machine} {P : Machine → Prop}
    (only : ∀ other, other ∈ machines ↔ P other)
    (least : machines.argmin (·.loadRate) = some machine) :
    P machine ∧ ∀ other, P other → machine.loadRate ≤ other.loadRate :=
  ⟨(only machine).mp (List.argmin_mem least),
    fun other candidate => List.le_of_mem_argmin ((only other).mpr candidate) least⟩

theorem mem_preferred {preferredType : String} (typed : processWorkshop.lookup process =
    some preferredType) :
    machine ∈ (store.machines.filter (·.usable store)).filter (fun machine : Machine =>
      (store.nodes.get? machine.nodeCode).any (·.workshopType = preferredType)) ↔
      (machine ∈ store.machines ∧ machine.CanRun store) ∧ machine.Suits store process := by
  rw [List.mem_filter, List.mem_filter, usable_iff, Option.any_eq_true]
  unfold Machine.Suits
  rw [typed]
  refine and_congr_right fun _ => exists_congr fun node => and_congr_right fun _ => ?_
  rw [decide_eq_true_iff, Option.some_inj, eq_comm]

theorem availableMachineFor_eq_some (found : availableMachineFor store process = some machine) :
    machine.Chosen store process := by
  have running : ∀ other, other ∈ store.machines.filter (·.usable store) ↔
      other ∈ store.machines ∧ other.CanRun store := by
    intro other
    rw [List.mem_filter, usable_iff]
  unfold availableMachineFor at found
  cases typed : processWorkshop.lookup process with
  | none =>
    rw [typed] at found
    obtain ⟨⟨member, canRun⟩, least⟩ := chosen_of_argmin running found
    refine ⟨member, canRun, ?_, fun _ other there runs => least other ⟨there, runs⟩⟩
    rintro ⟨other, -, -, node, -, same⟩
    rw [typed] at same
    cases same
  | some preferredType =>
    rw [typed] at found
    dsimp only at found
    have suited : ∀ other, _ ↔ _ :=
      fun other => @mem_preferred store process other preferredType typed
    split at found
    next none =>
      rw [List.isEmpty_iff] at none
      have nobody : ¬∃ other ∈ store.machines, other.CanRun store ∧ other.Suits store process := by
        rintro ⟨other, there, runs, suits⟩
        have listed := (suited other).mpr ⟨⟨there, runs⟩, suits⟩
        rw [none] at listed
        cases listed
      obtain ⟨⟨member, canRun⟩, least⟩ := chosen_of_argmin running found
      exact ⟨member, canRun, fun some => absurd some nobody,
        fun _ other there runs => least other ⟨there, runs⟩⟩
    next some =>
      obtain ⟨⟨⟨member, canRun⟩, suits⟩, least⟩ := chosen_of_argmin suited found
      refine ⟨member, canRun, fun _ => ⟨suits, fun other there runs suits => ?_⟩, fun none => ?_⟩
      · exact least other ⟨⟨there, runs⟩, suits⟩
      · exact absurd ⟨machine, member, canRun, suits⟩ none

theorem availableMachineFor_eq_none :
    availableMachineFor store process = none ↔
      ∀ machine ∈ store.machines, ¬machine.CanRun store := by
  have running : store.machines.filter (·.usable store) = [] ↔
      ∀ machine ∈ store.machines, ¬machine.CanRun store := by
    rw [List.filter_eq_nil_iff]
    exact forall_congr' fun machine => imp_congr_right fun _ => not_congr usable_iff
  rw [← running]
  unfold availableMachineFor
  rw [List.argmin_eq_none]
  cases processWorkshop.lookup process with
  | none => exact Iff.rfl
  | some preferredType =>
    dsimp only
    split
    next => exact Iff.rfl
    next some =>
      refine iff_of_false (fun none => some (List.isEmpty_iff.mpr none)) fun none => some ?_
      rw [none]
      rfl

theorem dispatchTask_serves (id : Nat) (plan : ProductionPlan) (process : String) :
    (dispatchTask store id plan process).Serves store (plan, process) := by
  unfold dispatchTask
  cases found : availableMachineFor store process with
  | none =>
    have blocked := availableMachineFor_eq_none.mp found
    exact ⟨rfl, rfl, rfl, rfl, iff_of_true rfl blocked, fun _ => rfl, fun free => absurd rfl free⟩
  | some machine =>
    have chosen := availableMachineFor_eq_some found
    have free : (if machine.loadRate < 80 then "scheduled" else "queued") ≠ "blocked" := by
      split <;> decide
    refine ⟨rfl, rfl, rfl, rfl, iff_of_false free fun none => ?_,
      fun blocked => absurd blocked free, fun _ => ⟨machine, chosen, rfl, rfl⟩⟩
    exact none machine chosen.member chosen.canRun

structure Dispatched (store : MemoryStore) (seq : Nat) (steps : List (ProductionPlan × String))
    (state : DispatchState) : Prop where
  same : state.store = store
  counted : state.dispatchSeq = seq + steps.length
  tasks : List.Forall₂ (fun step task => PlannedTask.Serves store step task) steps
    state.dispatchTasks
  ids : state.dispatchTasks.map (·.id) = (List.range' (seq + 1) steps.length).map Int.ofNat

theorem Dispatched.step (done : Dispatched store seq steps state)
    (plan : ProductionPlan) (process : String) :
    Dispatched store seq (steps ++ [(plan, process)]) (state.dispatch plan process) := by
  obtain ⟨same, counted, tasks, ids⟩ := done
  unfold DispatchState.dispatch
  rw [same, counted]
  refine ⟨rfl, ?_, ?_, ?_⟩
  · rw [List.length_append, List.length_singleton, ← Nat.add_assoc]
  · exact List.rel_append tasks (.cons (dispatchTask_serves _ plan process) .nil)
  · rw [List.map_append, ids, List.length_append, List.length_singleton, List.range'_concat,
      List.map_append]
    unfold dispatchTask
    split <;> simp <;> omega

theorem Dispatched.route (done : Dispatched store seq steps state)
    (plan : ProductionPlan) (route : List String) :
    Dispatched store seq (steps ++ route.map fun process => (plan, process))
      (route.foldl (·.dispatch plan) state) := by
  induction route generalizing steps state with
  | nil => simpa using done
  | cons process route ih => simpa using ih (done.step plan process)

theorem Dispatched.plans (done : Dispatched store seq steps state)
    (plans : List ProductionPlan) :
    Dispatched store seq (steps ++ planSteps plans)
      (plans.foldl (fun state plan => plan.route.foldl (·.dispatch plan) state) state) := by
  unfold planSteps
  induction plans generalizing steps state with
  | nil => simpa using done
  | cons plan plans ih => simpa using ih (done.route plan plan.route)

/-- For every plan and every step of its route `rebuild_dispatch` leaves one task, in this order:
blocked if no machine can run, and otherwise on a least loaded machine, of the step's workshop
if one of its machines can run. -/
theorem rebuildDispatch_serves (state : DispatchState) :
    List.Forall₂ (fun step task => PlannedTask.Serves state.store step task)
      (planSteps state.productionPlans) (rebuildDispatch state).dispatchTasks ∧
    (rebuildDispatch state).dispatchTasks.map (·.id) =
      (List.range' (state.dispatchSeq + 1) (planSteps state.productionPlans).length).map
        Int.ofNat := by
  have start : Dispatched state.store state.dispatchSeq [] { state with dispatchTasks := [] } :=
    ⟨rfl, rfl, .nil, rfl⟩
  obtain ⟨-, -, tasks, ids⟩ := start.plans state.productionPlans
  exact ⟨tasks, ids⟩

end Laws

end MiniOgas
