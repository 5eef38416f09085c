import MiniOgas.ApprovalGate

namespace MiniOgas

open Bounded Procedure Serial

variable {builtins : Builtins} {state : ControlState} {orderId other : String}
  {status : OrderStatus} {command : NodeCommand} {verdict : DispatchVerdict}
  {verdicts arrival : List (NodeCommand × DispatchVerdict)}

def ControlState.orderStatus (state : ControlState) (orderId : String) : Option OrderStatus :=
  (state.orders.find? (·.orderId = orderId)).map (·.status)

theorem find?_setStatus (orders : List AllocationOrder) :
    (modifyFirst (fun order => order.orderId = orderId)
      (fun order => { order with status := status }) orders).find? (·.orderId = other) =
      if other = orderId then
        (orders.find? (·.orderId = other)).map fun order => { order with status := status }
      else orders.find? (·.orderId = other) := by
  induction orders with
  | nil => simp [modifyFirst]
  | cons order rest ih =>
    rw [modifyFirst]
    by_cases own : order.orderId = orderId
    · by_cases same : other = orderId
      · simp [own, same]
      · have skip : ¬ orderId = other := fun h => same h.symm
        simp [own, same, skip]
    · by_cases named : order.orderId = other
      · have same : ¬ other = orderId := fun h => own (named.trans h)
        simp [named, same]
      · simp only [own, named, decide_false, Bool.false_eq_true, if_false, List.find?_cons, ih]

theorem orderStatus_setOrderStatus :
    (state.setOrderStatus orderId status).orderStatus other =
      if other = orderId then (state.orderStatus other).map fun _ => status
      else state.orderStatus other := by
  unfold ControlState.orderStatus ControlState.setOrderStatus
  rw [find?_setStatus]
  split
  next => rw [Option.map_map, Option.map_map]; rfl
  next => rfl

def NodeCommand.carries (builtins : Builtins) (orderId : String) (command : NodeCommand) : Bool :=
  command.isDispatchTargetRate && command.sourceOrderId builtins = orderId

theorem update_orders :
    (updateDispatchControlStatus builtins command verdict state).orders =
      if command.isDispatchTargetRate then
        (state.setOrderStatus (command.sourceOrderId builtins) verdict.orderStatus).orders
      else state.orders := by
  unfold updateDispatchControlStatus
  split
  next => cases verdict <;> rfl
  next => rfl

theorem orderStatus_update :
    (updateDispatchControlStatus builtins command verdict state).orderStatus orderId =
      if command.carries builtins orderId then
        (state.orderStatus orderId).map fun _ => verdict.orderStatus
      else state.orderStatus orderId := by
  unfold NodeCommand.carries
  unfold ControlState.orderStatus
  rw [update_orders]
  by_cases governed : command.isDispatchTargetRate = true
  · have moved := @orderStatus_setOrderStatus state (command.sourceOrderId builtins) orderId
      verdict.orderStatus
    unfold ControlState.orderStatus at moved
    rw [if_pos governed, moved]
    by_cases own : orderId = command.sourceOrderId builtins
    · simp [own, governed]
    · simp [own, governed, Ne.symm own]
  · simp [governed]

def ControlState.arrive (builtins : Builtins) (state : ControlState)
    (verdicts : List (NodeCommand × DispatchVerdict)) : ControlState :=
  verdicts.foldl (fun state verdict =>
    updateDispatchControlStatus builtins verdict.1 verdict.2 state) state

structure VerdictsOf (builtins : Builtins) (state : ControlState) (orderId : String)
    (verdicts : List (NodeCommand × DispatchVerdict)) : Prop where
  known : (state.orderStatus orderId).isSome = true
  carried : ∀ verdict ∈ verdicts, verdict.1.carries builtins orderId = true
  terminal : ∀ verdict ∈ verdicts, verdict.2 ≠ .approved

/-- The final status does not depend on the order in which the verdicts arrive, and it is not
`in_progress` when a command has failed. -/
def VerdictsCommute (builtins : Builtins) (state : ControlState) (orderId : String)
    (verdicts : List (NodeCommand × DispatchVerdict)) : Prop :=
  ∀ arrival, arrival.Perm verdicts →
    (state.arrive builtins arrival).orderStatus orderId =
      (state.arrive builtins verdicts).orderStatus orderId ∧
    ((∃ verdict ∈ verdicts, verdict.2 = .failed) →
      (state.arrive builtins arrival).orderStatus orderId ≠ some .inProgress)

theorem orderStatus_arrive_isSome (known : (state.orderStatus orderId).isSome = true) :
    ((state.arrive builtins verdicts).orderStatus orderId).isSome = true := by
  induction verdicts generalizing state with
  | nil => exact known
  | cons verdict rest ih =>
    refine ih ?_
    rw [orderStatus_update]
    split
    next => simpa using known
    next => exact known

theorem orderStatus_arrive_last {last : NodeCommand × DispatchVerdict}
    (known : (state.orderStatus orderId).isSome = true)
    (carried : last.1.carries builtins orderId = true) :
    (state.arrive builtins (verdicts ++ [last])).orderStatus orderId =
      some last.2.orderStatus := by
  have kept := @orderStatus_arrive_isSome builtins state orderId verdicts known
  unfold ControlState.arrive at kept ⊢
  rw [List.foldl_append, List.foldl_cons, List.foldl_nil, orderStatus_update, if_pos carried]
  obtain ⟨status, kept⟩ := Option.isSome_iff_exists.mp kept
  rw [kept]
  rfl

theorem VerdictsOf.perm (verdictsOf : VerdictsOf builtins state orderId verdicts)
    (perm : arrival.Perm verdicts) : VerdictsOf builtins state orderId arrival where
  known := verdictsOf.known
  carried verdict member := verdictsOf.carried verdict (perm.mem_iff.mp member)
  terminal verdict member := verdictsOf.terminal verdict (perm.mem_iff.mp member)

theorem VerdictsOf.orderStatus_arrive (verdictsOf : VerdictsOf builtins state orderId verdicts)
    (agree : ∀ verdict ∈ verdicts, verdict.2.orderStatus = status) (some : verdicts ≠ []) :
    (state.arrive builtins verdicts).orderStatus orderId = .some status := by
  obtain ⟨earlier, last, rfl⟩ := (List.eq_nil_or_concat' verdicts).resolve_left some
  have member : last ∈ earlier ++ [last] := List.mem_append_right _ List.mem_cons_self
  rw [orderStatus_arrive_last verdictsOf.known (verdictsOf.carried last member), agree last member]

/-- The verdicts commute if and only if they all ask for the same status of the order. -/
theorem verdicts_commute_iff (builtins : Builtins) (state : ControlState) (orderId : String)
    (verdicts : List (NodeCommand × DispatchVerdict))
    (verdictsOf : VerdictsOf builtins state orderId verdicts) :
    VerdictsCommute builtins state orderId verdicts ↔
      ∀ first ∈ verdicts, ∀ second ∈ verdicts,
        first.2.orderStatus = second.2.orderStatus := by
  constructor
  · intro commute
    have decides : ∀ verdict ∈ verdicts,
        (state.arrive builtins verdicts).orderStatus orderId = some verdict.2.orderStatus := by
      intro verdict member
      obtain ⟨before, rest, split⟩ := List.append_of_mem member
      have perm : (before ++ rest ++ [verdict]).Perm verdicts := by
        rw [split, List.append_assoc]
        exact (List.perm_append_singleton verdict rest).append_left before
      rw [← (commute _ perm).1]
      exact orderStatus_arrive_last verdictsOf.known (verdictsOf.carried verdict member)
    intro first hfirst second hsecond
    exact Option.some.inj ((decides first hfirst).symm.trans (decides second hsecond))
  · intro agree arrival perm
    cases verdicts with
    | nil =>
      rw [List.perm_nil.mp perm]
      refine ⟨rfl, fun failed => ?_⟩
      obtain ⟨_, none, -⟩ := failed
      exact absurd none List.not_mem_nil
    | cons first rest =>
      have own : first ∈ first :: rest := List.mem_cons_self
      have left := (verdictsOf.perm perm).orderStatus_arrive
        (fun verdict member => agree verdict (perm.mem_iff.mp member) first own)
        (fun none => by rw [none] at perm; exact absurd perm.symm.eq_nil (List.cons_ne_nil _ _))
      have right := verdictsOf.orderStatus_arrive
        (fun verdict member => agree verdict member first own) (List.cons_ne_nil _ _)
      refine ⟨left.trans right.symm, fun failed => ?_⟩
      obtain ⟨verdict, member, failed⟩ := failed
      rw [left, ← agree verdict member first own, failed]
      exact fun same => by cases same

def sampleDispatched : ControlState :=
  (governanceAuthority sampleControlEnv).run sampleControlState
    [sampleSubmit, samplePropose, sampleApprove 1, sampleApprove 2]

def sampleVerdicts (first second : DispatchVerdict) : List (NodeCommand × DispatchVerdict) :=
  sampleDispatched.commands.zip [first, second]

theorem sampleVerdicts_of {first second : DispatchVerdict} (one : first ≠ .approved)
    (two : second ≠ .approved) :
    VerdictsOf sampleBuiltins sampleDispatched "AO-001" (sampleVerdicts first second) where
  known := by decide +kernel
  carried := by
    have carried : ∀ command ∈ sampleDispatched.commands,
        command.carries sampleBuiltins "AO-001" = true := by decide +kernel
    exact fun verdict member => carried _ (List.of_mem_zip member).1
  terminal := by
    intro verdict member
    have given := (List.of_mem_zip member).2
    simp only [List.mem_cons, List.not_mem_nil, or_false] at given
    rcases given with same | same <;> rw [same] <;> assumption

theorem verdicts_commute_sample :
    VerdictsCommute sampleBuiltins sampleDispatched "AO-001"
      (sampleVerdicts .effective .partlyEffective) := by
  have verdictsOf := @sampleVerdicts_of .effective .partlyEffective (by decide) (by decide)
  refine (verdicts_commute_iff sampleBuiltins sampleDispatched "AO-001" _ verdictsOf).mpr ?_
  have agree : ∀ verdict ∈ sampleVerdicts .effective .partlyEffective,
      verdict.2.orderStatus = .inProgress := by decide +kernel
  exact fun first one second two => (agree first one).trans (agree second two).symm

/-- One node fails and then the other one is effective: the order is in progress. -/
theorem late_success_hides_failure :
    VerdictsOf sampleBuiltins sampleDispatched "AO-001" (sampleVerdicts .failed .effective) ∧
      ¬ VerdictsCommute sampleBuiltins sampleDispatched "AO-001"
        (sampleVerdicts .failed .effective) := by
  refine ⟨sampleVerdicts_of (by decide) (by decide), fun commute => ?_⟩
  have failed : (sampleDispatched.arrive sampleBuiltins
      (sampleVerdicts .failed .effective)).orderStatus "AO-001" = some .inProgress := by
    decide +kernel
  have named : ∃ verdict ∈ sampleVerdicts .failed .effective, verdict.2 = .failed := by
    decide +kernel
  exact (commute _ (List.Perm.refl _)).2 named failed

end MiniOgas
