import MiniOgas.CommandRetention
import MiniOgas.ControlSound
import MiniOgas.ReportedCapacity
import MiniOgas.RoundingLaws

namespace MiniOgas

open Bounded Procedure Serial CommandControlService DispatchControlService

/-- The rounded rate still makes the quantity of an order before its deadline. -/
def MakesQuantity (order : AllocationOrder) : Prop :=
  1000 * order.requiredQuantity ≤ planningHorizonMinutes order ∨
    RoundsUp (1000 * order.requiredQuantity) (planningHorizonMinutes order)

instance makesQuantityDecidable (order : AllocationOrder) : Decidable (MakesQuantity order) :=
  inferInstanceAs (Decidable (_ ∨ _))

structure CommandControlService.DispatchIssue.Answered (issue : DispatchIssue)
    (commands : List NodeCommand) (command : NodeCommand) : Prop where
  node : command.nodeCode = issue.nodeCode
  kind : command.commandType = "set_target_rate"
  rate : command ∈ commands ∧
      (command.parameters.get "idempotency_key").isText issue.key = true ∨
    command.parameters.get "target_rate" = .float issue.targetRate

theorem reportedPhysicalRateLimitPerMinute_of_silent {builtins : Builtins} {store : MemoryStore}
    {nodeCode : String} (float : builtins.ExactFloat)
    (silent : store.nodeHeartbeatsV2.get? nodeCode = none) :
    reportedPhysicalRateLimitPerMinute builtins store nodeCode = none := by
  have zero : ∀ key, capacityField builtins [] key = some 0 := by
    have int := float.int 0
    simpa [capacityField, Fields.get, Json.or, Json.truthy] using int
  unfold reportedPhysicalRateLimitPerMinute
  have empty : (Fields.get [] "production").dict = [] := rfl
  rw [silent, Option.getD_none, empty]
  dsimp only
  rw [zero, zero, zero]
  simp

structure ProposalMeets (env : ControlEnv) (state : ControlState) (order : AllocationOrder)
    (nodeCode : String) (commands : List NodeCommand) : Prop where
  deadline : (order.requiredQuantity : ℚ) ≤ requestedRate order * planningHorizonMinutes order
  capacity : ∀ task ∈ executableTasks state.tasks order nodeCode, ∃ limit,
    reportedPhysicalRateLimitPerMinute env.store.builtins state.store task.assignedNode =
      some limit ∧ requestedRate order ≤ limit + 1 / 1000000000
  once : (commands.map (·.nodeCode)).Nodup
  nodes : ∀ target, target ∈ commands.map (·.nodeCode) ↔
    ∃ task ∈ executableTasks state.tasks order nodeCode, task.assignedNode = target
  issued : ∀ command ∈ commands, command.commandType = "set_target_rate" ∧
    (command ∈ state.commands ∨
      command.parameters.get "target_rate" = .float (requestedRate order))

section Rate

variable {order : AllocationOrder}

theorem planningHorizonMinutes_pos (order : AllocationOrder) : 0 < planningHorizonMinutes order :=
  Nat.lt_of_lt_of_le Nat.zero_lt_one (Nat.le_max_left _ _)

theorem requestedRate_makes_iff (order : AllocationOrder) :
    (order.requiredQuantity : ℚ) ≤ requestedRate order * planningHorizonMinutes order ↔
      MakesQuantity order := by
  have positive := planningHorizonMinutes_pos order
  have below : (0 : ℚ) < planningHorizonMinutes order := by exact_mod_cast positive
  have scaled : (order.requiredQuantity : ℚ) / planningHorizonMinutes order * 1000 =
      ((1000 * order.requiredQuantity : Nat) : ℚ) / planningHorizonMinutes order := by
    push_cast
    ring
  unfold MakesQuantity requestedRate roundRate
  rw [← div_le_iff₀ below, le_max_iff, scaled, ← div_le_roundHalfEven_iff positive]
  refine or_congr ?_ ?_
  · rw [div_le_div_iff₀ below (by norm_num : (0 : ℚ) < 1000), one_mul]
    norm_cast
    rw [mul_comm]
  · rw [le_div_iff₀ (by norm_num : (0 : ℚ) < 1000), scaled]

end Rate

section Issues

variable {env : ControlEnv} {now : Timestamp} {state later : ControlState}
  {issue : DispatchIssue} {command : NodeCommand} {fault : ServiceFault}
  {issues : List DispatchIssue}

structure CommandControlService.DispatchIssue.Ready (issue : DispatchIssue) (env : ControlEnv)
    (store : MemoryStore) : Prop where
  known : store.nodes.contains issue.nodeCode = true
  capacity : ∃ limit,
    reportedPhysicalRateLimitPerMinute env.store.builtins store issue.nodeCode = some limit ∧
      issue.targetRate ≤ limit + 1 / 1000000000

theorem issue_error (done : issueDispatchTargetRate env now issue state = .error fault later) :
    later.commands = state.commands ∧ later.orders = state.orders := by
  have result := @issue_result env now state issue.targetRateIssue
  unfold issueDispatchTargetRate at done
  rw [done] at result
  cases result with
  | refused => exact ⟨rfl, rfl⟩

theorem issue_ok (done : issueDispatchTargetRate env now issue state = .ok command later) :
    later.store = state.store ∧ later.orders = state.orders ∧ ∃ transitions created,
      createCommand env.store.builtins state.commands now
        { issue.targetRateIssue.request with
          verificationBaseline := verificationBaseline state.store } =
        .ok ((command, transitions, created), later.commands) := by
  have result := @issue_result env now state issue.targetRateIssue
  unfold issueDispatchTargetRate at done
  rw [done] at result
  generalize same : createCommand env.store.builtins state.commands now
    { issue.targetRateIssue.request with
      verificationBaseline := verificationBaseline state.store } = created at result
  cases result with
  | issued decision created =>
    rename_i reply commands
    exact ⟨rfl, rfl, reply.2.1, reply.2.2, same.symm.trans created⟩

theorem answered_of_issue (done : issueDispatchTargetRate env now issue state = .ok command later) :
    issue.Answered state.commands command := by
  obtain ⟨-, -, transitions, created, done⟩ := issue_ok done
  rcases createCommand_cases done with ⟨repeated, -⟩ | ⟨-, ttlSeconds, fresh, -⟩
  · unfold repeatedCommand at repeated
    dsimp only at repeated
    split at repeated
    next => cases repeated
    next =>
      have own := List.find?_some repeated
      simp only [Bool.and_eq_true, decide_eq_true_eq] at own
      have keyed : env.store.builtins.text ((issue.targetRateIssue.request.parameters.get
          "idempotency_key").or (.str "")) = issue.key := by
        have text : issue.targetRateIssue.request.parameters.get "idempotency_key" =
            .str issue.key := rfl
        rw [text]
        by_cases empty : issue.key = "" <;> simp [Json.or, Json.truthy, Builtins.text, empty]
      exact ⟨own.1.1, own.1.2, .inl ⟨List.mem_of_find?_eq_some repeated, keyed ▸ own.2⟩⟩
  · dsimp only at fresh
    refine ⟨by rw [fresh]; rfl, by rw [fresh]; rfl, .inr ?_⟩
    rw [fresh]
    unfold CommandRequest.command CommandRequest.keyed
    rfl

theorem mem_of_issue (done : issueDispatchTargetRate env now issue state = .ok command later)
    {other : NodeCommand} (member : other ∈ later.commands)
    (apart : other.nodeCode ≠ issue.nodeCode) : other ∈ state.commands := by
  have answered := answered_of_issue done
  obtain ⟨-, -, transitions, created, done⟩ := issue_ok done
  rcases createCommand_cases done with ⟨-, same⟩ | ⟨-, ttlSeconds, -, grown⟩
  · exact same ▸ member
  · rw [grown] at member
    rcases of_mem_keepLast_append member with replaced | rfl
    · obtain ⟨old, there, rfl⟩ := List.mem_map.mp replaced
      split at apart
      next replaces =>
        simp only [NodeCommand.isOpen, Bool.and_eq_true, decide_eq_true_eq] at replaces
        exact absurd replaces.1.1 apart
      next kept =>
        rw [if_neg kept]
        exact there
    · exact absurd answered.node apart

theorem dispatch_reviewed (known : state.store.nodes.contains issue.nodeCode = true) :
    (review issue.actor "set_target_rate" issue.nodeCode "high" none state).reasonCode =
      "confirmation_code_required" := by
  unfold review SafetyGovernor.reviewControlAction SafetyGovernor.confirmationGate
  have listed : issue.nodeCode ∈ state.store.nodes.items.map Prod.fst := by
    obtain ⟨node, found⟩ := Option.isSome_iff_exists.mp known
    exact List.mem_map_of_mem (Dictionary.get?_eq_some_iff.mp found)
  rw [if_neg (fun missing => missing.2 listed), if_neg (fun isolates => by simp at isolates)]
  rw [if_neg (fun emergency => by simp at emergency), normalizeRisk_high,
    if_pos ⟨.inl rfl, by simp⟩]
  rfl

theorem issue_of_ready (enabled : env.store.settings.controlMode ≠ .readOnly)
    (ready : issue.Ready env state.store) :
    ∃ decision, issueDispatchTargetRate env now issue state =
      addCommand env now issue.targetRateIssue.request
        { state with decisions := state.decisions ++ [decision] } := by
  obtain ⟨limit, reported, below⟩ := ready.capacity
  have capacity : requireCapacity env issue.targetRateIssue state = .ok () state :=
    (@requireCapacity_eq env state issue.targetRateIssue limit reported).mpr below
  have reads : (get : ControlProcedure ControlState) state = .ok state state := rfl
  have known : requireNode issue.targetRateIssue.nodeCode state = .ok () state := by
    unfold requireNode
    exact lift_ok (check_eq_ok.mpr ready.known)
  have reviewed := @dispatch_reviewed state issue ready.known
  refine ⟨⟨review issue.actor "set_target_rate" issue.nodeCode "high" none state, none, none⟩,
    ?_⟩
  unfold issueDispatchTargetRate CommandControlService.issue
  rw [bind_ok (show requireControlEnabled env state = .ok () state from
      lift_ok (check_eq_ok.mpr enabled)), bind_ok known, bind_ok capacity]
  rw [bind_ok reads, bind_ok (show recordSafetyDecision _ state = .ok () _ from rfl)]
  split
  next withheld =>
    rcases withheld with never | other
    · cases never
    · exact absurd reviewed other
  next => rfl

theorem issue_returns (enabled : env.store.settings.controlMode ≠ .readOnly)
    (ready : issue.Ready env state.store)
    (converts : (env.store.builtins.int (.int 1800)).isSome = true) :
    ∃ command later, issueDispatchTargetRate env now issue state = .ok command later := by
  obtain ⟨decision, same⟩ := @issue_of_ready env now state issue enabled ready
  rw [same, addCommand_eq]
  generalize asked : ({ issue.targetRateIssue.request with
    verificationBaseline := verificationBaseline
      { state with decisions := state.decisions ++ [decision] }.store } : CommandRequest) = request
  have converts : (request.ttlSeconds env.store.builtins
      (nextCommandId state.commands)).isSome = true := by
    rw [← asked]
    unfold CommandRequest.ttlSeconds CommandRequest.keyed
    exact converts
  cases repeated : repeatedCommand env.store.builtins state.commands request with
  | some command =>
    have created : createCommand env.store.builtins state.commands now request =
        .ok ((command, [], false), state.commands) := by
      unfold createCommand
      rw [repeated]
    exact ⟨_, _, bind_ok (onCommands_eq created)⟩
  | none =>
    obtain ⟨command, -, created⟩ := @createCommand_of_fresh _ _ now _ repeated converts
    exact ⟨_, _, bind_ok (onCommands_eq created)⟩

theorem issue_enabled (done : issueDispatchTargetRate env now issue state = .ok command later) :
    env.store.settings.controlMode ≠ .readOnly := by
  obtain ⟨_, _, enabled, -⟩ := Procedure.of_bind done
  obtain ⟨checked, -⟩ := lift_eq_ok.mp enabled
  exact check_eq_ok.mp checked

theorem issue_converts {request : CommandRequest} {commands commands' : List NodeCommand}
    {reply : NodeCommand × List CommandTransition × Bool} {builtins : Builtins}
    (timed : request.parameters.get "ttl_seconds" = .int 1800)
    (made : createCommand builtins commands now request = .ok (reply, commands'))
    (fresh : repeatedCommand builtins commands request = none) :
    (builtins.int (.int 1800)).isSome = true := by
  unfold createCommand at made
  rw [fresh] at made
  obtain ⟨seconds, converted, -⟩ := Serial.of_bind made
  have converted := orFault_eq_ok.mp converted
  unfold CommandRequest.ttlSeconds CommandRequest.keyed at converted
  rw [Fields.get_setDefault_of_ne _ _ (by decide), timed] at converted
  have whole : (Json.int 1800).or (.int 300) = .int 1800 := rfl
  rw [← whole, converted]
  rfl

theorem issueEach_cons (issue : DispatchIssue) (rest : List DispatchIssue) :
    issueEach env now (issue :: rest) = (issueDispatchTargetRate env now issue >>= fun command =>
      issueEach env now rest >>= fun commands => pure (command :: commands)) := rfl

theorem issueEach_returns (enabled : env.store.settings.controlMode ≠ .readOnly)
    (converts : (env.store.builtins.int (.int 1800)).isSome = true) {issues : List DispatchIssue}
    (ready : ∀ issue ∈ issues, issue.Ready env state.store) :
    ∃ commands later, issueEach env now issues state = .ok commands later := by
  induction issues generalizing state with
  | nil => exact ⟨[], state, rfl⟩
  | cons issue rest ih =>
    rw [List.forall_mem_cons] at ready
    obtain ⟨command, mid, first⟩ := @issue_returns env now state issue enabled ready.1 converts
    have store := (issue_ok first).1
    obtain ⟨commands, later, done⟩ := @ih mid (by rw [store]; exact ready.2)
    refine ⟨command :: commands, later, ?_⟩
    rw [issueEach_cons, bind_ok first, bind_ok done]
    rfl

theorem issueEach_error (ready : ∀ issue ∈ issues, issue.Ready env state.store)
    (done : issueEach env now issues state = .error fault later) :
    later.commands = state.commands ∧ later.orders = state.orders := by
  induction issues generalizing state with
  | nil => cases done
  | cons issue rest ih =>
    rw [List.forall_mem_cons] at ready
    rw [issueEach_cons] at done
    cases first : issueDispatchTargetRate env now issue state with
    | error fault mid =>
      rw [bind_error first] at done
      cases done
      exact issue_error first
    | ok command mid =>
      obtain ⟨store, orders, transitions, created, made⟩ := issue_ok first
      have ready : ∀ issue ∈ rest, issue.Ready env mid.store := by
        rw [store]
        exact ready.2
      rw [bind_ok first] at done
      cases after : issueEach env now rest mid with
      | ok commands left =>
        rw [bind_ok after] at done
        cases done
      | error fault left =>
        rw [bind_error after] at done
        cases done
        obtain ⟨same, kept⟩ := ih ready after
        refine ⟨same.trans ?_, kept.trans orders⟩
        rcases createCommand_cases made with ⟨-, unchanged⟩ | ⟨fresh, -⟩
        · exact unchanged
        · have enabled := issue_enabled first
          have converts := issue_converts rfl made fresh
          obtain ⟨commands, left, returned⟩ :=
            @issueEach_returns env now mid enabled converts rest ready
          rw [returned] at after
          cases after

theorem issueEach_answered {commands : List NodeCommand} (apart : (issues.map (·.nodeCode)).Nodup)
    (done : issueEach env now issues state = .ok commands later) :
    List.Forall₂ (fun issue command => issue.Answered state.commands command) issues
      commands := by
  induction issues generalizing state commands with
  | nil =>
    cases done
    exact .nil
  | cons issue rest ih =>
    obtain ⟨command, mid, first, done⟩ := Procedure.of_bind done
    obtain ⟨others, left, answered, done⟩ := Procedure.of_bind done
    cases done
    rw [List.map_cons, List.nodup_cons] at apart
    refine .cons (answered_of_issue first) ((List.forall₂_iff_get.mpr ?_))
    have each := List.forall₂_iff_get.mp (ih apart.2 answered)
    refine ⟨each.1, fun i bound bound' => ?_⟩
    obtain ⟨node, kind, rate⟩ := each.2 i bound bound'
    refine ⟨node, kind, rate.imp_left fun there => ⟨mem_of_issue first there.1 ?_, there.2⟩⟩
    intro same
    rw [node] at same
    exact apart.1 (List.mem_map.mpr ⟨_, List.get_mem rest ⟨i, bound⟩, same⟩)

end Issues

section Proposals

variable {env : ControlEnv} {now : Timestamp} {state later : ControlState} {actor : ActorInfo}
  {orderId nodeCode : String} {order : AllocationOrder} {issues : List DispatchIssue}
  {commands : List NodeCommand} {fault : ServiceFault}

theorem nodup_taskNodes (tasks : List DispatchTask) : (taskNodes tasks).Nodup :=
  ((List.perm_insertionSort _ _).nodup_iff).mpr (List.nodup_dedup _)

theorem mem_taskNodes {tasks : List DispatchTask} {target : String} :
    target ∈ taskNodes tasks ↔ ∃ task ∈ tasks, task.assignedNode = target := by
  unfold taskNodes
  rw [(List.perm_insertionSort _ _).mem_iff, List.mem_dedup, List.mem_map]

structure Proposed (env : ControlEnv) (state : ControlState) (order : AllocationOrder)
    (nodeCode : String) (issues : List DispatchIssue) : Prop where
  issued : issues ≠ []
  nodes : issues.map (·.nodeCode) = taskNodes (executableTasks state.tasks order nodeCode)
  source : ∀ issue ∈ issues, issue.orderId = order.orderId
  rate : ∀ issue ∈ issues, issue.targetRate = requestedRate order
  capacity : ∀ issue ∈ issues, ∃ limit,
    reportedPhysicalRateLimitPerMinute env.store.builtins state.store issue.nodeCode =
      some limit ∧ requestedRate order ≤ limit + 1 / 1000000000

theorem proposal_ok (done : proposal env actor orderId nodeCode state = .ok (order, issues)) :
    findOrder state.orders orderId = .ok order ∧ Proposed env state order nodeCode issues := by
  obtain ⟨found, order_found, done⟩ := Serial.of_bind done
  obtain ⟨plan, -, done⟩ := Serial.of_bind done
  obtain ⟨_, bound, done⟩ := Serial.of_bind done
  obtain ⟨validated, checked, done⟩ := Serial.of_bind done
  cases done
  have each := mapM_forall₂ checked
  refine ⟨order_found, fun none => ?_, ?_, fun issue member => ?_, fun issue member => ?_,
    fun issue member => ?_⟩
  · rw [none, List.forall₂_nil_right_iff] at each
    obtain ⟨task, listed⟩ := List.exists_mem_of_ne_nil _ (check_eq_ok.mp bound)
    have there := mem_taskNodes.mpr ⟨task, listed, rfl⟩
    rw [each] at there
    cases there
  · have own : ∀ target issue, (do
        let limit ← validate env state order target
        return dispatchIssue actor order plan (executableTasks state.tasks order nodeCode) target
          limit : Except ServiceFault DispatchIssue) = .ok issue → target = issue.nodeCode := by
      intro target issue made
      obtain ⟨limit, -, made⟩ := Serial.of_bind made
      rw [← Except.ok.inj made]
      rfl
    have nodes := forall₂_map_eq (f := id) own each
    rw [List.map_id] at nodes
    exact nodes.symm
  · obtain ⟨target, -, made⟩ := mapM_mem checked member
    obtain ⟨limit, -, made⟩ := Serial.of_bind made
    rw [← Except.ok.inj made]
    rfl
  · obtain ⟨target, -, made⟩ := mapM_mem checked member
    obtain ⟨limit, -, made⟩ := Serial.of_bind made
    rw [← Except.ok.inj made]
    rfl
  · obtain ⟨target, -, made⟩ := mapM_mem checked member
    obtain ⟨limit, valid, made⟩ := Serial.of_bind made
    obtain ⟨reported, known, valid⟩ := Serial.of_bind valid
    obtain ⟨_, below, valid⟩ := Serial.of_bind valid
    rw [← Except.ok.inj made]
    exact ⟨reported, orFault_eq_ok.mp known, check_eq_ok.mp below⟩

theorem Proposed.ready (proposed : Proposed env state order nodeCode issues)
    (float : env.store.builtins.ExactFloat) (known : state.store.ReportersKnown)
    {issue : DispatchIssue} (member : issue ∈ issues) :
    issue.Ready env state.store := by
  obtain ⟨limit, reported, below⟩ := proposed.capacity issue member
  refine ⟨known _ ?_, limit, reported, proposed.rate issue member ▸ below⟩
  by_contra silent
  have none : state.store.nodeHeartbeatsV2.get? issue.nodeCode = none := by
    simpa [Dictionary.contains] using silent
  rw [reportedPhysicalRateLimitPerMinute_of_silent float none] at reported
  cases reported

theorem proposeTargetRates_ok
    (done : proposeTargetRates env now actor orderId nodeCode state = .ok commands later) :
    ∃ order issues, findOrder state.orders orderId = .ok order ∧
      Proposed env state order nodeCode issues ∧
      List.Forall₂ (fun issue command => issue.Answered state.commands command) issues
        commands := by
  obtain ⟨_, _, reads, done⟩ := Procedure.of_bind done
  cases reads
  obtain ⟨⟨order, issues⟩, _, proposes, done⟩ := Procedure.of_bind done
  obtain ⟨valid, rfl⟩ := lift_eq_ok.mp proposes
  obtain ⟨answers, _, issued, done⟩ := Procedure.of_bind done
  cases done
  obtain ⟨found, proposed⟩ := proposal_ok valid
  have apart : (issues.map (·.nodeCode)).Nodup := proposed.nodes ▸ nodup_taskNodes _
  exact ⟨order, issues, found, proposed, issueEach_answered apart issued⟩

theorem proposeTargetRates_error (float : env.store.builtins.ExactFloat)
    (known : state.store.ReportersKnown)
    (done : proposeTargetRates env now actor orderId nodeCode state = .error fault later) :
    later.commands = state.commands ∧ later.orders = state.orders := by
  unfold proposeTargetRates at done
  rw [bind_ok (show (get : ControlProcedure ControlState) state = .ok state state from rfl)] at done
  cases proposes : proposal env actor orderId nodeCode state with
  | error fault =>
    rw [proposes, bind_error (lift_error rfl)] at done
    cases done
    exact ⟨rfl, rfl⟩
  | ok proposed =>
    obtain ⟨order, issues⟩ := proposed
    rw [proposes, bind_ok (lift_ok rfl)] at done
    dsimp only at done
    cases issued : issueEach env now issues state with
    | error fault mid =>
      rw [bind_error issued] at done
      cases done
      have proposed := (proposal_ok proposes).2
      exact issueEach_error (fun issue member => proposed.ready float known member) issued
    | ok answers mid =>
      rw [bind_ok issued] at done
      cases done

theorem meets_of_proposed
    (proposed : Proposed env state order nodeCode issues)
    (answered : List.Forall₂ (fun issue command => issue.Answered state.commands command)
      issues commands) :
    ProposalMeets env state order nodeCode commands ↔ MakesQuantity order := by
  have nodes : commands.map (·.nodeCode) =
      taskNodes (executableTasks state.tasks order nodeCode) := by
    rw [← proposed.nodes]
    exact (forall₂_map_eq (fun _ _ answer => answer.node.symm) answered).symm
  refine ⟨fun meets => (requestedRate_makes_iff order).mp meets.deadline, fun makes => ?_⟩
  refine ⟨(requestedRate_makes_iff order).mpr makes, fun task member => ?_, ?_, ?_, ?_⟩
  · have there : task.assignedNode ∈ issues.map (·.nodeCode) := by
      rw [proposed.nodes]
      exact mem_taskNodes.mpr ⟨task, member, rfl⟩
    obtain ⟨issue, member, same⟩ := List.mem_map.mp there
    rw [← same]
    exact proposed.capacity issue member
  · rw [nodes]
    exact nodup_taskNodes _
  · intro target
    rw [nodes]
    exact mem_taskNodes
  · intro command member
    obtain ⟨issue, there, answer⟩ := exists_left_of_forall₂ answered member
    refine ⟨answer.kind, answer.rate.imp And.left fun rate => ?_⟩
    rw [rate, proposed.rate issue there]

/-- Whatever the orders, plans, tasks and reported capacities are: a proposal that succeeds keeps
all its promises exactly if the rounded rate makes the quantity in time, and one that is refused
has created no command and left every order as it was. -/
theorem proposeTargetRates_meets_iff (env : ControlEnv) (now : Timestamp) (actor : ActorInfo)
    (orderId nodeCode : String) (start : MemoryStore) (calls : List StoreCall)
    (state : ControlState) (float : env.store.builtins.ExactFloat)
    (silent : start.nodeHeartbeatsV2 = .empty)
    (reached : state.store = (storeAuthority env.store).run start calls) :
    (∀ commands later,
      proposeTargetRates env now actor orderId nodeCode state = .ok commands later →
        ∃ order, findOrder state.orders orderId = .ok order ∧
          (ProposalMeets env state order nodeCode commands ↔ MakesQuantity order)) ∧
    ∀ fault later,
      proposeTargetRates env now actor orderId nodeCode state = .error fault later →
        later.commands = state.commands ∧ later.orders = state.orders := by
  have known : state.store.ReportersKnown := by
    rw [reached]
    refine reportersKnown_run (fun other there => ?_) calls
    rw [silent] at there
    cases there
  refine ⟨fun commands later done => ?_, fun fault later done => ?_⟩
  · obtain ⟨order, issues, found, proposed, answered⟩ := proposeTargetRates_ok done
    exact ⟨order, found, meets_of_proposed proposed answered⟩
  · exact proposeTargetRates_error float known done

end Proposals

def sampleCapacityReport (nodeCode : String) : StoreCall :=
  ⟨0, .recordNodeHeartbeatV2 [("node_code", .str nodeCode),
    ("production", .obj [("nominal_capacity_per_hour", .int 60)])]⟩

def sampleHurriedState : ControlState :=
  { sampleControlState with
    store := (storeAuthority sampleControlEnv.store).run .empty
      (sampleNodeCodes.map sampleCapacityReport)
    orders := [⟨"AO-001", "P2", 100, 3, 7, .received⟩]
    plans := [⟨"P2", 100, 2, productRoute "P2"⟩] }

theorem sampleHurried_meets_iff :
    (∀ commands later, proposeTargetRates sampleControlEnv 0 sampleAdmin "AO-001" ""
      sampleHurriedState = .ok commands later →
        ∃ order, findOrder sampleHurriedState.orders "AO-001" = .ok order ∧
          (ProposalMeets sampleControlEnv sampleHurriedState order "" commands ↔
            MakesQuantity order)) ∧
    ∀ fault later, proposeTargetRates sampleControlEnv 0 sampleAdmin "AO-001" ""
      sampleHurriedState = .error fault later →
        later.commands = sampleHurriedState.commands ∧
          later.orders = sampleHurriedState.orders :=
  proposeTargetRates_meets_iff sampleControlEnv 0 sampleAdmin "AO-001" "" .empty
    (sampleNodeCodes.map sampleCapacityReport) sampleHurriedState ⟨fun _ => rfl, fun _ => rfl⟩ rfl
    rfl

/-- At 0.238 parts a minute, 420 minutes make less than a hundred parts. -/
theorem rounded_rate_misses_deadline :
    ∃ commands later order, proposeTargetRates sampleControlEnv 0 sampleAdmin "AO-001" ""
      sampleHurriedState = .ok commands later ∧
      findOrder sampleHurriedState.orders "AO-001" = .ok order ∧
      ¬ProposalMeets sampleControlEnv sampleHurriedState order "" commands := by
  have returned : returns (proposeTargetRates sampleControlEnv 0 sampleAdmin "AO-001" "")
      sampleHurriedState = true := by decide +kernel
  obtain ⟨commands, done⟩ := exists_ok_of_returns returned
  obtain ⟨order, issues, found, proposed, answered⟩ := proposeTargetRates_ok done
  refine ⟨commands, _, order, done, found, fun meets => ?_⟩
  have makes := (meets_of_proposed proposed answered).mp meets
  have first : findOrder sampleHurriedState.orders "AO-001" =
      .ok ⟨"AO-001", "P2", 100, 3, 7, .received⟩ := rfl
  cases found.symm.trans first
  exact absurd makes (by decide)

end MiniOgas
