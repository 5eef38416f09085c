import MiniOgas.ControlAuthority
import MiniOgas.CommandEffects

namespace MiniOgas

open Bounded Procedure Serial

/-- A decision that allows an action on a command was recorded for an administrator who gave the
confirmation code. -/
def Confirmed (decisions : List RecordedDecision) (action : String) (commandId : Nat) : Prop :=
  ∃ recorded ∈ decisions, recorded.about = some commandId ∧ recorded.decision.allow = true ∧
    recorded.decision.action = action ∧ recorded.decision.actorRole = "system_admin" ∧
    recorded.confirmationCode = some confirmationCode

def Settlement.verdict : Settlement → DispatchVerdict
  | .approve => .approved
  | .accept => .approved
  | .reject => .rejected
  | .cancel => .cancelled

def Settlement.suggestionStatus : Settlement → SuggestionStatus
  | .approve => .accepted
  | .accept => .accepted
  | .reject => .rejected
  | .cancel => .rejected

/-- The commands that a decision can be about. -/
def Settlement.Permitted (decisions : List RecordedDecision) (command : NodeCommand) :
    Settlement → Prop
  | .approve => command.status = .waitingApproval ∧ command.isAiSuggestionReview = false ∧
    (command.riskLevel = "high" → Confirmed decisions command.commandType command.id)
  | .accept => command.status = .waitingApproval ∧ command.isAiSuggestionReview = true
  | .reject => command.status = .waitingApproval
  | .cancel => command.status = .cancelled ∨
    command.status.terminal = false ∧ command.status ≠ .executed

def ControlState.settle (builtins : Builtins) (state : ControlState) (settlement : Settlement)
    (command updated : NodeCommand) : ControlState :=
  updateDispatchControlStatus builtins command settlement.verdict
    { state with
      commands := storeCommand state.commands updated
      suggestions := if command.isAiSuggestionReview then
          state.suggestions.map fun row =>
            if row.commandId = some command.id then
              { row with status := settlement.suggestionStatus }
            else row
        else state.suggestions }

inductive GovernedEvent where
  | elsewhere
  | recorded (decision : RecordedDecision)
  | submitted (input : AllocationOrderIn)
  | created (request : CommandRequest)
  | awaiting (orderId : String)
  | suggested (input : SuggestionInput)
  | settled (settlement : Settlement) (commandId : Nat)
  | retried (commandId : Nat) (actor : String)
  | claimed (nodeCode agentId : String)
  | expired
  | resulted (nodeCode : String) (commandId : Nat) (status message : String)
  | observed (nodeCode : String) (systemProduction : List (String × Fields))

structure CommandRequest.Issued (request : CommandRequest) : Prop where
  kind : request.commandType ≠ "review_ai_recommendation"
  node : (request.parameters.get "workflow_kind").isText "ai_suggestion_review" = false
  gated : request.commandType = "set_target_rate" → request.riskLevel = "high" →
    request.status = .waitingApproval

def SuggestionInput.request (env : ControlEnv) (state : ControlState) (input : SuggestionInput) :
    CommandRequest :=
  { (input.reviewIssue ("ais_" ++ env.token state.tokens)).request with
    verificationBaseline := verificationBaseline state.store }

inductive SuggestionInput.Stored (now : Timestamp) (state : ControlState)
    (input : SuggestionInput) (commandId : Nat) (suggestionId : String)
    (created : List NodeCommand) : List NodeCommand → List AiSuggestion → Prop
  | stored : SuggestionInput.Stored now state input commandId suggestionId created created
      (state.suggestions ++ [input.row suggestionId (some commandId)])
  | withdrawn {actor reason : String} {reply : NodeCommand × Bool} {commands : List NodeCommand}
      (done : cancel created now commandId actor reason = .ok (reply, commands)) :
      SuggestionInput.Stored now state input commandId suggestionId created commands
        state.suggestions
  | left : SuggestionInput.Stored now state input commandId suggestionId created created
      state.suggestions

inductive GovernedStep (env : ControlEnv) (now : Timestamp) (state : ControlState) :
    GovernedEvent → ControlState → Prop
  | elsewhere {state' : ControlState} (commands : state'.commands = state.commands)
      (orders : state'.orders = state.orders) (orderSeq : state'.orderSeq = state.orderSeq)
      (suggestions : state'.suggestions = state.suggestions)
      (decisions : state'.decisions = state.decisions) (tokens : state.tokens ≤ state'.tokens) :
      GovernedStep env now state .elsewhere state'
  | recorded (decision : RecordedDecision) :
      GovernedStep env now state (.recorded decision)
        { state with decisions := state.decisions ++ [decision] }
  | submitted (input : AllocationOrderIn) :
      GovernedStep env now state (.submitted input) (state.addAllocationOrder input)
  | created {request : CommandRequest} {reply : NodeCommand × List CommandTransition × Bool}
      {commands : List NodeCommand} (issued : request.Issued)
      (done : createCommand env.store.builtins state.commands now request =
        .ok (reply, commands)) :
      GovernedStep env now state (.created request) { state with commands := commands }
  | awaiting (orderId : String) :
      GovernedStep env now state (.awaiting orderId)
        (state.setOrderStatus orderId .awaitingApproval)
  | suggested {input : SuggestionInput} (plain : input.needsReview = false) :
      GovernedStep env now state (.suggested input)
        { state with
          tokens := state.tokens + 1
          suggestions := state.suggestions ++
            [input.row ("ais_" ++ env.token state.tokens) none] }
  | reviewed {input : SuggestionInput} (review : input.needsReview = true)
      {reply : NodeCommand × List CommandTransition × Bool} {created : List NodeCommand}
      (done : createCommand env.store.builtins state.commands now
        (input.request env state) = .ok (reply, created))
      {commands : List NodeCommand} {suggestions : List AiSuggestion}
      (kept : input.Stored now state reply.1.id ("ais_" ++ env.token state.tokens) created
        commands suggestions) :
      GovernedStep env now state (.suggested input)
        { state with
          tokens := state.tokens + 1, commands := commands, suggestions := suggestions }
  | settled {settlement : Settlement} {command updated : NodeCommand}
      (found : state.commands.find? (·.id = command.id) = some command)
      (same : updated.identity = command.identity)
      (status : updated.status = settlement.status)
      (permitted : settlement.Permitted state.decisions command) :
      GovernedStep env now state (.settled settlement command.id)
        (state.settle env.store.builtins settlement command updated)
  | retried {command : NodeCommand} {actor : String}
      {reply : NodeCommand × List CommandTransition} {commands : List NodeCommand}
      (found : state.commands.find? (·.id = command.id) = some command)
      (node : command.isAiSuggestionReview = false)
      (confirmed : command.riskLevel = "high" →
        Confirmed state.decisions ("retry_" ++ command.commandType) command.id)
      (done : retry env.store.builtins state.commands now command.id actor =
        .ok (reply, commands)) :
      GovernedStep env now state (.retried command.id actor) { state with commands := commands }
  | claimed (nodeCode agentId : String) :
      GovernedStep env now state (.claimed nodeCode agentId)
        { state with commands := (claimForNode state.commands now nodeCode agentId).2 }
  | expired :
      GovernedStep env now state .expired { state with
        commands := (expireStaleClaims state.commands now env.commandClaimTimeoutSeconds).2 }
  | resulted {nodeCode status message : String} {commandId : Nat} {reply : NodeCommand × Bool}
      {commands : List NodeCommand}
      (done : recordResult state.commands now nodeCode commandId status message =
        .ok (reply, commands)) :
      GovernedStep env now state (.resulted nodeCode commandId status message)
        { state with commands := commands }
  | observed {nodeCode : String} {systemProduction : List (String × Fields)}
      {observed : List NodeCommand} :
      (observeCommandEffects env now nodeCode systemProduction state.commands).1 =
        .ok observed →
      GovernedStep env now state (.observed nodeCode systemProduction)
        (observed.foldl (ControlState.project env) { state with
          commands :=
            (observeCommandEffects env now nodeCode systemProduction state.commands).2 })
  | interrupted {nodeCode : String} {systemProduction : List (String × Fields)}
      {fault : ControlFault} :
      (observeCommandEffects env now nodeCode systemProduction state.commands).1 =
        .error fault →
      GovernedStep env now state (.observed nodeCode systemProduction) { state with
        commands := (observeCommandEffects env now nodeCode systemProduction state.commands).2 }

inductive GovernedTrace (env : ControlEnv) (now : Timestamp)
    (P : Timestamp → ControlState → GovernedEvent → Prop) : ControlState → ControlState → Prop
  | nil (state : ControlState) : GovernedTrace env now P state state
  | cons {state mid state' : ControlState} {event : GovernedEvent} (meets : P now state event)
      (first : GovernedStep env now state event mid)
      (rest : GovernedTrace env now P mid state') : GovernedTrace env now P state state'

variable {env : ControlEnv} {now : Timestamp} {state state' : ControlState} {α β : Type}
  {commands commands' : List NodeCommand} {commandId : Nat}
  {actor : String} {P : Timestamp → ControlState → GovernedEvent → Prop}
  {f : α → ControlProcedure β}

theorem GovernedStep.trace {event : GovernedEvent}
    (step : GovernedStep env now state event state') (meets : P now state event) :
    GovernedTrace env now P state state' :=
  .cons meets step (.nil state')

theorem GovernedTrace.trans {mid : ControlState} (first : GovernedTrace env now P state mid)
    (rest : GovernedTrace env now P mid state') : GovernedTrace env now P state state' := by
  induction first with
  | nil => exact rest
  | cons meets step _ ih => exact .cons meets step (ih rest)

theorem trace_invariant {I : ControlState → Prop}
    (step : ∀ state event state', P now state event → GovernedStep env now state event state' →
      I state → I state')
    (trace : GovernedTrace env now P state state') (init : I state) : I state' := by
  induction trace with
  | nil => exact init
  | cons meets first _ ih => exact ih (step _ _ _ meets first init)

abbrev Reaches (env : ControlEnv) (now : Timestamp) (state state' : ControlState) : Prop :=
  GovernedTrace env now (fun _ _ _ => True) state state'

theorem GovernedStep.reaches {event : GovernedEvent}
    (step : GovernedStep env now state event state') : Reaches env now state state' :=
  step.trace trivial

theorem trace_bind {p : ControlProcedure α} (first : GovernedTrace env now P state (after p state))
    (rest : ∀ a state', p state = .ok a state' →
      GovernedTrace env now P state' (after (f a) state')) :
    GovernedTrace env now P state (after (p >>= f) state) := by
  cases h : p state with
  | ok a mid =>
    rw [after_ok h] at first
    rw [after_bind_ok h]
    exact first.trans (rest a mid h)
  | error fault mid =>
    rw [after_error h] at first
    rwa [after_bind_error h]

theorem after_get_bind (f : ControlState → ControlProcedure β) :
    after (get >>= f) state = after (f state) state := rfl

theorem trace_lift_bind {x : Except ServiceFault α}
    (rest : ∀ a, x = .ok a → GovernedTrace env now P state (after (f a) state)) :
    GovernedTrace env now P state (after (lift x >>= f) state) := by
  cases x with
  | ok a => exact rest a rfl
  | error fault => exact .nil state

theorem reaches_recorded (decision : RecordedDecision) :
    Reaches env now state { state with decisions := state.decisions ++ [decision] } :=
  (GovernedStep.recorded decision).reaches

theorem onCommands_eq {f : List NodeCommand → Except ControlFault (α × List NodeCommand)} {a : α}
    (h : f state.commands = .ok (a, commands)) :
    onCommands f state = .ok a { state with commands := commands } := by
  simp [onCommands, transact, h]

theorem onCommands_error {f : List NodeCommand → Except ControlFault (α × List NodeCommand)}
    {fault : ControlFault} (h : f state.commands = .error fault) :
    onCommands f state = .error (.control fault) state := by
  simp [onCommands, transact, h]

theorem trace_onCommands {f : List NodeCommand → Except ControlFault (α × List NodeCommand)}
    (step : ∀ a commands, f state.commands = .ok (a, commands) →
      GovernedTrace env now P state { state with commands := commands }) :
    GovernedTrace env now P state (after (onCommands f) state) := by
  cases h : f state.commands with
  | ok result =>
    rw [after_ok (@onCommands_eq _ _ result.2 _ result.1 h)]
    exact step _ _ h
  | error fault =>
    rw [after_error (onCommands_error h)]
    exact .nil state

theorem retry_created {builtins : Builtins} {command : NodeCommand}
    {reply : NodeCommand × List CommandTransition}
    (found : commands.find? (·.id = command.id) = some command)
    (h : retry builtins commands now command.id actor = .ok (reply, commands')) :
    command.status.retryable = true ∧ ∃ created, createCommand builtins commands now
      (command.retryRequest actor) = .ok ((reply.1, reply.2, created), commands') := by
  obtain ⟨source, first, h⟩ := of_bind h
  obtain ⟨_, retryable, h⟩ := of_bind h
  obtain ⟨⟨⟨retried, transitions, created⟩, left⟩, done, h⟩ := of_bind h
  cases h
  rw [(findCommand_ok first).1] at found
  cases found
  exact ⟨check_eq_ok.mp retryable, created, done⟩

open CommandControlService

theorem command_ok {about : NodeCommand} (h : command commandId state = .ok about state') :
    state' = state ∧ state.commands.find? (·.id = commandId) = some about ∧
      about.id = commandId := by
  change lift (orFault (state.commands.find? (·.id = commandId)) _) state = .ok about state' at h
  cases found : state.commands.find? (·.id = commandId) with
  | none =>
    rw [found] at h
    cases h
  | some other =>
    rw [found] at h
    cases h
    exact ⟨rfl, rfl, by simpa using List.find?_some found⟩

theorem reaches_command_bind {f : NodeCommand → ControlProcedure β}
    (rest : ∀ about, state.commands.find? (·.id = commandId) = some about →
      about.id = commandId → Reaches env now state (after (f about) state)) :
    Reaches env now state (after (command commandId >>= f) state) := by
  refine trace_bind ?_ fun about state' got => ?_
  · change Reaches env now state (after (lift _) state)
    rw [← after_bind_pure _ id]
    exact trace_lift_bind fun _ _ => .nil state
  · obtain ⟨rfl, found, named⟩ := command_ok got
    exact rest about found named

theorem after_setStatusForCommand (status : SuggestionStatus) (state : ControlState) :
    ∃ suggestionId, setStatusForCommand commandId status state = .ok suggestionId
      { state with
        suggestions := state.suggestions.map fun row =>
          if row.commandId = some commandId then { row with status } else row } := by
  have read : (get : ControlProcedure ControlState) state = .ok state state := rfl
  unfold setStatusForCommand
  cases found : state.suggestions.find? (·.commandId = some commandId) with
  | none =>
    refine ⟨none, ?_⟩
    have same : state.suggestions.map (fun row =>
        if row.commandId = some commandId then { row with status } else row) =
        state.suggestions := by
      conv_rhs => rw [← List.map_id state.suggestions]
      refine List.map_congr_left fun row member => ?_
      have other := List.find?_eq_none.mp found row member
      rw [if_neg (by simpa using other)]
      rfl
    rw [same, bind_ok read]
    simp only [found]
    rfl
  | some row =>
    refine ⟨some row.suggestionId, ?_⟩
    rw [bind_ok read]
    simp only [found]
    rfl

variable {actor : ActorInfo} {nodeCode reason : String} {p : ControlProcedure α}
  {request : CommandRequest} {action code : String} {about : NodeCommand}
  {decision : SafetyDecision} {f : SafetyDecision → ControlProcedure β}

theorem trace_bind_pure {f : α → β} (h : GovernedTrace env now P state (after p state)) :
    GovernedTrace env now P state (after (p >>= fun a => pure (f a)) state) := by
  rwa [after_bind_pure]

theorem after_lift (x : Except ServiceFault α) :
    after (lift x : ControlProcedure α) state = state := by
  cases x with
  | ok a => rfl
  | error fault => rfl

theorem after_requireCapacity (issue : TargetRateIssue) :
    after (requireCapacity env issue) state = state := by
  unfold requireCapacity
  rw [after_get_bind]
  split
  next => rfl
  next => exact after_lift _

theorem addCommand_eq (request : CommandRequest) (state : ControlState) :
    addCommand env now request state =
      ((onCommands fun commands => createCommand env.store.builtins commands now
        { request with verificationBaseline := verificationBaseline state.store }) >>=
          fun created => pure created.1) state := rfl

theorem reaches_addCommand (issued : request.Issued) :
    Reaches env now state (after (addCommand env now request) state) := by
  unfold after
  refine trace_bind_pure ?_
  refine trace_onCommands fun _ _ done => (GovernedStep.created ?_ done).reaches
  exact { issued with }

inductive IssueResult (env : ControlEnv) (now : Timestamp) (state : ControlState)
    (request : CommandRequest) : EStateM.Result ServiceFault ControlState NodeCommand → Prop
  | refused (fault : ServiceFault) (decisions : List RecordedDecision) :
      IssueResult env now state request
        (.error fault { state with decisions := state.decisions ++ decisions })
  | issued (decision : RecordedDecision) {reply : NodeCommand × List CommandTransition × Bool}
      {commands : List NodeCommand}
      (done : createCommand env.store.builtins state.commands now request =
        .ok (reply, commands)) :
      IssueResult env now state request (.ok reply.1
        { state with decisions := state.decisions ++ [decision], commands := commands })

theorem issueResult_guard_bind {f : α → ControlProcedure NodeCommand}
    (same : after p state = state) (rest : ∀ a, IssueResult env now state request (f a state)) :
    IssueResult env now state request ((p >>= f) state) := by
  cases done : p state with
  | ok a state' =>
    rw [after_ok done] at same
    rw [bind_ok done, same]
    exact rest a
  | error fault state' =>
    rw [after_error done] at same
    rw [bind_error done, same]
    have refused := @IssueResult.refused env now state request fault []
    rwa [List.append_nil] at refused

theorem issueResult_addCommand (decision : RecordedDecision) :
    IssueResult env now state
      { request with verificationBaseline := verificationBaseline state.store }
      (addCommand env now request { state with decisions := state.decisions ++ [decision] }) := by
  cases done : createCommand env.store.builtins state.commands now
      { request with verificationBaseline := verificationBaseline state.store } with
  | error fault =>
    rw [addCommand_eq, bind_error (onCommands_error done)]
    exact .refused _ [decision]
  | ok created =>
    rw [addCommand_eq, bind_ok (@onCommands_eq _ _ created.2 _ created.1 done)]
    exact .issued decision done

theorem issueResult_allowed_bind (decision : SafetyDecision) (recorded : RecordedDecision) :
    IssueResult env now state
      { request with verificationBaseline := verificationBaseline state.store }
      ((requireAllowed decision >>= fun _ => addCommand env now request)
        { state with decisions := state.decisions ++ [recorded] }) := by
  unfold requireAllowed
  cases decision.allow with
  | true => exact issueResult_addCommand recorded
  | false => exact .refused _ [recorded]

theorem trace_decisions (free : ∀ state decision, P now state (.recorded decision))
    (decisions : List RecordedDecision) :
    GovernedTrace env now P state { state with decisions := state.decisions ++ decisions } := by
  induction decisions generalizing state with
  | nil =>
    rw [List.append_nil]
    exact .nil state
  | cons decision rest ih =>
    rw [List.append_cons]
    exact ((GovernedStep.recorded decision).trace (free _ _)).trans ih

theorem issue_result (asked : TargetRateIssue) :
    IssueResult env now state
      { asked.request with verificationBaseline := verificationBaseline state.store }
      (issue env now asked state) := by
  refine issueResult_guard_bind (after_lift _) fun _ => ?_
  refine issueResult_guard_bind (p := requireNode asked.nodeCode) (after_lift _) fun _ => ?_
  refine issueResult_guard_bind (after_requireCapacity asked) fun _ => ?_
  refine issueResult_guard_bind (p := get) rfl fun known => ?_
  simp only
  split
  next => exact issueResult_allowed_bind _ _
  next => exact issueResult_addCommand _

theorem IssueResult.orders {p : ControlProcedure NodeCommand}
    (result : IssueResult env now state request (p state)) :
    (after p state).orders = state.orders := by
  generalize returned : p state = ended at result
  cases result with
  | refused => rw [after_error returned]
  | issued => rw [after_ok returned]

theorem IssueResult.trace {p : ControlProcedure NodeCommand}
    (result : IssueResult env now state request (p state)) (issued : request.Issued)
    (free : ∀ state decision, P now state (.recorded decision))
    (meets : ∀ decisions, P now { state with decisions := decisions } (.created request)) :
    GovernedTrace env now P state (after p state) := by
  generalize returned : p state = ended at result
  cases result with
  | refused fault decisions =>
    rw [after_error returned]
    exact trace_decisions free decisions
  | issued decision done =>
    rw [after_ok returned]
    exact ((GovernedStep.recorded decision).trace (free _ _)).trans
      ((@GovernedStep.created env now { state with decisions := state.decisions ++ [decision] }
        request _ _ issued done).trace (meets _))

theorem trace_issue {asked : TargetRateIssue} (issued : asked.request.Issued)
    (free : ∀ state decision, P now state (.recorded decision))
    (meets : ∀ state' request, state'.orders = state.orders → P now state' (.created request)) :
    GovernedTrace env now P state (after (issue env now asked) state) :=
  (issue_result asked).trace { issued with } free
    fun _ => meets _ _ rfl

theorem issued_targetRate (nodeCode : String) (targetRate : ℚ) (actor : ActorInfo) :
    TargetRateIssue.request { nodeCode, targetRate, actor, riskLevel := "low", status := .pending
                              parameters := [] } |>.Issued where
  kind := by simp [TargetRateIssue.request]
  node := rfl
  gated _ high := absurd high (by simp [TargetRateIssue.request])

theorem issued_policy (policy : PolicyCommand) (nodeCode : String) :
    (policy.request nodeCode).Issued where
  kind := by cases policy <;> simp [PolicyCommand.request]
  node := by cases policy <;> rfl
  gated rate := by cases policy <;> simp [PolicyCommand.request] at rate

theorem trace_issueEach (dispatches : List DispatchIssue)
    (free : ∀ state decision, P now state (.recorded decision))
    (meets : ∀ state' request, state'.orders = state.orders → P now state' (.created request)) :
    GovernedTrace env now P state
      (after (DispatchControlService.issueEach env now dispatches) state) := by
  induction dispatches generalizing state with
  | nil => exact .nil state
  | cons dispatch rest ih =>
    have issued : dispatch.targetRateIssue.request.Issued :=
      ⟨by simp [TargetRateIssue.request], rfl, fun _ _ => rfl⟩
    refine trace_bind (trace_issue issued free meets) fun _ state' done => ?_
    have orders := (@issue_result env now state dispatch.targetRateIssue).orders
    unfold issueDispatchTargetRate at done
    rw [after_ok done] at orders
    refine trace_bind (ih fun _ request same => meets _ request (same.trans orders)) ?_
    exact fun _ _ _ => .nil _

theorem trace_proposeTargetRates (orderId : String)
    (free : ∀ state decision, P now state (.recorded decision))
    (meets : ∀ state' request, state'.orders = state.orders → P now state' (.created request))
    (ends : ∀ proposed commands state',
      DispatchControlService.proposal env actor orderId nodeCode state = .ok proposed →
      DispatchControlService.issueEach env now proposed.2 state = .ok commands state' →
      P now state' (.awaiting proposed.1.orderId)) :
    GovernedTrace env now P state
      (after (DispatchControlService.proposeTargetRates env now actor orderId nodeCode) state) := by
  unfold DispatchControlService.proposeTargetRates
  refine trace_lift_bind fun proposed found => ?_
  refine trace_bind (trace_issueEach proposed.2 free meets) fun commands state' done => ?_
  exact (GovernedStep.awaiting proposed.1.orderId).trace (ends proposed commands state' found done)

theorem normalizeRisk_high (action : String) :
    SafetyGovernor.normalizeRisk action "high" = "high" := by
  have low : ("high" : String).toLower = "high" := by decide +kernel
  simp [SafetyGovernor.normalizeRisk, low]

theorem review_allowed {action : String} {code : Option String}
    (allowed : (review actor action nodeCode "high" code state).allow = true) :
    actor.role = "system_admin" ∧ code = some confirmationCode ∧
      (review actor action nodeCode "high" code state).action = action ∧
      (review actor action nodeCode "high" code state).actorRole = actor.role := by
  unfold review SafetyGovernor.reviewControlAction SafetyGovernor.confirmationGate at allowed ⊢
  simp only [normalizeRisk_high, SafetyGovernor.decision, true_or, true_and] at allowed ⊢
  split at allowed
  next => cases allowed
  next known =>
    split at allowed
    next => cases allowed
    next production =>
      rw [if_neg known, if_neg production]
      split at allowed
      next emergency => exact absurd emergency.1 (by decide)
      next normal =>
        split at allowed
        next => cases allowed
        next code =>
          rw [if_neg code]
          split at allowed
          next => cases allowed
          next role =>
            rw [if_neg role]
            exact ⟨by simpa using role, by simpa using code, rfl, rfl⟩

theorem reviewCommand_ok (h : reviewCommand action about actor code state = .ok decision state') :
    decision = review actor action about.nodeCode about.riskLevel (some code) state ∧
      state' = { state with decisions := state.decisions ++
        [{ decision, about := some about.id, confirmationCode := some code }] } := by
  cases h
  exact ⟨rfl, rfl⟩

theorem confirmed_of_review (high : about.riskLevel = "high")
    (h : reviewCommand action about actor code state = .ok decision state')
    (allowed : decision.allow = true) : Confirmed state'.decisions action about.id := by
  obtain ⟨rfl, rfl⟩ := reviewCommand_ok h
  rw [high] at allowed
  obtain ⟨role, code, named, acted⟩ := review_allowed allowed
  refine ⟨_, List.mem_append_right _ List.mem_cons_self, rfl, ?_⟩
  rw [high]
  exact ⟨allowed, named, acted.trans role, code⟩

theorem reaches_review_bind
    (rest : ∀ decision state', state'.commands = state.commands →
      (decision.allow = true → about.riskLevel = "high" →
        Confirmed state'.decisions action about.id) →
      Reaches env now state' (after (f decision) state')) :
    Reaches env now state (after (reviewCommand action about actor code >>= f) state) := by
  refine trace_bind (reaches_recorded _) fun decision state' reviewed => ?_
  refine rest decision state' ?_ fun allowed high => confirmed_of_review high reviewed allowed
  rw [(reviewCommand_ok reviewed).2]

theorem isDispatchTargetRate_of_review {command : NodeCommand}
    (review : command.isAiSuggestionReview = true) : command.isDispatchTargetRate = false := by
  unfold NodeCommand.isAiSuggestionReview at review
  unfold NodeCommand.isDispatchTargetRate
  cases kind : command.parameters.get "workflow_kind" with
  | str text =>
    rw [kind] at review
    have named : text = "ai_suggestion_review" := by simpa [Json.isText] using review
    rw [named]
    rfl
  | _ => rfl

theorem reaches_settled_bind (settlement : Settlement) (commandId : Nat)
    {f : List NodeCommand → Except ControlFault (α × List NodeCommand)}
    {g : α → ControlProcedure β}
    (settled : ∀ a commands, f state.commands = .ok (a, commands) →
      ∃ command updated, Settles state.commands settlement commandId command updated commands ∧
        after (g a) { state with commands := commands } =
          state.settle env.store.builtins settlement command updated ∧
        settlement.Permitted state.decisions command) :
    Reaches env now state (after (onCommands f >>= g) state) := by
  cases done : f state.commands with
  | error fault =>
    rw [after_bind_error (onCommands_error done)]
    exact .nil state
  | ok result =>
    obtain ⟨command, updated, settles, left, permitted⟩ := settled result.1 result.2 done
    rw [after_bind_ok (@onCommands_eq _ _ result.2 _ result.1 done), left]
    have found := settles.found
    rw [← settles.id] at found
    exact (GovernedStep.settled found settles.same settles.status permitted).reaches

theorem settle_review {settlement : Settlement} {command updated : NodeCommand}
    (builtins : Builtins) (state : ControlState) (review : command.isAiSuggestionReview = true) :
    state.settle builtins settlement command updated =
      { state with
        commands := storeCommand state.commands updated
        suggestions := state.suggestions.map fun row =>
          if row.commandId = some command.id then
            { row with status := settlement.suggestionStatus }
          else row } := by
  unfold ControlState.settle updateDispatchControlStatus
  rw [isDispatchTargetRate_of_review review, review]
  rfl

theorem after_rejectSuggestion {about : NodeCommand} (state : ControlState) :
    ∃ suggestionId, rejectSuggestion about state = .ok suggestionId
      { state with
        suggestions := if about.isAiSuggestionReview then
            state.suggestions.map fun row =>
              if row.commandId = some about.id then { row with status := .rejected } else row
          else state.suggestions } := by
  unfold rejectSuggestion
  split
  next => exact after_setStatusForCommand .rejected state
  next => exact ⟨none, rfl⟩

theorem reaches_approve (code : String) :
    Reaches env now state (after (CommandControlService.approve env now commandId actor code)
      state) := by
  refine reaches_command_bind fun about found named => ?_
  refine reaches_review_bind fun decision state' same confirmed => ?_
  split
  next => exact .nil state'
  next allowed =>
    have allowed : decision.allow = true := by simpa using allowed
    split
    next review =>
      refine reaches_settled_bind .accept commandId fun updated commands done => ?_
      obtain ⟨command, settles, waiting⟩ := approveHumanReview_settles done
      have first := settles.found
      rw [same, found] at first
      cases first
      refine ⟨about, updated, settles, ?_, waiting, review⟩
      obtain ⟨suggestionId, accepted⟩ := @after_setStatusForCommand commandId .accepted
        { state' with commands := commands }
      rw [settle_review _ _ review, after_bind_ok accepted, ← settles.stored, named]
      rfl
    next plain =>
      refine reaches_settled_bind .approve commandId fun updated commands done => ?_
      obtain ⟨command, settles, waiting⟩ := approve_settles done
      have first := settles.found
      rw [same, found] at first
      cases first
      have plain : about.isAiSuggestionReview = false := by simpa using plain
      refine ⟨about, updated, settles, ?_, waiting, plain, confirmed allowed⟩
      unfold ControlState.settle
      rw [plain, ← settles.stored]
      rfl

theorem after_reviewLifecycleAction (action : String) (about : NodeCommand) :
    after (reviewLifecycleAction action about actor) state =
      { state with decisions := state.decisions ++ [lifecycleDecision action about actor] } := by
  unfold reviewLifecycleAction recordSafetyDecision
  exact (after_bind_pure _ _).trans (after_lift _)

theorem reaches_lifecycle_bind {action : String}
    (rest : ∀ decision state', state'.commands = state.commands →
      Reaches env now state' (after (f decision) state')) :
    Reaches env now state (after (reviewLifecycleAction action about actor >>= f) state) := by
  have left := @after_reviewLifecycleAction state actor action about
  refine trace_bind (by rw [left]; exact reaches_recorded _) fun decision state' reviewed => ?_
  refine rest decision state' ?_
  rw [← after_ok reviewed, left]

theorem after_turnDown (settlement : Settlement) {about updated : NodeCommand}
    {g : Option String → α} (turned : settlement.suggestionStatus = .rejected)
    (stored : commands = storeCommand state.commands updated) :
    after (do
      let suggestionId ← rejectSuggestion about
      modify (updateDispatchControlStatus env.store.builtins about settlement.verdict)
      return g suggestionId) { state with commands := commands } =
      state.settle env.store.builtins settlement about updated := by
  obtain ⟨suggestionId, rejected⟩ := @after_rejectSuggestion about
    { state with commands := commands }
  rw [after_bind_ok rejected]
  unfold ControlState.settle
  rw [turned, stored]
  rfl

theorem reaches_reject : Reaches env now state
    (after (CommandControlService.reject env now commandId actor) state) := by
  refine reaches_command_bind fun about found _ => ?_
  refine reaches_lifecycle_bind fun decision state' same => ?_
  refine reaches_settled_bind .reject commandId fun updated commands done => ?_
  obtain ⟨command, settles, waiting⟩ := reject_settles done
  have first := settles.found
  rw [same, found] at first
  cases first
  exact ⟨about, updated, settles, after_turnDown .reject rfl settles.stored, waiting⟩

theorem reaches_cancel : Reaches env now state
    (after (CommandControlService.cancel env now commandId actor reason) state) := by
  refine reaches_command_bind fun about found _ => ?_
  refine reaches_lifecycle_bind fun decision state' same => ?_
  refine reaches_settled_bind .cancel commandId fun cancelled commands done => ?_
  obtain ⟨command, settles, live⟩ := cancel_settles done
  have first := settles.found
  rw [same, found] at first
  cases first
  exact ⟨about, cancelled.1, settles, after_turnDown .cancel rfl settles.stored, live⟩

theorem reaches_retry (code : String) : Reaches env now state
    (after (CommandControlService.retry env now commandId actor code) state) := by
  refine reaches_command_bind fun about found named => ?_
  refine trace_lift_bind fun _ node => ?_
  refine reaches_review_bind fun decision state' same confirmed => ?_
  split
  next => exact .nil state'
  next allowed =>
    have allowed : decision.allow = true := by simpa using allowed
    refine trace_bind_pure ?_
    refine trace_onCommands fun reply commands done => ?_
    subst named
    rw [← same] at found
    exact (GovernedStep.retried found (check_eq_ok.mp node) (confirmed allowed) done).reaches

theorem issueAiReview_result (asked : ReviewIssue) :
    IssueResult env now state
      { asked.request with verificationBaseline := verificationBaseline state.store }
      (issueAiReview env now asked state) := by
  refine issueResult_guard_bind (after_lift _) fun _ => ?_
  refine issueResult_guard_bind (p := requireNode asked.nodeCode) (after_lift _) fun _ => ?_
  refine issueResult_guard_bind (after_lift _) fun _ => ?_
  refine issueResult_guard_bind (p := get) rfl fun known => ?_
  simp only
  split
  next => exact issueResult_allowed_bind _ _
  next => exact issueResult_addCommand _

theorem trace_storeSuggestion {input : SuggestionInput} (review : input.needsReview = true)
    {reply : NodeCommand × List CommandTransition × Bool} (decision : RecordedDecision)
    (free : ∀ state decision, P now state (.recorded decision))
    (meets : P now { state with decisions := state.decisions ++ [decision] } (.suggested input))
    (done : createCommand env.store.builtins state.commands now (input.request env state) =
      .ok (reply, commands)) :
    GovernedTrace env now P state (after (storeSuggestion now input
        (input.row ("ais_" ++ env.token state.tokens) (some reply.1.id)))
      { state with
        tokens := state.tokens + 1, commands := commands
        decisions := state.decisions ++ [decision] }) := by
  refine ((GovernedStep.recorded decision).trace (free _ _)).trans ?_
  have step := @GovernedStep.reviewed env now
    { state with decisions := state.decisions ++ [decision] } input review reply commands done
  unfold storeSuggestion
  rw [after_get_bind]
  split
  next stored => exact (step .stored).trace meets
  next =>
    change GovernedTrace env now P _ (after ((onCommands fun created => cancel created now
      reply.1.id (actorIdentity input.actor) "AI suggestion persistence failed") >>=
        fun _ => throw .database) _)
    cases cancelled : cancel commands now reply.1.id (actorIdentity input.actor)
        "AI suggestion persistence failed" with
    | error fault =>
      rw [after_bind_error (onCommands_error cancelled)]
      exact (step .left).trace meets
    | ok result =>
      rw [after_bind_ok (@onCommands_eq _ _ result.2 _ result.1 cancelled)]
      exact (step (.withdrawn cancelled)).trace meets

theorem trace_persistAiSuggestion (input : SuggestionInput)
    (drawn : ∀ state, P now state .elsewhere)
    (free : ∀ state decision, P now state (.recorded decision))
    (meets : ∀ decisions, P now { state with decisions := decisions } (.suggested input)) :
    GovernedTrace env now P state (after (persistAiSuggestion env now input) state) := by
  unfold persistAiSuggestion
  rw [after_get_bind, after_modify_bind]
  have drawn : GovernedTrace env now P state { state with tokens := state.tokens + 1 } :=
    (@GovernedStep.elsewhere env now state { state with tokens := state.tokens + 1 }
      rfl rfl rfl rfl rfl (Nat.le_succ _)).trace (drawn state)
  split
  next review =>
    have result := @issueAiReview_result env now { state with tokens := state.tokens + 1 }
      (input.reviewIssue ("ais_" ++ env.token state.tokens))
    generalize issued : issueAiReview env now
      (input.reviewIssue ("ais_" ++ env.token state.tokens))
      { state with tokens := state.tokens + 1 } = returned at result
    cases result with
    | refused fault decisions =>
      rw [after_bind_error issued]
      exact drawn.trans (trace_decisions free decisions)
    | issued decision done =>
      rw [after_bind_ok issued]
      exact trace_storeSuggestion review decision free (meets _) done
  next plain =>
    unfold storeSuggestion
    rw [after_get_bind]
    split
    next =>
      exact (@GovernedStep.suggested env now state input (by simpa using plain)).trace
        (meets state.decisions)
    next => exact drawn

theorem reaches_elsewhere (commands : state'.commands = state.commands)
    (orders : state'.orders = state.orders) (orderSeq : state'.orderSeq = state.orderSeq)
    (suggestions : state'.suggestions = state.suggestions)
    (decisions : state'.decisions = state.decisions) (tokens : state'.tokens = state.tokens) :
    Reaches env now state state' :=
  GovernedStep.reaches
    (.elsewhere commands orders orderSeq suggestions decisions (Nat.le_of_eq tokens.symm))

theorem reaches_observeNode (systemProduction : List (String × Fields)) :
    Reaches env now state (after (observeNode env now nodeCode systemProduction) state) := by
  unfold observeNode
  rw [after_get_bind]
  have ended := @GovernedStep.observed env now state nodeCode systemProduction
  have failed := @GovernedStep.interrupted env now state nodeCode systemProduction
  revert ended failed
  generalize observeCommandEffects env now nodeCode systemProduction state.commands = result
  obtain ⟨observed | observed, commands⟩ := result
  · exact fun _ failed => (failed rfl).reaches
  · exact fun ended _ => (ended rfl).reaches

/-- Every call of the service is a sequence of governed steps. -/
theorem perform_reaches (call : ControlCall) :
    Reaches env call.now state (after (call.perform env) state) := by
  unfold ControlCall.perform
  cases call.operation with
  | store operation | schedule plans tasks => exact reaches_elsewhere rfl rfl rfl rfl rfl rfl
  | submitAllocationOrder input => exact (GovernedStep.submitted input).reaches
  | policyCommand policy nodeCode =>
    exact trace_bind_pure (reaches_addCommand (issued_policy policy nodeCode))
  | issueTargetRate nodeCode targetRate actor =>
    exact trace_bind_pure (trace_issue (issued_targetRate nodeCode targetRate actor)
      (fun _ _ => trivial) fun _ _ _ => trivial)
  | proposeTargetRates actor orderId nodeCode =>
    exact trace_bind_pure (trace_proposeTargetRates orderId (fun _ _ => trivial)
      (fun _ _ _ => trivial) fun _ _ _ _ _ => trivial)
  | persistAiSuggestion input =>
    exact trace_bind_pure
      (trace_persistAiSuggestion input (fun _ => trivial) (fun _ _ => trivial) fun _ => trivial)
  | approve commandId actor confirmationCode =>
    exact trace_bind_pure (reaches_approve confirmationCode)
  | reject commandId actor => exact trace_bind_pure reaches_reject
  | cancel commandId actor reason => exact trace_bind_pure reaches_cancel
  | retry commandId actor confirmationCode =>
    exact trace_bind_pure (reaches_retry confirmationCode)
  | claimPendingCommandsForNode nodeCode agentId =>
    have claimed : Reaches env call.now state (after
        (ControlProcedure.claimPendingCommandsForNode env call.now nodeCode agentId) state) :=
      GovernedStep.expired.reaches.trans (GovernedStep.claimed nodeCode agentId).reaches
    exact trace_bind_pure claimed
  | recordCommandResult nodeCode commandId status message =>
    exact trace_bind_pure (trace_onCommands fun _ _ done =>
      (GovernedStep.resulted done).reaches)
  | expireStaleCommands => exact GovernedStep.expired.reaches
  | observe nodeCode systemProduction =>
    exact trace_bind_pure (reaches_observeNode systemProduction)

end MiniOgas
