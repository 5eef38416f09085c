import MiniOgas.CommandLaws
import MiniOgas.ControlTraces

namespace MiniOgas

open Bounded Procedure Serial

variable {env : ControlEnv} {now : Timestamp} {state state' : ControlState}
  {commands commands' : List NodeCommand} {command updated : NodeCommand}
  {request : CommandRequest} {event : GovernedEvent} {commandId : Nat}
  {decisions later : List RecordedDecision} {reply : NodeCommand × List CommandTransition × Bool}
  {ttlSeconds : Int} {id : Nat}

/-- The operations release no command: what can be claimed afterwards is as it was. -/
def Unreleased (commands commands' : List NodeCommand) : Prop :=
  ∀ command ∈ commands', command.status.claimable = true → command ∈ commands

theorem unreleased_refl (commands : List NodeCommand) : Unreleased commands commands :=
  fun _ member _ => member

theorem unreleased_movedWhere {p : NodeCommand → Bool} {f : NodeCommand → NodeCommand}
    (moved : ∀ command, p command = true → (f command).status.claimable = false) :
    Unreleased commands (commands.map fun command => if p command then f command else command) := by
  intro updated member claimable
  obtain ⟨command, old, rfl⟩ := List.mem_map.mp member
  by_cases h : p command = true
  · rw [if_pos h, moved command h] at claimable
    cases claimable
  · rwa [if_neg h]

theorem unreleased_storeCommand
    (found : commands.find? (·.id = updated.id) = some command)
    (held : updated.status.claimable = false) :
    Unreleased commands (storeCommand commands updated) := by
  intro other member claimable
  rcases mem_modifyFirst_cases found member with rfl | old
  · rw [held] at claimable
    cases claimable
  · exact old

theorem unreleased_expire (ttlSeconds : Int) :
    Unreleased commands (expireStaleClaims commands now ttlSeconds).2 :=
  unreleased_movedWhere fun _ _ => rfl

theorem unreleased_claim (nodeCode agentId : String) :
    Unreleased commands (claimForNode commands now nodeCode agentId).2 :=
  unreleased_movedWhere fun _ _ => rfl

theorem unreleased_replaces (request : CommandRequest) :
    Unreleased commands (request.replaces commands now).2 :=
  unreleased_movedWhere fun _ _ => rfl

theorem unreleased_recordResult {nodeCode status message : String} {changed : Bool}
    (h : recordResult commands now nodeCode commandId status message =
      .ok ((updated, changed), commands')) :
    Unreleased commands commands' := by
  rcases recordResult_stored h with ⟨-, rfl⟩ | ⟨command, found, -, -, -, normalized, -, rfl⟩
  · exact unreleased_refl commands'
  · intro other member claimable
    rcases mem_modifyFirst_cases found member with rfl | old
    · rcases normalizedResult_cases normalized with reached | reached <;>
        rw [reached] at claimable <;> cases claimable
    · exact old

theorem unreleased_cancel {actor reason : String} {changed : Bool}
    (h : cancel commands now commandId actor reason = .ok ((updated, changed), commands')) :
    Unreleased commands commands' := by
  obtain ⟨command, settles, -⟩ := cancel_settles h
  rw [settles.stored]
  have named : updated.id = commandId :=
    (congrArg CommandIdentity.id settles.same).trans settles.id
  refine unreleased_storeCommand (named ▸ settles.found) ?_
  rw [settles.status]
  rfl

theorem open_of_claimable {status : CommandStatus} (claimable : status.claimable = true) :
    status.open = true := by
  cases status <;> first | rfl | cases claimable

theorem not_open_of_observable {nodeCode : String}
    (observable : ¬ command.observable nodeCode = false) : ¬ command.status.open = true := by
  simp only [NodeCommand.observable, Bool.not_eq_false, Bool.and_eq_true, Bool.or_eq_true,
    decide_eq_true_eq] at observable
  rcases observable.2 with carried | carried <;> rw [carried] <;> simp [CommandStatus.open]

theorem unreleased_observe (nodeCode : String) (systemProduction : List (String × Fields))
    (commands : List NodeCommand) :
    Unreleased commands
      (observeCommandEffects env now nodeCode systemProduction commands).2 := by
  induction commands with
  | nil => exact unreleased_refl []
  | cons command rest ih =>
    intro other member claimable
    unfold observeCommandEffects at member
    split at member
    next =>
      rcases List.mem_cons.mp member with rfl | member
      · exact List.mem_cons_self
      · exact List.mem_cons_of_mem _ (ih other member claimable)
    next observable =>
      split at member
      next => exact member
      next result updated done =>
        rcases List.mem_cons.mp member with rfl | member
        · have claimed := open_of_moved (@observe_move _ _ _ (.observe 0 []) _ _ _ _ done)
            (open_of_claimable claimable)
          exact absurd claimed (not_open_of_observable observable)
        · exact List.mem_cons_of_mem _ (ih other member claimable)

structure Released (decisions : List RecordedDecision) (command : NodeCommand) : Prop where
  node : command.isAiSuggestionReview = false
  confirmed : command.commandType = "set_target_rate" → command.riskLevel = "high" →
    Confirmed decisions "set_target_rate" command.id ∨
      ∃ source : Nat, command.parameters.get "retry_of" = .int source ∧
        Confirmed decisions "retry_set_target_rate" source

def Gated (state : ControlState) : Prop :=
  ∀ command ∈ state.commands, command.status.claimable = true → Released state.decisions command

theorem Confirmed.mono {action : String} (confirmed : Confirmed decisions action commandId)
    (sub : decisions ⊆ later) : Confirmed later action commandId := by
  obtain ⟨recorded, member, rest⟩ := confirmed
  exact ⟨recorded, sub member, rest⟩

theorem Released.mono (released : Released decisions command) (sub : decisions ⊆ later) :
    Released later command := by
  refine ⟨released.node, fun rate high => ?_⟩
  rcases released.confirmed rate high with own | ⟨source, named, confirmed⟩
  · exact .inl (own.mono sub)
  · exact .inr ⟨source, named, confirmed.mono sub⟩

theorem Gated.of_unreleased (gated : Gated state)
    (unreleased : Unreleased state.commands state'.commands)
    (sub : state.decisions ⊆ state'.decisions) : Gated state' :=
  fun command member claimable =>
    (gated command (unreleased command member claimable) claimable).mono sub

theorem released_of_identity {decisions : List RecordedDecision}
    (same : updated.identity = command.identity) (released : Released decisions command) :
    Released decisions updated := by
  have parameters := congrArg CommandIdentity.parameters same
  have commandType := congrArg CommandIdentity.commandType same
  have riskLevel := congrArg CommandIdentity.riskLevel same
  have id := congrArg CommandIdentity.id same
  simp only [NodeCommand.identity] at parameters commandType riskLevel id
  obtain ⟨node, confirmed⟩ := released
  refine ⟨?_, ?_⟩
  · rwa [NodeCommand.isAiSuggestionReview, parameters]
  · rwa [commandType, riskLevel, id, parameters]

@[simp] theorem updateDispatchControlStatus_commands (builtins : Builtins)
    (command : NodeCommand) (verdict : DispatchVerdict) (state : ControlState) :
    (updateDispatchControlStatus builtins command verdict state).commands = state.commands := by
  unfold updateDispatchControlStatus
  split
  next => cases verdict <;> rfl
  next => rfl

@[simp] theorem updateDispatchControlStatus_decisions (builtins : Builtins)
    (command : NodeCommand) (verdict : DispatchVerdict) (state : ControlState) :
    (updateDispatchControlStatus builtins command verdict state).decisions = state.decisions := by
  unfold updateDispatchControlStatus
  split
  next => cases verdict <;> rfl
  next => rfl

@[simp] theorem updateDispatchControlStatus_suggestions (builtins : Builtins)
    (command : NodeCommand) (verdict : DispatchVerdict) (state : ControlState) :
    (updateDispatchControlStatus builtins command verdict state).suggestions =
      state.suggestions := by
  unfold updateDispatchControlStatus
  split
  next => cases verdict <;> rfl
  next => rfl

@[simp] theorem updateDispatchControlStatus_tokens (builtins : Builtins)
    (command : NodeCommand) (verdict : DispatchVerdict) (state : ControlState) :
    (updateDispatchControlStatus builtins command verdict state).tokens = state.tokens := by
  unfold updateDispatchControlStatus
  split
  next => cases verdict <;> rfl
  next => rfl

theorem project_frame (env : ControlEnv) (observed : List NodeCommand) (state : ControlState) :
    (observed.foldl (ControlState.project env) state).commands = state.commands ∧
      (observed.foldl (ControlState.project env) state).decisions = state.decisions ∧
      (observed.foldl (ControlState.project env) state).suggestions = state.suggestions ∧
      (observed.foldl (ControlState.project env) state).tokens = state.tokens := by
  induction observed generalizing state with
  | nil => exact ⟨rfl, rfl, rfl, rfl⟩
  | cons command rest ih =>
    rw [List.foldl_cons]
    obtain ⟨commands, decisions, suggestions, tokens⟩ := ih (state.project env command)
    rw [commands, decisions, suggestions, tokens]
    unfold ControlState.project
    split
    next => exact ⟨rfl, rfl, rfl, rfl⟩
    next => simp

theorem createCommand_releases
    (done : createCommand env.store.builtins commands now request = .ok (reply, commands')) :
    ∀ command ∈ commands', command.status.claimable = true → command ∈ commands ∨
      ∃ id ttlSeconds, command = request.command now id ttlSeconds := by
  intro command member claimable
  unfold createCommand at done
  split at done
  next =>
    cases done
    exact .inl member
  next =>
    obtain ⟨ttlSeconds, -, done⟩ := of_bind done
    cases done
    rcases of_mem_keepLast_append member with old | rfl
    · exact .inl (unreleased_replaces request command old claimable)
    · exact .inr ⟨_, _, rfl⟩

theorem unreleased_createCommand (held : request.status.claimable = false)
    (done : createCommand env.store.builtins commands now request = .ok (reply, commands')) :
    Unreleased commands commands' := by
  intro command member claimable
  rcases createCommand_releases done command member claimable with old | ⟨id, ttlSeconds, rfl⟩
  · exact old
  · change request.status.claimable = true at claimable
    rw [held] at claimable
    cases claimable

theorem command_get {key : String} (ne : key ≠ "idempotency_key") :
    (request.command now id ttlSeconds).parameters.get key = request.parameters.get key :=
  Fields.get_setDefault_of_ne _ _ ne

theorem released_issued {decisions : List RecordedDecision} (issued : request.Issued)
    (claimable : (request.command now id ttlSeconds).status.claimable = true) :
    Released decisions (request.command now id ttlSeconds) := by
  refine ⟨?_, fun rate high => ?_⟩
  · rw [NodeCommand.isAiSuggestionReview, command_get (by decide)]
    exact issued.node
  · have held : (request.command now id ttlSeconds).status = .waitingApproval :=
      issued.gated rate high
    rw [held] at claimable
    cases claimable

theorem released_retried {decisions : List RecordedDecision} {actor : String}
    (node : command.isAiSuggestionReview = false)
    (confirmed : command.riskLevel = "high" →
      Confirmed decisions ("retry_" ++ command.commandType) command.id) :
    Released decisions ((command.retryRequest actor).command now id ttlSeconds) := by
  have kept : ∀ key, key ≠ "idempotency_key" → key ≠ "retry_of" →
      ((command.retryRequest actor).command now id ttlSeconds).parameters.get key =
        command.parameters.get key := by
    intro key own other
    rw [command_get own]
    change ((command.parameters.pop _).set _ _).get key = _
    rw [Fields.get_set, if_neg other, Fields.get_pop_of_ne _ own]
  refine ⟨?_, fun rate high => .inr ⟨command.id, ?_, ?_⟩⟩
  · rw [NodeCommand.isAiSuggestionReview, kept _ (by decide) (by decide)]
    exact node
  · rw [command_get (by decide)]
    change ((command.parameters.pop _).set _ _).get _ = _
    rw [Fields.get_set, if_pos rfl]
  · have rate : command.commandType = "set_target_rate" := rate
    rw [rate] at confirmed
    exact confirmed high

theorem settle_commands (builtins : Builtins) (settlement : Settlement) :
    (state.settle builtins settlement command updated).commands =
      storeCommand state.commands updated := by
  unfold ControlState.settle
  rw [updateDispatchControlStatus_commands]

theorem settle_decisions (builtins : Builtins) (settlement : Settlement) :
    (state.settle builtins settlement command updated).decisions = state.decisions := by
  unfold ControlState.settle
  rw [updateDispatchControlStatus_decisions]

theorem settle_tokens (builtins : Builtins) (settlement : Settlement) :
    (state.settle builtins settlement command updated).tokens = state.tokens := by
  unfold ControlState.settle
  rw [updateDispatchControlStatus_tokens]

theorem settle_suggestions (builtins : Builtins) (settlement : Settlement) :
    (state.settle builtins settlement command updated).suggestions =
      if command.isAiSuggestionReview then
        state.suggestions.map fun row =>
          if row.commandId = some command.id then
            { row with status := settlement.suggestionStatus }
          else row
      else state.suggestions := by
  unfold ControlState.settle
  rw [updateDispatchControlStatus_suggestions]

theorem gated_settled {settlement : Settlement} (gated : Gated state)
    (found : state.commands.find? (·.id = command.id) = some command)
    (same : updated.identity = command.identity) (status : updated.status = settlement.status)
    (permitted : settlement.Permitted state.decisions command) :
    Gated (state.settle env.store.builtins settlement command updated) := by
  have named : updated.id = command.id := congrArg CommandIdentity.id same
  rw [← named] at found
  intro other member claimable
  rw [settle_decisions]
  rw [settle_commands] at member
  by_cases held : updated.status.claimable = false
  · exact gated other (unreleased_storeCommand found held other member claimable) claimable
  · rcases mem_modifyFirst_cases found member with rfl | old
    · cases settlement with
      | approve =>
        obtain ⟨-, node, confirmed⟩ := permitted
        refine released_of_identity same ⟨node, fun rate high => .inl ?_⟩
        rw [rate] at confirmed
        exact confirmed high
      | accept | reject | cancel =>
        rw [status] at held
        exact absurd rfl held
    · exact gated other old claimable

theorem gated_step (step : GovernedStep env now state event state') (gated : Gated state) :
    Gated state' := by
  cases step with
  | elsewhere commands _ _ _ decisions =>
    refine gated.of_unreleased ?_ (by rw [decisions]; exact List.Subset.refl _)
    rw [commands]
    exact unreleased_refl _
  | recorded decision =>
    exact gated.of_unreleased (unreleased_refl _) (List.subset_append_left _ _)
  | submitted | awaiting | suggested =>
    exact gated.of_unreleased (unreleased_refl _) (List.Subset.refl _)
  | created issued done =>
    intro command member claimable
    rcases createCommand_releases done command member claimable with old | ⟨id, ttl, rfl⟩
    · exact gated command old claimable
    · exact released_issued issued claimable
  | reviewed review done kept =>
    refine gated.of_unreleased ?_ (List.Subset.refl _)
    have created := unreleased_createCommand rfl done
    cases kept with
    | stored | left => exact created
    | withdrawn cancelled =>
      exact fun command member claimable =>
        created command (unreleased_cancel cancelled command member claimable) claimable
  | settled found same status permitted => exact gated_settled gated found same status permitted
  | retried found node confirmed done =>
    intro other member claimable
    obtain ⟨-, created, done⟩ := retry_created found done
    rcases createCommand_releases done other member claimable with old | ⟨id, ttl, rfl⟩
    · exact gated other old claimable
    · exact released_retried node confirmed
  | claimed nodeCode agentId =>
    exact gated.of_unreleased (unreleased_claim nodeCode agentId) (List.Subset.refl _)
  | expired => exact gated.of_unreleased (unreleased_expire _) (List.Subset.refl _)
  | resulted done =>
    exact gated.of_unreleased (unreleased_recordResult done) (List.Subset.refl _)
  | @observed nodeCode systemProduction observed done =>
    obtain ⟨commands, decisions, -⟩ := project_frame env observed { state with
      commands := (observeCommandEffects env now nodeCode systemProduction state.commands).2 }
    refine gated.of_unreleased ?_ (by rw [decisions]; exact List.Subset.refl _)
    rw [commands]
    exact unreleased_observe nodeCode systemProduction state.commands
  | interrupted =>
    exact gated.of_unreleased (unreleased_observe _ _ _) (List.Subset.refl _)

theorem control_invariant {I : ControlState → Prop}
    (step : ∀ now state event state', GovernedStep env now state event state' → I state → I state')
    (init : I state) (calls : List ControlCall) :
    I ((governanceAuthority env).run state calls) := by
  refine Authority.invariant (fun {state call _ _} kept served => ?_) calls init
  cases served
  exact trace_invariant (fun state event state' _ => step call.now state event state')
    (perform_reaches call) kept

/-- A rate command of high risk can be claimed only when an administrator has confirmed it or its
retry, and a review of a suggestion never. -/
def ApprovalGate (state : ControlState) : Prop :=
  ∀ command ∈ state.commands,
    (command.isAiSuggestionReview = true → command.status.claimable = false) ∧
    (command.commandType = "set_target_rate" → command.riskLevel = "high" →
      command.status.claimable = true →
        Confirmed state.decisions "set_target_rate" command.id ∨
        ∃ source : Nat, command.parameters.get "retry_of" = .int source ∧
          Confirmed state.decisions "retry_set_target_rate" source)

theorem approvalGate_of_gated (gated : Gated state) : ApprovalGate state := by
  intro command member
  refine ⟨fun review => ?_, fun rate high claimable => ?_⟩
  · by_contra claimable
    have released := gated command member (by simpa using claimable)
    rw [released.node] at review
    cases review
  · exact (gated command member claimable).confirmed rate high

/-- The gate holds in every run that starts without commands. -/
theorem approvalGate_run (env : ControlEnv) (state : ControlState) (empty : state.commands = [])
    (calls : List ControlCall) :
    ApprovalGate ((governanceAuthority env).run state calls) := by
  have start : Gated state := by
    intro command member
    rw [empty] at member
    exact absurd member List.not_mem_nil
  exact approvalGate_of_gated
    (@control_invariant env state Gated (fun _ _ _ _ step => gated_step step) start calls)

theorem replicate_length_injective :
    Function.Injective fun n : Nat => String.ofList (List.replicate n 'a') := by
  intro m n same
  have lists := congrArg String.toList same
  simpa using congrArg List.length lists

def sampleControlEnv : ControlEnv where
  store := ⟨sampleBuiltins, ⟨.controlledWrite, 30, []⟩, "token", fun n => toString n⟩
  verifier := .standard
  commandClaimTimeoutSeconds := 60
  token := fun n => String.ofList (List.replicate n 'a')
  distinct := replicate_length_injective

def sampleNodeCodes : List String := ["milling-workshop-01", "turning-workshop-01"]

def sampleControlState : ControlState :=
  { ControlState.empty with
    store := { MemoryStore.empty with
      nodes := sampleNodeCodes.foldl (fun nodes nodeCode => nodes.set nodeCode
        { nodeCode, nodeName := nodeCode, workshopType := "turning", lastHeartbeat := 0 }) .empty
      nodeHeartbeatsV2 := sampleNodeCodes.foldl (fun heartbeats nodeCode => heartbeats.set nodeCode
        [("production", .obj [("nominal_capacity_per_hour", .int 60)])]) .empty }
    plans := [⟨"P2", 72, 2, productRoute "P2"⟩]
    tasks := [⟨1, "P2", 72, 2, "turning-workshop-01", "T1", "scheduled", ""⟩,
      ⟨2, "P2", 72, 2, "milling-workshop-01", "M1", "scheduled", ""⟩] }

def sampleAdmin : ActorInfo := { principalId := "admin", role := "system_admin" }

def sampleSubmit : ControlCall :=
  ⟨0, .submitAllocationOrder ⟨"P2", ⟨72, by decide⟩, ⟨3, by decide⟩, ⟨2, by decide⟩⟩⟩

def samplePropose : ControlCall := ⟨0, .proposeTargetRates sampleAdmin "AO-001" ""⟩

def sampleApprove (commandId : Nat) : ControlCall :=
  ⟨0, .approve commandId sampleAdmin "CONFIRM"⟩

/-- A proposal for two nodes of which one command is approved and can be claimed. -/
theorem approvalGate_sample :
    ((governanceAuthority sampleControlEnv).run sampleControlState
        [sampleSubmit, samplePropose, sampleApprove 2]).commands.map (·.status) =
      [.waitingApproval, .pending] ∧
    ApprovalGate ((governanceAuthority sampleControlEnv).run sampleControlState
      [sampleSubmit, samplePropose, sampleApprove 2]) :=
  ⟨by decide +kernel, approvalGate_run sampleControlEnv sampleControlState rfl _⟩

end MiniOgas
