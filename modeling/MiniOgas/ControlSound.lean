import MiniOgas.ApprovalGate

namespace MiniOgas

open Bounded Procedure Serial

variable {env : ControlEnv} {now : Timestamp} {state state' : ControlState}
  {commands commands' : List NodeCommand} {command updated : NodeCommand}
  {request : CommandRequest} {event : GovernedEvent} {nodeCode : String} {tokens later : Nat}
  {operation : CommandOperation} {reply : NodeCommand × List CommandTransition × Bool}
  {settlement : Settlement} {decisions : List RecordedDecision}

theorem mem_movedWhere {p : NodeCommand → Bool} {f : NodeCommand → NodeCommand}
    (member : command ∈ commands) (spared : p command = false) :
    command ∈ commands.map fun command => if p command then f command else command :=
  List.mem_map.mpr ⟨command, member, by simp [spared]⟩

theorem mem_storeCommand_of_ne {target : NodeCommand}
    (found : commands.find? (·.id = updated.id) = some target)
    (member : command ∈ commands) (ne : command.id ≠ updated.id) :
    command ∈ storeCommand commands updated := by
  have named : target.id = updated.id := by simpa using List.find?_some found
  exact mem_modifyFirst_of_ne found member fun same => ne (same ▸ named)

theorem find?_id_of_mem (increasing : (commands.map (·.id)).Pairwise (· < ·))
    (member : command ∈ commands) : commands.find? (·.id = command.id) = some command := by
  have some : (commands.find? (·.id = command.id)).isSome = true := by
    rw [List.find?_isSome]
    exact ⟨command, member, by simp⟩
  obtain ⟨other, found⟩ := Option.isSome_iff_exists.mp some
  have named : other.id = command.id := by simpa using List.find?_some found
  rw [found, eq_of_increasing increasing (List.mem_of_find?_eq_some found) member named]

theorem mem_recordResult {status message : String} {commandId : Nat} {changed : Bool}
    (h : recordResult commands now nodeCode commandId status message =
      .ok ((updated, changed), commands'))
    (member : command ∈ commands) (idle : command.status.acceptsResult = false) :
    command ∈ commands' := by
  rcases recordResult_stored h with ⟨-, rfl⟩ | ⟨target, found, -, accepts, -, -, -, rfl⟩
  · exact member
  · refine mem_modifyFirst_of_ne found member fun same => ?_
    rw [same, accepts] at idle
    cases idle

theorem mem_observeCommandEffects {systemProduction : List (String × Fields)}
    (member : command ∈ commands) (idle : command.observable nodeCode = false) :
    command ∈ (observeCommandEffects env now nodeCode systemProduction commands).2 := by
  induction commands with
  | nil => exact member
  | cons first rest ih =>
    unfold observeCommandEffects
    rcases List.mem_cons.mp member with rfl | later
    · rw [if_pos idle]
      exact List.mem_cons_self
    · split
      next => exact List.mem_cons_of_mem _ (ih later)
      next =>
        split
        next => exact member
        next => exact List.mem_cons_of_mem _ (ih later)

/-- The command is the one that a full list loses when a command is appended. -/
def NodeCommand.leaves (commands : List NodeCommand) (command : NodeCommand) : Prop :=
  commands.length = commandCapacity ∧ (commands.map (·.id)).head? = some command.id

theorem mem_created {created : NodeCommand} (bounded : commands.length ≤ commandCapacity)
    (member : command ∈ commands)
    (spared : command.isOpen request.nodeCode request.commandType = false)
    (stays : ¬ command.leaves commands) :
    command ∈ keepLast commandCapacity ((request.replaces commands now).2 ++ [created]) := by
  have there : command ∈ (request.replaces commands now).2 := mem_movedWhere member spared
  have length : (request.replaces commands now).2.length = commands.length := List.length_map _
  rw [keepLast_append commandCapacity (length ▸ bounded)]
  split
  next full =>
    cases left : (request.replaces commands now).2 with
    | nil =>
      rw [left] at there
      exact absurd there List.not_mem_nil
    | cons first rest =>
      rw [left] at there
      rcases List.mem_cons.mp there with rfl | later
      · refine absurd ⟨length ▸ full, ?_⟩ stays
        rw [← map_id_of_moved (replaces_moves (.claim "" "") commands now request), left]
        rfl
      · exact List.mem_append_left _ later
  next => exact List.mem_append_left _ there

structure ReviewSound (env : ControlEnv) (tokens : Nat) (command : NodeCommand) : Prop where
  kind : command.commandType = "review_ai_recommendation" ↔ command.isAiSuggestionReview = true
  key : command.commandType = "review_ai_recommendation" → ∃ n < tokens,
    command.parameters.get "idempotency_key" =
      .str ("ai-suggestion:" ++ ("ais_" ++ env.token n))

structure ControlSound (env : ControlEnv) (state : ControlState) : Prop where
  commands : CommandsSound state.commands
  reviews : ∀ command ∈ state.commands, ReviewSound env state.tokens command

theorem ReviewSound.of_identity (sound : ReviewSound env tokens command)
    (same : updated.identity = command.identity) (le : tokens ≤ later) :
    ReviewSound env later updated := by
  have parameters := congrArg CommandIdentity.parameters same
  have commandType := congrArg CommandIdentity.commandType same
  simp only [NodeCommand.identity] at parameters commandType
  refine ⟨?_, fun kind => ?_⟩
  · rw [NodeCommand.isAiSuggestionReview, parameters, commandType]
    exact sound.kind
  · rw [commandType] at kind
    obtain ⟨n, drawn, key⟩ := sound.key kind
    exact ⟨n, by omega, by rw [parameters]; exact key⟩

theorem commandsSound_moved (sound : CommandsSound commands)
    (moves : List.Forall₂ (CommandMove operation) commands commands') : CommandsSound commands' :=
  @commandsSound_step sampleBuiltins commands commands' (.transitioned []) ⟨0, operation⟩
    (.moved moves) sound

theorem commandsSound_created (sound : CommandsSound commands)
    (done : createCommand env.store.builtins commands now request = .ok (reply, commands')) :
    CommandsSound commands' :=
  @commandsSound_step env.store.builtins commands commands'
    (.created reply.1 reply.2.1 reply.2.2) ⟨now, .create request⟩
    (createCommand_effect done rfl rfl) sound

theorem reviews_moved (le : tokens ≤ later)
    (reviews : ∀ command ∈ commands, ReviewSound env tokens command)
    (moves : List.Forall₂ (CommandMove operation) commands commands') :
    ∀ command ∈ commands', ReviewSound env later command := by
  intro updated member
  obtain ⟨command, old, move⟩ := exists_left_of_forall₂ moves member
  exact (reviews command old).of_identity move.same le

theorem reviews_created (le : tokens ≤ later)
    (reviews : ∀ command ∈ commands, ReviewSound env tokens command)
    (own : ∀ id ttlSeconds, ReviewSound env later (request.command now id ttlSeconds))
    (done : createCommand env.store.builtins commands now request = .ok (reply, commands')) :
    ∀ command ∈ commands', ReviewSound env later command := by
  intro command member
  rcases createCommand_cases done with ⟨-, same⟩ | ⟨-, ttlSeconds, new, appended⟩
  · rw [same] at member
    exact (reviews command member).of_identity rfl le
  · rw [appended, new] at member
    rcases of_mem_keepLast_append member with old | rfl
    · exact reviews_moved le reviews (replaces_moves (.claim "" "") commands now request)
        command old
    · exact own _ _

theorem retryRequest_get {actor key : String} (own : key ≠ "idempotency_key")
    (other : key ≠ "retry_of") :
    (command.retryRequest actor).parameters.get key = command.parameters.get key := by
  change ((command.parameters.pop _).set _ _).get key = _
  rw [Fields.get_set, if_neg other, Fields.get_pop_of_ne _ own]

theorem issued_retry (actor : String) (sound : ReviewSound env state.tokens command)
    (node : command.isAiSuggestionReview = false) :
    (command.retryRequest actor).commandType ≠ "review_ai_recommendation" ∧
      ((command.retryRequest actor).parameters.get "workflow_kind").isText
        "ai_suggestion_review" = false := by
  refine ⟨fun kind => ?_, ?_⟩
  · have review := sound.kind.mp kind
    rw [node] at review
    cases review
  · rw [retryRequest_get (by decide) (by decide)]
    exact node

theorem reviewSound_of_plain {tokens id : Nat} {ttlSeconds : Int}
    (kind : request.commandType ≠ "review_ai_recommendation")
    (node : (request.parameters.get "workflow_kind").isText "ai_suggestion_review" = false) :
    ReviewSound env tokens (request.command now id ttlSeconds) := by
  have plain : (request.command now id ttlSeconds).isAiSuggestionReview = false := by
    rw [NodeCommand.isAiSuggestionReview, command_get (by decide)]
    exact node
  refine ⟨⟨fun review => absurd review kind, fun review => ?_⟩, fun review => absurd review kind⟩
  rw [plain] at review
  cases review

theorem repeatedCommand_request (sound : ControlSound env state) (input : SuggestionInput) :
    repeatedCommand env.store.builtins state.commands (input.request env state) = none := by
  have key : env.store.builtins.text
      (((input.request env state).parameters.get "idempotency_key").or (.str "")) =
      "ai-suggestion:" ++ ("ais_" ++ env.token state.tokens) := by
    have text : (input.request env state).parameters.get "idempotency_key" =
        .str ("ai-suggestion:" ++ ("ais_" ++ env.token state.tokens)) := rfl
    rfl
  unfold repeatedCommand
  simp only [key]
  split
  next => rfl
  next =>
    rw [List.find?_eq_none]
    intro command member same
    simp only [Bool.and_eq_true, decide_eq_true_eq] at same
    obtain ⟨⟨-, kind⟩, same⟩ := same
    obtain ⟨n, drawn, own⟩ := (sound.reviews command member).key kind
    rw [own] at same
    have texts := congrArg String.toList (of_decide_eq_true same)
    simp only [String.toList_append, List.append_cancel_left_eq] at texts
    have tokens := env.distinct (String.toList_injective texts)
    omega

theorem observeCommandEffects_moves {systemProduction : List (String × Fields)}
    (commands : List NodeCommand) :
    List.Forall₂ (CommandMove (.observe 0 [])) commands
      (observeCommandEffects env now nodeCode systemProduction commands).2 := by
  induction commands with
  | nil => exact .nil
  | cons command rest ih =>
    unfold observeCommandEffects
    split
    next => exact .cons (CommandMove.refl _ command) ih
    next =>
      split
      next => exact forall₂_unmoved _ _
      next done => exact .cons (observe_move done) ih

theorem settled_move (same : updated.identity = command.identity)
    (status : updated.status = settlement.status)
    (permitted : settlement.Permitted decisions command) :
    CommandMove (.cancel command.id "" "") command updated := by
  refine ⟨same, ?_⟩
  rw [status]
  cases settlement with
  | approve => exact .approve permitted.1
  | accept => exact .review permitted.1
  | reject => exact .reject permitted
  | cancel =>
    rcases permitted with already | live
    · have same := @StatusMove.stay (.cancel command.id "" "") command
      rwa [already] at same
    · exact .cancel rfl live

/-- The step lemma: no governed step breaks the invariant of the control state. -/
theorem controlSound_step (step : GovernedStep env now state event state')
    (sound : ControlSound env state) : ControlSound env state' := by
  obtain ⟨commands, reviews⟩ := sound
  have moved {operation : CommandOperation} {left : List NodeCommand}
      (moves : List.Forall₂ (CommandMove operation) state.commands left) :
      CommandsSound left ∧ ∀ command ∈ left, ReviewSound env state.tokens command :=
    ⟨commandsSound_moved commands moves, reviews_moved (Nat.le_refl _) reviews moves⟩
  cases step with
  | elsewhere same _ _ _ _ tokens =>
    rw [← same] at commands reviews
    exact ⟨commands, fun command member => (reviews command member).of_identity rfl tokens⟩
  | recorded | submitted | awaiting => exact ⟨commands, reviews⟩
  | suggested =>
    exact ⟨commands, fun command member => (reviews command member).of_identity rfl (Nat.le_succ _)⟩
  | created issued done =>
    refine ⟨commandsSound_created commands done, reviews_created (Nat.le_refl _) reviews
      (fun id ttlSeconds => reviewSound_of_plain issued.kind issued.node) done⟩
  | reviewed review done kept =>
    have sound := commandsSound_created commands done
    have created := reviews_created (Nat.le_succ _) reviews
      (fun _ _ => ⟨⟨fun _ => rfl, fun _ => rfl⟩, fun _ =>
        ⟨state.tokens, Nat.lt_succ_self _, rfl⟩⟩) done
    cases kept with
    | stored | left => exact ⟨sound, created⟩
    | withdrawn cancelled =>
      have moves := cancel_moves cancelled
      exact ⟨commandsSound_moved sound moves, reviews_moved (Nat.le_refl _) created moves⟩
  | settled found same status permitted =>
    obtain ⟨sound, reviews⟩ := moved (forall₂_storeCommand
      (orFault_eq_ok.mpr found) (settled_move same status permitted))
    rw [← settle_commands env.store.builtins] at sound reviews
    refine ⟨sound, ?_⟩
    rw [settle_tokens]
    exact reviews
  | @retried _ actor _ _ found node confirmed done =>
    obtain ⟨-, created, done⟩ := retry_created found done
    have plain := issued_retry actor (reviews _ (List.mem_of_find?_eq_some found)) node
    exact ⟨commandsSound_created commands done, reviews_created (Nat.le_refl _) reviews
      (fun id ttlSeconds => reviewSound_of_plain plain.1 plain.2) done⟩
  | claimed nodeCode agentId =>
    have := moved (@claimForNode_moves state.commands now (.claim "" "") nodeCode agentId)
    exact ⟨this.1, this.2⟩
  | expired =>
    have := moved (@expireStaleClaims_moves state.commands now env.commandClaimTimeoutSeconds)
    exact ⟨this.1, this.2⟩
  | resulted done =>
    have := moved (recordResult_moves done)
    exact ⟨this.1, this.2⟩
  | @observed nodeCode systemProduction observed =>
    obtain ⟨sound, reviews⟩ :=
      moved (@observeCommandEffects_moves env now nodeCode systemProduction state.commands)
    obtain ⟨same, -, -, tokens⟩ := project_frame env observed { state with
      commands := (observeCommandEffects env now nodeCode systemProduction state.commands).2 }
    refine ⟨by rw [same]; exact sound, ?_⟩
    rw [same, tokens]
    exact reviews
  | interrupted =>
    obtain ⟨sound, reviews⟩ := moved (observeCommandEffects_moves state.commands)
    exact ⟨sound, reviews⟩

end MiniOgas
