import MiniOgas.CommandAuthority

namespace MiniOgas

open Bounded Serial

inductive Settlement where
  | approve
  | accept
  | reject
  | cancel

def Settlement.status : Settlement → CommandStatus
  | .approve => .pending
  | .accept => .verified
  | .reject => .rejected
  | .cancel => .cancelled

variable {builtins : Builtins} {verifier : CommandVerifier} {commands commands' : List NodeCommand}
  {now : Timestamp} {operation : CommandOperation} {command updated : NodeCommand}
  {request : CommandRequest} {reply : CommandReply} {call : CommandCall} {commandId : Nat}
  {actor : String} {settlement : Settlement} {changed : Bool}

theorem CommandMove.id (move : CommandMove operation command updated) : updated.id = command.id :=
  congrArg CommandIdentity.id move.same

theorem CommandMove.nodeCode (move : CommandMove operation command updated) :
    updated.nodeCode = command.nodeCode :=
  congrArg CommandIdentity.nodeCode move.same

theorem CommandMove.commandType (move : CommandMove operation command updated) :
    updated.commandType = command.commandType :=
  congrArg CommandIdentity.commandType move.same

theorem CommandMove.refl (operation : CommandOperation) (command : NodeCommand) :
    CommandMove operation command command :=
  ⟨rfl, .stay⟩

theorem forall₂_unmoved (operation : CommandOperation) (commands : List NodeCommand) :
    List.Forall₂ (CommandMove operation) commands commands :=
  List.forall₂_same.mpr fun command _ => CommandMove.refl operation command

theorem forall₂_movedWhere {p : NodeCommand → Bool} {f : NodeCommand → NodeCommand}
    (moves : ∀ command, p command = true → CommandMove operation command (f command)) :
    List.Forall₂ (CommandMove operation) commands
      (commands.map fun command => if p command then f command else command) := by
  refine forall₂_map_right fun command _ => ?_
  split
  next h => exact moves command h
  next => exact CommandMove.refl operation command

theorem findCommand_ok (h : findCommand commands commandId = .ok command) :
    commands.find? (·.id = commandId) = some command ∧ command.id = commandId := by
  have found := orFault_eq_ok.mp h
  exact ⟨found, by simpa using List.find?_some found⟩

theorem forall₂_storeCommand (found : findCommand commands commandId = .ok command)
    (move : CommandMove operation command updated) :
    List.Forall₂ (CommandMove operation) commands (storeCommand commands updated) := by
  obtain ⟨found, hid⟩ := findCommand_ok found
  refine forall₂_modifyFirst (CommandMove.refl operation) fun other hother => ?_
  rw [move.id, hid, found] at hother
  cases hother
  exact move

structure Settles (commands : List NodeCommand) (settlement : Settlement) (commandId : Nat)
    (command updated : NodeCommand) (commands' : List NodeCommand) : Prop where
  found : commands.find? (·.id = commandId) = some command
  same : updated.identity = command.identity
  status : updated.status = settlement.status
  stored : commands' = storeCommand commands updated

theorem Settles.id (settles : Settles commands settlement commandId command updated commands') :
    command.id = commandId := by
  simpa using List.find?_some settles.found

theorem storeCommand_self (found : commands.find? (·.id = command.id) = some command) :
    storeCommand commands command = commands := by
  have same : List.Forall₂ Eq commands (storeCommand commands command) := by
    refine forall₂_modifyFirst (fun _ => rfl) fun other first => ?_
    rw [found] at first
    exact (Option.some.inj first).symm
  rw [List.forall₂_eq_eq_eq] at same
  exact same.symm

theorem approve_settles (h : approve commands now commandId actor = .ok (updated, commands')) :
    ∃ command, Settles commands .approve commandId command updated commands' ∧
      command.status = .waitingApproval := by
  obtain ⟨command, found, h⟩ := of_bind h
  obtain ⟨_, waiting, h⟩ := of_bind h
  cases h
  exact ⟨command, ⟨(findCommand_ok found).1, rfl, rfl, rfl⟩, check_eq_ok.mp waiting⟩

theorem approveHumanReview_settles
    (h : approveHumanReview commands now commandId actor = .ok (updated, commands')) :
    ∃ command, Settles commands .accept commandId command updated commands' ∧
      command.status = .waitingApproval := by
  obtain ⟨command, found, h⟩ := of_bind h
  obtain ⟨_, waiting, h⟩ := of_bind h
  replace h := of_then h
  cases h
  exact ⟨command, ⟨(findCommand_ok found).1, rfl, rfl, rfl⟩, check_eq_ok.mp waiting⟩

theorem reject_settles (h : reject commands now commandId actor = .ok (updated, commands')) :
    ∃ command, Settles commands .reject commandId command updated commands' ∧
      command.status = .waitingApproval := by
  obtain ⟨command, found, h⟩ := of_bind h
  obtain ⟨_, waiting, h⟩ := of_bind h
  cases h
  exact ⟨command, ⟨(findCommand_ok found).1, rfl, rfl, rfl⟩, check_eq_ok.mp waiting⟩

theorem cancel_settles {reason : String}
    (h : cancel commands now commandId actor reason = .ok ((updated, changed), commands')) :
    ∃ command, Settles commands .cancel commandId command updated commands' ∧
      (command.status = .cancelled ∨
        command.status.terminal = false ∧ command.status ≠ .executed) := by
  obtain ⟨command, found, h⟩ := of_bind h
  obtain ⟨found, named⟩ := findCommand_ok found
  split at h
  next already =>
    cases h
    subst named
    exact ⟨updated, ⟨found, rfl, already, (storeCommand_self found).symm⟩, .inl already⟩
  next =>
    obtain ⟨_, live, h⟩ := of_bind h
    cases h
    exact ⟨command, ⟨found, rfl, rfl, rfl⟩, .inr (check_eq_ok.mp live)⟩

theorem Settles.moves (settles : Settles commands settlement commandId command updated commands')
    (move : StatusMove operation command settlement.status) :
    List.Forall₂ (CommandMove operation) commands commands' := by
  rw [settles.stored]
  exact forall₂_storeCommand (orFault_eq_ok.mpr settles.found)
    ⟨settles.same, settles.status ▸ move⟩

theorem forall₂_supersede (nodeCode commandType : String) (replacementId : Nat) :
    List.Forall₂ (CommandMove operation) commands
      (supersedePending commands now nodeCode commandType replacementId).2 := by
  refine forall₂_movedWhere fun command isOpen => ?_
  simp only [NodeCommand.isOpen, Bool.and_eq_true] at isOpen
  exact ⟨rfl, .supersede isOpen.2⟩

theorem replaces_moves (operation : CommandOperation) (commands : List NodeCommand)
    (now : Timestamp) (request : CommandRequest) :
    List.Forall₂ (CommandMove operation) commands (request.replaces commands now).2 :=
  forall₂_supersede _ _ _

theorem claimForNode_moves (nodeCode agentId : String) :
    List.Forall₂ (CommandMove operation) commands
      (claimForNode commands now nodeCode agentId).2 := by
  refine forall₂_movedWhere fun command claimable => ?_
  rw [Bool.and_eq_true] at claimable
  exact ⟨rfl, .claim claimable.2⟩

theorem expireStaleClaims_moves (ttlSeconds : Int) :
    List.Forall₂ (CommandMove (.expireStaleClaims ttlSeconds)) commands
      (expireStaleClaims commands now ttlSeconds).2 := by
  refine forall₂_movedWhere fun command stale => ?_
  simp only [NodeCommand.staleClaim, Bool.and_eq_true, decide_eq_true_eq] at stale
  exact ⟨rfl, .expire rfl stale.1⟩

theorem verifyTargetRate_moves (nodeCode : String) (targetRate : ℚ) :
    List.Forall₂ (CommandMove operation) commands
      (verifyTargetRate builtins commands now nodeCode targetRate).2 := by
  refine forall₂_movedWhere fun command confirmed => ?_
  simp only [NodeCommand.confirmedBy, Bool.and_eq_true, Bool.or_eq_true,
    decide_eq_true_eq] at confirmed
  exact ⟨rfl, .verify confirmed.1.2 (.inl rfl)⟩

theorem normalizedResult_cases {reported : String} {reached : CommandStatus}
    (normalized : normalizedResult reported = some reached) :
    reached = .applied ∨ reached = .failed := by
  unfold normalizedResult at normalized
  split at normalized <;> cases normalized
  · exact .inl rfl
  · exact .inl rfl
  · exact .inr rfl

theorem recordResult_stored {nodeCode status message : String}
    (h : recordResult commands now nodeCode commandId status message =
      .ok ((updated, changed), commands')) :
    changed = false ∧ commands' = commands ∨
      ∃ command, commands.find? (fun row => row.id = commandId && row.nodeCode = nodeCode) =
          some command ∧ (command.id = commandId ∧ command.nodeCode = nodeCode) ∧
        command.status.acceptsResult = true ∧ updated.identity = command.identity ∧
        normalizedResult status = some updated.status ∧
        ¬ (command.status = updated.status ∧ command.resultMessage = updated.resultMessage) ∧
        commands' = modifyFirst (fun row => row.id = commandId && row.nodeCode = nodeCode)
          (fun _ => updated) commands := by
  obtain ⟨command, found, h⟩ := of_bind h
  obtain ⟨toStatus, normalized, h⟩ := of_bind h
  have found := orFault_eq_ok.mp found
  split at h
  next =>
    cases h
    exact .inl ⟨rfl, rfl⟩
  next =>
    split at h
    next =>
      cases h
      exact .inl ⟨rfl, rfl⟩
    next different =>
      replace h := of_then h
      obtain ⟨_, accepts, h⟩ := of_bind h
      cases h
      exact .inr ⟨command, found, by simpa using List.find?_some found, check_eq_ok.mp accepts, rfl,
        orFault_eq_ok.mp normalized, different, rfl⟩

theorem recordResult_moves {nodeCode status message : String}
    (h : recordResult commands now nodeCode commandId status message =
      .ok ((updated, changed), commands')) :
    List.Forall₂ (CommandMove (.recordResult nodeCode commandId status message)) commands
      commands' := by
  rcases recordResult_stored h with
    ⟨-, rfl⟩ | ⟨command, found, ⟨rfl, rfl⟩, accepts, same, normalized, -, rfl⟩
  · exact forall₂_unmoved _ _
  · refine forall₂_modifyFirst (CommandMove.refl _) fun other hother => ?_
    rw [found] at hother
    cases hother
    exact ⟨same, .result rfl normalized accepts⟩

theorem cancel_moves {actor reason : String}
    (h : cancel commands now commandId actor reason = .ok ((updated, changed), commands')) :
    List.Forall₂ (CommandMove (.cancel commandId actor reason)) commands commands' := by
  obtain ⟨command, settles, already | live⟩ := cancel_settles h
  · refine settles.moves ?_
    change StatusMove _ _ CommandStatus.cancelled
    exact already ▸ .stay
  · exact settles.moves (.cancel (by rw [settles.id]) live)

theorem observe_move {systemProduction : List (String × Fields)} {result : CommandVerification}
    (h : verifier.observe builtins now command systemProduction = .ok (result, updated)) :
    CommandMove operation command updated := by
  unfold CommandVerifier.observe at h
  split at h
  next =>
    cases h
    exact CommandMove.refl operation command
  next =>
    split at h
    next =>
      cases h
      exact CommandMove.refl operation command
    next carriedOut =>
      have carriedOut : command.status = .executed ∨ command.status = .applied := by
        by_contra not
        exact carriedOut (.inr ⟨fun applied => not (.inr applied), fun executed =>
          not (.inl executed)⟩)
      obtain ⟨past, -, h⟩ := of_bind h
      obtain ⟨backlogs, -, h⟩ := of_bind h
      simp only at h
      split at h
      next =>
        cases h
        exact ⟨rfl, .stay⟩
      next =>
        cases h
        refine ⟨rfl, .verify carriedOut ?_⟩
        unfold NodeCommand.finish
        split
        next => exact .inl rfl
        next =>
          split
          next => exact .inr (.inl rfl)
          next => exact .inr (.inr rfl)

theorem repeatedCommand_retryRequest (source : NodeCommand) (actor : String) :
    repeatedCommand builtins commands (source.retryRequest actor) = none := by
  have keyless : (source.retryRequest actor).parameters.get "idempotency_key" = .null := by
    change Fields.get ((source.parameters.pop "idempotency_key").set "retry_of" _) _ = _
    rw [Fields.get_set, if_neg (by decide), Fields.get_pop]
  unfold repeatedCommand
  rw [keyless]
  rfl

theorem createCommand_cases {reply : NodeCommand × List CommandTransition × Bool}
    (done : createCommand builtins commands now request = .ok (reply, commands')) :
    repeatedCommand builtins commands request = some reply.1 ∧ commands' = commands ∨
      repeatedCommand builtins commands request = none ∧
      ∃ ttlSeconds, reply.1 = request.command now (nextCommandId commands) ttlSeconds ∧
        commands' = keepLast commandCapacity ((request.replaces commands now).2 ++ [reply.1]) := by
  unfold createCommand at done
  split at done
  next command repeated =>
    cases done
    exact .inl ⟨repeated, rfl⟩
  next fresh =>
    obtain ⟨ttlSeconds, -, done⟩ := of_bind done
    cases done
    exact .inr ⟨fresh, ttlSeconds, rfl, rfl⟩

theorem createCommand_effect {transitions : List CommandTransition} {created : Bool}
    (h : createCommand builtins commands call.now request =
      .ok ((command, transitions, created), commands'))
    (requested : call.request commands = some request)
    (reported : reply.transitions = transitions) :
    CommandEffect builtins call reply commands commands' := by
  unfold createCommand at h
  split at h
  next =>
    cases h
    exact .moved (forall₂_unmoved _ _)
  next fresh =>
    obtain ⟨ttlSeconds, converted, h⟩ := of_bind h
    cases h
    have converted := orFault_eq_ok.mp converted
    have appends : call.Appends builtins commands request :=
      ⟨requested, fresh, by rw [converted]; rfl⟩
    exact .created appends rfl rfl rfl reported rfl

/-- What an answered call has done to the commands is one of its effects. -/
theorem command_effect (h : call.attempt builtins verifier commands = .ok (reply, commands')) :
    CommandEffect builtins call reply commands commands' := by
  unfold CommandCall.attempt at h
  generalize hop : call.operation = operation at h
  cases operation with
  | create request =>
    obtain ⟨⟨⟨command, transitions, created⟩, _⟩, performed, h⟩ := of_bind h
    cases h
    exact createCommand_effect performed (by rw [CommandCall.request, hop]) rfl
  | retry commandId actor =>
    obtain ⟨⟨⟨command, transitions⟩, _⟩, performed, h⟩ := of_bind h
    cases h
    obtain ⟨source, found, performed⟩ := of_bind performed
    obtain ⟨_, retryable, performed⟩ := of_bind performed
    obtain ⟨⟨⟨_, _, created⟩, _⟩, performed, same⟩ := of_bind performed
    cases same
    refine createCommand_effect performed ?_ rfl
    rw [CommandCall.request, hop]
    dsimp only
    rw [(findCommand_ok found).1, Option.filter_some, check_eq_ok.mp retryable]
    rfl
  | claim nodeCode agentId =>
    cases h
    exact .moved (claimForNode_moves nodeCode agentId)
  | expireStaleClaims ttlSeconds =>
    cases h
    exact .moved (by rw [hop]; exact expireStaleClaims_moves ttlSeconds)
  | supersedePending nodeCode commandType replacementId =>
    cases h
    exact .moved (forall₂_supersede nodeCode commandType replacementId)
  | verifyTargetRate nodeCode targetRate =>
    cases h
    exact .moved (verifyTargetRate_moves nodeCode targetRate)
  | recordResult nodeCode commandId status message =>
    obtain ⟨⟨⟨command, changed⟩, _⟩, performed, h⟩ := of_bind h
    cases h
    exact .moved (by rw [hop]; exact recordResult_moves performed)
  | approve commandId actor =>
    obtain ⟨⟨command, _⟩, performed, h⟩ := of_bind h
    cases h
    obtain ⟨_, settles, waiting⟩ := approve_settles performed
    exact .moved (settles.moves (.approve waiting))
  | approveHumanReview commandId actor =>
    obtain ⟨⟨command, _⟩, performed, h⟩ := of_bind h
    cases h
    obtain ⟨_, settles, waiting⟩ := approveHumanReview_settles performed
    exact .moved (settles.moves (.review waiting))
  | reject commandId actor =>
    obtain ⟨⟨command, _⟩, performed, h⟩ := of_bind h
    cases h
    obtain ⟨_, settles, waiting⟩ := reject_settles performed
    exact .moved (settles.moves (.reject waiting))
  | cancel commandId actor reason =>
    obtain ⟨⟨⟨command, changed⟩, _⟩, performed, h⟩ := of_bind h
    cases h
    exact .moved (by rw [hop]; exact cancel_moves performed)
  | observe commandId systemProduction =>
    obtain ⟨command, found, h⟩ := of_bind h
    obtain ⟨⟨result, observed⟩, performed, h⟩ := of_bind h
    cases h
    exact .moved (forall₂_storeCommand found (observe_move performed))

end MiniOgas
