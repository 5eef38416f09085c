import MiniOgas.ControlSound

namespace MiniOgas

open Bounded Procedure Serial

variable {env : ControlEnv} {now : Timestamp} {state state' : ControlState}
  {commands commands' : List NodeCommand} {command updated : NodeCommand} {row : AiSuggestion}
  {event : GovernedEvent} {P : Timestamp → ControlState → GovernedEvent → Prop}
  {request : CommandRequest} {reply : NodeCommand × List CommandTransition × Bool}
  {input : SuggestionInput} {settlement : Settlement}

def ControlCall.Meets (env : ControlEnv) (P : Timestamp → ControlState → GovernedEvent → Prop)
    (state : ControlState) (call : ControlCall) : Prop :=
  GovernedTrace env call.now P state (after (call.perform env) state)

theorem meeting_invariant {I : ControlState → Prop}
    (step : ∀ now state event state', P now state event →
      GovernedStep env now state event state' → I state → I state')
    (init : I state) {calls : List ControlCall}
    (along : (governanceAuthority env).Along (ControlCall.Meets env P) state calls) :
    I ((governanceAuthority env).run state calls) := by
  refine Authority.invariant_along (fun {_ call _ _} kept meets served => ?_) init along
  cases served
  exact trace_invariant (step call.now) meets kept

def ControlState.commandStatus (state : ControlState) (commandId : Nat) : Option CommandStatus :=
  (state.commands.find? (·.id = commandId)).map (·.status)

/-- A stored suggestion is pending, accepted or rejected with its command. -/
def SuggestionsFollow (state : ControlState) : Prop :=
  ∀ row ∈ state.suggestions, ∀ commandId, row.commandId = some commandId →
    (row.status = .pendingHumanReview ↔
      state.commandStatus commandId = some .waitingApproval) ∧
    (row.status = .accepted ↔ state.commandStatus commandId = some .verified) ∧
    (row.status = .rejected ↔ state.commandStatus commandId = some .rejected ∨
      state.commandStatus commandId = some .cancelled)

/-- A full list does not lose the command of a stored suggestion. -/
def ControlState.RoomForReviews (state : ControlState) : Prop :=
  ∀ command ∈ state.commands, command.leaves state.commands →
    ∀ row ∈ state.suggestions, row.commandId ≠ some command.id

/-- A new review finds no open one of its node, and no creation pushes the command of a
suggestion out of the list. -/
def KeepsReviews (env : ControlEnv) (_ : Timestamp) (state : ControlState) :
    GovernedEvent → Prop
  | .created request =>
    repeatedCommand env.store.builtins state.commands request = none → state.RoomForReviews
  | .retried _ _ => state.RoomForReviews
  | .suggested input => input.needsReview = true → state.RoomForReviews ∧
    ∀ command ∈ state.commands,
      command.isOpen input.nodeCode "review_ai_recommendation" = false
  | _ => True

inductive Paired : SuggestionStatus → CommandStatus → Prop
  | pending : Paired .pendingHumanReview .waitingApproval
  | accepted : Paired .accepted .verified
  | rejected : Paired .rejected .rejected
  | cancelled : Paired .rejected .cancelled

/-- The command of a suggestion is in the list, and has the status that goes with it. -/
def RowFollows (commands : List NodeCommand) (row : AiSuggestion) : Prop :=
  ∀ commandId, row.commandId = some commandId → ∃ command ∈ commands,
    command.id = commandId ∧ command.isAiSuggestionReview = true ∧
      Paired row.status command.status

structure ReviewsFollow (env : ControlEnv) (state : ControlState) : Prop where
  sound : ControlSound env state
  rows : ∀ row ∈ state.suggestions, RowFollows state.commands row

theorem suggestionsFollow_of_rows (follow : ReviewsFollow env state) :
    SuggestionsFollow state := by
  intro row member commandId named
  obtain ⟨command, there, rfl, -, paired⟩ := follow.rows row member commandId named
  have status : state.commandStatus command.id = some command.status := by
    unfold ControlState.commandStatus
    rw [find?_id_of_mem follow.sound.commands.increasing there]
    rfl
  rw [status]
  generalize row.status = suggested at paired ⊢
  generalize command.status = reached at paired ⊢
  cases paired <;> simp

theorem RowFollows.mono (follows : RowFollows commands row)
    (keeps : ∀ command ∈ commands, row.commandId = some command.id →
      command.isAiSuggestionReview = true →
      (∃ suggested, Paired suggested command.status) → command ∈ commands') :
    RowFollows commands' row := by
  intro commandId named
  obtain ⟨command, member, rfl, review, paired⟩ := follows commandId named
  exact ⟨command, keeps command member named review ⟨_, paired⟩, rfl, review, paired⟩

theorem paired_idle {suggested : SuggestionStatus} {status : CommandStatus}
    (paired : Paired suggested status) :
    status.claimable = false ∧ status.acceptsResult = false ∧ status ≠ .claimed ∧
      status ≠ .applied ∧ status ≠ .executed := by
  cases paired <;> exact ⟨rfl, rfl, by decide, by decide, by decide⟩

theorem rowFollows_created (sound : ControlSound env state)
    (spared : ∀ command ∈ state.commands, command.isAiSuggestionReview = true →
      command.isOpen request.nodeCode request.commandType = false)
    (room : repeatedCommand env.store.builtins state.commands request = none →
      state.RoomForReviews)
    (done : createCommand env.store.builtins state.commands now request =
      .ok (reply, commands')) (member : row ∈ state.suggestions)
    (follows : RowFollows state.commands row) :
    RowFollows commands' row := by
  rcases createCommand_cases done with ⟨-, same⟩ | ⟨fresh, ttlSeconds, -, appended⟩
  · rwa [same]
  · rw [appended]
    refine follows.mono fun command there named review _ => ?_
    refine mem_created sound.commands.bounded there (spared command there review) fun leaves => ?_
    exact room fresh command there leaves row member named

theorem isOpen_of_other (sound : ControlSound env state)
    (kind : request.commandType ≠ "review_ai_recommendation") (member : command ∈ state.commands)
    (review : command.isAiSuggestionReview = true) :
    command.isOpen request.nodeCode request.commandType = false := by
  have own := (sound.reviews command member).kind.mpr review
  have other : ¬ command.commandType = request.commandType := fun same => kind (same ▸ own)
  simp [NodeCommand.isOpen, other]

theorem rowFollows_reviewed (sound : ControlSound env state) (review : input.needsReview = true)
    (done : createCommand env.store.builtins state.commands now (input.request env state) =
      .ok (reply, commands')) (suggestionId : String) :
    RowFollows commands' (input.row suggestionId (some reply.1.id)) := by
  rcases createCommand_cases done with ⟨repeated, -⟩ | ⟨-, ttlSeconds, new, appended⟩
  · rw [repeatedCommand_request sound input] at repeated
    cases repeated
  · intro commandId named
    cases named
    refine ⟨reply.1, ?_, rfl, ?_, ?_⟩
    · rw [appended]
      exact mem_keepLast_append 99 _ _
    · rw [new, NodeCommand.isAiSuggestionReview, command_get (by decide)]
      rfl
    · rw [new]
      unfold SuggestionInput.row
      rw [if_pos review]
      exact .pending

theorem named_lt_created (sound : ControlSound env state)
    (done : createCommand env.store.builtins state.commands now (input.request env state) =
      .ok (reply, commands')) (member : command ∈ state.commands) :
    command.id < reply.1.id := by
  rcases createCommand_cases done with ⟨repeated, -⟩ | ⟨-, ttlSeconds, new, -⟩
  · rw [repeatedCommand_request sound input] at repeated
    cases repeated
  · have le : command.id ≤ greatest (state.commands.map (·.id)) :=
      le_greatest (List.mem_map.mpr ⟨command, member, rfl⟩)
    have id : reply.1.id = nextCommandId state.commands := by rw [new]; rfl
    rw [id]
    exact Nat.lt_succ_of_le le

theorem rows_reviewed (follow : ReviewsFollow env state)
    (meets : KeepsReviews env now state (.suggested input)) (review : input.needsReview = true)
    {created : List NodeCommand} {suggestions : List AiSuggestion}
    (done : createCommand env.store.builtins state.commands now (input.request env state) =
      .ok (reply, created))
    (kept : input.Stored now state reply.1.id ("ais_" ++ env.token state.tokens) created
      commands' suggestions) :
    ∀ row ∈ suggestions, RowFollows commands' row := by
  obtain ⟨room, free⟩ := meets review
  have old : ∀ row ∈ state.suggestions, RowFollows created row := fun row member =>
    rowFollows_created follow.sound (fun command there _ => free command there) (fun _ => room)
      done member (follow.rows row member)
  cases kept with
  | stored =>
    intro row member
    rcases of_mem_concat member with member | rfl
    · exact old row member
    · exact rowFollows_reviewed follow.sound review done _
  | left => exact old
  | withdrawn cancelled =>
    intro row member commandId named
    obtain ⟨own, before, same, -⟩ := follow.rows row member commandId named
    obtain ⟨command, there, rfl, review, paired⟩ := old row member commandId named
    obtain ⟨target, settles, -⟩ := cancel_settles cancelled
    have lower : command.id < reply.1.id := same ▸ named_lt_created follow.sound done before
    have id := settles.id
    have updated := congrArg CommandIdentity.id settles.same
    simp only [NodeCommand.identity] at updated
    refine ⟨command, ?_, rfl, review, paired⟩
    rw [settles.stored]
    exact mem_storeCommand_of_ne (by rw [updated, id]; exact settles.found) there (by omega)

theorem paired_settled {decisions : List RecordedDecision}
    (permitted : settlement.Permitted decisions command)
    (review : command.isAiSuggestionReview = true) :
    Paired settlement.suggestionStatus settlement.status := by
  cases settlement with
  | approve =>
    have plain := permitted.2.1
    rw [review] at plain
    cases plain
  | accept => exact .accepted
  | reject => exact .rejected
  | cancel => exact .cancelled

theorem rows_settled (follow : ReviewsFollow env state)
    (found : state.commands.find? (·.id = command.id) = some command)
    (same : updated.identity = command.identity) (status : updated.status = settlement.status)
    (permitted : settlement.Permitted state.decisions command) :
    ∀ row ∈ (state.settle env.store.builtins settlement command updated).suggestions,
      RowFollows (state.settle env.store.builtins settlement command updated).commands row := by
  have id : updated.id = command.id := congrArg CommandIdentity.id same
  have parameters : updated.parameters = command.parameters :=
    congrArg CommandIdentity.parameters same
  rw [settle_commands, settle_suggestions]
  rw [← id] at found
  have stays : ∀ other ∈ state.commands, other.id ≠ command.id →
      other ∈ storeCommand state.commands updated := fun other member ne =>
    mem_storeCommand_of_ne found member (id ▸ ne)
  by_cases review : command.isAiSuggestionReview = true
  · rw [if_pos review]
    intro row member
    obtain ⟨old, there, rfl⟩ := List.mem_map.mp member
    split
    next own =>
      intro commandId named
      rw [own] at named
      cases named
      refine ⟨updated, mem_modifyFirst found, id, ?_, ?_⟩
      · rwa [NodeCommand.isAiSuggestionReview, parameters]
      · rw [status]
        exact paired_settled permitted review
    next other =>
      exact (follow.rows old there).mono fun kept member named _ _ =>
        stays kept member fun same => other (same ▸ named)
  · rw [if_neg review]
    intro row member
    refine (follow.rows row member).mono fun kept there _ own _ => stays kept there fun same => ?_
    have twin := eq_of_increasing follow.sound.commands.increasing there
      (List.mem_of_find?_eq_some found) same
    exact review (twin ▸ own)

theorem reviewsFollow_step (meets : KeepsReviews env now state event)
    (step : GovernedStep env now state event state') (follow : ReviewsFollow env state) :
    ReviewsFollow env state' := by
  refine ⟨controlSound_step step follow.sound, ?_⟩
  have sound := follow.sound
  have rows := follow.rows
  cases step with
  | elsewhere commands _ _ suggestions =>
    rw [commands, suggestions]
    exact rows
  | recorded | submitted | awaiting => exact rows
  | suggested =>
    intro row member
    rcases of_mem_concat member with member | rfl
    · exact rows row member
    · nofun
  | reviewed review done kept => exact rows_reviewed follow meets review done kept
  | created issued done =>
    exact fun row member => rowFollows_created sound
      (fun _ there review => isOpen_of_other sound issued.kind there review) meets done member
      (rows row member)
  | settled found same status permitted => exact rows_settled follow found same status permitted
  | @retried _ actor _ _ found node _ done =>
    obtain ⟨-, created, done⟩ := retry_created found done
    have plain := issued_retry actor (sound.reviews _ (List.mem_of_find?_eq_some found)) node
    exact fun row member => rowFollows_created sound
      (fun _ there review => isOpen_of_other sound plain.1 there review) (fun _ => meets) done
      member (rows row member)
  | claimed nodeCode agentId =>
    refine fun row member => (rows row member).mono fun command there _ _ paired => ?_
    have idle := (paired_idle paired.choose_spec).1
    exact mem_movedWhere there (by rw [idle, Bool.and_false])
  | expired =>
    refine fun row member => (rows row member).mono fun command there _ _ paired => ?_
    have idle := (paired_idle paired.choose_spec).2.2.1
    exact mem_movedWhere there (by simp [NodeCommand.staleClaim, idle])
  | resulted done =>
    refine fun row member => (rows row member).mono fun command there _ _ paired => ?_
    exact mem_recordResult done there (paired_idle paired.choose_spec).2.1
  | @observed nodeCode systemProduction observed =>
    obtain ⟨commands, -, suggestions, -⟩ := project_frame env observed { state with
      commands := (observeCommandEffects env now nodeCode systemProduction state.commands).2 }
    rw [commands, suggestions]
    refine fun row member => (rows row member).mono fun command there _ _ paired => ?_
    have idle := (paired_idle paired.choose_spec).2.2.2
    exact mem_observeCommandEffects there (by simp [NodeCommand.observable, idle.1, idle.2])
  | interrupted =>
    refine fun row member => (rows row member).mono fun command there _ _ paired => ?_
    have idle := (paired_idle paired.choose_spec).2.2.2
    exact mem_observeCommandEffects there (by simp [NodeCommand.observable, idle.1, idle.2])

theorem commandsSound_nil : CommandsSound [] :=
  ⟨List.Pairwise.nil, fun _ _ => Nat.zero_le 1, Nat.zero_le _⟩

/-- In every run in which no review finds an open one of its node, and no creation pushes the
command of a suggestion out of the list, the suggestions follow their commands. -/
theorem suggestions_follow_run (env : ControlEnv) (state : ControlState)
    (empty : state.commands = [] ∧ state.suggestions = []) (calls : List ControlCall)
    (along : (governanceAuthority env).Along (ControlCall.Meets env (KeepsReviews env)) state
      calls) :
    SuggestionsFollow ((governanceAuthority env).run state calls) := by
  have start : ReviewsFollow env state := by
    refine ⟨⟨by rw [empty.1]; exact commandsSound_nil, ?_⟩, ?_⟩
    · rw [empty.1]
      exact List.forall_mem_nil _
    · rw [empty.2]
      exact List.forall_mem_nil _
  exact suggestionsFollow_of_rows
    (meeting_invariant (fun _ _ _ _ meets step => reviewsFollow_step meets step) start along)

theorem suggestion_meets (meets : KeepsReviews env now state (.suggested input)) :
    ControlCall.Meets env (KeepsReviews env) state ⟨now, .persistAiSuggestion input⟩ := by
  have same : after ((⟨now, .persistAiSuggestion input⟩ : ControlCall).perform env) state =
      after (persistAiSuggestion env now input) state := after_bind_pure _ _
  unfold ControlCall.Meets
  rw [same]
  exact trace_persistAiSuggestion input (fun _ => trivial) (fun _ _ => trivial) fun _ => meets

def sampleAiAgent : ActorInfo :=
  { principalId := "ai:dispatcher", principalType := "ai_agent", role := "ai_agent" }

def sampleSuggestion (nodeCode recommendation : String) : SuggestionInput where
  actor := sampleAiAgent
  nodeCode
  riskLevel := "high"
  recommendation
  evidence := []

def sampleSuggest (nodeCode recommendation : String) : ControlCall :=
  ⟨0, .persistAiSuggestion (sampleSuggestion nodeCode recommendation)⟩

def sampleTwoNodes : List ControlCall :=
  [sampleSuggest "turning-workshop-01" "slow down", sampleSuggest "milling-workshop-01" "stop"]

/-- Suggestions for two nodes. -/
theorem suggestions_follow_sample :
    ((governanceAuthority sampleControlEnv).run sampleControlState
        sampleTwoNodes).suggestions.map (·.commandId) = [some 1, some 2] ∧
      SuggestionsFollow
        ((governanceAuthority sampleControlEnv).run sampleControlState sampleTwoNodes) := by
  refine ⟨by decide +kernel, suggestions_follow_run sampleControlEnv sampleControlState
    ⟨rfl, rfl⟩ sampleTwoNodes ⟨suggestion_meets fun _ => ?_, suggestion_meets fun _ => ?_, trivial⟩⟩
  · exact ⟨List.forall_mem_nil _, List.forall_mem_nil _⟩
  · refine ⟨fun _ _ leaves => ?_, by decide +kernel⟩
    have short : ((governanceAuthority sampleControlEnv).serve sampleControlState
        (sampleSuggest "turning-workshop-01" "slow down")).commands.length = 1 := by
      decide +kernel
    have full := leaves.1
    rw [short] at full
    exact absurd full (by decide)

def sampleTwice : List ControlCall :=
  [sampleSuggest "turning-workshop-01" "slow down", sampleSuggest "turning-workshop-01" "stop"]

/-- A second suggestion for a node replaces the command of the first, which stays pending. -/
theorem superseded_review_pending :
    ¬ SuggestionsFollow
      ((governanceAuthority sampleControlEnv).run sampleControlState sampleTwice) := by
  have first : ∃ row ∈ ((governanceAuthority sampleControlEnv).run sampleControlState
      sampleTwice).suggestions, row.commandId = some 1 ∧ row.status = .pendingHumanReview := by
    decide +kernel
  have replaced : ((governanceAuthority sampleControlEnv).run sampleControlState
      sampleTwice).commandStatus 1 = some .superseded := by decide +kernel
  obtain ⟨row, member, named, pending⟩ := first
  intro follow
  have waiting := (follow row member 1 named).1.mp pending
  rw [replaced] at waiting
  cases waiting

end MiniOgas
