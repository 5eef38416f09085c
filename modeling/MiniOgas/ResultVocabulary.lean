import MiniOgas.ExchangeLaws

namespace MiniOgas

open Bounded Serial

/-- What `os.Remove` says of a file. -/
inductive Removal where
  | removed
  | notExist
  | failed (error : String)

/-- The loop of `cleanTempCache`: the number of files that are gone, or the first error. -/
def removeAll : List Removal → Nat → Except String Nat
  | [], deleted => .ok deleted
  | .failed error :: _, _ => .error error
  | _ :: removals, deleted => removeAll removals (deleted + 1)

/-- `cleanTempCache`, given what `filepath.Glob` finds. -/
def cleanTempCache (matched : Except String (List Removal)) : Except String Nat := do
  let removals ← matched
  removeAll removals 0

structure CommandResult where
  commandId : Nat
  commandType : String
  status : String
  message : String

/-- `Execute`. -/
def executeCommand (command : NodeCommand) (matched : Except String (List Removal)) :
    CommandResult :=
  match command.commandType with
  | "clean_temp_cache" =>
    match cleanTempCache matched with
    | .error error => ⟨command.id, command.commandType, "failed", error⟩
    | .ok deleted =>
      ⟨command.id, command.commandType, "executed", s!"deleted {deleted} temporary files"⟩
  | "restart_workshop_scheduler" =>
    ⟨command.id, command.commandType, "executed", "workshop scheduler restart acknowledged"⟩
  | _ => ⟨command.id, command.commandType, "unsupported", "unsupported command type"⟩

structure GoPoll where
  now : Timestamp
  ttlSeconds : Int
  files : NodeCommand → Except String (List Removal)
  arrival : NodeCommand → Option Timestamp

/-- The commands after `pending_commands_for_node`, which claims none. -/
def GoPoll.remaining (poll : GoPoll) (commands : List NodeCommand) : List NodeCommand :=
  (expireStaleClaims commands poll.now poll.ttlSeconds).2

def GoPoll.received (poll : GoPoll) (nodeCode : String) (commands : List NodeCommand) :
    List NodeCommand :=
  pendingForNode (poll.remaining commands) nodeCode

def GoPoll.result (poll : GoPoll) (command : NodeCommand) : CommandResult :=
  executeCommand command (poll.files command)

/-- `record_command_result` of the result of a command, if it arrives. -/
def GoPoll.reportResult (poll : GoPoll) (nodeCode : String) (commands : List NodeCommand)
    (command : NodeCommand) : List NodeCommand :=
  match poll.arrival command with
  | none => commands
  | some now =>
    match recordResult commands now nodeCode command.id (poll.result command).status
      (poll.result command).message with
    | .ok (_, commands) => commands
    | .error _ => commands

/-- `pollOnce`. -/
def GoPoll.run (poll : GoPoll) (nodeCode : String) (commands : List NodeCommand) :
    List NodeCommand :=
  (poll.received nodeCode commands).foldl (poll.reportResult nodeCode) (poll.remaining commands)

section Conversion

variable (settings : AgentSettings) (command : Fields) (db : LocalDatabase)
  (memory : CommandMemory) (commandId version : Int) (now : Timestamp)

/-- The checks of `apply_agent_command` before it converts the rate. -/
def checkBeforeTarget : Except (String × String) Unit := do
  check (version = 1) ("failed", s!"unsupported command version={version}")
  checkApplied settings command db memory commandId
  checkExpiry settings command now
  let commandType := agentCommandType settings command
  check (commandType = "set_target_rate") ("failed", s!"unsupported command_type={commandType}")

/-- The rate is an integer that no `float` holds. -/
def targetOverflows : Bool :=
  match (agentCommandParameters command).get "target_rate" with
  | .int n => (settings.builtins.number (.int n)).isNone
  | _ => false

/-- `apply_agent_command` raises the `OverflowError` of `float`, which it does not catch. -/
def raisesOverflow : Bool :=
  match agentCommandId settings command, agentCommandVersion settings command with
  | some commandId, some version =>
    commandId ≠ 0 &&
      (checkBeforeTarget settings command db memory commandId version now).isOk &&
      targetOverflows settings command
  | _, _ => false

end Conversion

inductive ResultEvent where
  | exchange (event : ExchangeEvent)
  | pollOnce (poll : GoPoll)

def ResultEvent.overflows (settings : AgentSettings) (exchange : CommandExchange) :
    ResultEvent → Bool
  | .exchange (.receive index now _) =>
    match exchange.memory, exchange.delivered[index]? with
    | some memory, some own => raisesOverflow settings own.payload exchange.db memory now
    | _, _ => false
  | _ => false

def ResultEvent.attempt (settings : AgentSettings) (verifier : CommandVerifier)
    (nodeCode : String) (event : ResultEvent) (exchange : CommandExchange) :
    Except ControlFault (Unit × CommandExchange) :=
  if event.overflows settings exchange then .ok ((), { exchange with memory := none })
  else
    match event with
    | .exchange event => exchange.attempt settings verifier nodeCode event
    | .pollOnce poll =>
      .ok ((), { exchange with commands := poll.run nodeCode exchange.commands })

def resultAuthority (settings : AgentSettings) (verifier : CommandVerifier)
    (nodeCode : String) : Authority ResultEvent CommandExchange Unit ControlFault :=
  ⟨ResultEvent.attempt settings verifier nodeCode⟩

/-- The result is accepted wherever the command stands as the poll left it, and the command is
neither claimed nor waiting any more. -/
def ResultAccepted (nodeCode : String) (own : NodeCommand) (status message : String) : Prop :=
  ∀ commands now, findCommandForNode commands nodeCode own.id = .ok own →
    ∃ updated commands', recordResult commands now nodeCode own.id status message =
        .ok ((updated, true), commands') ∧
      findCommandForNode commands' nodeCode own.id = .ok updated ∧
      updated.status ≠ .claimed ∧ updated.status.claimable = false

/-- Each command that an agent receives has a result of its own that the centre accepts. -/
def ResultsSettle (settings : AgentSettings) (verifier : CommandVerifier) (nodeCode : String)
    (exchange : CommandExchange) : ResultEvent → Prop
  | .exchange (.receive index now storedAt) => ∀ memory own, exchange.memory = some memory →
      exchange.delivered[index]? = some own →
      ∃ row, (((resultAuthority settings verifier nodeCode).serve exchange
          (.exchange (.receive index now storedAt))).db.localCommands.get? own.id) = some row ∧
        ResultAccepted nodeCode own row.status row.resultMessage
  | .pollOnce poll => ∀ own ∈ poll.received nodeCode exchange.commands,
      ResultAccepted nodeCode own (poll.result own).status (poll.result own).message
  | _ => True

/-- The agent in Go knows the types of its commands; the one in Python has no row of another
command with the key of its command, and its `float` takes the rate. -/
def ResultsKnown (settings : AgentSettings) (nodeCode : String) (exchange : CommandExchange) :
    ResultEvent → Prop
  | .exchange (.receive index now _) => ∀ memory own, exchange.memory = some memory →
      exchange.delivered[index]? = some own →
      (exchange.db.localCommands.get? own.id).isSome = true ∨
        appliedCommandRecord exchange.db own.id (own.localKey settings) = none ∧
          raisesOverflow settings own.payload exchange.db memory now = false
  | .pollOnce poll => ∀ own ∈ poll.received nodeCode exchange.commands,
      own.commandType = "clean_temp_cache" ∨ own.commandType = "restart_workshop_scheduler"
  | _ => True

section

variable {settings : AgentSettings} {verifier : CommandVerifier} {nodeCode : String}
  {commands commands' : List NodeCommand} {command own updated : NodeCommand} {call : CommandCall}
  {reply : CommandReply} {db db' : LocalDatabase} {memory memory' : CommandMemory}
  {now storedAt : Timestamp} {exchange exchange' : CommandExchange} {event : ResultEvent}

theorem resultAccepted_iff {status message : String} (ofNode : own.nodeCode = nodeCode)
    (live : own.status = .claimed ∨ own.status.claimable = true) :
    ResultAccepted nodeCode own status message ↔ ∃ normalized,
      normalizedResult status = some normalized := by
  constructor
  · intro accepted
    have listed : findCommandForNode [own] nodeCode own.id = .ok own := by
      simp [findCommandForNode, ofNode, orFault]
    obtain ⟨updated, commands', recorded, -⟩ := accepted [own] 0 listed
    obtain ⟨_, -, h⟩ := of_bind recorded
    obtain ⟨normalized, known, -⟩ := of_bind h
    exact ⟨normalized, orFault_eq_ok.mp known⟩
  · rintro ⟨normalized, known⟩ commands now found
    have settled := normalizedResult_cases known
    have waits : own.status = .claimed ∨ own.status = .pending ∨ own.status = .queued := by
      simpa [CommandStatus.claimable] using live
    have different : own.status ≠ normalized := by
      rcases waits with h | h | h <;> rcases settled with rfl | rfl <;> rw [h] <;> decide
    have unverified : own.status ≠ .verified := by
      rcases waits with h | h | h <;> rw [h] <;> decide
    have executable : own.status ≠ .expired ∧ own.status ≠ .superseded ∧
        own.status ≠ .rejected ∧ own.status ≠ .cancelled := by
      rcases waits with h | h | h <;> rw [h] <;> decide
    have accepts : own.status.acceptsResult = true := by
      rcases waits with h | h | h <;> rw [h] <;> decide
    have recorded : recordResult commands now nodeCode own.id status message =
        .ok ((own.withResult now normalized message, true),
          modifyFirst (fun row => row.id = own.id && row.nodeCode = nodeCode)
            (fun _ => own.withResult now normalized message) commands) := by
      simp [recordResult, found, known, orFault, ok_bind, unverified, different, executable,
        accepts, check]
    refine ⟨_, _, recorded, ?_, ?_, ?_⟩
    · unfold findCommandForNode at found ⊢
      have first := @find?_modifyFirst _ _ (fun _ => own.withResult now normalized message) _ _
        (orFault_eq_ok.mp found) (by simp [NodeCommand.withResult, ofNode])
      rw [first]
      rfl
    · intro same
      rcases settled with rfl | rfl <;> cases same
    · rcases settled with rfl | rfl <;> rfl

theorem normalizedResult_execute (command : NodeCommand)
    (matched : Except String (List Removal)) :
    (∃ normalized, normalizedResult (executeCommand command matched).status = some normalized) ↔
      command.commandType = "clean_temp_cache" ∨
        command.commandType = "restart_workshop_scheduler" := by
  unfold executeCommand
  split
  next clean =>
    refine iff_of_true ?_ (.inl clean)
    split
    next => exact ⟨.failed, rfl⟩
    next => exact ⟨.applied, rfl⟩
  next restart => exact iff_of_true ⟨.applied, rfl⟩ (.inr restart)
  next other unclean unrestarted =>
    refine iff_of_false ?_ (not_or.mpr ⟨unclean, unrestarted⟩)
    rintro ⟨normalized, known⟩
    cases known

/-- The statuses that the agent in Python writes into its rows. -/
def AgentStatus (status : String) : Prop := status = "executed" ∨ status = "failed"

theorem AgentStatus.normalized {status : String} (own : AgentStatus status) :
    ∃ normalized, normalizedResult status = some normalized := by
  rcases own with rfl | rfl
  · exact ⟨.applied, rfl⟩
  · exact ⟨.failed, rfl⟩

theorem receiveAgentCommand_status (positive : 1 ≤ own.id) (known : Remembers db memory) :
    ∃ db' memory', receiveAgentCommand settings own.payload db memory now storedAt =
        some (db', memory') ∧ Remembers db' memory' ∧
      ((appliedCommandRecord db own.id (own.localKey settings)).isSome = true ∧ db' = db ∨
        ∃ row, appliedCommandRecord db own.id (own.localKey settings) = none ∧
          db' = db.addCommand own.id row ∧ AgentStatus row.status) := by
  have id := agentCommandId_payload settings own
  obtain ⟨version, versioned⟩ := agentCommandVersion_payload settings own
  obtain ⟨⟨db', memory'⟩, received⟩ :=
    @receiveAgentCommand_isSome _ _ _ _ _ _ now storedAt id versioned known
  refine ⟨db', memory', received, remembers_received known received, ?_⟩
  rcases receiveAgentCommand_cases known received with
    ⟨commandId, same, there, rfl, -⟩ | ⟨commandId, row, stored, outcome⟩
  · cases id.symm.trans same
    have nonzero : (own.id : Int) ≠ 0 := by omega
    exact .inl ⟨there.resolve_left nonzero, rfl⟩
  · cases id.symm.trans stored.id
    refine .inr ⟨row, stored.fresh, stored.stored, ?_⟩
    rcases outcome with refused | executed
    · exact .inr refused.failed
    · have sets := executed.sets
      simp only [LocalCommand.setsRate, Bool.and_eq_true, decide_eq_true_eq] at sets
      exact .inl sets.2

structure ResultsSound (nodeCode : String) (exchange : CommandExchange) : Prop where
  positive : ∀ command ∈ exchange.commands, 1 ≤ command.id
  delivered : ∀ own ∈ exchange.delivered,
    1 ≤ own.id ∧ own.nodeCode = nodeCode ∧ own.status = .claimed
  remembers : ∀ memory, exchange.memory = some memory → Remembers exchange.db memory
  statuses : ∀ item ∈ recordedCommands exchange.db, AgentStatus item.2.status

theorem resultsSound_initial (nodeCode : String) : ResultsSound nodeCode {} where
  positive := fun command member => by cases member
  delivered := fun own member => by cases member
  remembers := fun memory same => by cases same
  statuses := fun item member => by cases member

theorem GoPoll.run_positive (poll : GoPoll)
    (positive : ∀ command ∈ commands, 1 ≤ command.id) :
    ∀ command ∈ poll.run nodeCode commands, 1 ≤ command.id := by
  unfold GoPoll.run
  generalize poll.received nodeCode commands = received
  have remaining : ∀ command ∈ poll.remaining commands, 1 ≤ command.id :=
    positive_moved (expireStaleClaims_moves poll.ttlSeconds) positive
  generalize poll.remaining commands = rest at remaining
  induction received generalizing rest with
  | nil => exact remaining
  | cons command received ih =>
    refine ih _ ?_
    unfold GoPoll.reportResult
    split
    next => exact remaining
    next now _ =>
      split
      next recorded => exact positive_moved (recordResult_moves recorded) remaining
      next => exact remaining

theorem delivers_claimed (h : call.attempt settings.builtins verifier exchange.commands =
      .ok (reply, commands)) (positive : ∀ command ∈ exchange.commands, 1 ≤ command.id)
    (member : own ∈ call.delivers nodeCode reply) :
    1 ≤ own.id ∧ own.nodeCode = nodeCode ∧ own.status = .claimed := by
  unfold CommandCall.delivers at member
  split at member
  next node agentId claimed called =>
    split at member
    next same =>
      simp only [CommandCall.attempt, called] at h
      cases h
      obtain ⟨old, pending, rfl⟩ := List.mem_map.mp member
      obtain ⟨there, chosen⟩ := List.mem_filter.mp pending
      rw [Bool.and_eq_true, decide_eq_true_eq] at chosen
      exact ⟨positive old there, chosen.1.trans same, rfl⟩
    next => cases member
  next => cases member

theorem statuses_add {row : LocalCommand} (fresh : db.localCommands.get? own.id = none)
    (status : AgentStatus row.status)
    (statuses : ∀ item ∈ recordedCommands db, AgentStatus item.2.status) :
    ∀ item ∈ recordedCommands (db.addCommand own.id row), AgentStatus item.2.status := by
  intro item member
  rw [recordedCommands_add fresh] at member
  rcases of_mem_concat member with there | rfl
  · exact statuses item there
  · exact status

theorem ResultsSound.receive (sound : ResultsSound nodeCode exchange)
    (running : exchange.memory = some memory) (member : own ∈ exchange.delivered)
    (now storedAt : Timestamp) :
    ResultsSound nodeCode (exchange.receive settings memory own now storedAt) := by
  obtain ⟨db', memory', received, known, outcome⟩ :=
    @receiveAgentCommand_status settings own exchange.db memory now storedAt
      (sound.delivered own member).1 (sound.remembers memory running)
  unfold CommandExchange.receive
  rw [received]
  refine ⟨sound.positive, sound.delivered, fun other same => ?_, ?_⟩
  · cases same
    exact known
  · rcases outcome with ⟨-, rfl⟩ | ⟨row, fresh, rfl, status⟩
    · exact sound.statuses
    · exact statuses_add (get?_eq_none_of_fresh fresh) status sound.statuses

theorem ResultsSound.exchange_step {event : ExchangeEvent} (sound : ResultsSound nodeCode exchange)
    (h : exchange.attempt settings verifier nodeCode event = .ok ((), exchange')) :
    ResultsSound nodeCode exchange' := by
  cases event with
  | centre call =>
    obtain ⟨⟨reply, commands⟩, attempted, h⟩ := of_bind h
    cases h
    refine ⟨positive_call (command_effect attempted) sound.positive, fun own member => ?_,
      sound.remembers, sound.statuses⟩
    rcases List.mem_append.mp member with there | new
    · exact sound.delivered own there
    · exact delivers_claimed attempted sound.positive new
  | start =>
    cases h
    refine { sound with remembers := fun memory same => ?_ }
    cases same
    exact nofun
  | receive index now storedAt =>
    obtain ⟨memory, running, h⟩ := of_bind h
    obtain ⟨own, there, h⟩ := of_bind h
    cases h
    exact sound.receive (orFault_eq_ok.mp running) (List.mem_of_getElem? (orFault_eq_ok.mp there))
      now storedAt
  | result now commandId =>
    obtain ⟨row, -, h⟩ := of_bind h
    obtain ⟨⟨⟨command, changed⟩, commands⟩, recorded, h⟩ := of_bind h
    cases h
    exact { sound with positive := positive_moved (recordResult_moves recorded) sound.positive }
  | report now commandId answer =>
    cases h
    refine ⟨sound.positive, sound.delivered, fun memory running id member => ?_, ?_⟩
    · rw [← mem_recordedIds, recordedCommands_answer, mem_recordedIds]
      exact sound.remembers memory running id member
    · rw [recordedCommands_answer]
      exact sound.statuses
  | crash =>
    cases h
    exact { sound with remembers := nofun }

theorem ResultsSound.step {reply : Unit} (sound : ResultsSound nodeCode exchange)
    (h : (resultAuthority settings verifier nodeCode).attempt event exchange =
      .ok (reply, exchange')) : ResultsSound nodeCode exchange' := by
  change event.attempt settings verifier nodeCode exchange = .ok ((), exchange') at h
  unfold ResultEvent.attempt at h
  split at h
  next =>
    cases h
    exact { sound with remembers := nofun }
  next =>
    cases event with
    | exchange event => exact sound.exchange_step h
    | pollOnce poll =>
      cases h
      exact { sound with positive := poll.run_positive sound.positive }

theorem ResultsSound.accepted (sound : ResultsSound nodeCode exchange) {row : LocalCommand}
    (member : own ∈ exchange.delivered)
    (found : exchange.db.localCommands.get? (own.id : Int) = some row) :
    ResultAccepted nodeCode own row.status row.resultMessage := by
  obtain ⟨-, ofNode, claimed⟩ := sound.delivered own member
  have recorded : ((own.id : Int), row.unanswered) ∈ recordedCommands exchange.db :=
    mem_recordedCommands.mpr ⟨row, found, rfl⟩
  have status : AgentStatus row.status := sound.statuses _ recorded
  exact (resultAccepted_iff ofNode (.inl claimed)).mpr status.normalized

theorem settles_pollOnce_iff (poll : GoPoll) :
    ResultsSettle settings verifier nodeCode exchange (.pollOnce poll) ↔
      ResultsKnown settings nodeCode exchange (.pollOnce poll) := by
  refine forall₂_congr fun own member => ?_
  obtain ⟨-, chosen⟩ := List.mem_filter.mp member
  rw [Bool.and_eq_true, decide_eq_true_eq] at chosen
  rw [resultAccepted_iff chosen.1 (.inr chosen.2)]
  exact normalizedResult_execute own (poll.files own)

theorem settles_receive_iff (sound : ResultsSound nodeCode exchange) (index : Nat) :
    ResultsSettle settings verifier nodeCode exchange (.exchange (.receive index now storedAt)) ↔
      ResultsKnown settings nodeCode exchange (.exchange (.receive index now storedAt)) := by
  refine forall₂_congr fun memory own => forall₂_congr fun running there => ?_
  have member := List.mem_of_getElem? there
  set event : ResultEvent := .exchange (.receive index now storedAt) with same
  have stops : event.overflows settings exchange =
      raisesOverflow settings own.payload exchange.db memory now := by
    rw [same]
    unfold ResultEvent.overflows
    simp only [running, there]
  cases overflows : raisesOverflow settings own.payload exchange.db memory now with
  | true =>
    have served : (resultAuthority settings verifier nodeCode).attempt event exchange =
        .ok ((), { exchange with memory := none }) := by
      change event.attempt settings verifier nodeCode exchange = _
      unfold ResultEvent.attempt
      rw [if_pos (stops.trans overflows)]
    rw [Authority.serve_of_ok served]
    constructor
    · rintro ⟨row, found, -⟩
      exact .inl (Option.isSome_iff_exists.mpr ⟨row, found⟩)
    · rintro (found | ⟨-, none⟩)
      · obtain ⟨row, found⟩ := Option.isSome_iff_exists.mp found
        exact ⟨row, found, sound.accepted member found⟩
      · cases none
  | false =>
    have served : (resultAuthority settings verifier nodeCode).attempt event exchange =
        .ok ((), exchange.receive settings memory own now storedAt) := by
      change event.attempt settings verifier nodeCode exchange = _
      unfold ResultEvent.attempt
      rw [if_neg (by rw [stops, overflows]; exact Bool.false_ne_true)]
      simp only [same, CommandExchange.attempt, running, there, orFault, ok_bind]
      rfl
    rw [Authority.serve_of_ok served]
    have after : ResultsSound nodeCode (exchange.receive settings memory own now storedAt) :=
      sound.receive running member now storedAt
    obtain ⟨db', memory', received, -, outcome⟩ :=
      @receiveAgentCommand_status settings own exchange.db memory now storedAt
        (sound.delivered own member).1 (sound.remembers memory running)
    have accepts : (∃ row, (exchange.receive settings memory own now storedAt).db.localCommands.get?
        own.id = some row ∧ ResultAccepted nodeCode own row.status row.resultMessage) ↔
        (db'.localCommands.get? own.id).isSome = true := by
      rw [Option.isSome_iff_exists]
      unfold CommandExchange.receive at after ⊢
      rw [received] at after ⊢
      constructor
      · rintro ⟨row, found, -⟩
        exact ⟨row, found⟩
      · rintro ⟨row, found⟩
        exact ⟨row, found, after.accepted member found⟩
    rw [accepts]
    rcases outcome with ⟨known, rfl⟩ | ⟨row, fresh, rfl, -⟩
    · have unfresh : appliedCommandRecord exchange.db own.id (own.localKey settings) ≠ none :=
        Option.isSome_iff_ne_none.mp known
      simp [unfresh]
    · have none := get?_eq_none_of_fresh fresh
      simp [addCommand_get? none, fresh]

theorem resultsSettle_iff (sound : ResultsSound nodeCode exchange) (event : ResultEvent) :
    ResultsSettle settings verifier nodeCode exchange event ↔
      ResultsKnown settings nodeCode exchange event := by
  cases event with
  | exchange event =>
    cases event with
    | receive index now storedAt => exact settles_receive_iff sound index
    | centre | start | result | report | crash => exact Iff.rfl
  | pollOnce poll => exact settles_pollOnce_iff poll

/-- In every run, each command that an agent receives gets a result that the centre accepts, if
and only if the agent in Go receives only types that it knows, and the one in Python no key that
another command has used and no rate that overflows. -/
theorem resultsSettle_along_iff (settings : AgentSettings) (verifier : CommandVerifier)
    (nodeCode : String) (events : List ResultEvent) :
    (resultAuthority settings verifier nodeCode).Along
        (ResultsSettle settings verifier nodeCode) {} events ↔
      (resultAuthority settings verifier nodeCode).Along
        (ResultsKnown settings nodeCode) {} events :=
  Authority.along_iff (I := ResultsSound nodeCode) (fun sound _ attempted => sound.step attempted)
    (fun sound => resultsSettle_iff sound _) (resultsSound_initial nodeCode)

def sampleGoPoll : GoPoll := ⟨1, 300, fun _ => .ok [], fun _ => some 2⟩

/-- The agent in Go answers a rate command with a status that the centre refuses. -/
theorem unsupported_result_refused : ¬ ∀ (settings : AgentSettings) (verifier : CommandVerifier)
    (nodeCode : String) (events : List ResultEvent),
    (resultAuthority settings verifier nodeCode).Along
      (ResultsSettle settings verifier nodeCode) {} events := by
  intro h
  have along := h sampleSettings .standard "milling-workshop-01"
    [.exchange (.centre (sampleRate "milling-workshop-01")), .pollOnce sampleGoPoll]
  have known := (settles_pollOnce_iff sampleGoPoll).mp along.2.1
  generalize reached : (resultAuthority sampleSettings .standard "milling-workshop-01").serve {}
    (.exchange (.centre (sampleRate "milling-workshop-01"))) = exchange at known
  have types : (sampleGoPoll.received "milling-workshop-01" exchange.commands).map
      (·.commandType) = ["set_target_rate"] := by
    rw [← reached]
    decide +kernel
  obtain ⟨own, only, type⟩ := List.map_eq_singleton_iff.mp types
  have member : own ∈ sampleGoPoll.received "milling-workshop-01" exchange.commands := by
    rw [only]
    exact List.mem_cons_self
  have own_known := known own member
  rw [type] at own_known
  revert own_known
  decide

end

end MiniOgas
