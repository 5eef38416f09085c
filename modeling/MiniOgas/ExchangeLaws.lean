import MiniOgas.DeliveryLaws

namespace MiniOgas

open Bounded Serial

structure CommandExchange where
  commands : List NodeCommand := []
  delivered : List NodeCommand := []
  db : LocalDatabase := .empty
  memory : Option CommandMemory := none

/-- What the centre and the agent do, each on its own schedule. A command that was delivered is
received at any time, and again; `result` is the arrival of a result that the agent sent, also
late and repeated, and `report` what the agent makes of the answer to one. -/
inductive ExchangeEvent where
  | centre (call : CommandCall)
  | start
  | receive (index : Nat) (now storedAt : Timestamp)
  | result (now : Timestamp) (commandId : Nat)
  | report (now : Timestamp) (commandId : Nat) (answer : ReportAnswer)
  | crash

def CommandCall.delivers (nodeCode : String) (call : CommandCall) (reply : CommandReply) :
    List NodeCommand :=
  match call.operation, reply with
  | .claim node _, .claimed commands => if node = nodeCode then commands else []
  | _, _ => []

def CommandExchange.receive (settings : AgentSettings) (exchange : CommandExchange)
    (memory : CommandMemory) (command : NodeCommand) (now storedAt : Timestamp) :
    CommandExchange :=
  match receiveAgentCommand settings command.payload exchange.db memory now storedAt with
  | some (db, memory) => { exchange with db := db, memory := some memory }
  | none => { exchange with memory := none }

def CommandExchange.attempt (settings : AgentSettings) (verifier : CommandVerifier)
    (nodeCode : String) (event : ExchangeEvent) (exchange : CommandExchange) :
    Except ControlFault (Unit × CommandExchange) :=
  match event with
  | .centre call => do
    let (reply, commands) ← call.attempt settings.builtins verifier exchange.commands
    return ((), { exchange with
      commands := commands
      delivered := exchange.delivered ++ call.delivers nodeCode reply })
  | .start => .ok ((), { exchange with
      memory := some (restoreLocalCommandState settings exchange.db) })
  | .receive index now storedAt => do
    let memory ← orFault exchange.memory (.valueError "the agent is down")
    let command ← orFault exchange.delivered[index]? (.valueError "no such delivery")
    return ((), exchange.receive settings memory command now storedAt)
  | .result now commandId => do
    let row ← orFault (exchange.db.localCommands.get? commandId) (.valueError "no such result")
    let (_, commands) ← recordResult exchange.commands now nodeCode commandId row.status
      row.resultMessage
    return ((), { exchange with commands := commands })
  | .report now commandId answer =>
    .ok ((), { exchange with db := answerCommandResult exchange.db now commandId answer })
  | .crash => .ok ((), { exchange with memory := none })

def exchangeAuthority (settings : AgentSettings) (verifier : CommandVerifier)
    (nodeCode : String) : Authority ExchangeEvent CommandExchange Unit ControlFault :=
  ⟨CommandExchange.attempt settings verifier nodeCode⟩

def CommandStatus.givenUp (status : CommandStatus) : Bool :=
  status = .expired || status = .superseded || status = .cancelled || status = .rejected

def CarriedOut (commandId : Nat) (db : LocalDatabase) : Prop :=
  ∃ row, db.localCommands.get? commandId = some row ∧ row.status = "executed"

/-- The centre has given up no command that the agent has carried out. -/
def Agrees (exchange : CommandExchange) : Prop :=
  ∀ command ∈ exchange.commands, CarriedOut command.id exchange.db → command.status.givenUp = false

/-- A call cancels a command, or its claim times out. -/
def CommandCall.GivesUp (call : CommandCall) (command : NodeCommand) : Prop :=
  match call.operation with
  | .cancel commandId _ _ => commandId = command.id ∧ command.status.terminal = false ∧
      command.status ≠ .executed
  | .expireStaleClaims ttlSeconds => command.staleClaim call.now ttlSeconds = true
  | _ => False

/-- The centre gives up no command that the agent has carried out, and the agent carries out no
command that the centre has given up. -/
def InTime (settings : AgentSettings) (exchange : CommandExchange) (event : ExchangeEvent) : Prop :=
  match event with
  | .centre call => ∀ command ∈ exchange.commands, CarriedOut command.id exchange.db →
      ¬ call.GivesUp command
  | .receive index now _ => ∀ memory own, exchange.memory = some memory →
      exchange.delivered[index]? = some own →
      PassesChecks settings own.payload exchange.db memory now →
      ∀ command ∈ exchange.commands, command.id = own.id → command.status.givenUp = false
  | _ => True

section

variable {verifier : CommandVerifier} {builtins : Builtins}
  {commands commands' : List NodeCommand} {command updated : NodeCommand}
  {operation : CommandOperation} {call : CommandCall} {reply : CommandReply}
  {memory : CommandMemory} {now storedAt : Timestamp} {n : Nat}

theorem givenUp_moved (move : CommandMove operation command updated)
    (shut : command.status.open = false) (live : command.status.givenUp = false)
    (bad : updated.status.givenUp = true) :
    (∃ actor reason, operation = .cancel command.id actor reason ∧
      command.status.terminal = false ∧ command.status ≠ .executed) ∨
    ∃ ttlSeconds, operation = .expireStaleClaims ttlSeconds := by
  have status := move.status
  generalize updated.status = toStatus at status bad
  cases status with
  | stay =>
    rw [live] at bad
    cases bad
  | result _ normalized =>
    rcases normalizedResult_cases normalized with rfl | rfl <;> cases bad
  | reject waiting =>
    rw [waiting] at shut
    cases shut
  | cancel called unfinished => exact .inl ⟨_, _, called, unfinished⟩
  | expire called _ => exact .inr ⟨_, called⟩
  | supersede isOpen =>
    rw [isOpen] at shut
    cases shut
  | verify _ verdict => rcases verdict with rfl | rfl | rfl <;> cases bad
  | claim | approve | review => cases bad

theorem findCommand_of_mem (sound : CommandsSound commands) (member : command ∈ commands) :
    findCommand commands command.id = .ok command := by
  refine orFault_eq_ok.mpr ?_
  cases found : commands.find? (·.id = command.id) with
  | none =>
    have absent := List.find?_eq_none.mp found command member
    simp at absent
  | some first =>
    have same : first.id = command.id := by simpa using List.find?_some found
    rw [eq_of_increasing sound.increasing (List.mem_of_find?_eq_some found) member same]

theorem cancel_ok {actor reason : String} (sound : CommandsSound commands)
    (member : command ∈ commands)
    (live : command.status.terminal = false ∧ command.status ≠ .executed) :
    ∃ updated, MiniOgas.cancel commands now command.id actor reason =
        .ok ((updated, true), storeCommand commands updated) ∧ updated.id = command.id ∧
      updated.status = .cancelled := by
  have uncancelled : command.status ≠ .cancelled := by
    intro same
    rw [same] at live
    cases live.1
  unfold MiniOgas.cancel
  rw [findCommand_of_mem sound member, ok_bind, if_neg uncancelled,
    (check_eq_ok (u := ())).mpr live, ok_bind]
  exact ⟨_, rfl, rfl, rfl⟩

theorem givesUp_ok (sound : CommandsSound commands) (member : command ∈ commands)
    (gives : call.GivesUp command) : ∃ reply commands',
      call.attempt builtins verifier commands = .ok (reply, commands') ∧
      ∃ updated ∈ commands', updated.id = command.id ∧ updated.status.givenUp = true := by
  unfold CommandCall.GivesUp at gives
  split at gives
  next commandId actor reason called =>
    obtain ⟨rfl, live⟩ := gives
    obtain ⟨updated, performed, id, cancelled⟩ := @cancel_ok _ _ call.now actor reason sound member
      live
    refine ⟨.updated updated true, storeCommand commands updated, ?_, updated, ?_, id, ?_⟩
    · simp only [CommandCall.attempt, called, performed, ok_bind]
      rfl
    · have found := orFault_eq_ok.mp (findCommand_of_mem sound member)
      unfold storeCommand
      rw [id]
      exact @mem_modifyFirst _ _ (fun _ => updated) _ _ found
    · rw [cancelled]
      rfl
  next ttlSeconds called =>
    have performed : call.attempt builtins verifier commands =
        .ok (.transitioned (expireStaleClaims commands call.now ttlSeconds).1,
          (expireStaleClaims commands call.now ttlSeconds).2) := by
      simp only [CommandCall.attempt, called]
    refine ⟨_, _, performed, command.expire call.now ttlSeconds, ?_, rfl, rfl⟩
    exact List.mem_map.mpr ⟨command, member, by rw [if_pos gives]⟩
  next => exact gives.elim

theorem givesUp_of_step (h : call.attempt builtins verifier commands = .ok (reply, commands'))
    (sound : CommandsSound commands) (settled : Claimed n commands)
    (live : ∀ command ∈ commands, command.id = n → command.status.givenUp = false)
    (member : updated ∈ commands') (same : updated.id = n)
    (bad : updated.status.givenUp = true) :
    ∃ command ∈ commands, command.id = n ∧ call.GivesUp command := by
  have moved : ∀ {moved : List NodeCommand},
      List.Forall₂ (CommandMove call.operation) commands moved → updated ∈ moved →
      ∃ command ∈ commands, command.id = n ∧
        ((∃ actor reason, call.operation = .cancel command.id actor reason ∧
          command.status.terminal = false ∧ command.status ≠ .executed) ∨
        ∃ ttlSeconds, call.operation = .expireStaleClaims ttlSeconds) := by
    intro moved moves member
    obtain ⟨command, there, move⟩ := exists_left_of_forall₂ moves member
    have id : command.id = n := move.id.symm.trans same
    exact ⟨command, there, id,
      givenUp_moved move (settled.2 command there id) (live command there id) bad⟩
  have cause : ∃ command ∈ commands, command.id = n ∧
      ((∃ actor reason, call.operation = .cancel command.id actor reason ∧
        command.status.terminal = false ∧ command.status ≠ .executed) ∨
      ∃ ttlSeconds, call.operation = .expireStaleClaims ttlSeconds) := by
    cases command_effect h with
    | moved moves => exact moved moves member
    | @created request new _ _ _ fresh _ kept =>
      rw [kept] at member
      rcases of_mem_keepLast_append member with h | rfl
      · exact moved (replaces_moves call.operation commands call.now request) h
      · have := settled.1
        omega
  obtain ⟨command, there, id, ⟨actor, reason, called, unfinished⟩ | ⟨ttlSeconds, called⟩⟩ := cause
  · refine ⟨command, there, id, ?_⟩
    unfold CommandCall.GivesUp
    rw [called]
    exact ⟨rfl, unfinished⟩
  · refine ⟨command, there, id, ?_⟩
    unfold CommandCall.GivesUp
    rw [called]
    simp only [CommandCall.attempt, called] at h
    cases h
    obtain ⟨old, was, rfl⟩ := List.mem_map.mp member
    split at same
    next stale =>
      rw [eq_of_increasing sound.increasing there was (id.trans same.symm)]
      exact stale
    next fresh =>
      rw [if_neg fresh, live old was same] at bad
      cases bad

end

variable {settings : AgentSettings} {verifier : CommandVerifier} {nodeCode : String}
  {commands : List NodeCommand} {command own : NodeCommand} {call : CommandCall}
  {reply : CommandReply} {db db' : LocalDatabase} {memory memory' : CommandMemory}
  {now storedAt : Timestamp} {n : Nat} {exchange exchange' : CommandExchange}
  {event : ExchangeEvent}

theorem executed_iff : CarriedOut n db ↔
    ∃ item ∈ recordedCommands db, item.1 = n ∧ item.2.status = "executed" := by
  constructor
  · rintro ⟨row, found, executed⟩
    exact ⟨((n : Int), row.unanswered), mem_recordedCommands.mpr ⟨row, found, rfl⟩, rfl, executed⟩
  · rintro ⟨item, there, same, executed⟩
    obtain ⟨row, found, kept⟩ := mem_recordedCommands.mp there
    rw [← kept] at executed
    exact ⟨row, same ▸ found, executed⟩

theorem executed_answer (commandId : Int) (answer : ReportAnswer) :
    CarriedOut n (answerCommandResult db now commandId answer) ↔ CarriedOut n db := by
  rw [executed_iff, executed_iff, recordedCommands_answer]

theorem executed_add {row : LocalCommand}
    (fresh : db.localCommands.get? (own.id : Int) = none) :
    CarriedOut n (db.addCommand own.id row) ↔
      CarriedOut n db ∨ n = own.id ∧ row.status = "executed" := by
  unfold CarriedOut
  rw [addCommand_get? fresh]
  by_cases same : n = own.id
  · subst same
    simp [fresh]
  · have different : (n : Int) ≠ own.id := fun h => same (Int.ofNat.inj h)
    simp [same, different]

theorem receive_executed (known : Remembers db memory)
    (received : receiveAgentCommand settings own.payload db memory now storedAt =
      some (db', memory')) :
    CarriedOut n db' ↔
      CarriedOut n db ∨ n = own.id ∧ PassesChecks settings own.payload db memory now := by
  have id := agentCommandId_payload settings own
  rcases receiveAgentCommand_cases known received with
    ⟨commandId, same, there, rfl, -⟩ | ⟨commandId, row, stored, outcome⟩
  · cases id.symm.trans same
    have stops : ¬ PassesChecks settings own.payload db' memory now :=
      not_passesChecks id (there.imp_right fun found _ _ => checkAgentCommand_known found)
    simp [stops]
  · cases id.symm.trans stored.id
    rw [stored.stored, executed_add (get?_eq_none_of_fresh stored.fresh)]
    rcases outcome with refused | executed
    · simp [refused.failed, refused.stops]
    · have sets := executed.sets
      simp only [LocalCommand.setsRate, Bool.and_eq_true, decide_eq_true_eq] at sets
      simp [sets.2, executed.passes]

structure ExchangeSound (exchange : CommandExchange) : Prop where
  sound : CommandsSound exchange.commands
  delivered : ∀ command ∈ exchange.delivered, Claimed command.id exchange.commands
  executed : ∀ n, CarriedOut n exchange.db → Claimed n exchange.commands
  remembers : ∀ memory, exchange.memory = some memory → Remembers exchange.db memory

theorem claimed_of_delivers (h : call.attempt settings.builtins verifier exchange.commands =
      .ok (reply, commands)) (sound : CommandsSound commands)
    (member : command ∈ call.delivers nodeCode reply) : Claimed command.id commands := by
  unfold CommandCall.delivers at member
  split at member
  next node agentId claimed called =>
    split at member
    next =>
      simp only [CommandCall.attempt, called] at h
      cases h
      obtain ⟨-, listed, status⟩ := mem_claimForNode member
      refine ⟨Nat.lt_succ_of_le (le_greatest (List.mem_map_of_mem listed)), ?_⟩
      intro other there same
      rw [eq_of_increasing sound.increasing there listed same, status]
      rfl
    next => cases member
  next => cases member

theorem ExchangeSound.received (sound : ExchangeSound exchange)
    (running : exchange.memory = some memory) (own : NodeCommand) (now storedAt : Timestamp) :
    ∃ db' memory', exchange.receive settings memory own now storedAt =
        { exchange with db := db', memory := some memory' } ∧ Remembers db' memory' ∧
      ∀ n, CarriedOut n db' ↔ CarriedOut n exchange.db ∨
        n = own.id ∧ PassesChecks settings own.payload exchange.db memory now := by
  have known := sound.remembers memory running
  obtain ⟨version, versioned⟩ := agentCommandVersion_payload settings own
  obtain ⟨⟨db', memory'⟩, received⟩ := @receiveAgentCommand_isSome _ _ _ _ _ _ now storedAt
    (agentCommandId_payload settings own) versioned known
  refine ⟨db', memory', ?_, ?_, fun n => receive_executed known received⟩
  · unfold CommandExchange.receive
    rw [received]
  · exact remembers_received known received

theorem recordResult_attempt {commandId : Nat} {status message : String} {changed : Bool}
    (h : recordResult exchange.commands now nodeCode commandId status message =
      .ok ((command, changed), commands)) :
    (CommandCall.mk now (.recordResult nodeCode commandId status message)).attempt
      settings.builtins verifier exchange.commands = .ok (.updated command changed, commands) := by
  simp only [CommandCall.attempt, h, ok_bind]
  rfl

theorem ExchangeSound.step (sound : ExchangeSound exchange)
    (h : exchange.attempt settings verifier nodeCode event = .ok ((), exchange')) :
    ExchangeSound exchange' := by
  cases event with
  | centre call =>
    obtain ⟨⟨reply, commands⟩, attempted, h⟩ := of_bind h
    cases h
    have effect := command_effect attempted
    have next := commandsSound_step effect sound.sound
    refine ⟨next, fun own member => ?_, fun n done => claimed_call effect (sound.executed n done),
      sound.remembers⟩
    rcases List.mem_append.mp member with h | h
    · exact claimed_call effect (sound.delivered own h)
    · exact claimed_of_delivers attempted next h
  | start =>
    cases h
    refine { sound with remembers := fun memory same => ?_ }
    cases same
    exact nofun
  | receive index now storedAt =>
    obtain ⟨memory, running, h⟩ := of_bind h
    obtain ⟨own, there, h⟩ := of_bind h
    cases h
    obtain ⟨db', memory', received, known, executed⟩ :=
      sound.received (orFault_eq_ok.mp running) own now storedAt
    rw [received]
    refine ⟨sound.sound, sound.delivered, fun n done => ?_, fun other same => ?_⟩
    · rcases (executed n).mp done with old | ⟨rfl, -⟩
      · exact sound.executed n old
      · exact sound.delivered own (List.mem_of_getElem? (orFault_eq_ok.mp there))
    · cases same
      exact known
  | result now commandId =>
    obtain ⟨row, -, h⟩ := of_bind h
    obtain ⟨⟨⟨command, changed⟩, commands⟩, recorded, h⟩ := of_bind h
    cases h
    have attempted : (CommandCall.mk now (.recordResult nodeCode commandId row.status
        row.resultMessage)).attempt settings.builtins verifier exchange.commands =
          .ok (.updated command changed, commands) := recordResult_attempt recorded
    have effect := command_effect attempted
    exact ⟨commandsSound_step effect sound.sound,
      fun own member => claimed_call effect (sound.delivered own member),
      fun n done => claimed_call effect (sound.executed n done), sound.remembers⟩
  | report now commandId answer =>
    cases h
    refine ⟨sound.sound, sound.delivered, fun n done => ?_, fun memory running id member => ?_⟩
    · exact sound.executed n ((executed_answer commandId answer).mp done)
    · rw [← mem_recordedIds, recordedCommands_answer, mem_recordedIds]
      exact sound.remembers memory running id member
  | crash =>
    cases h
    exact { sound with remembers := nofun }

theorem exchangeSound_initial : ExchangeSound {} := by
  refine ⟨commandsSound_empty, fun command member => ?_, fun n done => ?_, fun memory same => ?_⟩
  · cases member
  · obtain ⟨row, found, -⟩ := done
    cases found
  · cases same

theorem agrees_call (sound : ExchangeSound exchange) (agrees : Agrees exchange)
    (h : call.attempt settings.builtins verifier exchange.commands = .ok (reply, commands)) :
    (∀ updated ∈ commands, CarriedOut updated.id exchange.db → updated.status.givenUp = false) ↔
      ∀ command ∈ exchange.commands,
        CarriedOut command.id exchange.db → ¬ call.GivesUp command := by
  constructor
  · intro later command member executed gives
    obtain ⟨_, _, performed, updated, listed, same, bad⟩ :=
      @givesUp_ok verifier settings.builtins _ _ _ sound.sound member gives
    rw [h] at performed
    cases performed
    rw [later updated listed (same ▸ executed)] at bad
    cases bad
  · intro spares updated listed executed
    by_contra bad
    rw [Bool.not_eq_false] at bad
    obtain ⟨command, member, same, gives⟩ := givesUp_of_step h sound.sound
      (sound.executed _ executed) (fun command member same =>
        agrees command member (same ▸ executed))
      listed rfl bad
    exact spares command member (same ▸ executed) gives

theorem agrees_receive {index : Nat} (sound : ExchangeSound exchange) (agrees : Agrees exchange)
    (running : exchange.memory = some memory) (there : exchange.delivered[index]? = some own) :
    Agrees (exchange.receive settings memory own now storedAt) ↔
      InTime settings exchange (.receive index now storedAt) := by
  obtain ⟨db', memory', received, -, executed⟩ := sound.received running own now storedAt
  rw [received]
  constructor
  · intro later other first up same passes command member id
    cases running.symm.trans up
    cases there.symm.trans same
    exact later command member ((executed command.id).mpr (.inr ⟨id, passes⟩))
  · intro inTime command member done
    rcases (executed command.id).mp done with old | ⟨id, passes⟩
    · exact agrees command member old
    · exact inTime memory own running there passes command member id

theorem agrees_serve_iff (sound : ExchangeSound exchange) (agrees : Agrees exchange) :
    Agrees ((exchangeAuthority settings verifier nodeCode).serve exchange event) ↔
      InTime settings exchange event := by
  cases event with
  | centre call =>
    cases attempted : call.attempt settings.builtins verifier exchange.commands with
    | ok result =>
      have served : (exchangeAuthority settings verifier nodeCode).attempt (.centre call) exchange =
          .ok ((), { exchange with
            commands := result.2
            delivered := exchange.delivered ++ call.delivers nodeCode result.1 }) := by
        simp only [exchangeAuthority, CommandExchange.attempt, attempted, ok_bind]
        rfl
      rw [Authority.serve_of_ok served]
      exact agrees_call sound agrees attempted
    | error fault =>
      have refused : (exchangeAuthority settings verifier nodeCode).serve exchange (.centre call) =
          exchange := by
        simp only [Authority.serve, exchangeAuthority, CommandExchange.attempt, attempted]
        rfl
      rw [refused]
      refine ⟨fun _ command member _ gives => ?_, fun _ => agrees⟩
      obtain ⟨_, _, performed, -⟩ :=
        @givesUp_ok verifier settings.builtins _ _ _ sound.sound member gives
      rw [attempted] at performed
      cases performed
  | start => exact iff_of_true agrees trivial
  | receive index now storedAt =>
    cases running : exchange.memory with
    | none =>
      have refused : (exchangeAuthority settings verifier nodeCode).serve exchange
          (.receive index now storedAt) = exchange := by
        simp [Authority.serve, exchangeAuthority, CommandExchange.attempt, running, orFault,
          Bind.bind, Except.bind]
      rw [refused]
      refine iff_of_true agrees fun memory own same => ?_
      rw [running] at same
      cases same
    | some memory =>
      cases there : exchange.delivered[index]? with
      | none =>
        have refused : (exchangeAuthority settings verifier nodeCode).serve exchange
            (.receive index now storedAt) = exchange := by
          simp [Authority.serve, exchangeAuthority, CommandExchange.attempt, running, there,
            orFault, Bind.bind, Except.bind]
        rw [refused]
        refine iff_of_true agrees fun memory own _ same => ?_
        rw [there] at same
        cases same
      | some own =>
        have served : (exchangeAuthority settings verifier nodeCode).attempt
            (.receive index now storedAt) exchange =
              .ok ((), exchange.receive settings memory own now storedAt) := by
          simp only [exchangeAuthority, CommandExchange.attempt, running, there, orFault, ok_bind]
          rfl
        rw [Authority.serve_of_ok served]
        exact agrees_receive sound agrees running there
  | result now commandId =>
    refine iff_of_true ?_ trivial
    rcases (exchangeAuthority settings verifier nodeCode).serve_cases exchange
      (.result now commandId) with same | ⟨_, attempted⟩
    · rw [same]
      exact agrees
    · obtain ⟨row, -, h⟩ := of_bind attempted
      obtain ⟨⟨⟨command, changed⟩, commands⟩, recorded, h⟩ := of_bind h
      rw [← (Prod.mk.inj (Except.ok.inj h)).2]
      have called := @recordResult_attempt settings verifier nodeCode commands command now exchange
        commandId row.status row.resultMessage changed recorded
      exact (agrees_call sound agrees called).mpr fun _ _ _ gives => gives
  | report now commandId answer =>
    refine iff_of_true (fun command member done => agrees command member ?_) trivial
    exact (executed_answer commandId answer).mp done
  | crash => exact iff_of_true agrees trivial

/-- In every run the centre and the agent agree after each event if and only if each is in
time. -/
theorem agrees_along_iff (settings : AgentSettings) (verifier : CommandVerifier)
    (nodeCode : String) (events : List ExchangeEvent) :
    (exchangeAuthority settings verifier nodeCode).Along (fun exchange event =>
        Agrees ((exchangeAuthority settings verifier nodeCode).serve exchange event)) {} events ↔
      (exchangeAuthority settings verifier nodeCode).Along (InTime settings) {} events := by
  have initial : Agrees {} := fun command member => by cases member
  constructor
  · intro along
    refine Authority.along_invariant (I := fun exchange => ExchangeSound exchange ∧ Agrees exchange)
      ?_ ?_ ⟨exchangeSound_initial, initial⟩ along
    · intro exchange event reply exchange' holds agrees h
      rw [Authority.serve_of_ok h] at agrees
      exact ⟨holds.1.step h, agrees⟩
    · exact fun holds agrees => (agrees_serve_iff holds.1 holds.2).mp agrees
  · intro along
    refine Authority.along_invariant (I := fun exchange => ExchangeSound exchange ∧ Agrees exchange)
      ?_ ?_ ⟨exchangeSound_initial, initial⟩ along
    · intro exchange event reply exchange' holds inTime h
      have agrees := (@agrees_serve_iff _ verifier nodeCode _ _ holds.1 holds.2).mpr inTime
      rw [Authority.serve_of_ok h] at agrees
      exact ⟨holds.1.step h, agrees⟩
    · exact fun holds inTime => (agrees_serve_iff holds.1 holds.2).mpr inTime

def sampleCancelled : List ExchangeEvent :=
  [.start, .centre (sampleRate "milling-workshop-01"),
    .centre ⟨1, .claim "milling-workshop-01" "milling-workshop-01"⟩, .receive 0 2 3, .result 4 1,
    .centre ⟨5, .cancel 1 "operator" "plan changed"⟩]

/-- The centre has cancelled a command that the agent has carried out. -/
theorem cancel_overwrites_applied : ¬∀ (settings : AgentSettings) (verifier : CommandVerifier)
    (nodeCode : String) (events : List ExchangeEvent),
    Agrees ((exchangeAuthority settings verifier nodeCode).run {} events) := by
  intro h
  have agrees := h sampleSettings .standard "milling-workshop-01" sampleCancelled
  generalize reached : (exchangeAuthority sampleSettings .standard "milling-workshop-01").run {}
    sampleCancelled = exchange at agrees
  have ended : (exchange.commands.map fun command => (command.id, command.status),
      (exchange.db.localCommands.get? ((1 : Nat) : Int)).map (·.status)) =
        ([(1, .cancelled)], some "executed") := by
    rw [← reached]
    decide +kernel
  obtain ⟨listed, carriedOut⟩ := Prod.mk.inj ended
  obtain ⟨command, only, same⟩ := List.map_eq_singleton_iff.mp listed
  obtain ⟨id, cancelled⟩ := Prod.mk.inj same
  obtain ⟨row, found, executed⟩ := Option.map_eq_some_iff.mp carriedOut
  have kept := agrees command (by rw [only]; exact List.mem_cons_self)
    ⟨row, by rw [id]; exact found, executed⟩
  rw [cancelled] at kept
  cases kept

end MiniOgas
