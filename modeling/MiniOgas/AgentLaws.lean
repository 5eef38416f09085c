import MiniOgas.AgentRun

namespace MiniOgas

open Relational Serial

variable {settings : AgentSettings} {agent agent' : CommandAgent} {event : CommandEvent}
  {process : AgentProcess} {command : Fields} {now storedAt : Timestamp}

namespace CommandsSafe

theorem kept (safe : CommandsSafe settings agent)
    (same : recordedCommands agent'.db = recordedCommands agent.db)
    (later : agent.clock ≤ agent'.clock)
    (process : ∀ process', agent'.process = some process' →
      ProcessSafe settings (recordedCommands agent.db) process')
    (sent : ∀ report ∈ agent'.sent, ∃ item ∈ recordedCommands agent.db,
      item.1 = report.commandId ∧ item.2.status = report.status ∧
        item.2.resultMessage = report.message) : CommandsSafe settings agent' where
  dated item member := by
    rw [same] at member
    exact le_trans (safe.dated item member) later
  increasing := by
    rw [same]
    exact safe.increasing
  restorable item member := by
    rw [same] at member
    exact safe.restorable item member
  process := by
    rw [same]
    exact process
  sent := by
    rw [same]
    exact sent

theorem start (safe : CommandsSafe settings agent) : CommandsSafe settings
    { agent with process := some ⟨restoreLocalCommandState settings agent.db, []⟩ } := by
  refine safe.kept rfl (le_refl _) (fun process' running => ?_) safe.sent
  cases running
  refine ⟨?_, nofun, nofun⟩
  rw [← lastRateCommand_eq safe.increasing]
  rw [Option.bind_map]
  rfl

variable {memory : CommandMemory}

theorem flush (safe : CommandsSafe settings agent) (running : agent.process = some ⟨memory, []⟩) :
    CommandsSafe settings
      { agent with process := some ⟨memory, pendingCommandResults agent.db⟩ } := by
  refine safe.kept rfl (le_refl _) (fun process' started => ?_) safe.sent
  cases started
  have old := safe.process _ running
  refine ⟨old.rate, old.known, fun item member => ?_⟩
  have unreported := List.take_subset _ _ member
  unfold unreportedCommands at unreported
  rw [List.mem_insertionSort] at unreported
  have there := (List.mem_filter.mp unreported).1
  exact List.mem_map.mpr ⟨item, there, rfl⟩

theorem report (safe : CommandsSafe settings agent) {item : Int × LocalCommand}
    {rest : List (Int × LocalCommand)} (running : agent.process = some ⟨memory, item :: rest⟩)
    (later : agent.clock < now) (answer : ReportAnswer) :
    CommandsSafe settings (agent.report ⟨memory, item :: rest⟩ item rest now answer) := by
  have old := safe.process _ running
  refine safe.kept (recordedCommands_answer _ _ _ _) (le_of_lt later)
    (fun process' started => ?_) fun sentReport member => ?_
  · cases started
    exact ⟨old.rate, old.known, fun other h => old.reports other (List.mem_cons_of_mem _ h)⟩
  · rcases of_mem_concat member with h | rfl
    · exact safe.sent sentReport h
    · exact ⟨_, old.reports item List.mem_cons_self, rfl, rfl, rfl⟩

theorem crash (safe : CommandsSafe settings agent) {clock : Timestamp}
    (later : agent.clock ≤ clock) :
    CommandsSafe settings { agent with process := none, clock := clock } :=
  safe.kept rfl later nofun safe.sent

theorem lastExecuted_append (rows : List (Int × LocalCommand)) (item : Int × LocalCommand) :
    lastExecuted (rows ++ [item]) =
      if item.2.setsRate = true then some item.2 else lastExecuted rows := by
  unfold lastExecuted
  by_cases sets : item.2.setsRate = true <;> simp [sets]

theorem added (safe : CommandsSafe settings agent) {memory memory' : CommandMemory}
    {commandId : Int} {row : LocalCommand} {db : LocalDatabase}
    (running : agent.process = some ⟨memory, []⟩)
    (first : agent.clock < now) (second : now < storedAt)
    (stored : CommandStored settings command storedAt agent.db commandId row db)
    (outcome : CommandRefused settings command now agent.db memory row memory' ∨
      CommandExecuted settings command now agent.db memory commandId row memory') :
    CommandsSafe settings
      { agent with db := db, process := some ⟨memory', []⟩, clock := storedAt } := by
  have fresh := get?_eq_none_of_fresh stored.fresh
  obtain ⟨version, status, message, built⟩ := stored.built
  have plain : row.unanswered = row := by rw [built]; rfl
  have time : row.appliedAt = storedAt := by rw [built]; rfl
  have rows : recordedCommands db = recordedCommands agent.db ++ [(commandId, row)] := by
    rw [stored.stored, recordedCommands_add fresh, plain]
  have before : ∀ item ∈ recordedCommands agent.db, item.2.appliedAt < storedAt :=
    fun item member => lt_of_le_of_lt (safe.dated item member) (lt_trans first second)
  have old := safe.process _ running
  exact {
    dated := fun item member => by
      rw [rows] at member
      rcases of_mem_concat member with h | rfl
      · exact le_of_lt (before item h)
      · rw [time]
    increasing := by
      rw [rows, List.map_append, List.pairwise_append]
      refine ⟨safe.increasing, List.pairwise_singleton _ _, fun earlier there last h => ?_⟩
      obtain ⟨item, member, rfl⟩ := List.mem_map.mp there
      rw [List.map_singleton, List.mem_singleton] at h
      rw [h, time]
      exact before item member
    restorable := fun item member sets => by
      rw [rows] at member
      rcases of_mem_concat member with h | rfl
      · exact safe.restorable item h sets
      · rcases outcome with ⟨failed, -, -⟩ | executed
        · simp [LocalCommand.setsRate, failed] at sets
        · obtain ⟨target, parsed, rate, -⟩ := executed.remembered
          exact ⟨target, parsed, rate⟩
    process := fun process' started => by
      cases started
      rw [rows]
      refine ⟨?_, fun id member => ?_, fun report none => absurd none List.not_mem_nil⟩
      · rw [lastExecuted_append]
        rcases outcome with ⟨failed, rfl, -⟩ | executed
        · rw [if_neg (by simp [LocalCommand.setsRate, failed])]
          exact old.rate
        · obtain ⟨target, -, rate, rfl⟩ := executed.remembered
          rw [if_pos executed.sets, Option.bind_some, rate]
      · rw [List.map_append, List.map_singleton, List.mem_append, List.mem_singleton]
        rcases outcome with ⟨-, rfl, -⟩ | executed
        · exact .inl (old.known id member)
        · obtain ⟨target, -, -, rfl⟩ := executed.remembered
          rcases List.mem_cons.mp member with rfl | h
          · exact .inr rfl
          · exact .inl (old.known id h)
    sent := fun report member => by
      obtain ⟨item, there, same⟩ := safe.sent report member
      rw [rows]
      exact ⟨item, List.mem_append_left _ there, same⟩ }

theorem receive (safe : CommandsSafe settings agent) (running : agent.process = some ⟨memory, []⟩)
    (first : agent.clock < now) (second : now < storedAt) (command : Fields) :
    CommandsSafe settings (agent.receive settings ⟨memory, []⟩ command now storedAt) := by
  have old := safe.process _ running
  have later : agent.clock ≤ storedAt := le_of_lt (lt_trans first second)
  unfold CommandAgent.receive
  split
  next db memory' received =>
    rcases receiveAgentCommand_cases (fun id member => mem_recordedIds.mp (old.known id member))
      received with ⟨_, -, -, rfl, rfl⟩ | ⟨commandId, row, stored, outcome⟩
    · refine safe.kept rfl later (fun process' started => ?_) safe.sent
      cases started
      exact old
    · exact safe.added running first second stored outcome
  next => exact safe.crash later

theorem step (safe : CommandsSafe settings agent) (h : agent.step settings event = some agent') :
    CommandsSafe settings agent' := by
  cases event with
  | start =>
    dsimp only [CommandAgent.step] at h
    split at h
    next => exact Option.some.inj h ▸ safe.start
    next => cases h
  | receive command now storedAt =>
    dsimp only [CommandAgent.step] at h
    split at h
    next memory running =>
      split at h
      next times => exact Option.some.inj h ▸ safe.receive running times.1 times.2 command
      next => cases h
    next => cases h
  | flush =>
    dsimp only [CommandAgent.step] at h
    split at h
    next memory running => exact Option.some.inj h ▸ safe.flush running
    next => cases h
  | report now answer =>
    dsimp only [CommandAgent.step] at h
    split at h
    next memory item rest running =>
      split at h
      next later => exact Option.some.inj h ▸ safe.report running later answer
      next => cases h
    next => cases h
  | others heartbeats telemetryBatches telemetrySequenceState =>
    exact Option.some.inj h ▸ safe.kept rfl (le_refl _) safe.process safe.sent
  | crash => exact Option.some.inj h ▸ safe.crash (le_refl _)

theorem initial (settings : AgentSettings) (clock : Timestamp) :
    CommandsSafe settings { db := .empty, clock := clock } :=
  ⟨nofun, .nil, nofun, nofun, nofun⟩

end CommandsSafe

variable {settings : AgentSettings} {agent agent' : CommandAgent} {event : CommandEvent}
  {command : Fields} {now storedAt : Timestamp}

theorem commandAgent_step {reply : Unit}
    (h : (commandAgentAuthority settings).attempt event agent = .ok (reply, agent')) :
    agent.step settings event = some agent' := by
  unfold commandAgentAuthority at h
  dsimp only at h
  split at h
  next next found =>
    cases h
    exact found
  next => cases h

theorem CommandsSafe.run (safe : CommandsSafe settings agent) (events : List CommandEvent) :
    CommandsSafe settings ((commandAgentAuthority settings).run agent events) :=
  Authority.invariant (fun safe h => safe.step (commandAgent_step h)) events safe

theorem CommandsSafe.receive_rows (safe : CommandsSafe settings agent) {memory : CommandMemory}
    (running : agent.process = some ⟨memory, []⟩) (command : Fields) :
    recordedCommands agent.db <+:
      recordedCommands (agent.receive settings ⟨memory, []⟩ command now storedAt).db := by
  unfold CommandAgent.receive
  split
  next db memory' received =>
    have old := safe.process _ running
    rcases receiveAgentCommand_cases (fun id member => mem_recordedIds.mp (old.known id member))
      received with ⟨_, -, -, rfl, -⟩ | ⟨commandId, row, stored, -⟩
    · exact List.prefix_rfl
    · rw [stored.stored, recordedCommands_add (get?_eq_none_of_fresh stored.fresh)]
      exact List.prefix_append _ _
  next => exact List.prefix_rfl

theorem CommandsSafe.step_rows (safe : CommandsSafe settings agent)
    (h : agent.step settings event = some agent') :
    recordedCommands agent.db <+: recordedCommands agent'.db := by
  cases event with
  | start | flush =>
    dsimp only [CommandAgent.step] at h
    split at h
    next => exact Option.some.inj h ▸ List.prefix_rfl
    next => cases h
  | receive command now storedAt =>
    dsimp only [CommandAgent.step] at h
    split at h
    next memory running =>
      split at h
      next => exact Option.some.inj h ▸ safe.receive_rows running command
      next => cases h
    next => cases h
  | report now answer =>
    dsimp only [CommandAgent.step] at h
    split at h
    next =>
      split at h
      next =>
        rw [← Option.some.inj h]
        exact (recordedCommands_answer _ _ _ _).symm ▸ List.prefix_rfl
      next => cases h
    next => cases h
  | others heartbeats telemetryBatches telemetrySequenceState =>
    exact Option.some.inj h ▸ List.prefix_rfl
  | crash => exact Option.some.inj h ▸ List.prefix_rfl

theorem CommandsSafe.run_rows (safe : CommandsSafe settings agent) (events : List CommandEvent) :
    recordedCommands agent.db <+:
      recordedCommands ((commandAgentAuthority settings).run agent events).db :=
  Authority.related (R := fun agent agent' => recordedCommands agent.db <+:
      recordedCommands agent'.db)
    (fun safe h => safe.step (commandAgent_step h)) (fun _ => List.prefix_rfl)
    List.IsPrefix.trans
    (fun safe h => safe.step_rows (commandAgent_step h)) events safe

theorem CommandsSafe.receive_expired (safe : CommandsSafe settings agent) {t : Timestamp}
    (expiry : agentCommandExpiry settings command = .instant t) (late : t ≤ now)
    (h : agent.step settings (.receive command now storedAt) = some agent')
    {process' : AgentProcess} (started : agent'.process = some process') :
    ∃ process, agent.process = some process ∧
      process'.memory.targetRate = process.memory.targetRate := by
  dsimp only [CommandAgent.step] at h
  split at h
  next memory running =>
    split at h
    next =>
      rw [← Option.some.inj h] at started
      unfold CommandAgent.receive at started
      split at started
      next db memory' received =>
        cases started
        refine ⟨_, running, ?_⟩
        have old := safe.process _ running
        rcases receiveAgentCommand_cases
          (fun id member => mem_recordedIds.mp (old.known id member)) received with
          ⟨_, -, -, -, rfl⟩ | ⟨_, _, -, ⟨-, rfl, -⟩ | executed⟩
        · rfl
        · rfl
        · exact absurd (executed.timely t expiry) (not_lt.mpr late)
      next => cases started
    next => cases h
  next => cases h

def lastRateRow (db : LocalDatabase) : Option LocalCommand :=
  (db.localCommands.values.filter (·.setsRate)).getLast?

theorem lastRateRow_unanswered (db : LocalDatabase) :
    (lastRateRow db).map (·.unanswered) = lastExecuted (recordedCommands db) := by
  unfold lastRateRow lastExecuted recordedCommands Dictionary.values
  simp only [List.filter_map, List.getLast?_map, Option.map_map]
  rfl

/-- Every command is carried out once and in time, what is sent is what was written down, and
the rate is that of the last command that set it, also after a restart. -/
theorem agent_commands_safe (settings : AgentSettings) (clock : Timestamp)
    (events : List CommandEvent) :
    let agent := (commandAgentAuthority settings).run { db := .empty, clock := clock } events
    (agent.db.localCommands.items.map Prod.fst).Nodup ∧
      (∀ later id row, agent.db.localCommands.get? id = some row →
        ∃ row', ((commandAgentAuthority settings).run agent later).db.localCommands.get? id =
          some row' ∧ row'.status = row.status ∧ row'.resultMessage = row.resultMessage) ∧
      (∀ command now storedAt t agent' process',
        agentCommandExpiry settings command = .instant t → t ≤ now →
        agent.step settings (.receive command now storedAt) = some agent' →
        agent'.process = some process' → ∃ process, agent.process = some process ∧
          process'.memory.targetRate = process.memory.targetRate) ∧
      (∀ report ∈ agent.sent, ∃ row, agent.db.localCommands.get? report.commandId = some row ∧
        row.status = report.status ∧ row.resultMessage = report.message) ∧
      ∀ process, agent.process = some process →
        (∀ row, lastRateRow agent.db = some row → ∃ target, row.target settings = some target ∧
          process.memory.targetRate = some (roundRate target)) ∧
        (lastRateRow agent.db = none → process.memory.targetRate = none) := by
  intro agent
  have safe : CommandsSafe settings agent := (CommandsSafe.initial settings clock).run events
  have found : ∀ item ∈ recordedCommands agent.db, ∃ row,
      agent.db.localCommands.get? item.1 = some row ∧ row.unanswered = item.2 :=
    fun item member => mem_recordedCommands.mp member
  refine ⟨agent.db.localCommands.distinct, ?_, ?_, ?_, ?_⟩
  · intro later id row own
    have there : (id, row.unanswered) ∈ recordedCommands agent.db :=
      mem_recordedCommands.mpr ⟨row, own, rfl⟩
    obtain ⟨row', own', same⟩ := mem_recordedCommands.mp ((safe.run_rows later).subset there)
    refine ⟨row', own', ?_, ?_⟩
    · have statuses := congrArg LocalCommand.status same
      exact statuses
    · have messages := congrArg LocalCommand.resultMessage same
      exact messages
  · intro command now storedAt t agent' process' expiry late h started
    exact safe.receive_expired expiry late h started
  · intro report member
    obtain ⟨item, there, id, status, message⟩ := safe.sent report member
    obtain ⟨row, own, same⟩ := found item there
    rw [← same] at status message
    exact ⟨row, id ▸ own, status, message⟩
  · intro process running
    have rate := (safe.process process running).rate
    rw [← lastRateRow_unanswered] at rate
    constructor
    · intro row last
      rw [last] at rate
      have kept : (lastExecuted (recordedCommands agent.db)) = some row.unanswered := by
        rw [← lastRateRow_unanswered, last]
        rfl
      obtain ⟨item, there, same⟩ := Option.map_eq_some_iff.mp kept
      obtain ⟨member, sets⟩ := List.mem_filter.mp (List.mem_of_getLast? there)
      obtain ⟨target, parsed, restores⟩ := safe.restorable item member sets
      rw [same] at parsed restores
      refine ⟨target, parsed, ?_⟩
      rw [rate]
      exact restores
    · intro last
      rw [rate, last]
      rfl

end MiniOgas
