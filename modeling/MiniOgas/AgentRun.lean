import MiniOgas.AgentExecution

namespace MiniOgas

open Serial

variable {settings : AgentSettings} {command : Fields} {db db' : LocalDatabase}
  {memory memory' : CommandMemory} {commandId version : Int} {now storedAt : Timestamp}
  {key : String} {row : LocalCommand} {result : String × String}

theorem appliedCommandRecord_eq_none : appliedCommandRecord db commandId key = none ↔
    ∀ item ∈ db.localCommands.items, item.1 ≠ commandId ∧ item.2.idempotencyKey ≠ key := by
  unfold appliedCommandRecord
  simp

theorem get?_eq_none_of_fresh (fresh : appliedCommandRecord db commandId key = none) :
    db.localCommands.get? commandId = none := by
  rw [Dictionary.get?_eq_none_iff]
  intro member
  obtain ⟨item, there, same⟩ := List.mem_map.mp member
  exact (appliedCommandRecord_eq_none.mp fresh item there).1 same

theorem appliedCommandRecord_of_get? (found : db.localCommands.get? commandId = some row)
    (key : String) : (appliedCommandRecord db commandId key).isSome = true := by
  rw [Option.isSome_iff_ne_none]
  intro fresh
  rw [get?_eq_none_of_fresh fresh] at found
  cases found

def LocalDatabase.addCommand (db : LocalDatabase) (commandId : Int) (row : LocalCommand) :
    LocalDatabase :=
  { db with localCommands := db.localCommands.setDefault commandId row }

theorem persistAppliedCommand_of_fresh
    (fresh : appliedCommandRecord db commandId row.idempotencyKey = none) :
    persistAppliedCommand db commandId row = some (db.addCommand commandId row) := by
  have absent : db.localCommands.contains commandId = false := by
    unfold Dictionary.contains
    rw [get?_eq_none_of_fresh fresh]
    rfl
  have unused : db.localCommands.values.any (·.idempotencyKey = row.idempotencyKey) = false := by
    rw [List.any_eq_false]
    intro other member
    obtain ⟨item, there, rfl⟩ := List.mem_map.mp member
    simpa using (appliedCommandRecord_eq_none.mp fresh item there).2
  unfold persistAppliedCommand LocalDatabase.addCommand
  rw [absent, unused]
  rfl

theorem addCommand_get? (fresh : db.localCommands.get? commandId = none) (other : Int) :
    (db.addCommand commandId row).localCommands.get? other =
      if other = commandId then some row else db.localCommands.get? other := by
  unfold LocalDatabase.addCommand
  rw [Dictionary.get?_setDefault, fresh, Option.getD_none]

theorem addCommand_items (fresh : db.localCommands.get? commandId = none) :
    (db.addCommand commandId row).localCommands.items =
      db.localCommands.items ++ [(commandId, row)] := by
  unfold LocalDatabase.addCommand Dictionary.setDefault
  rw [dif_pos fresh]
  rfl

theorem dict_or_obj (value : Json) : (value.or (.obj [])).dict = value.dict := by
  cases value with
  | obj fields => cases fields <;> rfl
  | null => rfl
  | bool b => cases b <;> rfl
  | int n => by_cases h : n = 0 <;> simp [Json.or, Json.truthy, Json.dict, h]
  | float q => by_cases h : q = 0 <;> simp [Json.or, Json.truthy, Json.dict, h]
  | str s => by_cases h : s = "" <;> simp [Json.or, Json.truthy, Json.dict, h]
  | time t => rfl
  | arr items => cases items <;> rfl

theorem number_get {builtins : Builtins} {fields : Fields} {name : String} {q : ℚ}
    (h : builtins.number (fields.get name) = some q) :
    ∃ field, fields.find? (·.1 = name) = some field ∧ builtins.number field.2 = some q := by
  unfold Fields.get at h
  cases found : fields.find? (·.1 = name) with
  | none =>
    rw [found] at h
    cases h
  | some field =>
    rw [found] at h
    exact ⟨field, rfl, h⟩

theorem checkAgentCommand_error
    (fresh : appliedCommandRecord db commandId (agentIdempotencyKey settings command commandId) =
      none) (unknown : commandId ∉ memory.appliedCommandIds)
    (h : checkAgentCommand settings command db memory commandId version now = .error result) :
    result.1 = "failed" := by
  rcases bind_eq_error.mp h with h | ⟨_, -, h⟩
  · rw [check_eq_error h]
  rcases bind_eq_error.mp h with h | ⟨_, -, h⟩
  · unfold checkApplied at h
    rw [fresh] at h
    simp [check, unknown] at h
  rcases bind_eq_error.mp h with h | ⟨_, -, h⟩
  · unfold checkExpiry at h
    split at h
    · cases h
    · rw [← Except.error.inj h]
    · rw [check_eq_error h]
  rcases bind_eq_error.mp h with h | ⟨_, -, h⟩
  · rw [check_eq_error h]
  rcases bind_eq_error.mp h with h | ⟨targetRate, -, h⟩
  · unfold orFault at h
    split at h
    · cases h
    · rw [← Except.error.inj h]
  rcases bind_eq_error.mp h with h | ⟨_, -, h⟩
  · rw [check_eq_error h]
  · cases h

theorem checkAgentCommand_ok {targetRate : ℚ}
    (h : checkAgentCommand settings command db memory commandId version now = .ok targetRate) :
    (∀ t, agentCommandExpiry settings command = .instant t → now < t) ∧
      agentCommandType settings command = "set_target_rate" ∧
      ∀ key version status message storedAt, (agentCommandRow settings command key version status
        message storedAt).target settings = some targetRate ∧ (agentCommandRow settings command key
        version status message storedAt).rate settings = some (roundRate targetRate) := by
  replace h := of_then (of_then h)
  obtain ⟨_, timely, h⟩ := of_bind h
  obtain ⟨_, type, h⟩ := of_bind h
  obtain ⟨targetRate, number, h⟩ := of_bind h
  obtain ⟨_, range, h⟩ := of_bind h
  cases h
  refine ⟨fun t instant => ?_, check_eq_ok.mp type, fun key version status message storedAt => ?_⟩
  · unfold checkExpiry at timely
    rw [instant] at timely
    exact check_eq_ok.mp timely
  · obtain ⟨field, found, value⟩ := number_get (orFault_eq_ok.mp number)
    have target : (agentCommandRow settings command key version status message storedAt).target
        settings = some targetRate := by
      unfold LocalCommand.target agentCommandRow
      rw [dict_or_obj]
      unfold agentCommandParameters at found
      simp [found, value]
    unfold LocalCommand.rate
    simp [target, check_eq_ok.mp range]

structure CommandStored (settings : AgentSettings) (command : Fields) (storedAt : Timestamp)
    (db : LocalDatabase) (commandId : Int) (row : LocalCommand) (db' : LocalDatabase) : Prop where
  id : agentCommandId settings command = some commandId
  nonzero : commandId ≠ 0
  fresh : appliedCommandRecord db commandId (agentIdempotencyKey settings command commandId) = none
  built : ∃ version status message, row = agentCommandRow settings command
    (agentIdempotencyKey settings command commandId) version status message storedAt
  stored : db' = db.addCommand commandId row

def PassesChecks (settings : AgentSettings) (command : Fields) (db : LocalDatabase)
    (memory : CommandMemory) (now : Timestamp) : Prop :=
  ∃ commandId version targetRate, agentCommandId settings command = some commandId ∧
    commandId ≠ 0 ∧ agentCommandVersion settings command = some version ∧
    checkAgentCommand settings command db memory commandId version now = .ok targetRate

structure CommandRefused (settings : AgentSettings) (command : Fields) (now : Timestamp)
    (db : LocalDatabase) (memory : CommandMemory) (row : LocalCommand) (memory' : CommandMemory) :
    Prop where
  failed : row.status = "failed"
  forgotten : memory' = memory
  stops : ¬ PassesChecks settings command db memory now

structure CommandExecuted (settings : AgentSettings) (command : Fields) (now : Timestamp)
    (db : LocalDatabase) (memory : CommandMemory) (commandId : Int) (row : LocalCommand)
    (memory' : CommandMemory) : Prop where
  passes : PassesChecks settings command db memory now
  timely : ∀ t, agentCommandExpiry settings command = .instant t → now < t
  sets : row.setsRate = true
  remembered : ∃ targetRate, row.target settings = some targetRate ∧
    row.rate settings = some (roundRate targetRate) ∧
    memory' = ⟨some (roundRate targetRate), commandId :: memory.appliedCommandIds⟩

theorem not_passesChecks (id : agentCommandId settings command = some commandId)
    (stops : commandId = 0 ∨ ∀ version, agentCommandVersion settings command = some version →
      ∃ result, checkAgentCommand settings command db memory commandId version now =
        .error result) : ¬ PassesChecks settings command db memory now := by
  rintro ⟨other, version, targetRate, same, nonzero, versioned, passed⟩
  cases id.symm.trans same
  obtain ⟨result, refused⟩ := stops.resolve_left nonzero version versioned
  rw [refused] at passed
  cases passed

theorem checkAgentCommand_known (there : (appliedCommandRecord db commandId
      (agentIdempotencyKey settings command commandId)).isSome = true) :
    ∃ result, checkAgentCommand settings command db memory commandId version now =
      .error result := by
  obtain ⟨item, found⟩ := Option.isSome_iff_exists.mp there
  have stops : ∃ result, checkApplied settings command db memory commandId = .error result := by
    unfold checkApplied
    rw [found]
    exact ⟨_, rfl⟩
  obtain ⟨result, stops⟩ := stops
  by_cases first : version = 1
  · refine ⟨result, bind_eq_error.mpr (.inr ⟨(), check_eq_ok.mpr first, ?_⟩)⟩
    exact bind_eq_error.mpr (.inl stops)
  · refine ⟨("failed", s!"unsupported command version={version}"), bind_eq_error.mpr (.inl ?_)⟩
    simp [check, first]

theorem applyAgentCommand_cases (id : agentCommandId settings command = some commandId)
    (nonzero : commandId ≠ 0)
    (fresh : appliedCommandRecord db commandId (agentIdempotencyKey settings command commandId) =
      none) (unknown : commandId ∉ memory.appliedCommandIds)
    (h : applyAgentCommand settings command db memory now storedAt =
      some (result, db', memory')) :
    (result.1 = "failed" ∧ db' = db ∧ memory' = memory ∧
      ¬ PassesChecks settings command db memory now) ∨
    ∃ row, CommandStored settings command storedAt db commandId row db' ∧
      CommandExecuted settings command now db memory commandId row memory' := by
  unfold applyAgentCommand at h
  rw [id, Option.bind_eq_bind, Option.bind_some, if_neg nonzero] at h
  obtain ⟨version, versioned, h⟩ := Option.bind_eq_some_iff.mp h
  cases checked : checkAgentCommand settings command db memory commandId version now with
  | error refused =>
    rw [checked] at h
    cases h
    refine .inl ⟨checkAgentCommand_error fresh unknown checked, rfl, rfl, ?_⟩
    refine not_passesChecks id (.inr fun other same => ⟨result, ?_⟩)
    cases versioned.symm.trans same
    exact checked
  | ok targetRate =>
    rw [checked] at h
    obtain ⟨timely, type, restores⟩ := checkAgentCommand_ok checked
    obtain ⟨db₁, stored, h⟩ := Option.bind_eq_some_iff.mp h
    rw [persistAppliedCommand_of_fresh fresh] at stored
    cases stored
    cases h
    refine .inr ⟨_, ⟨id, nonzero, fresh, ⟨_, _, _, rfl⟩, rfl⟩,
      ⟨_, _, _, id, nonzero, versioned, checked⟩, timely, ?_, _,
      (restores _ _ _ _ _).1, (restores _ _ _ _ _).2, rfl⟩
    simp [LocalCommand.setsRate, agentCommandRow, type]

/-- A received command is known and changes nothing, or is stored and refused or executed. -/
theorem receiveAgentCommand_cases
    (known : ∀ id ∈ memory.appliedCommandIds, (db.localCommands.get? id).isSome = true)
    (h : receiveAgentCommand settings command db memory now storedAt = some (db', memory')) :
    (∃ commandId, agentCommandId settings command = some commandId ∧
      (commandId = 0 ∨ (appliedCommandRecord db commandId
        (agentIdempotencyKey settings command commandId)).isSome = true) ∧
      db' = db ∧ memory' = memory) ∨
    ∃ commandId row, CommandStored settings command storedAt db commandId row db' ∧
      (CommandRefused settings command now db memory row memory' ∨
        CommandExecuted settings command now db memory commandId row memory') := by
  obtain ⟨commandId, id, h⟩ := Option.bind_eq_some_iff.mp h
  dsimp only at h
  split at h
  next there =>
    cases h
    exact .inl ⟨commandId, id, .inr there.2, rfl, rfl⟩
  next first =>
  obtain ⟨⟨result, db₁, memory₁⟩, applied, h⟩ := Option.bind_eq_some_iff.mp h
  by_cases zero : commandId = 0
  · rw [if_pos (.inl zero)] at h
    unfold applyAgentCommand at applied
    rw [id, Option.bind_eq_bind, Option.bind_some, if_pos zero] at applied
    cases applied
    cases h
    exact .inl ⟨commandId, id, .inl zero, rfl, rfl⟩
  have fresh : appliedCommandRecord db commandId
      (agentIdempotencyKey settings command commandId) = none := by
    simpa [zero] using first
  have unknown : commandId ∉ memory.appliedCommandIds := by
    intro member
    obtain ⟨row, found⟩ := Option.isSome_iff_exists.mp (known commandId member)
    rw [get?_eq_none_of_fresh fresh] at found
    cases found
  rcases applyAgentCommand_cases id zero fresh unknown applied with
    ⟨failed, sameDb, sameMemory, stops⟩ | ⟨row, stored, executed⟩
  · rw [sameDb, sameMemory, if_neg (by simp [zero, fresh])] at h
    obtain ⟨version, -, h⟩ := Option.bind_eq_some_iff.mp h
    obtain ⟨db₂, stored, h⟩ := Option.bind_eq_some_iff.mp h
    rw [persistAppliedCommand_of_fresh fresh] at stored
    cases stored
    cases h
    exact .inr ⟨commandId, _, ⟨id, zero, fresh, ⟨_, _, _, rfl⟩, rfl⟩, .inl ⟨failed, rfl, stops⟩⟩
  · have found : db₁.localCommands.get? commandId = some row := by
      rw [stored.stored, addCommand_get? (get?_eq_none_of_fresh fresh), if_pos rfl]
    rw [if_pos (.inr (appliedCommandRecord_of_get? found _))] at h
    cases h
    exact .inr ⟨commandId, row, stored, .inr executed⟩

open Relational

structure CommandReport where
  commandId : Int
  status : String
  message : String

structure AgentProcess where
  memory : CommandMemory
  reports : List (Int × LocalCommand) := []

/-- A node agent with its local database; `clock` is its last reading of the time, and `sent`
are the results that it has sent. -/
structure CommandAgent where
  db : LocalDatabase
  process : Option AgentProcess := none
  clock : Timestamp
  sent : List CommandReport := []

/-- What an agent does with commands; a poll is a flush, the commands of its answer, and a
flush. `others` is a write to the other tables. -/
inductive CommandEvent where
  | start
  | receive (command : Fields) (now storedAt : Timestamp)
  | flush
  | report (now : Timestamp) (answer : ReportAnswer)
  | others (heartbeats : Table HeartbeatRow) (telemetryBatches : SerialTable TelemetryRow)
      (telemetrySequenceState : Dictionary String Nat)
  | crash

def CommandAgent.receive (settings : AgentSettings) (agent : CommandAgent)
    (process : AgentProcess) (command : Fields) (now storedAt : Timestamp) : CommandAgent :=
  match receiveAgentCommand settings command agent.db process.memory now storedAt with
  | some (db, memory) => { agent with
      db := db, process := some { process with memory := memory }, clock := storedAt }
  | none => { agent with process := none, clock := storedAt }

def CommandAgent.report (agent : CommandAgent) (process : AgentProcess)
    (item : Int × LocalCommand) (rest : List (Int × LocalCommand)) (now : Timestamp)
    (answer : ReportAnswer) : CommandAgent where
  db := answerCommandResult agent.db now item.1 answer
  process := some { process with reports := rest }
  clock := now
  sent := agent.sent ++ [⟨item.1, item.2.status, item.2.resultMessage⟩]

/-- What an event does, if it can come where the agent is; the clock only goes on. -/
def CommandAgent.step (settings : AgentSettings) (agent : CommandAgent) :
    CommandEvent → Option CommandAgent
  | .start =>
    match agent.process with
    | none => some { agent with process := some ⟨restoreLocalCommandState settings agent.db, []⟩ }
    | some _ => none
  | .receive command now storedAt =>
    match agent.process with
    | some ⟨memory, []⟩ =>
      if agent.clock < now ∧ now < storedAt then
        some (agent.receive settings ⟨memory, []⟩ command now storedAt)
      else none
    | _ => none
  | .flush =>
    match agent.process with
    | some ⟨memory, []⟩ =>
      some { agent with process := some ⟨memory, pendingCommandResults agent.db⟩ }
    | _ => none
  | .report now answer =>
    match agent.process with
    | some ⟨memory, item :: rest⟩ =>
      if agent.clock < now then some (agent.report ⟨memory, item :: rest⟩ item rest now answer)
      else none
    | _ => none
  | .others heartbeats telemetryBatches telemetrySequenceState =>
    some { agent with db := { agent.db with heartbeats, telemetryBatches, telemetrySequenceState } }
  | .crash => some { agent with process := none }

def commandAgentAuthority (settings : AgentSettings) :
    Authority CommandEvent CommandAgent Unit Unit where
  attempt event agent :=
    match agent.step settings event with
    | some agent' => .ok ((), agent')
    | none => .error ()

section

variable {db : LocalDatabase} {commandId : Int} {row : LocalCommand}

def LocalCommand.unanswered (row : LocalCommand) : LocalCommand :=
  { row with
    resultReported := false
    reportAttempts := 0
    lastReportError := ""
    reportedAt := none }

def recordedCommands (db : LocalDatabase) : List (Int × LocalCommand) :=
  db.localCommands.items.map fun item => (item.1, item.2.unanswered)

theorem recordedCommands_answer (db : LocalDatabase) (now : Timestamp) (commandId : Int)
    (answer : ReportAnswer) :
    recordedCommands (answerCommandResult db now commandId answer) = recordedCommands db := by
  unfold answerCommandResult
  split
  all_goals
    unfold recordedCommands
    simp only [markCommandResultReported, markCommandResultFailed, Dictionary.modify,
      Dictionary.mapValues, List.map_map]
    refine List.map_congr_left fun item _ => ?_
    rw [Function.comp_apply]
    split <;> rfl

theorem recordedCommands_add (fresh : db.localCommands.get? commandId = none) :
    recordedCommands (db.addCommand commandId row) =
      recordedCommands db ++ [(commandId, row.unanswered)] := by
  unfold recordedCommands
  rw [addCommand_items fresh, List.map_append, List.map_singleton]

theorem mem_recordedCommands {item : Int × LocalCommand} : item ∈ recordedCommands db ↔
    ∃ row, db.localCommands.get? item.1 = some row ∧ row.unanswered = item.2 := by
  unfold recordedCommands
  rw [List.mem_map]
  constructor
  · rintro ⟨own, there, rfl⟩
    exact ⟨own.2, Dictionary.get?_eq_some_iff.mpr there, rfl⟩
  · rintro ⟨row, found, same⟩
    exact ⟨(item.1, row), Dictionary.get?_eq_some_iff.mp found, by rw [same]⟩

theorem mem_recordedIds {id : Int} : id ∈ (recordedCommands db).map Prod.fst ↔
    (db.localCommands.get? id).isSome = true := by
  rw [Option.isSome_iff_exists]
  constructor
  · intro member
    obtain ⟨item, there, rfl⟩ := List.mem_map.mp member
    obtain ⟨row, found, -⟩ := mem_recordedCommands.mp there
    exact ⟨row, found⟩
  · rintro ⟨row, found⟩
    have there : (id, row.unanswered) ∈ recordedCommands db :=
      mem_recordedCommands.mpr ⟨row, found, rfl⟩
    exact List.mem_map_of_mem there

def lastExecuted (rows : List (Int × LocalCommand)) : Option LocalCommand :=
  (rows.filter (·.2.setsRate)).getLast?.map Prod.snd

theorem lastRateCommand_eq
    (increasing : ((recordedCommands db).map (·.2.appliedAt)).Pairwise (· < ·)) :
    (lastRateCommand db).map (·.2.unanswered) = lastExecuted (recordedCommands db) := by
  have sorted : (db.localCommands.items.filter (·.2.setsRate)).Pairwise
      fun first second => reportKey first ≤ reportKey second := by
    unfold recordedCommands at increasing
    rw [List.map_map, List.pairwise_map] at increasing
    refine (increasing.sublist List.filter_sublist).imp fun lt => ?_
    exact le_of_lt (Prod.Lex.toLex_lt_toLex.mpr (.inl lt))
  unfold lastRateCommand lastExecuted recordedCommands
  rw [sorted.insertionSort_eq, List.filter_map, List.getLast?_map, Option.map_map]
  rfl

end

structure ProcessSafe (settings : AgentSettings) (rows : List (Int × LocalCommand))
    (process : AgentProcess) : Prop where
  rate : process.memory.targetRate = (lastExecuted rows).bind (·.rate settings)
  known : ∀ id ∈ process.memory.appliedCommandIds, id ∈ rows.map Prod.fst
  reports : ∀ item ∈ process.reports, (item.1, item.2.unanswered) ∈ rows

structure CommandsSafe (settings : AgentSettings) (agent : CommandAgent) : Prop where
  dated : ∀ item ∈ recordedCommands agent.db, item.2.appliedAt ≤ agent.clock
  increasing : ((recordedCommands agent.db).map (·.2.appliedAt)).Pairwise (· < ·)
  restorable : ∀ item ∈ recordedCommands agent.db, item.2.setsRate = true →
    ∃ target, item.2.target settings = some target ∧
      item.2.rate settings = some (roundRate target)
  process : ∀ process, agent.process = some process →
    ProcessSafe settings (recordedCommands agent.db) process
  sent : ∀ report ∈ agent.sent, ∃ item ∈ recordedCommands agent.db,
    item.1 = report.commandId ∧ item.2.status = report.status ∧
      item.2.resultMessage = report.message

end MiniOgas
