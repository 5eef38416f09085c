import MiniOgas.AgentTables

namespace MiniOgas

open Serial

/-- `int(value)`, which keeps an `int`. -/
def Builtins.integer (builtins : Builtins) : Json → Option Int
  | .int n => some n
  | value => builtins.int value

/-- `float(value)`, which raises on `None`. -/
def Builtins.number (builtins : Builtins) : Json → Option ℚ
  | .null => none
  | value => builtins.float value

/-- `round(rate, 3)`. -/
def roundRate (rate : ℚ) : ℚ := roundHalfEven (rate * 1000) / 1000

/-- `COMMAND_TARGET_RATE` and `APPLIED_COMMAND_IDS`. -/
structure CommandMemory where
  targetRate : Option ℚ := none
  appliedCommandIds : List Int := []

inductive CommandExpiry where
  | absent
  | invalid
  | instant (t : Timestamp)

section Command

variable (settings : AgentSettings) (command : Fields)

def agentCommandId : Option Int :=
  settings.builtins.integer (((command.get "id").or (command.get "command_id")).or (.int 0))

def agentCommandVersion : Option Int :=
  settings.builtins.integer ((command.get "version").or (.int 1))

def agentCommandType : String :=
  settings.builtins.text ((command.get "command_type").or (.str ""))

def agentCommandParameters : Fields := (command.get "parameters").dict

def agentIdempotencyKey (commandId : Int) : String :=
  settings.builtins.text
    (((agentCommandParameters command).get "idempotency_key").or (.str s!"command-{commandId}"))

def agentCommandExpiry : CommandExpiry :=
  match (command.get "expires_at").or (.str "") with
  | .time t => .instant t
  | value =>
    let expiresAt := settings.builtins.text value
    if expiresAt = "" then .absent
    else
      match settings.parseTime expiresAt with
      | some t => .instant t
      | none => .invalid

def agentCommandRow (idempotencyKey : String) (version : Int) (status message : String)
    (now : Timestamp) : LocalCommand where
  idempotencyKey
  version
  commandType := agentCommandType settings command
  parameters := (command.get "parameters").or (.obj [])
  status
  resultMessage := message
  appliedAt := now

variable (db : LocalDatabase) (memory : CommandMemory)

def checkApplied (commandId : Int) : Except (String × String) Unit :=
  match appliedCommandRecord db commandId (agentIdempotencyKey settings command commandId) with
  | some (_, row) => .error (row.status, s!"command already applied locally: {row.resultMessage}")
  | none =>
    check (commandId ∉ memory.appliedCommandIds) ("executed", "command already applied locally")

def checkExpiry (now : Timestamp) : Except (String × String) Unit :=
  match agentCommandExpiry settings command with
  | .absent => .ok ()
  | .invalid => .error ("failed", "invalid command expires_at")
  | .instant t => check (now < t) ("failed", "command expired before execution")

/-- The checks of `apply_agent_command`: the rate to set, or what is returned instead. -/
def checkAgentCommand (commandId version : Int) (now : Timestamp) :
    Except (String × String) ℚ := do
  check (version = 1) ("failed", s!"unsupported command version={version}")
  checkApplied settings command db memory commandId
  checkExpiry settings command now
  let commandType := agentCommandType settings command
  check (commandType = "set_target_rate") ("failed", s!"unsupported command_type={commandType}")
  let targetRate ← orFault
    (settings.builtins.number ((agentCommandParameters command).get "target_rate"))
    ("failed", "set_target_rate requires numeric target_rate")
  check (0 < targetRate ∧ targetRate ≤ settings.physicalLimit)
    ("failed", s!"target_rate out of safe range: {settings.builtins.text (.float targetRate)}")
  return targetRate

/-- `apply_agent_command`, with the time of its expiry check and that of its row; `none` when it
raises. -/
def applyAgentCommand (now storedAt : Timestamp) :
    Option ((String × String) × LocalDatabase × CommandMemory) := do
  let commandId ← agentCommandId settings command
  if commandId = 0 then return (("failed", "missing command id"), db, memory)
  let version ← agentCommandVersion settings command
  match checkAgentCommand settings command db memory commandId version now with
  | .error result => return (result, db, memory)
  | .ok targetRate =>
    let rate := roundRate targetRate
    let message := s!"set_target_rate applied: {settings.builtins.text (.float rate)}"
    let key := agentIdempotencyKey settings command commandId
    let db ← persistAppliedCommand db commandId
      (agentCommandRow settings command key version "executed" message storedAt)
    return (("executed", message), db, ⟨some rate, commandId :: memory.appliedCommandIds⟩)

/-- One round of the loop of `poll_agent_commands`; `none` when it raises. -/
def receiveAgentCommand (now storedAt : Timestamp) : Option (LocalDatabase × CommandMemory) := do
  let commandId ← agentCommandId settings command
  let key := agentIdempotencyKey settings command commandId
  if commandId ≠ 0 ∧ (appliedCommandRecord db commandId key).isSome then return (db, memory)
  let (result, db, memory) ← applyAgentCommand settings command db memory now storedAt
  if commandId = 0 ∨ (appliedCommandRecord db commandId key).isSome then return (db, memory)
  let version ← agentCommandVersion settings command
  let db ← persistAppliedCommand db commandId
    (agentCommandRow settings command key version result.1 result.2 storedAt)
  return (db, memory)

end Command

def LocalCommand.setsRate (row : LocalCommand) : Bool :=
  row.commandType = "set_target_rate" && row.status = "executed"

/-- The last rate command by `applied_at` and `command_id`. -/
def lastRateCommand (db : LocalDatabase) : Option (Int × LocalCommand) :=
  ((db.localCommands.items.filter (·.2.setsRate)).insertionSort
    fun first second => reportKey first ≤ reportKey second).getLast?

/-- `float(parameters["target_rate"])` of a row. -/
def LocalCommand.target (settings : AgentSettings) (row : LocalCommand) : Option ℚ := do
  let (_, value) ← row.parameters.dict.find? (·.1 = "target_rate")
  settings.builtins.number value

def LocalCommand.rate (settings : AgentSettings) (row : LocalCommand) : Option ℚ := do
  let targetRate ← row.target settings
  if 0 < targetRate ∧ targetRate ≤ settings.physicalLimit then some (roundRate targetRate)
  else none

/-- `restore_local_command_state` in a new process. -/
def restoreLocalCommandState (settings : AgentSettings) (db : LocalDatabase) : CommandMemory where
  targetRate := (lastRateCommand db).bind fun item => item.2.rate settings

end MiniOgas
