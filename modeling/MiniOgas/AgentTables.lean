import Mathlib.Data.Prod.Lex
import MiniOgas.CommandTables
import MiniOgas.Dictionary
import MiniOgas.SerialTable
import MiniOgas.TelemetryInput
import MiniOgas.Table

namespace MiniOgas

section AgentTables

open Relational

structure HeartbeatRow where
  payload : Fields
  synced : Bool := false
  createdAt : Timestamp
  requestId : String := ""
  sendError : String := ""
  httpStatus : Nat := 0

/-- A row of `local_commands`, without its key `command_id`. -/
structure LocalCommand where
  idempotencyKey : String
  version : Int
  commandType : String
  parameters : Json
  status : String
  resultMessage : String
  appliedAt : Timestamp
  resultReported : Bool := false
  reportAttempts : Nat := 0
  lastReportError : String := ""
  reportedAt : Option Timestamp := none

/-- The `synced` column of `telemetry_batches`: 0, 1 and -1. -/
inductive SyncState where
  | pending
  | synced
  | rejected
deriving DecidableEq

structure TelemetryRow where
  batchId : String
  payload : TelemetryBatch
  synced : SyncState
  createdAt : Timestamp
  requestId : String := ""
  sendError : String := ""
  httpStatus : Nat := 0

structure LocalDatabase where
  heartbeats : Table HeartbeatRow
  localCommands : Dictionary Int LocalCommand
  telemetryBatches : SerialTable TelemetryRow
  telemetrySequenceState : Dictionary String Nat

def LocalDatabase.empty : LocalDatabase := ⟨Table.empty, .empty, .empty, .empty⟩

/-- What the agent makes of the answer to a request; `problem` is the object that its body is
the JSON of. -/
structure SendResult where
  synced : Bool
  requestId : String := ""
  httpStatus : Nat
  error : String := ""
  problem : Option Fields := none

/-- What `report_agent_command_result` returns. -/
structure ReportAnswer where
  accepted : Bool
  httpStatus : Nat := 0
  error : String := ""

structure AgentSettings where
  builtins : Builtins
  /-- `datetime.fromisoformat`, which raises on other texts. -/
  parseTime : String → Option Timestamp
  /-- `nominal_capacity_per_hour / 60` of the profile. -/
  physicalLimit : ℚ

end AgentTables

section LocalCommands

variable (db : LocalDatabase)

/-- `applied_command_record`: the row of a command or of its idempotency key. -/
def appliedCommandRecord (commandId : Int) (idempotencyKey : String) :
    Option (Int × LocalCommand) :=
  db.localCommands.items.find? fun item =>
    item.1 = commandId || item.2.idempotencyKey = idempotencyKey

/-- `persist_applied_command`; a second row of an idempotency key raises. -/
def persistAppliedCommand (commandId : Int) (row : LocalCommand) : Option LocalDatabase :=
  if db.localCommands.contains commandId then some db
  else if db.localCommands.values.any (·.idempotencyKey = row.idempotencyKey) then none
  else some { db with localCommands := db.localCommands.setDefault commandId row }

/-- The order of `applied_at` and `command_id`. -/
def reportKey (item : Int × LocalCommand) : Timestamp ×ₗ Int := toLex (item.2.appliedAt, item.1)

def unreportedCommands : List (Int × LocalCommand) :=
  (db.localCommands.items.filter fun item => !item.2.resultReported).insertionSort
    fun first second => reportKey first ≤ reportKey second

def reportLimit : Nat := 100

def pendingCommandResults : List (Int × LocalCommand) := (unreportedCommands db).take reportLimit

def markCommandResultReported (now : Timestamp) (commandId : Int) : LocalDatabase :=
  { db with localCommands := db.localCommands.modify commandId fun row =>
      { row with
        resultReported := true
        reportAttempts := row.reportAttempts + 1
        lastReportError := ""
        reportedAt := some now } }

def markCommandResultFailed (commandId : Int) (error : String) : LocalDatabase :=
  { db with localCommands := db.localCommands.modify commandId fun row =>
      { row with
        reportAttempts := row.reportAttempts + 1
        lastReportError := String.ofList (error.toList.take 1000) } }

def ReportAnswer.failure (answer : ReportAnswer) : String :=
  if answer.error = "" then s!"HTTP {answer.httpStatus}" else answer.error

/-- One round of the loop of `flush_pending_command_results`, given the answer to the report. -/
def answerCommandResult (now : Timestamp) (commandId : Int) (answer : ReportAnswer) :
    LocalDatabase :=
  if answer.accepted then markCommandResultReported db now commandId
  else markCommandResultFailed db commandId answer.failure

/-- `flush_pending_command_results`, given the answer to each report. -/
def flushPendingCommandResults (now : Timestamp) (answers : Int → String → String → ReportAnswer) :
    LocalDatabase :=
  (pendingCommandResults db).foldl (fun db item => answerCommandResult db now item.1
    (answers item.1 item.2.status item.2.resultMessage)) db

end LocalCommands

end MiniOgas
