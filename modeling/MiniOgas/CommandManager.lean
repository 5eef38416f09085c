import MiniOgas.BoundedList
import MiniOgas.CommandTables

namespace MiniOgas

open Bounded Serial

variable (builtins : Builtins) (commands : List NodeCommand) (now : Timestamp)

def NodeCommand.supersede (command : NodeCommand) (replacementId : Nat) : NodeCommand :=
  { command with
    status := .superseded
    resultMessage := s!"superseded by command_id={replacementId}"
    updatedAt := now }

def supersedePending (nodeCode commandType : String) (replacementId : Nat) :
    List CommandTransition × List NodeCommand :=
  ((commands.filter (·.isOpen nodeCode commandType)).map fun command =>
      ⟨command.supersede now replacementId, "command-superseded",
        s!"command_id={command.id} superseded by command_id={replacementId}."⟩,
    commands.map fun command =>
      if command.isOpen nodeCode commandType then command.supersede now replacementId else command)

/-- The arguments of `create_command`. -/
structure CommandRequest where
  nodeCode : String
  commandType : String
  riskLevel : String
  status : CommandStatus
  operator : String
  parameters : Fields := []
  verificationBaseline : List (String × Fields) := []

def commandCapacity : Nat := 100

def nextCommandId : Nat := greatest (commands.map (·.id)) + 1

def repeatedCommand (request : CommandRequest) : Option NodeCommand :=
  let key := builtins.text ((request.parameters.get "idempotency_key").or (.str ""))
  if key = "" then none
  else commands.find? fun command =>
    command.nodeCode = request.nodeCode && command.commandType = request.commandType &&
      (command.parameters.get "idempotency_key").isText key

def CommandRequest.keyed (request : CommandRequest) (id : Nat) : Fields :=
  request.parameters.setDefault "idempotency_key" (.str s!"command-{id}")

def CommandRequest.command (request : CommandRequest) (id : Nat) (ttlSeconds : Int) :
    NodeCommand :=
  { id
    nodeCode := request.nodeCode
    commandType := request.commandType
    riskLevel := request.riskLevel
    status := request.status
    operator := request.operator
    parameters := request.keyed id
    expiresAt := some (now + max 1 ttlSeconds * second)
    verificationBaseline := request.verificationBaseline
    createdAt := now
    updatedAt := now }

def CommandRequest.ttlSeconds (request : CommandRequest) (id : Nat) : Option Int :=
  builtins.int (((request.keyed id).get "ttl_seconds").or (.int 300))

def CommandRequest.replaces (request : CommandRequest) :
    List CommandTransition × List NodeCommand :=
  supersedePending commands now request.nodeCode request.commandType (nextCommandId commands)

def createCommand (request : CommandRequest) :
    Except ControlFault ((NodeCommand × List CommandTransition × Bool) × List NodeCommand) :=
  match repeatedCommand builtins commands request with
  | some command => .ok ((command, [], false), commands)
  | none => do
    let nextId := nextCommandId commands
    let ttlSeconds ← orFault (request.ttlSeconds builtins nextId)
      (.valueError "invalid literal for int()")
    let command := request.command now nextId ttlSeconds
    let replaced := request.replaces commands now
    return ((command, replaced.1, true), keepLast commandCapacity (replaced.2 ++ [command]))

def pendingForNode (nodeCode : String) : List NodeCommand :=
  commands.filter fun command => command.nodeCode = nodeCode && command.status.claimable

def NodeCommand.claim (command : NodeCommand) (nodeCode agentId : String) : NodeCommand :=
  { command with
    status := .claimed
    claimedBy := if agentId = "" then nodeCode else agentId
    dispatchedAt := some (command.dispatchedAt.getD now)
    receivedAt := some now
    attemptCount := command.attemptCount + 1
    updatedAt := now }

def claimForNode (nodeCode agentId : String) : List NodeCommand × List NodeCommand :=
  ((pendingForNode commands nodeCode).map fun command => command.claim now nodeCode agentId,
    commands.map fun command =>
      if command.nodeCode = nodeCode && command.status.claimable then
        command.claim now nodeCode agentId
      else command)

/-- `_find`. -/
def findCommand (commandId : Nat) : Except ControlFault NodeCommand :=
  orFault (commands.find? (·.id = commandId)) (.valueError s!"command {commandId} not found")

/-- `_find_for_node`. -/
def findCommandForNode (nodeCode : String) (commandId : Nat) : Except ControlFault NodeCommand :=
  orFault (commands.find? fun command => command.id = commandId && command.nodeCode = nodeCode)
    (.valueError s!"command {commandId} not found for node {nodeCode}")

/-- `RESULT_STATUSES | {"applied"}`, with `executed` read as `applied`. -/
def normalizedResult : String → Option CommandStatus
  | "executed" => some .applied
  | "applied" => some .applied
  | "failed" => some .failed
  | _ => none

def CommandStatus.acceptsResult (status : CommandStatus) : Bool :=
  status = .claimed || status = .pending || status = .queued || status = .executed ||
    status = .applied || status = .failed

def NodeCommand.withResult (command : NodeCommand) (status : CommandStatus) (message : String) :
    NodeCommand :=
  { command with
    status
    resultMessage := message
    appliedAt := if status = .applied then some now else command.appliedAt
    verificationStatus := if status = .applied then .observing else command.verificationStatus
    updatedAt := now }

def recordResult (nodeCode : String) (commandId : Nat) (status message : String) :
    Except ControlFault ((NodeCommand × Bool) × List NodeCommand) := do
  let command ← findCommandForNode commands nodeCode commandId
  let normalized ← orFault (normalizedResult status)
    (.valueError s!"unsupported command result status: {status}")
  if command.status = .verified then
    return ((command, false), commands)
  if command.status = normalized ∧ command.resultMessage = message then
    return ((command, false), commands)
  check (command.status ≠ .expired ∧ command.status ≠ .superseded ∧ command.status ≠ .rejected ∧
      command.status ≠ .cancelled)
    (.valueError s!"command {commandId} is not executable (current: {command.status.text})")
  check (command.status.acceptsResult = true)
    (.valueError s!"command {commandId} cannot accept result from status {command.status.text}")
  let updated := command.withResult now normalized message
  return ((updated, true), modifyFirst (fun row => row.id = commandId && row.nodeCode = nodeCode)
    (fun _ => updated) commands)

def storeCommand (updated : NodeCommand) : List NodeCommand :=
  modifyFirst (·.id = updated.id) (fun _ => updated) commands

def approve (commandId : Nat) (actor : String) :
    Except ControlFault (NodeCommand × List NodeCommand) := do
  let command ← findCommand commands commandId
  check (command.status = .waitingApproval) (.valueError
    s!"command {commandId} is not waiting approval (current: {command.status.text})")
  let updated := { command with status := .pending, operator := actor, updatedAt := now }
  return (updated, storeCommand commands updated)

def approveHumanReview (commandId : Nat) (actor : String) :
    Except ControlFault (NodeCommand × List NodeCommand) := do
  let command ← findCommand commands commandId
  check (command.status = .waitingApproval) (.valueError
    s!"command {commandId} is not waiting approval (current: {command.status.text})")
  check ((command.parameters.get "workflow_kind").isText "ai_suggestion_review" = true)
    (.valueError "command is not a human-only AI suggestion review")
  let updated := { command with
    status := .verified
    operator := actor
    resultMessage := s!"AI suggestion accepted by {actor}"
    verificationStatus := .verified
    verifiedAt := some now
    updatedAt := now }
  return (updated, storeCommand commands updated)

def reject (commandId : Nat) (actor : String) :
    Except ControlFault (NodeCommand × List NodeCommand) := do
  let command ← findCommand commands commandId
  check (command.status = .waitingApproval) (.valueError
    s!"command {commandId} is not waiting approval (current: {command.status.text})")
  let updated := { command with status := .rejected, operator := actor, updatedAt := now }
  return (updated, storeCommand commands updated)

def cancel (commandId : Nat) (actor reason : String) :
    Except ControlFault ((NodeCommand × Bool) × List NodeCommand) := do
  let command ← findCommand commands commandId
  if command.status = .cancelled then
    return ((command, false), commands)
  check (command.status.terminal = false ∧ command.status ≠ .executed) (.valueError
    s!"command {commandId} cannot be cancelled from status {command.status.text}")
  let given := if reason = "" then "no reason provided" else reason
  let updated := { command with
    status := .cancelled
    operator := actor
    resultMessage := s!"cancelled by {actor}: {given}"
    updatedAt := now }
  return ((updated, true), storeCommand commands updated)

def NodeCommand.retryRequest (source : NodeCommand) (actor : String) : CommandRequest where
  nodeCode := source.nodeCode
  commandType := source.commandType
  riskLevel := source.riskLevel
  status := .pending
  operator := actor
  parameters := (source.parameters.pop "idempotency_key").set "retry_of" (.int source.id)

def retry (commandId : Nat) (actor : String) :
    Except ControlFault ((NodeCommand × List CommandTransition) × List NodeCommand) := do
  let source ← findCommand commands commandId
  check (source.status.retryable = true) (.valueError
    s!"command {commandId} cannot be retried from status {source.status.text}")
  let ((command, transitions, _), commands') ←
    createCommand builtins commands now (source.retryRequest actor)
  return ((command, transitions), commands')

/-- A claim that was not touched for longer than `ttl_seconds`. -/
def NodeCommand.staleClaim (command : NodeCommand) (ttlSeconds : Int) : Bool :=
  command.status = .claimed && decide (command.updatedAt < now - ttlSeconds * second)

def NodeCommand.expire (command : NodeCommand) (ttlSeconds : Int) : NodeCommand :=
  { command with
    status := .expired
    resultMessage := s!"claim timed out after {ttlSeconds}s without result"
    updatedAt := now }

def expireStaleClaims (ttlSeconds : Int) : List CommandTransition × List NodeCommand :=
  ((commands.filter (·.staleClaim now ttlSeconds)).map fun command =>
      ⟨command.expire now ttlSeconds, "command-expired",
        s!"command_id={command.id} expired after agent claim timeout."⟩,
    commands.map fun command =>
      if command.staleClaim now ttlSeconds then command.expire now ttlSeconds else command)

def NodeCommand.confirmedBy (command : NodeCommand) (nodeCode : String) (targetRate : ℚ) : Bool :=
  command.nodeCode = nodeCode && command.commandType = "set_target_rate" &&
    (command.status = .executed || command.status = .applied) &&
    (builtins.float (command.parameters.get "target_rate")).any fun expected =>
      decide (|targetRate - expected| ≤ 1 / 1000)

def NodeCommand.verifyRate (command : NodeCommand) (targetRate : ℚ) : NodeCommand :=
  { command with
    status := .verified
    resultMessage := s!"heartbeat target_rate={builtins.str (.float targetRate)} verified"
    updatedAt := now }

def verifyTargetRate (nodeCode : String) (targetRate : ℚ) :
    List CommandTransition × List NodeCommand :=
  ((commands.filter (·.confirmedBy builtins nodeCode targetRate)).map fun command =>
      ⟨command.verifyRate builtins now targetRate, "command-verified",
        s!"command_id={command.id} set_target_rate verified by heartbeat."⟩,
    commands.map fun command =>
      if command.confirmedBy builtins nodeCode targetRate then
        command.verifyRate builtins now targetRate
      else command)

end MiniOgas
