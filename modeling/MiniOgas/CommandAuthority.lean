import MiniOgas.CommandVerifier

namespace MiniOgas

open Bounded Serial

/-- The operations of `CommandManager` that write, and `observe`. -/
inductive CommandOperation where
  | create (request : CommandRequest)
  | claim (nodeCode agentId : String)
  | recordResult (nodeCode : String) (commandId : Nat) (status message : String)
  | approve (commandId : Nat) (actor : String)
  | approveHumanReview (commandId : Nat) (actor : String)
  | reject (commandId : Nat) (actor : String)
  | cancel (commandId : Nat) (actor reason : String)
  | retry (commandId : Nat) (actor : String)
  | expireStaleClaims (ttlSeconds : Int)
  | supersedePending (nodeCode commandType : String) (replacementId : Nat)
  | verifyTargetRate (nodeCode : String) (targetRate : ℚ)
  | observe (commandId : Nat) (systemProduction : List (String × Fields))

structure CommandCall where
  now : Timestamp
  operation : CommandOperation

inductive CommandReply where
  | created (command : NodeCommand) (transitions : List CommandTransition) (created : Bool)
  | retried (command : NodeCommand) (transitions : List CommandTransition)
  | claimed (commands : List NodeCommand)
  | updated (command : NodeCommand) (changed : Bool)
  | transitioned (transitions : List CommandTransition)
  | observed (result : CommandVerification)

def CommandReply.transitions : CommandReply → List CommandTransition
  | .created _ transitions _ => transitions
  | .retried _ transitions => transitions
  | .transitioned transitions => transitions
  | _ => []

def CommandCall.attempt (builtins : Builtins) (verifier : CommandVerifier) (call : CommandCall)
    (commands : List NodeCommand) : Except ControlFault (CommandReply × List NodeCommand) :=
  match call.operation with
  | .create request => do
    let ((command, transitions, created), commands') ←
      createCommand builtins commands call.now request
    return (.created command transitions created, commands')
  | .claim nodeCode agentId =>
    let (claimed, commands') := claimForNode commands call.now nodeCode agentId
    .ok (.claimed claimed, commands')
  | .recordResult nodeCode commandId status message => do
    let ((command, changed), commands') ←
      MiniOgas.recordResult commands call.now nodeCode commandId status message
    return (.updated command changed, commands')
  | .approve commandId actor => do
    let (command, commands') ← MiniOgas.approve commands call.now commandId actor
    return (.updated command true, commands')
  | .approveHumanReview commandId actor => do
    let (command, commands') ← MiniOgas.approveHumanReview commands call.now commandId actor
    return (.updated command true, commands')
  | .reject commandId actor => do
    let (command, commands') ← MiniOgas.reject commands call.now commandId actor
    return (.updated command true, commands')
  | .cancel commandId actor reason => do
    let ((command, changed), commands') ←
      MiniOgas.cancel commands call.now commandId actor reason
    return (.updated command changed, commands')
  | .retry commandId actor => do
    let ((command, transitions), commands') ←
      MiniOgas.retry builtins commands call.now commandId actor
    return (.retried command transitions, commands')
  | .expireStaleClaims ttlSeconds =>
    let (expired, commands') := MiniOgas.expireStaleClaims commands call.now ttlSeconds
    .ok (.transitioned expired, commands')
  | .supersedePending nodeCode commandType replacementId =>
    let (transitions, commands') :=
      MiniOgas.supersedePending commands call.now nodeCode commandType replacementId
    .ok (.transitioned transitions, commands')
  | .verifyTargetRate nodeCode targetRate =>
    let (transitions, commands') :=
      MiniOgas.verifyTargetRate builtins commands call.now nodeCode targetRate
    .ok (.transitioned transitions, commands')
  | .observe commandId systemProduction => do
    let command ← findCommand commands commandId
    let (result, observed) ← verifier.observe builtins call.now command systemProduction
    return (.observed result, storeCommand commands observed)

def commandAuthority (builtins : Builtins) (verifier : CommandVerifier) :
    Authority CommandCall (List NodeCommand) CommandReply ControlFault :=
  ⟨CommandCall.attempt builtins verifier⟩

/-- What a call asks `create_command` for. -/
def CommandCall.request (call : CommandCall) (commands : List NodeCommand) :
    Option CommandRequest :=
  match call.operation with
  | .create request => some request
  | .retry commandId actor =>
    ((commands.find? (·.id = commandId)).filter (·.status.retryable)).map (·.retryRequest actor)
  | _ => none

def CommandCall.Appends (builtins : Builtins) (commands : List NodeCommand) (call : CommandCall)
    (request : CommandRequest) : Prop :=
  call.request commands = some request ∧ repeatedCommand builtins commands request = none ∧
    (request.ttlSeconds builtins (nextCommandId commands)).isSome = true

structure CommandIdentity where
  id : Nat
  nodeCode : String
  commandType : String
  riskLevel : String
  parameters : Fields
  version : Int
  expiresAt : Option Timestamp
  verificationBaseline : List (String × Fields)
  createdAt : Timestamp

def NodeCommand.identity (command : NodeCommand) : CommandIdentity :=
  ⟨command.id, command.nodeCode, command.commandType, command.riskLevel, command.parameters,
    command.version, command.expiresAt, command.verificationBaseline, command.createdAt⟩

/-- The statuses that an operation can move a command to. -/
inductive StatusMove (operation : CommandOperation) (command : NodeCommand) :
    CommandStatus → Prop
  | stay : StatusMove operation command command.status
  | claim (claimable : command.status.claimable = true) : StatusMove operation command .claimed
  | result {status message : String} {toStatus : CommandStatus}
      (called : operation = .recordResult command.nodeCode command.id status message)
      (normalized : normalizedResult status = some toStatus)
      (accepts : command.status.acceptsResult = true) : StatusMove operation command toStatus
  | approve (waiting : command.status = .waitingApproval) : StatusMove operation command .pending
  | review (waiting : command.status = .waitingApproval) : StatusMove operation command .verified
  | reject (waiting : command.status = .waitingApproval) : StatusMove operation command .rejected
  | cancel {actor reason : String} (called : operation = .cancel command.id actor reason)
      (live : command.status.terminal = false ∧ command.status ≠ .executed) :
      StatusMove operation command .cancelled
  | expire {ttlSeconds : Int} (called : operation = .expireStaleClaims ttlSeconds)
      (claimed : command.status = .claimed) : StatusMove operation command .expired
  | supersede (isOpen : command.status.open = true) : StatusMove operation command .superseded
  | verify {toStatus : CommandStatus}
      (carriedOut : command.status = .executed ∨ command.status = .applied)
      (verdict : toStatus = .verified ∨ toStatus = .failed ∨ toStatus = .applied) :
      StatusMove operation command toStatus

structure CommandMove (operation : CommandOperation) (command command' : NodeCommand) : Prop where
  same : command'.identity = command.identity
  status : StatusMove operation command command'.status

inductive CommandEffect (builtins : Builtins) (call : CommandCall) (reply : CommandReply)
    (commands commands' : List NodeCommand) : Prop
  | moved (moves : List.Forall₂ (CommandMove call.operation) commands commands')
  | created {request : CommandRequest} {command : NodeCommand}
      (appends : call.Appends builtins commands request)
      (ofNode : command.nodeCode = request.nodeCode)
      (ofType : command.commandType = request.commandType)
      (fresh : command.id = nextCommandId commands)
      (reported : reply.transitions = (request.replaces commands call.now).1)
      (kept : commands' =
        keepLast commandCapacity ((request.replaces commands call.now).2 ++ [command]))

end MiniOgas
