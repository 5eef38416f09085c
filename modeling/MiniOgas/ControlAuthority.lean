import MiniOgas.ControlService

namespace MiniOgas

open Bounded Procedure Serial

inductive PolicyCommand where
  | cleanTempCache
  | restartWorkshopScheduler
  | isolateNode (actor : String)
  | restoreNode (actor : String)

def PolicyCommand.request (policy : PolicyCommand) (nodeCode : String) : CommandRequest :=
  match policy with
  | .cleanTempCache =>
    { nodeCode, commandType := "clean_temp_cache", riskLevel := "low", status := .pending
      operator := "central-policy" }
  | .restartWorkshopScheduler =>
    { nodeCode, commandType := "restart_workshop_scheduler", riskLevel := "medium"
      status := .waitingApproval, operator := "ai-policy" }
  | .isolateNode actor =>
    { nodeCode, commandType := "isolate_node", riskLevel := "high", status := .executed
      operator := actor }
  | .restoreNode actor =>
    { nodeCode, commandType := "restore_node", riskLevel := "high", status := .executed
      operator := actor }

structure AllocationOrderIn where
  productCode : String
  requiredQuantity : { n : Nat // 1 ≤ n }
  priority : { n : Nat // 1 ≤ n ∧ n ≤ 10 } := ⟨3, by decide⟩
  deadlineHours : { n : Nat // 1 ≤ n } := ⟨24, by decide⟩

/-- `f"AO-{seq:03d}"`. -/
def orderIdOf (seq : Nat) : String :=
  let digits := toString seq
  "AO-" ++ (String.ofList (List.replicate (3 - digits.length) '0') ++ digits)

def orderCapacity : Nat := 60

def ControlState.addAllocationOrder (state : ControlState) (input : AllocationOrderIn) :
    ControlState :=
  let order : AllocationOrder :=
    { orderId := orderIdOf (state.orderSeq + 1)
      productCode := canonicalProductCode input.productCode
      requiredQuantity := input.requiredQuantity
      priority := input.priority
      deadlineHours := input.deadlineHours }
  { state with
    orderSeq := state.orderSeq + 1
    orders := keepLast orderCapacity (state.orders ++ [order]) }

section Observations

variable (env : ControlEnv) (now : Timestamp)

def NodeCommand.observable (command : NodeCommand) (nodeCode : String) : Bool :=
  command.nodeCode = nodeCode && (command.status = .applied || command.status = .executed)

/-- `_observe_command_effects_locked`: the commands that were observed or what an observation
raises, and the commands as they are left. -/
def observeCommandEffects (nodeCode : String) (systemProduction : List (String × Fields)) :
    List NodeCommand → Except ControlFault (List NodeCommand) × List NodeCommand
  | [] => (.ok [], [])
  | command :: rest =>
    if command.observable nodeCode = false then
      let (observed, left) := observeCommandEffects nodeCode systemProduction rest
      (observed, command :: left)
    else
      match env.verifier.observe env.store.builtins now command systemProduction with
      | .error fault => (.error fault, command :: rest)
      | .ok (result, updated) =>
        let (observed, left) := observeCommandEffects nodeCode systemProduction rest
        (if result.status = .notStarted then observed else observed.map (updated :: ·),
          updated :: left)

def VerificationStatus.verdict : VerificationStatus → Option DispatchVerdict
  | .effective => some .effective
  | .partlyEffective => some .partlyEffective
  | .failed => some .failed
  | .inconclusive => some .inconclusive
  | _ => none

def ControlState.project (state : ControlState) (observed : NodeCommand) : ControlState :=
  match observed.verificationStatus.verdict with
  | none => state
  | some verdict => updateDispatchControlStatus env.store.builtins observed verdict state

def observeNode (nodeCode : String) (systemProduction : List (String × Fields)) :
    ControlProcedure Unit := do
  let state ← get
  let (observed, commands) :=
    observeCommandEffects env now nodeCode systemProduction state.commands
  modify fun state => { state with commands := commands }
  match observed with
  | .error fault => throw (.control fault)
  | .ok observed => modify fun state => observed.foldl (ControlState.project env) state

end Observations

/-- The operations that govern commands. `store` is an operation on the nodes and parts,
`schedule` every operation that replaces the plans and the dispatch tasks, and `observe` the end
of a heartbeat. -/
inductive ControlOperation where
  | store (call : StoreCall)
  | schedule (plans : List ProductionPlan) (tasks : List DispatchTask)
  | submitAllocationOrder (input : AllocationOrderIn)
  | policyCommand (policy : PolicyCommand) (nodeCode : String)
  | issueTargetRate (nodeCode : String) (targetRate : ℚ) (actor : ActorInfo)
  | proposeTargetRates (actor : ActorInfo) (orderId nodeCode : String)
  | persistAiSuggestion (input : SuggestionInput)
  | approve (commandId : Nat) (actor : ActorInfo) (confirmationCode : String)
  | reject (commandId : Nat) (actor : ActorInfo)
  | cancel (commandId : Nat) (actor : ActorInfo) (reason : String)
  | retry (commandId : Nat) (actor : ActorInfo) (confirmationCode : String)
  | claimPendingCommandsForNode (nodeCode agentId : String)
  | recordCommandResult (nodeCode : String) (commandId : Nat) (status message : String)
  | expireStaleCommands
  | observe (nodeCode : String) (systemProduction : List (String × Fields))

structure ControlCall where
  now : Timestamp
  operation : ControlOperation

inductive ControlReply where
  | done
  | store (reply : Except StoreFault StoreReply)
  | command (command : NodeCommand)
  | commands (commands : List NodeCommand)
  | suggestion (row : AiSuggestion)
  | outcome (outcome : CommandControlService.Outcome)

def ControlProcedure.expireStaleCommands (env : ControlEnv) (now : Timestamp) :
    ControlProcedure Unit :=
  modify fun state => { state with
    commands := (expireStaleClaims state.commands now env.commandClaimTimeoutSeconds).2 }

def ControlProcedure.claimPendingCommandsForNode (env : ControlEnv) (now : Timestamp)
    (nodeCode agentId : String) : ControlProcedure (List NodeCommand) := do
  ControlProcedure.expireStaleCommands env now
  onCommands fun commands => .ok (claimForNode commands now nodeCode agentId)

def ControlCall.perform (env : ControlEnv) (call : ControlCall) : ControlProcedure ControlReply :=
  match call.operation with
  | .store operation => do
    let state ← get
    modify fun state => { state with store := after (operation.perform env.store) state.store }
    return .store (Procedure.reply (operation.perform env.store) state.store)
  | .schedule plans tasks => do
    modify fun state => { state with plans := plans, tasks := tasks }
    return .done
  | .submitAllocationOrder input => do
    modify (·.addAllocationOrder input)
    return .done
  | .policyCommand policy nodeCode =>
    .command <$> addCommand env call.now (policy.request nodeCode)
  | .issueTargetRate nodeCode targetRate actor =>
    .command <$> CommandControlService.issueTargetRate env call.now nodeCode targetRate actor
  | .proposeTargetRates actor orderId nodeCode =>
    .commands <$> DispatchControlService.proposeTargetRates env call.now actor orderId nodeCode
  | .persistAiSuggestion input => .suggestion <$> MiniOgas.persistAiSuggestion env call.now input
  | .approve commandId actor confirmationCode =>
    .outcome <$> CommandControlService.approve env call.now commandId actor confirmationCode
  | .reject commandId actor =>
    .outcome <$> CommandControlService.reject env call.now commandId actor
  | .cancel commandId actor reason =>
    .outcome <$> CommandControlService.cancel env call.now commandId actor reason
  | .retry commandId actor confirmationCode =>
    .outcome <$> CommandControlService.retry env call.now commandId actor confirmationCode
  | .claimPendingCommandsForNode nodeCode agentId =>
    .commands <$> ControlProcedure.claimPendingCommandsForNode env call.now nodeCode agentId
  | .recordCommandResult nodeCode commandId status message =>
    (fun result => .command result.1) <$> onCommands fun commands =>
      recordResult commands call.now nodeCode commandId status message
  | .expireStaleCommands => do
    ControlProcedure.expireStaleCommands env call.now
    return .done
  | .observe nodeCode systemProduction => do
    observeNode env call.now nodeCode systemProduction
    return .done

def governanceAuthority (env : ControlEnv) :
    Authority ControlCall ControlState (Except ServiceFault ControlReply) Empty :=
  serially (ControlCall.perform env)

end MiniOgas
