import MiniOgas.CommandAuthority
import MiniOgas.HeartbeatFlow

namespace MiniOgas

open Procedure Serial

structure DispatchTask where
  id : Int
  productCode : String
  quantity : Nat
  priority : Int
  assignedNode : String
  assignedMachine : String
  status : String
  reason : String

def DispatchTask.live (task : DispatchTask) : Bool :=
  ["scheduled", "queued", "in_progress"].contains task.status

def DispatchTask.fields (task : DispatchTask) : Fields :=
  [("dispatch_id", .int task.id), ("active_order", .str task.productCode),
    ("product_code", .str task.productCode), ("quantity", .int task.quantity),
    ("priority", .int task.priority), ("assigned_machine", .str task.assignedMachine),
    ("status", .str task.status), ("reason", .str task.reason)]

/-- The `dispatch` of the answer of `node_dispatch_for_node`. -/
def nodeDispatchForNode (tasks : List DispatchTask) (nodeCode : String) : Fields :=
  match tasks.find? fun task => task.assignedNode = nodeCode && task.live with
  | none => []
  | some task => task.fields

/-- The operations of `CommandManager` but for the claim, which the store calls for a node. -/
def CommandCall.claims (call : CommandCall) : Bool :=
  match call.operation with
  | .claim _ _ => true
  | _ => false

structure InterfaceSettings where
  env : StoreEnv
  verifier : CommandVerifier
  commandClaimTimeoutSeconds : Int

/-- The part of `MemoryStore` that hands out work to the nodes; `cutOff` has the nodes that have
been isolated and not restored since. -/
structure WorkshopInterface where
  store : MemoryStore
  commands : List NodeCommand
  dispatchTasks : List DispatchTask
  cutOff : List String

def WorkshopInterface.empty : WorkshopInterface := ⟨.empty, [], [], []⟩

/-- `rebuildDispatch` is every operation that replaces the dispatch tasks. -/
inductive InterfaceCall where
  | store (call : StoreCall)
  | command (call : { call : CommandCall // call.claims = false })
  | rebuildDispatch (tasks : List DispatchTask)
  | nodeDispatchForNode (nodeCode : String)
  | claimPendingCommandsForNode (now : Timestamp) (nodeCode agentId : String)

inductive InterfaceReply where
  | done
  | store (reply : Except StoreFault StoreReply)
  | command (reply : CommandReply)
  | dispatch (fields : Fields)
  | claimed (commands : List NodeCommand)

def StoreCall.restored (call : StoreCall) (reply : Except StoreFault StoreReply) :
    Option String :=
  match call.operation, reply with
  | .restoreNode nodeCode _ _, .ok _ => some nodeCode
  | _, _ => none

def StoreCall.retired (call : StoreCall) (reply : Except StoreFault StoreReply) :
    Option String :=
  match call.operation, reply with
  | .retireNode nodeCode _ _, .ok _ => some nodeCode
  | _, _ => none

def MemoryStore.isolatedNodes (store : MemoryStore) : List String :=
  (store.nodes.items.filter (·.2.status = .isolated)).map Prod.fst

section Calls

variable (settings : InterfaceSettings)

def WorkshopInterface.serveStore (interface : WorkshopInterface) (call : StoreCall) :
    Except StoreFault StoreReply × WorkshopInterface :=
  let reply := Procedure.reply (call.perform settings.env) interface.store
  let store := after (call.perform settings.env) interface.store
  (reply,
    { interface with
      store := store
      dispatchTasks := interface.dispatchTasks.filter fun task =>
        call.retired reply ≠ some task.assignedNode
      cutOff := (interface.cutOff.filter fun nodeCode =>
        call.restored reply ≠ some nodeCode) ++ store.isolatedNodes })

/-- `claim_pending_commands_for_node`, with the commands that are left. -/
def WorkshopInterface.claimCommands (interface : WorkshopInterface) (now : Timestamp)
    (nodeCode agentId : String) : List NodeCommand × List NodeCommand :=
  let expired := expireStaleClaims interface.commands now settings.commandClaimTimeoutSeconds
  claimForNode expired.2 now nodeCode agentId

def WorkshopInterface.attempt (call : InterfaceCall) (interface : WorkshopInterface) :
    Except ControlFault (InterfaceReply × WorkshopInterface) :=
  match call with
  | .store call =>
    let (reply, interface) := interface.serveStore settings call
    .ok (.store reply, interface)
  | .command call => do
    let (reply, commands) ←
      call.1.attempt settings.env.builtins settings.verifier interface.commands
    return (.command reply, { interface with commands := commands })
  | .rebuildDispatch tasks => .ok (.done, { interface with dispatchTasks := tasks })
  | .nodeDispatchForNode nodeCode =>
    .ok (.dispatch (MiniOgas.nodeDispatchForNode interface.dispatchTasks nodeCode), interface)
  | .claimPendingCommandsForNode now nodeCode agentId =>
    let (claimed, commands) := interface.claimCommands settings now nodeCode agentId
    .ok (.claimed claimed, { interface with commands := commands })

def interfaceAuthority : Authority InterfaceCall WorkshopInterface InterfaceReply ControlFault :=
  ⟨WorkshopInterface.attempt settings⟩

end Calls

def MemoryStore.newRows (store store' : MemoryStore) : List PartQueueItem :=
  store'.partRows.drop store.partRows.length

def HandsPart (nodeCode : String) (store store' : MemoryStore) : Prop :=
  ∃ row ∈ store.newRows store', row.targetNode = nodeCode ∧ row.status ≠ .ready

/-- The call gives the node a dispatch, a command or a part, or completes a part for it. -/
def HandsOut (settings : InterfaceSettings) (interface : WorkshopInterface)
    (call : InterfaceCall) (nodeCode : String) : Prop :=
  match call with
  | .store call =>
    HandsPart nodeCode interface.store (interface.serveStore settings call).2.store
  | .nodeDispatchForNode target =>
    target = nodeCode ∧ nodeDispatchForNode interface.dispatchTasks target ≠ []
  | .claimPendingCommandsForNode now target agentId =>
    target = nodeCode ∧ (interface.claimCommands settings now target agentId).1 ≠ []
  | .command _ => False
  | .rebuildDispatch _ => False

/-- The queue has a part of the current run for the node that is ready, or that will be when the
expired claims have been released. -/
def PartWaits (queue : List PartQueueItem) (now : Timestamp) (run nodeCode : String) : Prop :=
  ∃ part ∈ queue, part.targetNode = nodeCode ∧
    (part.status = .ready ∧ part.inRun run = true ∨ part.claimExpired now run = true)

/-- The heartbeats, when `record_node_heartbeat_v2` has put down a new one. -/
def MemoryStore.heard (env : StoreEnv) (now : Timestamp) (store : MemoryStore)
    (payload : Fields) : MemoryStore :=
  let nodeCode := env.builtins.text (payload.get "node_code")
  let production := (payload.get "production").dict
  let enriched := enrichProduction env production (store.previousProduction nodeCode)
  store.setHeartbeat nodeCode (heartbeatEntry now payload (enriched.toOption.getD production))

/-- An accepted heartbeat of a node that consumes parts reports more than its last one. -/
def RaisesCounter (env : StoreEnv) (store : MemoryStore) (payload : Fields)
    (nodeCode : String) : Prop :=
  acceptsHeartbeat env store payload = true ∧
    (nodeCode = "milling-workshop-01" ∨ nodeCode = "grinding-workshop-01") ∧
    ∃ previous finished, store.watermark nodeCode (runtimeText env payload "run_id") =
        some previous ∧
      intOrZero env ((payload.get "production").dict.get "finished_quantity") = .ok finished ∧
      previous < finished

def MovesPart (env : StoreEnv) (store : MemoryStore) (call : StoreCall) (nodeCode : String) :
    Prop :=
  match call.operation with
  | .claimNextPartForNode target _ => target = nodeCode ∧
    PartWaits store.partQueue call.now (currentRunIdForSystem env store) nodeCode
  | .completeClaimedPart target partId claimToken => target = nodeCode ∧
    ∃ part, store.partQueue.find? (·.partId = partId) = some part ∧
      part.targetNode = nodeCode ∧ part.status = .claimed ∧ claimToken ≠ "" ∧
      part.claimToken = claimToken
  | .recordNodeHeartbeatV2 payload => env.builtins.text (payload.get "node_code") = nodeCode ∧
    RaisesCounter env store payload nodeCode ∧ PartWaits store.partQueue call.now
      (currentRunIdForSystem env (store.heard env call.now payload)) nodeCode
  | _ => False

def WorkWaits (env : StoreEnv) (interface : WorkshopInterface) (call : InterfaceCall)
    (nodeCode : String) : Prop :=
  match call with
  | .store call => MovesPart env interface.store call nodeCode
  | .nodeDispatchForNode target => target = nodeCode ∧
    ∃ task ∈ interface.dispatchTasks, task.assignedNode = nodeCode ∧ task.live = true
  | .claimPendingCommandsForNode _ target _ => target = nodeCode ∧
    ∃ command ∈ interface.commands, command.nodeCode = nodeCode ∧
      command.status.claimable = true
  | .command _ => False
  | .rebuildDispatch _ => False

end MiniOgas
