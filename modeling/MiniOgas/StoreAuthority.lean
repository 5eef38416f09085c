import MiniOgas.HeartbeatOperations

namespace MiniOgas

inductive StoreOperation where
  | recordHeartbeat (report : HeartbeatReport)
  | recordNodeHeartbeatV2 (payload : Fields)
  | recordMetric (metric : MetricIn) (evaluate : Bool)
  | checkHeartbeatTimeout
  | loadHeartbeatShadow (latest : Dictionary String (Fields × Json)) (replaceEmpty : Bool)
  | isolateNode (nodeCode actor : String) (decision : Option SafetyDecision)
  | restoreNode (nodeCode actor : String) (decision : Option SafetyDecision)
  | retireNode (nodeCode actor : String) (decision : Option SafetyDecision)
  | createReadyPart (request : PartRequest)
  | claimNextPartForNode (nodeCode : String) (ttlSeconds : Int)
  | releaseExpiredPartClaims
  | completeClaimedPart (nodeCode partId claimToken : String)

structure StoreCall where
  now : Timestamp
  operation : StoreOperation

inductive StoreReply where
  | done
  | heartbeat (reply : HeartbeatReply)
  | heartbeatV2 (reply : HeartbeatReply) (flow : FlowReply)
  | alerts (types : List String)
  | count (n : Nat)
  | created (part : PartQueueItem)
  | claimed (part : Option PartQueueItem)
  | completed (part : PartQueueItem) (downstream : Option PartQueueItem)

def StoreCall.perform (env : StoreEnv) (call : StoreCall) : StoreProcedure StoreReply :=
  match call.operation with
  | .recordHeartbeat report => do
    let reply ← modifyGet (MiniOgas.recordHeartbeat env call.now report)
    return .heartbeat reply
  | .recordNodeHeartbeatV2 payload => do
    let reply ← MiniOgas.recordNodeHeartbeatV2 env call.now payload
    return .heartbeatV2 reply.1 reply.2
  | .recordMetric metric evaluate => do
    let types ← MiniOgas.recordMetric env call.now metric evaluate
    return .alerts types
  | .checkHeartbeatTimeout => do
    let expired ← modifyGet (MiniOgas.checkHeartbeatTimeout env call.now)
    return .count expired
  | .loadHeartbeatShadow latest replaceEmpty => do
    let loaded ← MiniOgas.loadHeartbeatShadow env call.now latest replaceEmpty
    return .count loaded
  | .isolateNode nodeCode actor decision => do
    MiniOgas.isolateNode nodeCode actor decision
    return .done
  | .restoreNode nodeCode actor decision => do
    MiniOgas.restoreNode call.now nodeCode actor decision
    return .done
  | .retireNode nodeCode actor decision => do
    MiniOgas.retireNode nodeCode actor decision
    return .done
  | .createReadyPart request => do
    let part ← modifyGet fun store => MiniOgas.createReadyPart env store call.now request
    return .created part
  | .claimNextPartForNode nodeCode ttlSeconds => do
    let claimed ← modifyGet fun store =>
      MiniOgas.claimNextPartForNode env store call.now nodeCode ttlSeconds
    return .claimed claimed
  | .releaseExpiredPartClaims => do
    let released ← modifyGet fun store => MiniOgas.releaseExpiredPartClaims env store call.now
    return .count released
  | .completeClaimedPart nodeCode partId claimToken => do
    let completion ← Procedure.transact fun store =>
      MiniOgas.completeClaimedPart store call.now nodeCode partId claimToken
    return .completed completion.1 completion.2

def storeAuthority (env : StoreEnv) :
    Serial.Authority StoreCall MemoryStore (Except StoreFault StoreReply) Empty :=
  Procedure.serially (StoreCall.perform env)

def sampleStoreEnv : StoreEnv where
  builtins := sampleBuiltins
  settings :=
    { controlMode := .operatorAssisted
      heartbeatTimeoutSeconds := 30
      expectedProductionNodes :=
        ["turning-workshop-01", "milling-workshop-01", "grinding-workshop-01"] }
  sessionToken := ""
  uuid n := "uuid-" ++ fiveDigits n

end MiniOgas
