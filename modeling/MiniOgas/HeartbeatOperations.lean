import MiniOgas.NodeOperations
import MiniOgas.PartOperations

namespace MiniOgas

open Bounded Serial

section Readings

variable (env : StoreEnv)

/-- What `int` and `float` raise on a value that they do not convert. -/
def conversionFault : Json → StoreFault
  | .str _ => .conversionError
  | .bool _ | .int _ | .float _ => .overflowError
  | _ => .typeError

def readInt (value : Json) : Except StoreFault Int :=
  orFault (env.builtins.int value) (conversionFault value)

def readFloat (value : Json) : Except StoreFault ℚ :=
  orFault (env.builtins.float value) (conversionFault value)

/-- `int(value or 0)`. -/
def intOrZero (value : Json) : Except StoreFault Int := readInt env (value.or (.int 0))

/-- `float(value or 0)`. -/
def floatOrZero (value : Json) : Except StoreFault ℚ := readFloat env (value.or (.int 0))

/-- `str(value or other)`. -/
def textOr (value : Json) (other : String) : String := env.builtins.text (value.or (.str other))

def asPercentage (q : ℚ) : Except StoreFault Percentage :=
  if h : 0 ≤ q ∧ q ≤ 100 then .ok ⟨q, h⟩ else .error .validationError

def asNat (n : Int) : Except StoreFault Nat :=
  if 0 ≤ n then .ok n.toNat else .error .validationError

/-- The `MetricIn` of a heartbeat. -/
def readMetric (nodeCode workshopType : String) (metrics production : Fields) :
    Except StoreFault MetricIn := do
  let cpuUsage ← floatOrZero env (metrics.get "cpu_usage")
  let memoryUsage ← floatOrZero env (metrics.get "memory_usage")
  let diskUsage ← floatOrZero env (metrics.get "disk_usage")
  let networkIn ← intOrZero env ((metrics.get "network_in").or (metrics.get "network_in_bytes"))
  let networkOut ← intOrZero env ((metrics.get "network_out").or (metrics.get "network_out_bytes"))
  let dbLatencyMs ← intOrZero env (metrics.get "db_latency_ms")
  let apiLatencyMs ←
    intOrZero env ((metrics.get "api_latency_ms").or (metrics.get "network_latency_ms"))
  let finishedQuantity ← intOrZero env (production.get "finished_quantity")
  let defectQuantity ← intOrZero env (production.get "defect_quantity")
  let cpuUsage ← asPercentage cpuUsage
  let memoryUsage ← asPercentage memoryUsage
  let diskUsage ← asPercentage diskUsage
  let networkIn ← asNat networkIn
  let networkOut ← asNat networkOut
  let dbLatencyMs ← asNat dbLatencyMs
  let apiLatencyMs ← asNat apiLatencyMs
  let finishedQuantity ← asNat finishedQuantity
  let defectQuantity ← asNat defectQuantity
  return { nodeCode, workshopType := some workshopType, cpuUsage, memoryUsage, diskUsage,
           networkIn, networkOut, dbLatencyMs, apiLatencyMs, finishedQuantity, defectQuantity }

def reported {α : Type} (read : Json → Except StoreFault α) (value : Json) :
    Except StoreFault (Option α) :=
  if value.truthy then (read value).map some else .ok none

end Readings

section Machines

variable (env : StoreEnv)

def MemoryStore.registerMachine (store : MemoryStore)
    (machineCode nodeCode workshopType : String) : MemoryStore :=
  if store.machines.any (·.machineCode = machineCode) then store
  else { store with machines := store.machines ++ [⟨machineCode, nodeCode, workshopType,
    "running", 0, 0, 0, 0⟩] }

/-- `f` on the machine that a heartbeat is about. -/
def MemoryStore.updateMachine (machineCode : String) (f : Machine → Machine)
    (store : MemoryStore) : MemoryStore :=
  { store with machines := modifyFirst (·.machineCode = machineCode) f store.machines }

def machineStatus (rawStatus : String) : String :=
  if rawStatus = "fault" then "fault" else if rawStatus = "warning" then "warning" else "running"

/-- The machine of a node takes over what the heartbeat of the node says. -/
def reportMachine (nodeCode workshopType status : String) (production : Fields) :
    StoreProcedure Unit := do
  let machineCode := textOr env (production.get "machine_code") nodeCode
  modify fun store => store.registerMachine machineCode nodeCode workshopType
  modify (MemoryStore.updateMachine machineCode fun machine =>
    { machine with nodeCode := nodeCode, status := status })
  let utilization ← Procedure.lift (floatOrZero env (production.get "utilization"))
  modify (MemoryStore.updateMachine machineCode fun machine =>
    { machine with loadRate := utilization * 100 })
  let toolWearLevel ← Procedure.lift
    (reported (readFloat env) (production.get "tool_wear_level"))
  modify (MemoryStore.updateMachine machineCode fun machine =>
    { machine with toolWearLevel := toolWearLevel.getD machine.toolWearLevel })
  let todayOutput ← Procedure.lift (reported (readInt env) (production.get "finished_quantity"))
  modify (MemoryStore.updateMachine machineCode fun machine =>
    { machine with todayOutput := todayOutput.getD machine.todayOutput })
  let defectCount ← Procedure.lift (reported (readInt env) (production.get "defect_quantity"))
  modify (MemoryStore.updateMachine machineCode fun machine =>
    { machine with defectCount := defectCount.getD machine.defectCount })

end Machines

section PartFlow

variable (env : StoreEnv) (now : Timestamp)

structure FlowReply where
  created : Nat
  completed : Nat
  limitedByInput : Bool

def FlowReply.none : FlowReply := ⟨0, 0, false⟩

/-- The loop of `_advance_part_flow_from_heartbeat` for the turning node. -/
def createReadyParts (request : PartRequest) : Nat → MemoryStore → MemoryStore
  | 0, store => store
  | n + 1, store => createReadyParts request n (createReadyPart env store now request).2

/-- The loop of `_advance_part_flow_from_heartbeat` for the other nodes: it returns how many
parts it completed. -/
def consumeParts (nodeCode : String) : Nat → StoreProcedure Nat
  | 0 => return 0
  | n + 1 => do
    let claimed ← modifyGet fun store => claimNextPartForNode env store now nodeCode 30
    match claimed with
    | none => return 0
    | some part =>
      let _ ← Procedure.transact fun store =>
        completeClaimedPart store now nodeCode part.partId part.claimToken
      let completed ← consumeParts nodeCode n
      return completed + 1

def flowLimit : Nat := 20

def turningRequest (production : Fields) : PartRequest where
  orderId := textOr env (production.get "active_order") "WO-LIVE"
  productCode := textOr env (production.get "product_code") "A3"

/-- What `_advance_part_flow_from_heartbeat` does when the counter has risen. -/
def movePartFlow (nodeCode : String) (production : Fields) (delta : Nat) :
    StoreProcedure FlowReply :=
  if nodeCode = "turning-workshop-01" then do
    modify (createReadyParts env now (turningRequest env production) delta)
    return ⟨delta, 0, false⟩
  else if nodeCode = "milling-workshop-01" ∨ nodeCode = "grinding-workshop-01" then do
    let completed ← consumeParts env now nodeCode delta
    return ⟨0, completed, completed < delta⟩
  else return .none

def advanceWatermark (nodeCode : String) (finished : Int) (store : MemoryStore) :
    Option Int × MemoryStore :=
  let key := (nodeCode, currentRunIdForNode env store nodeCode)
  (store.partCompletionWatermark.get? key,
    { store with partCompletionWatermark := store.partCompletionWatermark.set key finished })

def advancePartFlowFromHeartbeat (nodeCode : String) (production : Fields) :
    StoreProcedure FlowReply :=
  match intOrZero env (production.get "finished_quantity") with
  | .error _ => return .none
  | .ok finished => do
    let previous ← modifyGet (advanceWatermark env nodeCode finished)
    match previous with
    | none => return .none
    | some previous =>
      if finished ≤ previous then return .none
      else movePartFlow env now nodeCode production (min (finished - previous).toNat flowLimit)

end PartFlow

section HeartbeatV2

variable (env : StoreEnv) (now : Timestamp)

/-- `round(q, 6)`. -/
def roundSix (q : ℚ) : ℚ :=
  let low := (q * 1000000).floor
  let rest := q * 1000000 - low
  let rounded := if rest < 1 / 2 then low else if 1 / 2 < rest then low + 1
    else if low % 2 = 0 then low else low + 1
  rounded / 1000000

/-- The `production` of a heartbeat with the change of its defect rate; only a `TypeError` and a
`ValueError` are caught. -/
def enrichProduction (production previous : Fields) : Except StoreFault Fields :=
  let delta := do
    let rate ← floatOrZero env (production.get "defect_rate")
    let before ← floatOrZero env (previous.get "defect_rate")
    return roundSix (rate - before)
  match delta with
  | .error .overflowError => .error .overflowError
  | _ => .ok (production.set "defect_rate_delta" (.float (delta.toOption.getD 0)))

def MemoryStore.previousProduction (store : MemoryStore) (nodeCode : String) : Fields :=
  (((store.nodeHeartbeatsV2.get? nodeCode).getD []).get "production").dict

def reportsRunning (rawStatus : String) : Bool := ["running", "online", "idle"].contains rawStatus

/-- The checks of `record_node_heartbeat_v2` against the heartbeats that are there. -/
def checkRun (store : MemoryStore) (runId scenarioId : String) (randomSeed : Int) :
    Except StoreFault Unit :=
  if runId = "" then .ok ()
  else store.nodeHeartbeatsV2.values.forM fun existing => do
    let existingRunId := runtimeText env existing "run_id"
    let existingScenarioId := runtimeText env existing "scenario_id"
    let existingSeed ← intOrZero env ((existing.get "runtime").dict.get "random_seed")
    check (existingRunId = runId → existingScenarioId = scenarioId)
      (.valueError s!"run {runId} cannot mix multiple scenario_id values")
    check (existingRunId = runId → existingSeed = randomSeed)
      (.valueError s!"run {runId} cannot mix multiple random_seed values")
    check (¬(existingScenarioId ≠ "" ∧ existingScenarioId = scenarioId ∧
        existingSeed ≠ randomSeed))
      (.valueError s!"scenario {scenarioId} cannot mix multiple random_seed values")

/-- What the checks of `record_node_heartbeat_v2` leave for `record_heartbeat`. -/
def readHeartbeat (store : MemoryStore) (payload : Fields) : Except StoreFault HeartbeatReport := do
  let sync := (payload.get "sync").dict
  let randomSeed ← intOrZero env ((payload.get "runtime").dict.get "random_seed")
  checkRun env store (runtimeText env payload "run_id") (runtimeText env payload "scenario_id")
    randomSeed
  let uptimeSeconds ← intOrZero env ((payload.get "uptime_sec").or (payload.get "uptime_seconds"))
  let localDbSizeBytes ← intOrZero env (sync.get "local_db_size_bytes")
  return {
    nodeCode := env.builtins.text (payload.get "node_code")
    agentVersion := textOr env (payload.get "agent_version") "0.2.0"
    uptimeSeconds
    localDbSizeBytes
    status := if reportsRunning (textOr env (payload.get "status") "running") then "online"
      else "degraded"
    sessionToken := textOr env (payload.get "session_token") ""
    dbSizeSource := textOr env (sync.get "db_size_source") "heartbeat-v2-sync" }

/-- The entry of `node_heartbeats_v2` for a heartbeat. -/
def heartbeatEntry (payload production : Fields) : Fields :=
  ((((((payload.set "production" (.obj production)).set "metrics"
    (.obj (payload.get "metrics").dict)).set "runtime" (.obj (payload.get "runtime").dict)).set
    "sync" (.obj (payload.get "sync").dict)).set "alarms" (.arr (payload.get "alarms").list)).set
    "_received_at" (.time now))

def MemoryStore.setHeartbeat (store : MemoryStore) (nodeCode : String) (entry : Fields) :
    MemoryStore :=
  { store with nodeHeartbeatsV2 := store.nodeHeartbeatsV2.set nodeCode entry }

/-- The part of `record_node_heartbeat_v2` that comes before the part flow. -/
def prepareHeartbeat (payload : Fields) : StoreProcedure HeartbeatReply := do
  Procedure.lift (check (payload.any (·.1 = "node_code")) (.keyError "node_code"))
  let nodeCode := env.builtins.text (payload.get "node_code")
  let production := (payload.get "production").dict
  let rawStatus := textOr env (payload.get "status") "running"
  let workshopType := textOr env (production.get "workshop_type") (inferWorkshopType nodeCode)
  let store ← get
  let report ← Procedure.lift (readHeartbeat env store payload)
  let reply ← modifyGet (recordHeartbeat env now report)
  let _ ← Procedure.lift
    (readMetric env nodeCode workshopType (payload.get "metrics").dict production)
  let enriched ← Procedure.lift
    (enrichProduction env production (store.previousProduction nodeCode))
  reportMachine env nodeCode workshopType (machineStatus rawStatus) production
  modify (·.setHeartbeat nodeCode (heartbeatEntry now payload enriched))
  return reply

/-- `record_node_heartbeat_v2`, up to the effects on commands and alerts. -/
def recordNodeHeartbeatV2 (payload : Fields) : StoreProcedure (HeartbeatReply × FlowReply) := do
  let reply ← prepareHeartbeat env now payload
  let flow ← advancePartFlowFromHeartbeat env now (env.builtins.text (payload.get "node_code"))
    (payload.get "production").dict
  return (reply, flow)

end HeartbeatV2

section Projection

variable (env : StoreEnv) (now : Timestamp)

def databaseDatetime : Json → Except StoreFault Timestamp
  | .time t => .ok t
  | _ => .error .conversionError

def heartbeatTime (receivedAt : Json) : Except StoreFault Timestamp :=
  if receivedAt.truthy then databaseDatetime receivedAt else .ok now

/-- The status that `_restore_heartbeat_shadow_locked` gives a node. -/
def restoredStatus (rawStatus : String) (heartbeatTime : Timestamp) : NodeStatus :=
  if heartbeatTime < now - env.settings.heartbeatTimeoutSeconds * second then .offline
  else if reportsRunning rawStatus then .online
  else .degraded

def restoreHeartbeatShadowLocked (nodeCode : String) (payload : Fields) (receivedAt : Json) :
    StoreProcedure Unit := do
  let production := (payload.get "production").dict
  let workshopType := textOr env (production.get "workshop_type") (inferWorkshopType nodeCode)
  let time ← Procedure.lift (heartbeatTime now receivedAt)
  let rawStatus := textOr env (payload.get "status") "running"
  let status := restoredStatus env now rawStatus time
  modify fun store => store.updateNode now nodeCode workshopType fun node =>
    { node with workshopType := workshopType, status := status, lastHeartbeat := time }
  reportMachine env nodeCode workshopType
    (if status = .offline then "offline" else machineStatus rawStatus) production
  modify fun store => store.setHeartbeat nodeCode
    ((heartbeatEntry time payload production).set "_restored_from_persistence" (.bool true))
  let metric ← Procedure.lift
    (readMetric env nodeCode workshopType (payload.get "metrics").dict production)
  modify fun store =>
    { store with metrics := keepLast metricCapacity (store.metrics ++ [metric]) }

/-- One round of the loop of `load_heartbeat_shadow` over the expected nodes. -/
def dropHeartbeat (store : MemoryStore) (nodeCode : String) : MemoryStore :=
  setStatus nodeCode .offline
    { store with nodeHeartbeatsV2 := store.nodeHeartbeatsV2.pop nodeCode }

/-- `load_heartbeat_shadow`, given the latest heartbeats that the database has. -/
def loadHeartbeatShadow (latest : Dictionary String (Fields × Json)) (replaceEmpty : Bool) :
    StoreProcedure Nat := do
  modify fun store =>
    if replaceEmpty && latest.items.isEmpty then
      env.settings.expectedProductionNodes.foldl dropHeartbeat store
    else store
  latest.items.forM fun item => restoreHeartbeatShadowLocked env now item.1 item.2.1 item.2.2
  return latest.items.length

end Projection

end MiniOgas
