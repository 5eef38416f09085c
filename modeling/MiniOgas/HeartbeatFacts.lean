import Mathlib.Data.String.Basic
import Mathlib.Data.Sum.Order
import MiniOgas.HeartbeatOperations
import MiniOgas.RowLog

namespace MiniOgas

open Serial

/-- What a column of times holds: SQLite keeps and orders the text, and PostgreSQL the time. -/
abbrev StoredTime := Lex (String ⊕ Timestamp)

structure ShadowRow where
  id : Nat
  nodeCode : String
  runId : String
  scenarioId : String
  simulationTime : Json
  payload : Fields
  receivedAt : StoredTime

structure ScenarioRow where
  scenarioId : String
  simulationEngine : String
  randomSeed : Int
  mode : String
  createdAt : Timestamp
  updatedAt : Timestamp

structure RunRow where
  runId : String
  scenarioId : String
  status : String
  randomSeed : Int
  startedAt : Timestamp
  lastEventAt : Timestamp
  endedAt : Option Timestamp

structure RecordReceipt where
  nodeCode : String
  runId : String
  localId : Int
  payloadHash : String
  payloadCreatedAt : StoredTime
  ingestedAt : Timestamp

/-- The tables that `CentralFactRepository` keeps heartbeats in; `lastId` is the last number that
`heartbeat_shadow` has given. -/
structure FactStore where
  heartbeats : List ShadowRow
  lastId : Nat
  scenarios : List ScenarioRow
  runs : List RunRow
  receipts : List RecordReceipt

def FactStore.empty : FactStore := ⟨[], 0, [], [], []⟩

inductive Backend where
  | sqlite
  | postgresql

/-- `loads` is `json.loads`, `digest` the hash of a payload, `fromisoformat` reads a text as a
time, and `timestamptz` is how PostgreSQL does. -/
structure FactEnv where
  store : StoreEnv
  backend : Backend
  loads : String → Option Json
  digest : Fields → String
  fromisoformat : String → Option Timestamp
  timestamptz : String → Option Timestamp
  retentionPerNode : Int

def FactEnv.stored (env : FactEnv) (time : Timestamp) : StoredTime :=
  match env.backend with
  | .sqlite => toLex (.inl (env.store.builtins.text (.time time)))
  | .postgresql => toLex (.inr time)

/-- What the database makes of the value of a column of times. -/
def FactEnv.storeTime (env : FactEnv) : Json → Except StoreFault StoredTime
  | .time time => .ok (env.stored time)
  | value =>
    let text := env.store.builtins.text value
    match env.backend with
    | .sqlite => .ok (toLex (.inl text))
    | .postgresql => do
      let time ← orFault (env.timestamptz text) .conversionError
      return toLex (.inr time)

/-- A text that is no time stays one, and `_database_datetime` refuses it. -/
def FactEnv.readTime (env : FactEnv) (stored : StoredTime) : Json :=
  match ofLex stored with
  | .inr time => .time time
  | .inl text => ((env.fromisoformat text).map Json.time).getD (.str text)

/-- `ORDER BY id DESC`. -/
def ShadowRow.laterStored (row other : ShadowRow) : Prop := other.id ≤ row.id

/-- `ORDER BY received_at DESC, id DESC`. -/
def ShadowRow.laterReceived (row other : ShadowRow) : Prop :=
  other.receivedAt < row.receivedAt ∨ other.receivedAt = row.receivedAt ∧ other.id ≤ row.id

instance : DecidableRel ShadowRow.laterStored := fun row other =>
  inferInstanceAs (Decidable (other.id ≤ row.id))

instance : DecidableRel ShadowRow.laterReceived := fun row other =>
  inferInstanceAs (Decidable (other.receivedAt < row.receivedAt ∨
    other.receivedAt = row.receivedAt ∧ other.id ≤ row.id))

/-- The rows that the deletion for one node leaves. -/
def retainNode (before : ShadowRow → ShadowRow → Prop) [DecidableRel before]
    (nodeCode : String) (limit : Int) (rows : List ShadowRow) : List ShadowRow :=
  if limit ≤ 0 then rows
  else
    let kept := ((rows.filter (·.nodeCode = nodeCode)).insertionSort before).take limit.toNat
    rows.filter fun row => row.nodeCode ≠ nodeCode || (kept.map (·.id)).contains row.id

def FactStore.insertHeartbeat (store : FactStore) (nodeCode runId scenarioId : String)
    (simulationTime : Json) (payload : Fields) (receivedAt : StoredTime) : FactStore :=
  { store with
    heartbeats := store.heartbeats ++ [⟨store.lastId + 1, nodeCode, runId, scenarioId,
      simulationTime, payload, receivedAt⟩]
    lastId := store.lastId + 1 }

def FactStore.addReceipt (store : FactStore) (receipt : RecordReceipt) : FactStore :=
  { store with receipts := store.receipts ++ [receipt] }

section Heartbeats

variable (env : FactEnv)

def runtimeField (payload : Fields) (key : String) : Json := (payload.get "runtime").dict.get key

def reportedRunStatus (payload : Fields) : Except StoreFault String := do
  let requested := (runtimeText env.store payload "run_status").toLower
  check (requested = "" ∨
      ["created", "running", "paused", "completed", "failed"].contains requested)
    (.valueError s!"unsupported run status: {requested}")
  return if requested ≠ "" then requested
    else if textOr env.store (payload.get "status") "" = "shutting_down" then "completed"
    else "running"

def checkRunRow (store : FactStore) (runId scenarioId : String) (randomSeed : Int) :
    Except StoreFault Unit :=
  if runId = "" then .ok ()
  else match store.runs.find? (·.runId = runId) with
    | none => .ok ()
    | some existing => do
      check (existing.scenarioId = scenarioId)
        (.valueError s!"run {runId} already belongs to scenario {existing.scenarioId}")
      check (existing.randomSeed = randomSeed)
        (.valueError s!"run {runId} already uses random_seed {existing.randomSeed}")

def checkScenarioRow (store : FactStore) (scenarioId simulationEngine : String)
    (randomSeed : Int) : Except StoreFault Unit :=
  if scenarioId = "" then .ok ()
  else match store.scenarios.find? (·.scenarioId = scenarioId) with
    | none => .ok ()
    | some existing => do
      check (existing.randomSeed = randomSeed)
        (.valueError s!"scenario {scenarioId} already uses random_seed {existing.randomSeed}")
      check (¬(existing.simulationEngine ≠ "" ∧ simulationEngine ≠ "" ∧
          existing.simulationEngine ≠ simulationEngine))
        (.valueError
          s!"scenario {scenarioId} already uses simulation_engine {existing.simulationEngine}")

/-- `INSERT INTO scenarios`, which updates the row on a conflict. -/
def upsertScenario : List ScenarioRow → ScenarioRow → List ScenarioRow :=
  RowLog.upsert ScenarioRow.scenarioId fun old new =>
    { old with mode := new.mode, updatedAt := new.updatedAt }

/-- `INSERT INTO runs`, which updates the row on a conflict. -/
def upsertRun : List RunRow → RunRow → List RunRow :=
  RowLog.upsert RunRow.runId fun old new =>
    { old with status := new.status, lastEventAt := new.lastEventAt, endedAt := new.endedAt }

/-- What `persist_heartbeat` reads from a heartbeat. -/
structure HeartbeatFact where
  nodeCode : String
  runId : String
  scenarioId : String
  randomSeed : Int
  simulationEngine : String
  simulationMode : String
  simulationTime : Json
  status : String
  payload : Fields
  receivedAt : Timestamp

/-- The reads of `persist_heartbeat`; PostgreSQL takes no row without a time. -/
def readFact (payload : Fields) : Except StoreFault HeartbeatFact := do
  let randomSeed ← intOrZero env.store (runtimeField payload "random_seed")
  let status ← reportedRunStatus env payload
  let receivedAt ← databaseDatetime (payload.get "_received_at")
  return {
    nodeCode := textOr env.store (payload.get "node_code") ""
    runId := runtimeText env.store payload "run_id"
    scenarioId := runtimeText env.store payload "scenario_id"
    randomSeed
    simulationEngine := runtimeText env.store payload "simulation_engine"
    simulationMode := textOr env.store (runtimeField payload "simulation_mode") "normal"
    simulationTime := runtimeField payload "simulation_time"
    status
    payload
    receivedAt }

def HeartbeatFact.scenario (fact : HeartbeatFact) : ScenarioRow :=
  ⟨fact.scenarioId, fact.simulationEngine, fact.randomSeed, fact.simulationMode, fact.receivedAt,
    fact.receivedAt⟩

def HeartbeatFact.run (fact : HeartbeatFact) : RunRow :=
  ⟨fact.runId, fact.scenarioId, fact.status, fact.randomSeed, fact.receivedAt, fact.receivedAt,
    if fact.status = "completed" ∨ fact.status = "failed" then some fact.receivedAt else none⟩

def FactStore.writeFact (store : FactStore) (fact : HeartbeatFact) : FactStore :=
  let inserted := store.insertHeartbeat fact.nodeCode fact.runId fact.scenarioId
    fact.simulationTime fact.payload (env.stored fact.receivedAt)
  { inserted with
    scenarios := if fact.scenarioId = "" then store.scenarios
      else upsertScenario store.scenarios fact.scenario
    runs := if fact.runId = "" then store.runs else upsertRun store.runs fact.run
    heartbeats := retainNode ShadowRow.laterStored fact.nodeCode env.retentionPerNode
      inserted.heartbeats }

/-- `persist_heartbeat`; `enqueued` says whether the outbox takes the envelope. -/
def persistHeartbeat (payload : Fields) (enqueued : Bool) (store : FactStore) :
    Except StoreFault (HeartbeatFact × FactStore) := do
  let fact ← readFact env payload
  checkRunRow store fact.runId fact.scenarioId fact.randomSeed
  checkScenarioRow store fact.scenarioId fact.simulationEngine fact.randomSeed
  check (enqueued = true) .validationError
  return (fact, store.writeFact env fact)

def recordPayload (localId : Int) (record : Fields) : Except StoreFault Fields :=
  match record.get "payload" with
  | .str text =>
    match env.loads text with
    | none => .error (.valueError s!"node record {localId} contains invalid JSON")
    | some (.obj payload) => .ok payload
    | some _ => .error .conversionError
  | .obj payload => .ok payload
  | _ => .error (.valueError s!"node record {localId} payload must be an object")

def archivedPayload (nodeCode : String) (localId : Int) (createdAt : Json)
    (ingestedAt : Timestamp) (payload : Fields) : Fields :=
  ((((payload.set "node_code" (.str nodeCode)).set "_received_at" createdAt).set
    "_ingested_at" (.time ingestedAt)).set "_ingest_type" (.str "offline_replay")).set
    "_local_id" (.int localId)

/-- `str(record.get("created_at") or payload.get("timestamp") or ingested_at)`. -/
def recordCreatedAt (now : Timestamp) (record payload : Fields) : Json :=
  match ((record.get "created_at").or (payload.get "timestamp")).or (.time now) with
  | .time time => .time time
  | value => .str (env.store.builtins.text value)

/-- One round of the loop of `persist_synced_node_records`: whether the record is new, and the
tables. -/
def archiveRecord (now : Timestamp) (nodeCode : String) (store : FactStore) (localId : Int)
    (record : Fields) : Except StoreFault (Bool × FactStore) := do
  let payload ← recordPayload env localId record
  check (textOr env.store (payload.get "node_code") nodeCode = nodeCode)
    (.valueError s!"node record {localId} node_code mismatch")
  let runId := runtimeText env.store payload "run_id"
  let createdAt := recordCreatedAt env now record payload
  match store.receipts.find? fun receipt =>
      receipt.nodeCode = nodeCode && receipt.runId = runId && receipt.localId = localId with
  | some existing =>
    check (existing.payloadHash = env.digest payload)
      (.valueError (s!"node record identity conflict: {nodeCode}/" ++
        (if runId = "" then "unbound" else runId) ++ s!"/{localId}"))
    return (false, store)
  | none =>
    let stored ← env.storeTime createdAt
    let receipted := store.addReceipt ⟨nodeCode, runId, localId, env.digest payload, stored, now⟩
    return (true, receipted.insertHeartbeat nodeCode runId
      (runtimeText env.store payload "scenario_id") (runtimeField payload "simulation_time")
      (archivedPayload nodeCode localId createdAt now payload) stored)

def sortedRecords (records : List Fields) : Except StoreFault (List (Int × Fields)) := do
  let numbered ← records.mapM fun record => do
    let localId ← intOrZero env.store (record.get "local_id")
    return (localId, record)
  return numbered.insertionSort fun first second => first.1 ≤ second.1

/-- `persist_synced_node_records`: how many records were new and how many known. -/
def persistSyncedNodeRecords (now : Timestamp) (nodeCode : String) (records : List Fields)
    (store : FactStore) : Except StoreFault ((Nat × Nat) × FactStore) := do
  let numbered ← sortedRecords env records
  let (counts, archived) ← numbered.foldlM (fun (counts, store) record => do
    let (accepted, store) ← archiveRecord env now nodeCode store record.1 record.2
    return (if accepted then (counts.1 + 1, counts.2) else (counts.1, counts.2 + 1), store))
    ((0, 0), store)
  return (counts, { archived with
    heartbeats := retainNode ShadowRow.laterReceived nodeCode env.retentionPerNode
      archived.heartbeats })

end Heartbeats

/-- One round of the loop of `load_latest_heartbeats`. -/
def takeLatest (env : FactEnv) (includeNode : String → Bool)
    (latest : Dictionary String (Fields × Json)) (row : ShadowRow) :
    Dictionary String (Fields × Json) :=
  if row.nodeCode = "" || latest.contains row.nodeCode || !includeNode row.nodeCode then latest
  else latest.setDefault row.nodeCode (row.payload, env.readTime row.receivedAt)

def loadLatestHeartbeats (env : FactEnv) (limit : Nat) (includeNode : String → Bool)
    (rows : List ShadowRow) : Dictionary String (Fields × Json) :=
  ((rows.insertionSort ShadowRow.laterReceived).take (max 1 limit)).foldl
    (takeLatest env includeNode) .empty

def ephemeralNodeCode (nodeCode : String) : Bool := 
  "workflow-check-node-".toList.isPrefixOf nodeCode.toList

/-- `load_heartbeat_shadow`. -/
def reloadHeartbeats (env : FactEnv) (now : Timestamp) (limit : Nat) (replaceEmpty : Bool)
    (store : FactStore) : StoreProcedure Nat :=
  loadHeartbeatShadow env.store now
    (loadLatestHeartbeats env limit (fun nodeCode => !ephemeralNodeCode nodeCode) store.heartbeats)
    replaceEmpty

/-- The operations that write heartbeats; `live` is a heartbeat that arrives. -/
inductive FactOperation where
  | live (payload : Fields) (enqueued : Bool)
  | sync (nodeCode : String) (records : List Fields)

structure FactCall where
  now : Timestamp
  operation : FactOperation

inductive FactReply where
  | persisted (fact : HeartbeatFact)
  | synced (accepted duplicates : Nat)

/-- A call on the tables; `NodeRepository.persist_heartbeat` gives a heartbeat its time. -/
def FactCall.attempt (env : FactEnv) (call : FactCall) (store : FactStore) :
    Except StoreFault (FactReply × FactStore) :=
  match call.operation with
  | .live payload enqueued => do
    let (fact, left) ←
      persistHeartbeat env (payload.set "_received_at" (.time call.now)) enqueued store
    return (.persisted fact, left)
  | .sync nodeCode records => do
    let (counts, left) ← persistSyncedNodeRecords env call.now nodeCode records store
    return (.synced counts.1 counts.2, left)

def factAuthority (env : FactEnv) : Authority FactCall FactStore FactReply StoreFault :=
  ⟨FactCall.attempt env⟩

def FactReply.facts : FactReply → List HeartbeatFact
  | .persisted fact => [fact]
  | .synced _ _ => []

def acceptedFacts (env : FactEnv) : FactStore → List FactCall → List HeartbeatFact
  | _, [] => []
  | store, call :: calls =>
    (match call.attempt env store with
      | .ok (reply, _) => reply.facts
      | .error _ => []) ++ acceptedFacts env ((factAuthority env).serve store call) calls

end MiniOgas
