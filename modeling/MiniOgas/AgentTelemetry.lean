import MiniOgas.AgentTables

namespace MiniOgas

open Relational

section Sequences

variable (nodeCode : String) (db : LocalDatabase)

def storedTelemetrySequence : Nat :=
  ((db.telemetryBatches.rows.filter (·.payload.sourceId = nodeCode)).map
    (·.payload.sequence)).foldl max 0

def LocalDatabase.setSequence (sequence : Nat) : LocalDatabase :=
  { db with telemetrySequenceState := db.telemetrySequenceState.set nodeCode sequence }

def initializeTelemetrySequenceState : Nat × LocalDatabase :=
  match db.telemetrySequenceState.get? nodeCode with
  | some last => (last, db)
  | none =>
    let maximum := storedTelemetrySequence nodeCode db
    (maximum, db.setSequence nodeCode maximum)

def reserveTelemetrySequence : Nat × LocalDatabase :=
  let (last, db) := initializeTelemetrySequenceState nodeCode db
  (last + 1, db.setSequence nodeCode (last + 1))

end Sequences

structure TelemetryReading where
  machineCode : String
  timestamp : Timestamp
  simulationTime : Option Timestamp
  spindleTemp : ℚ
  toolWearLevel : ℚ
  utilization : ℚ
  defectRate : ℚ
  actualRate : ℚ

/-- The fields of `TELEMETRY_SIGNAL_MAPPINGS`. -/
def TelemetryReading.signals (reading : TelemetryReading) : List (String × ℚ × String) :=
  [("SPINDLE-TEMPERATURE", reading.spindleTemp, "Cel"),
    ("TOOL-WEAR-LEVEL", reading.toolWearLevel, "%"),
    ("UTILIZATION", reading.utilization, "1"),
    ("DEFECT-RATE", reading.defectRate, "1"),
    ("ACTUAL-RATE", reading.actualRate, "parts/min")]

def telemetrySample (runId nodeCode : String) (reading : TelemetryReading) (tick : Nat)
    (signal : String × ℚ × String) : TelemetrySample where
  sampleId := s!"{runId}:{nodeCode}:{signal.1}:{tick}"
  signalCode := signal.1
  value := .number signal.2.1
  unit := signal.2.2
  mappingVersion := 1
  sequenceNo := tick
  sourceTimestamp := reading.timestamp
  simulationTime := reading.simulationTime

def telemetryBatchPayload (runId nodeCode : String) (reading : TelemetryReading) (tick : Nat) :
    TelemetryBatch where
  batchId := s!"{runId}:{nodeCode}:telemetry:{tick}"
  source := .simulated
  sourceId := nodeCode
  equipmentCode := reading.machineCode
  edgeReceivedAt := reading.timestamp
  samples := reading.signals.map (telemetrySample runId nodeCode reading tick)

def terminalTelemetryConflicts : List String :=
  ["TELEMETRY_BATCH_IDENTITY_CONFLICT", "TELEMETRY_SAMPLE_IDENTITY_CONFLICT",
    "TELEMETRY_SEQUENCE_IDENTITY_CONFLICT"]

def telemetryResultIsTerminal (builtins : Builtins) (result : SendResult) : Bool :=
  result.httpStatus = 409 && result.problem.any fun problem =>
    terminalTelemetryConflicts.contains (builtins.text
      (((problem.get "code").or ((problem.get "detail").dict.get "code")).or (.str "")))

section Outbox

variable (builtins : Builtins) (db : LocalDatabase)

def SendResult.syncState (result : SendResult) : SyncState :=
  if result.synced then .synced
  else if telemetryResultIsTerminal builtins result then .rejected
  else .pending

def TelemetryRow.answered (row : TelemetryRow) (result : SendResult) : TelemetryRow :=
  { row with
    synced := result.syncState builtins
    requestId := result.requestId
    sendError := if result.synced then "" else result.error
    httpStatus := result.httpStatus }

/-- The rows that `store_telemetry_batch` keeps of those that are not pending. -/
def settledCapacity : Nat := 2000

def settledIds : List Nat :=
  (((db.telemetryBatches.select (·.synced ≠ .pending)).map Prod.fst).reverse).take settledCapacity

/-- The row of a batch is inserted, or takes over the answer. -/
def upsertTelemetryBatch (payload : TelemetryBatch) (result : SendResult) :
    SerialTable TelemetryRow :=
  if db.telemetryBatches.any (·.batchId = payload.batchId) then
    db.telemetryBatches.update (fun entry => entry.2.batchId = payload.batchId) fun row =>
      { row with
        synced := result.syncState builtins
        requestId := result.requestId
        sendError := result.error
        httpStatus := result.httpStatus }
  else db.telemetryBatches.insert
    { batchId := payload.batchId
      payload := payload
      synced := result.syncState builtins
      createdAt := payload.edgeReceivedAt
      requestId := result.requestId
      sendError := result.error
      httpStatus := result.httpStatus }

def LocalDatabase.raiseSequence (payload : TelemetryBatch) : LocalDatabase :=
  let last := (db.telemetrySequenceState.get? payload.sourceId).getD 0
  db.setSequence payload.sourceId (max last payload.sequence)

def storeTelemetryBatch (payload : TelemetryBatch) (result : SendResult) : LocalDatabase :=
  let db := db.raiseSequence payload
  let db := { db with telemetryBatches := upsertTelemetryBatch builtins db payload result }
  { db with telemetryBatches := db.telemetryBatches.delete fun entry =>
      entry.2.synced ≠ .pending && !(settledIds db).contains entry.1 }

def syncLimit : Nat := 20

def pendingTelemetryBatches (limit : Nat) : List (Nat × TelemetryBatch) :=
  ((db.telemetryBatches.select (·.synced = .pending)).take limit).map fun entry =>
    (entry.1, entry.2.payload)

def answerTelemetryBatch (id : Nat) (result : SendResult) : LocalDatabase :=
  { db with telemetryBatches :=
      db.telemetryBatches.update (·.1 = id) (·.answered builtins result) }

/-- The loop of `sync_pending_telemetry_batches`; `world` is what the sends go to. -/
def syncBatches {World : Type} (send : TelemetryBatch → World → SendResult × World) :
    List (Nat × TelemetryBatch) → LocalDatabase → World → LocalDatabase × World
  | [], db, world => (db, world)
  | (id, payload) :: items, db, world =>
    let (result, world) := send payload world
    let db := answerTelemetryBatch builtins db id result
    if result.syncState builtins = .pending then (db, world)
    else syncBatches send items db world

def syncPendingTelemetryBatches {World : Type}
    (send : TelemetryBatch → World → SendResult × World) (world : World) :
    LocalDatabase × World :=
  syncBatches builtins send (pendingTelemetryBatches db syncLimit) db world

end Outbox

section Records

variable (db : LocalDatabase)

def storeHeartbeat (payload : Fields) (timestamp : Timestamp) (result : SendResult) :
    LocalDatabase :=
  let row : HeartbeatRow :=
    { payload
      synced := result.synced
      createdAt := timestamp
      requestId := result.requestId
      sendError := result.error
      httpStatus := result.httpStatus }
  { db with heartbeats := db.heartbeats.insert row }

def pendingRecords (limit : Nat) : List (Nat × HeartbeatRow) :=
  (db.heartbeats.select fun row => !row.synced).take limit

def markRecordsSynced (ids : List Nat) (requestId : String) (httpStatus : Nat) : LocalDatabase :=
  { db with heartbeats := ⟨db.heartbeats.entries.map fun entry =>
      if entry.1 ∈ ids then
        { entry.2 with
          synced := true
          requestId := requestId
          httpStatus := httpStatus
          sendError := "" }
      else entry.2⟩ }

/-- `sync_pending_records`, given the answer to the group of records that it sends. -/
def syncPendingRecords (send : List (Nat × HeartbeatRow) → SendResult) : LocalDatabase :=
  let records := pendingRecords db syncLimit
  if records.isEmpty then db
  else
    let result := send records
    if result.synced then
      markRecordsSynced db (records.map Prod.fst) result.requestId result.httpStatus
    else db

end Records

end MiniOgas
