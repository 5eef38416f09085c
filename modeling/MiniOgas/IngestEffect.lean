import MiniOgas.Serial
import MiniOgas.TelemetryStore

namespace MiniOgas

open Relational Serial

def TelemetryBatch.identity (batch : TelemetryBatch) : BatchIdentity where
  batchId := batch.batchId
  source := batch.source
  sourceId := batch.sourceId
  equipmentCode := batch.equipmentCode
  samples := batch.samples

def TelemetrySample.identity (sample : TelemetrySample) : SampleIdentity where
  sampleId := sample.sampleId
  signalCode := sample.signalCode
  value := sample.value
  unit := sample.unit
  mappingVersion := sample.mappingVersion
  sequenceNo := sample.sequenceNo

/-- The instants that `astimezone(UTC)` can give. -/
def inUtc (t : Timestamp) : Bool := -62135596800000000 ≤ t && t < 253402300800000000

/-- `_hash` converts all the times of a sample. -/
def TelemetrySample.inUtc (sample : TelemetrySample) : Bool :=
  MiniOgas.inUtc sample.sourceTimestamp && sample.simulationTime.all MiniOgas.inUtc

def fitsColumn (n : Int) : Bool := -2 ^ 63 ≤ n && n < 2 ^ 63

def batchIdentityConflict (batchId : String) : TelemetryFault := .dataPlatform
  { statusCode := 409
    code := "TELEMETRY_BATCH_IDENTITY_CONFLICT"
    message := "batch_id was already committed with different measured values"
    context := [("batch_id", .str batchId)] }

def equipmentNotRegistered (equipmentCode : String) : TelemetryFault := .dataPlatform
  { statusCode := 409
    code := "TELEMETRY_EQUIPMENT_NOT_REGISTERED"
    message := "telemetry batch references equipment outside the active master data"
    context := [("equipment_code", .str equipmentCode)] }

def signalNotRegistered (signalCode : String) : TelemetryFault := .dataPlatform
  { statusCode := 409
    code := "TELEMETRY_SIGNAL_NOT_REGISTERED"
    message := "sample references an unknown or inactive signal"
    context := [("signal_code", .str signalCode)] }

def sampleIdentityConflict (sampleId : String) : TelemetryFault := .dataPlatform
  { statusCode := 409
    code := "TELEMETRY_SAMPLE_IDENTITY_CONFLICT"
    message := "sample_id was already committed with different measured values"
    context := [("sample_id", .str sampleId)] }

def sequenceIdentityConflict (signalCode : String) (sequenceNo : Nat) : TelemetryFault :=
  .dataPlatform
    { statusCode := 409
      code := "TELEMETRY_SEQUENCE_IDENTITY_CONFLICT"
      message := "sequence number is already owned by another sample"
      context := [("signal_code", .str signalCode), ("sequence_no", .int sequenceNo)] }

section Values

variable (settings : HistorianSettings)

/-- `float(value)`. -/
def HistorianSettings.toFloat : SignalValue → Except TelemetryFault FloatValue
  | .number q => .ok (some (numericValue q))
  | .special x => .ok x.toFloat
  | .integer n => (orFault (floatOfInt n) .overflowError).map fun q => some (numericValue q)
  | .boolean b => .ok (some (numericValue (if b then 1 else 0)))
  | .text s => orFault (settings.parseFloat s) (.valueError s)

/-- `bool(value)`. -/
def SignalValue.truthy : SignalValue → Bool
  | .number q => q ≠ 0
  | .special x => x ≠ .negativeZero
  | .integer n => n ≠ 0
  | .boolean b => b
  | .text s => s ≠ ""

def HistorianSettings.toText : SignalValue → String
  | .text s => s
  | value => settings.str value

def valueMatches : SignalValue → SignalType → Bool
  | .boolean _, .boolean => true
  | .integer _, .integer => true
  | .integer _, .number => true
  | .number _, .number => true
  | .special _, .number => true
  | .text _, .text => true
  | _, _ => false

def splitValue (value : SignalValue) :
    SignalType → Except TelemetryFault (Option NumericValue × Option String)
  | .number | .integer => (settings.toFloat value).map fun numeric => (numeric, none)
  | .boolean => .ok (some (numericValue (if value.truthy then 1 else 0)), none)
  | .text => .ok (none, some (settings.toText value))

/-- `numeric < minimum`, which is false of NaN. -/
def belowMinimum (numeric : FloatValue) (minimum : Option NumericValue) : Bool :=
  match numeric, minimum with
  | some numeric, some minimum => numeric < minimum
  | _, _ => false

/-- `numeric > maximum`, which is false of NaN. -/
def aboveMaximum (numeric : FloatValue) (maximum : Option NumericValue) : Bool :=
  match numeric, maximum with
  | some numeric, some maximum => maximum < numeric
  | _, _ => false

/-- `value_type in {"number", "integer"}`. -/
def SignalType.numeric : SignalType → Bool
  | .number | .integer => true
  | .boolean | .text => false

structure Classification where
  quality : Quality
  reason : QualityReason
  detail : QualityDetail

/-- The end of `_classify`: how old the sample is. -/
def classifyAge (sample : TelemetrySample) (definition : SignalDefinition) (now : Timestamp)
    (detail : QualityDetail) : Classification :=
  let ageMs := truncate (totalMilliseconds (now - sample.sourceTimestamp))
  let detail := { detail with freshnessAgeMs := some ageMs }
  if definition.freshnessThresholdMs < ageMs then ⟨.uncertain, .stale, detail⟩
  else if ageMs < -5000 then ⟨.uncertain, .clockSkew, detail⟩
  else ⟨.good, .none, detail⟩

def classify (batch : TelemetryBatch) (sample : TelemetrySample) (definition : SignalDefinition)
    (maximumSequence : Option Nat) (now : Timestamp) : Except TelemetryFault Classification :=
  let detail : QualityDetail :=
    { expectedUnit := definition.unit
      observedUnit := sample.unit
      expectedMappingVersion := definition.mappingVersion
      observedMappingVersion := sample.mappingVersion }
  if maximumSequence.any (sample.sequenceNo < ·) then
    .ok ⟨.bad, .outOfOrder, { detail with maximumSequence := maximumSequence }⟩
  else if batch.source ∉ definition.allowedSources then .ok ⟨.bad, .sourceNotAllowed, detail⟩
  else if sample.mappingVersion ≠ definition.mappingVersion then
    .ok ⟨.bad, .mappingVersionMismatch, detail⟩
  else if sample.unit ≠ definition.unit then .ok ⟨.bad, .unitMismatch, detail⟩
  else if !valueMatches sample.value definition.valueType then .ok ⟨.bad, .typeMismatch, detail⟩
  else if definition.valueType.numeric then do
    let numeric ← settings.toFloat sample.value
    if belowMinimum numeric definition.minimum then
      .ok ⟨.bad, .rangeViolation, { detail with minimum := definition.minimum }⟩
    else if aboveMaximum numeric definition.maximum then
      .ok ⟨.bad, .rangeViolation, { detail with maximum := definition.maximum }⟩
    else .ok (classifyAge sample definition now detail)
  else .ok (classifyAge sample definition now detail)

end Values

section Store

variable (store : TelemetryStore)

def TelemetryStore.activeSignal (signalCode : String) : Option SignalDefinition :=
  (store.signals.get? signalCode).filter (·.active)

def TelemetryStore.receiptOf (sampleId : String) : Option Receipt :=
  store.receipts.rows.find? (·.sampleId = sampleId)

def Receipt.owns (receipt : Receipt) (sourceId signalCode : String) (sequenceNo : Nat) : Bool :=
  receipt.sourceId = sourceId && receipt.signalCode = signalCode &&
    receipt.sequenceNo = sequenceNo

def TelemetryStore.sequenceOwner (sourceId signalCode : String) (sequenceNo : Nat) :
    Option Receipt :=
  store.receipts.rows.find? (·.owns sourceId signalCode sequenceNo)

def TelemetryStore.maximumSequence (sourceId signalCode : String) : Option Nat :=
  ((store.receipts.rows.filter fun receipt =>
    receipt.sourceId = sourceId && receipt.signalCode = signalCode).map (·.sequenceNo)).max?

end Store

/-- What the loop of `ingest_batch` keeps. -/
structure IngestLoop where
  store : TelemetryStore
  counts : QualityCounts := {}
  accepted : List SampleReport := []

structure StoredSample where
  sample : TelemetrySample
  classification : Classification
  numericValue : Option NumericValue
  textValue : Option String

section Writes

variable (payload : TelemetryBatch) (now : Timestamp) (stored : StoredSample)

def StoredSample.receipt : Receipt where
  sampleId := stored.sample.sampleId
  payloadHash := stored.sample.identity
  batchId := payload.batchId
  sourceId := payload.sourceId
  signalCode := stored.sample.signalCode
  sequenceNo := stored.sample.sequenceNo
  sourceTimestamp := stored.sample.sourceTimestamp

def StoredSample.measurement : Measurement where
  sampleId := stored.sample.sampleId
  batchId := payload.batchId
  source := payload.source
  sourceId := payload.sourceId
  equipmentCode := payload.equipmentCode
  signalCode := stored.sample.signalCode
  numericValue := stored.numericValue
  textValue := stored.textValue
  unit := stored.sample.unit
  quality := stored.classification.quality
  reason := stored.classification.reason
  mappingVersion := stored.sample.mappingVersion
  sequenceNo := stored.sample.sequenceNo
  sourceTimestamp := stored.sample.sourceTimestamp
  edgeReceivedAt := payload.edgeReceivedAt
  centralIngestedAt := now
  simulationTime := stored.sample.simulationTime

def StoredSample.event : QualityEvent where
  sampleId := stored.sample.sampleId
  sourceId := payload.sourceId
  signalCode := stored.sample.signalCode
  quality := stored.classification.quality
  reason := stored.classification.reason
  detail := stored.classification.detail
  occurredAt := now

def TelemetryStore.record (store : TelemetryStore) : TelemetryStore :=
  { store with
    receipts := store.receipts.insert (stored.receipt payload)
    measurements := store.measurements.insert (stored.measurement payload now)
    qualityEvents :=
      if stored.classification.quality = .good then store.qualityEvents
      else store.qualityEvents.insert (stored.event payload now) }

def IngestLoop.record (loop : IngestLoop) : IngestLoop where
  store := loop.store.record payload now stored
  counts := loop.counts.count stored.classification.quality
  accepted := loop.accepted ++
    [.stored (loop.store.measurements.seq + 1) stored.sample.sampleId stored.sample.signalCode
      stored.classification.quality stored.classification.reason]

def IngestLoop.repeat (loop : IngestLoop) (sample : TelemetrySample) : IngestLoop :=
  { loop with
    counts := { loop.counts with duplicate := loop.counts.duplicate + 1 }
    accepted := loop.accepted ++ [.duplicate sample.sampleId sample.signalCode] }

end Writes

section Ingest

variable (settings : HistorianSettings) (payload : TelemetryBatch) (actor : String)
  (now : Timestamp)

def storeSample (definition : SignalDefinition) (sample : TelemetrySample) (loop : IngestLoop) :
    Except TelemetryFault IngestLoop := do
  check (fitsColumn sample.sequenceNo) .overflowError
  check (loop.store.sequenceOwner payload.sourceId sample.signalCode sample.sequenceNo = none)
    (sequenceIdentityConflict sample.signalCode sample.sequenceNo)
  let maximumSequence := loop.store.maximumSequence payload.sourceId sample.signalCode
  let classification ← classify settings payload sample definition maximumSequence now
  let (numericValue, textValue) ← splitValue settings sample.value definition.valueType
  check (fitsColumn sample.mappingVersion && inUtc payload.edgeReceivedAt) .overflowError
  .ok (loop.record payload now ⟨sample, classification, numericValue, textValue⟩)

/-- The body of the loop of `ingest_batch`. -/
def ingestSample (loop : IngestLoop) (sample : TelemetrySample) :
    Except TelemetryFault IngestLoop := do
  let definition ← orFault (loop.store.activeSignal sample.signalCode)
    (signalNotRegistered sample.signalCode)
  match loop.store.receiptOf sample.sampleId with
  | some receipt =>
    check (receipt.payloadHash = sample.identity) (sampleIdentityConflict sample.sampleId)
    .ok (loop.repeat sample)
  | none => storeSample settings payload now definition sample loop

def batchRow : BatchRow where
  payloadHash := payload.identity
  source := payload.source
  sourceId := payload.sourceId
  equipmentCode := payload.equipmentCode
  sampleCount := payload.samples.length
  ingestedBy := actor
  centralIngestedAt := now

def IngestLoop.response (loop : IngestLoop) : TelemetryResponse where
  batchId := payload.batchId
  counts := loop.counts
  samples := loop.accepted
  centralIngestedAt := now

/-- The branch of `ingest_batch` for a batch that is not there yet. -/
def ingestNew (store : TelemetryStore) :
    Except TelemetryFault (TelemetryResponse × TelemetryStore) := do
  check (payload.equipmentCode ∈ store.equipment) (equipmentNotRegistered payload.equipmentCode)
  let row := batchRow payload actor now
  let opened := { store with batches := store.batches.set payload.batchId row }
  let loop ← payload.samples.foldlM (ingestSample settings payload now) { store := opened }
  let response := loop.response payload now
  let closed := { loop.store with
    batches := loop.store.batches.set payload.batchId { row with response := some response } }
  .ok (response, closed)

def ingestBatch (store : TelemetryStore) :
    Except TelemetryFault ((TelemetryResponse × Bool) × TelemetryStore) := do
  check (payload.samples.all (·.inUtc)) .overflowError
  match store.batches.get? payload.batchId with
  | some row =>
    check (row.payloadHash = payload.identity) (batchIdentityConflict payload.batchId)
    -- the empty text of a row that has no response yet is not JSON
    let response ← orFault row.response (.valueError "")
    .ok (({ response with idempotentReplay := true }, true), store)
  | none =>
    let (response, store) ← ingestNew settings payload actor now store
    .ok ((response, false), store)

end Ingest

def day : Int := 86400 * second

def oneHour : Int := 3600 * second

/-- `timestamp.replace(minute=0, second=0, microsecond=0)`. -/
def hourOf (t : Timestamp) : Timestamp := t - t % oneHour

def Measurement.window (row : Measurement) : AggregateKey where
  sourceId := row.sourceId
  signalCode := row.signalCode
  windowStart := hourOf row.sourceTimestamp

section Aggregates

variable (settings : HistorianSettings) (now : Timestamp) (rows : List Measurement)

def countQuality (quality : Quality) : Nat := rows.countP (·.quality = quality)

/-- The aggregate that `aggregate_hourly` makes of the rows of a window. -/
def hourlyAggregate (key : AggregateKey) : HourlyAggregate :=
  let values := rows.filterMap (·.numericValue)
  { windowEnd := key.windowStart + oneHour
    sampleCount := rows.length
    goodCount := countQuality rows .good
    uncertainCount := countQuality rows .uncertain
    badCount := countQuality rows .bad
    minimum := values.min?
    maximum := values.max?
    average := if values.isEmpty then none else settings.mean values
    generatedAt := now }

def inWindow (key : AggregateKey) : List Measurement := rows.filter (·.window = key)

/-- The keys of `groups`. -/
def windows : List AggregateKey := (rows.map (·.window)).eraseDups

/-- The rows of `telemetry_aggregates_hourly` once every group is written. -/
def writeAggregates (aggregates : Dictionary AggregateKey HourlyAggregate) :
    Dictionary AggregateKey HourlyAggregate :=
  (windows rows).foldl (fun aggregates key =>
    aggregates.set key (hourlyAggregate settings now (inWindow rows key) key)) aggregates

end Aggregates

/-- The bounds of an aggregation, `AggregateTelemetryIn`. -/
structure AggregationBounds where
  fromTimestamp : Option Timestamp := none
  toTimestamp : Option Timestamp := none

def AggregationBounds.holds (bounds : AggregationBounds) (t : Timestamp) : Bool :=
  bounds.fromTimestamp.all (· ≤ t) && bounds.toTimestamp.all (t < ·)

structure AggregationReport where
  windowsWritten : Nat
  sourceRows : Nat

def aggregateHourly (settings : HistorianSettings) (bounds : AggregationBounds) (now : Timestamp)
    (store : TelemetryStore) : AggregationReport × TelemetryStore :=
  let rows := store.measurements.rows.filter fun row => bounds.holds row.sourceTimestamp
  (⟨(windows rows).length, rows.length⟩,
    { store with aggregates := writeAggregates settings now rows store.aggregates })

structure CoverageReport where
  rawRows : Nat
  coveredWindows : Nat

structure CoverageMismatch where
  key : AggregateKey
  expected : Nat
  observed : Nat

def TelemetryStore.expired (store : TelemetryStore) (rawCutoff : Timestamp) : List Measurement :=
  store.measurements.rows.filter (·.sourceTimestamp < rawCutoff)

def TelemetryStore.observedCount (store : TelemetryStore) (rawCutoff : Timestamp)
    (key : AggregateKey) : Option Nat :=
  if key.windowStart < rawCutoff then (store.aggregates.get? key).map (·.sampleCount) else none

def TelemetryStore.mismatches (store : TelemetryStore) (rawCutoff : Timestamp) :
    List CoverageMismatch :=
  let rows := store.expired rawCutoff
  (windows rows).filterMap fun key =>
    let expected := (inWindow rows key).length
    let observed := store.observedCount rawCutoff key
    if observed = some expected then none else some ⟨key, expected, observed.getD 0⟩

def CoverageMismatch.json (mismatch : CoverageMismatch) : Json := .obj
  [("source_id", .str mismatch.key.sourceId), ("signal_code", .str mismatch.key.signalCode),
    ("window_start", .time mismatch.key.windowStart), ("expected", .int mismatch.expected),
    ("observed", .int mismatch.observed)]

def coverageIncomplete (mismatches : List CoverageMismatch) : TelemetryFault := .dataPlatform
  { statusCode := 409
    code := "TELEMETRY_RETENTION_COVERAGE_INCOMPLETE"
    message := "raw telemetry was preserved because hourly aggregate coverage is incomplete"
    context := [("mismatches", .arr ((mismatches.take 20).map (·.json))),
      ("mismatch_count", .int mismatches.length)] }

def retentionCoverage (rawCutoff : Timestamp) (store : TelemetryStore) :
    Except TelemetryFault CoverageReport :=
  let mismatches := store.mismatches rawCutoff
  if mismatches.isEmpty then
    let rows := store.expired rawCutoff
    .ok ⟨rows.length, (windows rows).length⟩
  else .error (coverageIncomplete mismatches)

section Cutoffs

variable (settings : HistorianSettings) (now : Timestamp)

def HistorianSettings.rawCutoff : Timestamp := now - settings.rawRetentionDays * day

def HistorianSettings.aggregateCutoff : Timestamp := now - settings.aggregateRetentionDays * day

end Cutoffs

section Retention

variable (settings : HistorianSettings) (now : Timestamp) (store : TelemetryStore)

/-- `_start_retention_run`, with the identifier of its row. -/
def startRetentionRun (reason actor : String) : Nat × TelemetryStore :=
  let run : RetentionRun :=
    { rawCutoff := settings.rawCutoff now
      aggregateCutoff := settings.aggregateCutoff now
      reason := reason
      createdBy := actor
      startedAt := now }
  (store.retentionRuns.nextId, { store with retentionRuns := store.retentionRuns.insert run })

def TelemetryStore.updateRun (runId : Nat) (f : RetentionRun → RetentionRun) : TelemetryStore :=
  match store.retentionRuns.find? runId with
  | some run => { store with retentionRuns := store.retentionRuns.set runId (f run) }
  | none => store

def failRetentionRun (runId : Nat) : TelemetryStore :=
  store.updateRun runId fun run =>
    { run with
      status := .failed
      completedAt := some now }

def TelemetryStore.purged (aggregateCutoff : Timestamp) :
    Dictionary AggregateKey HourlyAggregate :=
  store.aggregates.keepIf fun _ aggregate => !decide (aggregate.windowEnd ≤ aggregateCutoff)

/-- The last transaction of `run_retention`. -/
def deleteExpired (rawCutoff aggregateCutoff : Timestamp) (runId : Nat) : TelemetryStore :=
  let rawDeleted := (store.expired rawCutoff).length
  let aggregates := store.purged aggregateCutoff
  let aggregateDeleted := store.aggregates.items.length - aggregates.items.length
  let store := { store with
    measurements := store.measurements.delete fun entry => entry.2.sourceTimestamp < rawCutoff
    aggregates := aggregates }
  store.updateRun runId fun run =>
    { run with
      rawDeleted := rawDeleted
      aggregateDeleted := aggregateDeleted
      status := .completed
      completedAt := some now }

/-- What `run_retention` returns or raises; what it has committed stays. -/
structure RetentionReply where
  runId : Nat
  aggregation : AggregationReport
  coverage : Except TelemetryFault CoverageReport

def runRetention (reason actor : String) : RetentionReply × TelemetryStore :=
  let rawCutoff := settings.rawCutoff now
  let (runId, store) := startRetentionRun settings now store reason actor
  let bounds : AggregationBounds := { toTimestamp := some rawCutoff }
  let (aggregation, store) := aggregateHourly settings bounds now store
  match retentionCoverage rawCutoff store with
  | .ok coverage =>
    (⟨runId, aggregation, .ok coverage⟩,
      deleteExpired now store rawCutoff (settings.aggregateCutoff now) runId)
  | .error fault => (⟨runId, aggregation, .error fault⟩, failRetentionRun now store runId)

end Retention

section TelemetryHistory

open Relational Serial

/-- A call of the data platform; `register` stands for whatever changes its master data. -/
inductive TelemetryCall where
  | ingest (payload : TelemetryBatchIn) (actor : String) (now : Timestamp)
  | retention (reason actor : String) (now : Timestamp)
  | register (signals : Dictionary String SignalDefinition) (equipment : List String)

inductive TelemetryReply where
  | ingested (response : TelemetryResponse) (replayed : Bool)
  | retained (reply : RetentionReply)
  | registered

def dataPlatform (settings : HistorianSettings) :
    Authority TelemetryCall TelemetryStore TelemetryReply TelemetryFault where
  attempt call store :=
    match call with
    | .ingest payload actor now => do
      let ((response, replayed), store) ← ingestBatch settings payload.1 actor now store
      .ok (.ingested response replayed, store)
    | .retention reason actor now =>
      let (reply, store) := runRetention settings now store reason actor
      .ok (.retained reply, store)
    | .register signals equipment =>
      .ok (.registered, { store with signals := signals, equipment := equipment })

def insertedSince {α : Type} (before after : SerialTable α) : List (Nat × α) :=
  after.entries.filter fun entry => before.seq < entry.1

structure Historian where
  store : TelemetryStore
  ingested : List (Nat × Measurement) := []

def historian (settings : HistorianSettings) :
    Authority TelemetryCall Historian TelemetryReply TelemetryFault where
  attempt call history := do
    let (reply, store) ← (dataPlatform settings).attempt call history.store
    let inserted := insertedSince history.store.measurements store.measurements
    .ok (reply, ⟨store, history.ingested ++ inserted⟩)

def Historian.start (signals : Dictionary String SignalDefinition) (equipment : List String) :
    Historian :=
  ⟨.registered signals equipment, []⟩

/-- What a measurement's `sequence_no` is of. -/
def Measurement.sequenceKey (row : Measurement) : String × String × Nat :=
  (row.sourceId, row.signalCode, row.sequenceNo)

def Receipt.sequenceKey (receipt : Receipt) : String × String × Nat :=
  (receipt.sourceId, receipt.signalCode, receipt.sequenceNo)

end TelemetryHistory

variable {settings : HistorianSettings} {payload : TelemetryBatch} {now : Timestamp}
  {definition : SignalDefinition} {sample : TelemetrySample} {samples : List TelemetrySample}
  {stored : StoredSample} {all : List StoredSample} {store store' : TelemetryStore}
  {loop loop' : IngestLoop}

structure StoresSample (settings : HistorianSettings) (payload : TelemetryBatch) (now : Timestamp)
    (store : TelemetryStore) (stored : StoredSample) : Prop where
  fresh : store.receiptOf stored.sample.sampleId = none
  unowned : store.sequenceOwner payload.sourceId stored.sample.signalCode
    stored.sample.sequenceNo = none
  fits : fitsColumn stored.sample.sequenceNo = true ∧
    (fitsColumn stored.sample.mappingVersion && inUtc payload.edgeReceivedAt) = true
  values : ∃ definition, store.activeSignal stored.sample.signalCode = some definition ∧
    classify settings payload stored.sample definition
      (store.maximumSequence payload.sourceId stored.sample.signalCode) now =
        .ok stored.classification ∧
    splitValue settings stored.sample.value definition.valueType =
      .ok (stored.numericValue, stored.textValue)

theorem storeSample_eq_ok : storeSample settings payload now definition sample loop = .ok loop' →
    store = loop.store → store.activeSignal sample.signalCode = some definition →
    store.receiptOf sample.sampleId = none →
    ∃ stored, stored.sample = sample ∧ StoresSample settings payload now store stored ∧
      loop' = loop.record payload now stored := by
  intro h same active fresh
  subst same
  obtain ⟨_, fits, h⟩ := of_bind h
  obtain ⟨_, unowned, h⟩ := of_bind h
  obtain ⟨classification, classified, h⟩ := of_bind h
  obtain ⟨⟨numericValue, textValue⟩, split, h⟩ := of_bind h
  obtain ⟨_, mapping, h⟩ := of_bind h
  rw [check_eq_ok] at fits unowned mapping
  cases h
  refine ⟨⟨sample, classification, numericValue, textValue⟩, rfl, ?_, rfl⟩
  exact {
    fresh := fresh
    unowned := unowned
    fits := ⟨fits, mapping⟩
    values := ⟨definition, active, classified, split⟩ }

theorem ingestSample_cases (h : ingestSample settings payload now loop sample = .ok loop') :
    (loop' = loop.repeat sample ∧ ∃ receipt, loop.store.receiptOf sample.sampleId = some receipt ∧
      receipt.payloadHash = sample.identity) ∨
    ∃ stored, stored.sample = sample ∧ StoresSample settings payload now loop.store stored ∧
      loop' = loop.record payload now stored := by
  obtain ⟨definition, active, h⟩ := of_bind h
  rw [orFault_eq_ok] at active
  split at h
  next receipt found =>
    obtain ⟨_, same, h⟩ := of_bind h
    rw [check_eq_ok] at same
    exact .inl ⟨(Except.ok.inj h).symm, receipt, found, same⟩
  next none => exact .inr (storeSample_eq_ok h rfl active none)

/-- The samples of a loop that have a receipt are left, and the others are stored. -/
inductive Ingests (settings : HistorianSettings) (payload : TelemetryBatch) (now : Timestamp) :
    TelemetryStore → List TelemetrySample → List StoredSample → TelemetryStore → Prop
  | nil (store : TelemetryStore) : Ingests settings payload now store [] [] store
  | repeated {store store' : TelemetryStore} {sample : TelemetrySample}
      {samples : List TelemetrySample} {all : List StoredSample} (receipt : Receipt)
      (found : store.receiptOf sample.sampleId = some receipt)
      (same : receipt.payloadHash = sample.identity)
      (rest : Ingests settings payload now store samples all store') :
      Ingests settings payload now store (sample :: samples) all store'
  | stored {store store' : TelemetryStore} {samples : List TelemetrySample}
      {all : List StoredSample} (stored : StoredSample)
      (first : StoresSample settings payload now store stored)
      (rest : Ingests settings payload now (store.record payload now stored) samples all store') :
      Ingests settings payload now store (stored.sample :: samples) (stored :: all) store'

theorem QualityCounts.total_count (counts : QualityCounts) (quality : Quality) :
    (counts.count quality).total = counts.total + 1 := by
  cases quality <;> simp only [QualityCounts.count, QualityCounts.total] <;> omega

theorem ingestSamples_ingests
    (h : samples.foldlM (ingestSample settings payload now) loop = .ok loop') :
    loop'.counts.total = loop.counts.total + samples.length ∧
      ∃ all, Ingests settings payload now loop.store samples all loop'.store := by
  induction samples generalizing loop with
  | nil =>
    cases h
    exact ⟨rfl, [], .nil _⟩
  | cons sample samples ih =>
    obtain ⟨mid, first, rest⟩ := of_bind h
    obtain ⟨counts, all, ingests⟩ := ih rest
    rw [List.length_cons]
    rcases ingestSample_cases first with ⟨rfl, receipt, found, same⟩ | ⟨stored, rfl, stores, rfl⟩
    · have one : (loop.repeat sample).counts.total = loop.counts.total + 1 := rfl
      exact ⟨by omega, all, .repeated receipt found same ingests⟩
    · have one : (loop.record payload now stored).counts.total = loop.counts.total + 1 :=
        QualityCounts.total_count _ _
      exact ⟨by omega, stored :: all, .stored stored stores ingests⟩

def TelemetryStore.recordAll (payload : TelemetryBatch) (now : Timestamp) (store : TelemetryStore)
    (all : List StoredSample) : TelemetryStore :=
  all.foldl (fun store stored => store.record payload now stored) store

theorem Ingests.store_eq (ingests : Ingests settings payload now store samples all store') :
    store' = store.recordAll payload now all := by
  induction ingests with
  | nil => rfl
  | repeated _ _ _ _ ih => exact ih
  | stored _ _ _ ih => exact ih

theorem Ingests.sublist (ingests : Ingests settings payload now store samples all store') :
    (all.map (·.sample)).Sublist samples := by
  induction ingests with
  | nil => exact List.Sublist.refl _
  | repeated _ _ _ _ ih => exact ih.cons _
  | stored _ _ _ ih => exact ih.cons_cons _

section Record

variable (payload : TelemetryBatch) (now : Timestamp) (store : TelemetryStore)
  (all : List StoredSample)

theorem recordAll_receipts : (store.recordAll payload now all).receipts.rows =
    store.receipts.rows ++ all.map (·.receipt payload) := by
  induction all generalizing store with
  | nil => exact (List.append_nil _).symm
  | cons stored all ih =>
    have rest := ih (store.record payload now stored)
    rw [List.map_cons, List.append_cons]
    exact rest

def StoredSample.poor (stored : StoredSample) : Bool := stored.classification.quality ≠ .good

theorem recordAll_qualityEvents : (store.recordAll payload now all).qualityEvents.rows =
    store.qualityEvents.rows ++ (all.filter (·.poor)).map (·.event payload now) := by
  induction all generalizing store with
  | nil => exact (List.append_nil _).symm
  | cons stored all ih =>
    have rest := ih (store.record payload now stored)
    have here : (store.record payload now stored).qualityEvents.rows =
        store.qualityEvents.rows ++
          ([stored].filter (·.poor)).map (·.event payload now) := by
      unfold TelemetryStore.record
      by_cases good : stored.classification.quality = .good
      · simp [StoredSample.poor, good]
      · simp [StoredSample.poor, good, Table.insert]
    rw [← List.singleton_append, List.filter_append, List.map_append, ← List.append_assoc, ← here]
    exact rest

theorem recordAll_measurements : ∃ entries,
    (store.recordAll payload now all).measurements.entries =
        store.measurements.entries ++ entries ∧
      entries.map Prod.snd = all.map (·.measurement payload now) ∧
      (∀ entry ∈ entries, store.measurements.seq < entry.1) ∧
      store.measurements.seq ≤ (store.recordAll payload now all).measurements.seq := by
  induction all generalizing store with
  | nil =>
    exact ⟨[], (List.append_nil _).symm, rfl, fun entry none => absurd none List.not_mem_nil,
      Nat.le_refl _⟩
  | cons stored all ih =>
    obtain ⟨entries, rest, rows, later, grown⟩ := ih (store.record payload now stored)
    have own : (store.record payload now stored).measurements.seq =
        store.measurements.seq + 1 := rfl
    refine ⟨(store.measurements.seq + 1, stored.measurement payload now) :: entries, ?_, ?_, ?_,
      Nat.le_trans (Nat.le_succ _) grown⟩
    · rw [List.append_cons]
      exact rest
    · rw [List.map_cons, List.map_cons, rows]
    · intro entry member
      rcases List.mem_cons.mp member with rfl | h
      · exact Nat.lt_succ_self _
      · have after := later entry h
        omega

theorem recordAll_frame : (store.recordAll payload now all).signals = store.signals ∧
    (store.recordAll payload now all).equipment = store.equipment ∧
    (store.recordAll payload now all).batches = store.batches ∧
    (store.recordAll payload now all).aggregates = store.aggregates ∧
    (store.recordAll payload now all).retentionRuns = store.retentionRuns := by
  induction all generalizing store with
  | nil => exact ⟨rfl, rfl, rfl, rfl, rfl⟩
  | cons stored all ih => exact ih (store.record payload now stored)

end Record

section Inserted

variable {α : Type} {before after : SerialTable α} {new : List (Nat × α)}

theorem insertedSince_append (entries : after.entries = before.entries ++ new)
    (later : ∀ entry ∈ new, before.seq < entry.1) : insertedSince before after = new := by
  have old : before.entries.filter (fun entry => before.seq < entry.1) = [] := by
    rw [List.filter_eq_nil_iff]
    intro entry member
    have given := before.given entry member
    rw [decide_eq_true_eq]
    omega
  unfold insertedSince
  rw [entries, List.filter_append, old, List.nil_append, List.filter_eq_self]
  exact fun entry member => decide_eq_true (later entry member)

theorem insertedSince_later : ∀ entry ∈ insertedSince before after, before.seq < entry.1 := by
  intro entry member
  simpa using (List.mem_filter.mp member).2

theorem insertedSince_subset (subset : after.entries ⊆ before.entries) :
    insertedSince before after = [] := by
  unfold insertedSince
  rw [List.filter_eq_nil_iff]
  intro entry member
  have given := before.given entry (subset member)
  rw [decide_eq_true_eq]
  omega

end Inserted

structure BatchIngested (settings : HistorianSettings) (payload : TelemetryBatch) (now : Timestamp)
    (store : TelemetryStore) (response : TelemetryResponse) (store' : TelemetryStore)
    (all : List StoredSample) : Prop where
  absent : store.batches.get? payload.batchId = none
  times : payload.samples.all (·.inUtc) = true
  registered : payload.equipmentCode ∈ store.equipment
  total : response.counts.total = payload.samples.length
  plain : response.idempotentReplay = false
  ingests : ∃ opened, opened.receipts = store.receipts ∧ opened.signals = store.signals ∧
    Ingests settings payload now opened payload.samples all (opened.recordAll payload now all)
  receipts : store'.receipts.rows = store.receipts.rows ++ all.map (·.receipt payload)
  events : store'.qualityEvents.rows =
    store.qualityEvents.rows ++ (all.filter (·.poor)).map (·.event payload now)
  inserted : (insertedSince store.measurements store'.measurements).map Prod.snd =
    all.map (·.measurement payload now)
  entries : store'.measurements.entries =
    store.measurements.entries ++ insertedSince store.measurements store'.measurements
  seq : store.measurements.seq ≤ store'.measurements.seq
  row : ∃ row, row.payloadHash = payload.identity ∧ row.response = some response ∧
    row.sourceId = payload.sourceId ∧ ∀ batchId, store'.batches.get? batchId =
      if batchId = payload.batchId then some row else store.batches.get? batchId
  frame : store'.signals = store.signals ∧ store'.equipment = store.equipment ∧
    store'.aggregates = store.aggregates ∧ store'.retentionRuns = store.retentionRuns

variable {actor : String} {response : TelemetryResponse} {replayed : Bool}

theorem ingestNew_ingested (absent : store.batches.get? payload.batchId = none)
    (times : payload.samples.all (·.inUtc) = true)
    (h : ingestNew settings payload actor now store = .ok (response, store')) :
    ∃ all, BatchIngested settings payload now store response store' all := by
  obtain ⟨_, registered, h⟩ := of_bind h
  obtain ⟨loop, round, h⟩ := of_bind h
  rw [check_eq_ok] at registered
  cases h
  obtain ⟨total, all, ingests⟩ := ingestSamples_ingests round
  have left := ingests.store_eq
  rw [left] at ingests
  obtain ⟨entries, measurements, rows, later, grown⟩ := recordAll_measurements payload now
    { store with batches := store.batches.set payload.batchId (batchRow payload actor now) } all
  obtain ⟨signals, equipment, batches, aggregates, runs⟩ := recordAll_frame payload now
    { store with batches := store.batches.set payload.batchId (batchRow payload actor now) } all
  rw [← left] at measurements grown signals equipment batches aggregates runs
  have inserted := insertedSince_append measurements later
  exact ⟨all, {
    absent := absent
    times := times
    registered := registered
    total := total.trans (Nat.zero_add _)
    plain := rfl
    ingests := ⟨{ store with
      batches := store.batches.set payload.batchId (batchRow payload actor now) }, rfl, rfl,
        ingests⟩
    receipts := by
      rw [left]
      exact recordAll_receipts payload now _ all
    events := by
      rw [left]
      exact recordAll_qualityEvents payload now _ all
    inserted := by
      rw [inserted]
      exact rows
    entries := by
      rw [inserted]
      exact measurements
    seq := grown
    row := by
      refine ⟨{ batchRow payload actor now with response := some (loop.response payload now) },
        rfl, rfl, rfl, fun batchId => ?_⟩
      rw [batches, Dictionary.get?_set, Dictionary.get?_set]
      split
      next => rfl
      next => rfl
    frame := ⟨signals, equipment, aggregates, runs⟩ }⟩

theorem BatchIngested.forall_batches {P : BatchRow → Prop}
    (new : BatchIngested settings payload now store response store' all)
    (own : ∀ row, row.payloadHash = payload.identity → row.response = some response →
      row.sourceId = payload.sourceId → P row)
    (each : ∀ batchId row, store.batches.get? batchId = some row → P row) :
    ∀ batchId row, store'.batches.get? batchId = some row → P row := by
  obtain ⟨row, hash, answer, source, rows⟩ := new.row
  intro batchId other found
  rw [rows] at found
  split at found
  next =>
    cases found
    exact own row hash answer source
  next => exact each batchId other found

structure BatchReplayed (payload : TelemetryBatch) (store : TelemetryStore)
    (response : TelemetryResponse) (store' : TelemetryStore) : Prop where
  committed : ∃ row before, store.batches.get? payload.batchId = some row ∧
    row.payloadHash = payload.identity ∧ row.response = some before ∧
    response = { before with idempotentReplay := true }
  same : store' = store

/-- An answered batch is the replay of a stored one or has been ingested. -/
theorem ingestBatch_cases
    (h : ingestBatch settings payload actor now store = .ok ((response, replayed), store')) :
    (replayed = true ∧ BatchReplayed payload store response store') ∨
      (replayed = false ∧ ∃ all, BatchIngested settings payload now store response store' all) := by
  obtain ⟨_, times, h⟩ := of_bind h
  rw [check_eq_ok] at times
  split at h
  next row found =>
    obtain ⟨_, same, h⟩ := of_bind h
    obtain ⟨before, answered, h⟩ := of_bind h
    rw [check_eq_ok] at same
    rw [orFault_eq_ok] at answered
    cases h
    exact .inl ⟨rfl, ⟨row, before, found, same, answered, rfl⟩, rfl⟩
  next absent =>
    obtain ⟨⟨_, _⟩, new, h⟩ := of_bind h
    cases h
    exact .inr ⟨rfl, ingestNew_ingested absent times new⟩

end MiniOgas
