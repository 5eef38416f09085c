import MiniOgas.Dictionary
import MiniOgas.SerialTable
import MiniOgas.Table
import MiniOgas.TelemetryInput
import Mathlib.Order.WithBot

namespace MiniOgas

open Relational

/-- A `float` other than NaN. -/
abbrev NumericValue := WithBot (WithTop ℚ)

/-- A `float`, which is nothing when it is NaN: that is also what the column then holds. -/
abbrev FloatValue := Option NumericValue

def numericValue (q : ℚ) : NumericValue := ((q : WithTop ℚ) : WithBot (WithTop ℚ))

def SpecialFloat.toFloat : SpecialFloat → FloatValue
  | .negativeZero => some (numericValue 0)
  | .infinity => some ((⊤ : WithTop ℚ) : WithBot (WithTop ℚ))
  | .negativeInfinity => some ⊥
  | .notANumber => none

inductive SignalType where
  | number
  | integer
  | boolean
  | text

structure SignalDefinition where
  valueType : SignalType
  unit : String := ""
  minimum : Option NumericValue := none
  maximum : Option NumericValue := none
  freshnessThresholdMs : Int
  allowedSources : List DataSource
  mappingVersion : Int
  active : Bool := true

inductive Quality where
  | good
  | uncertain
  | bad
deriving DecidableEq

inductive QualityReason where
  | none
  | outOfOrder
  | sourceNotAllowed
  | mappingVersionMismatch
  | unitMismatch
  | typeMismatch
  | rangeViolation
  | stale
  | clockSkew
deriving DecidableEq

/-- The `detail` of a classification; an entry that is not made is none. -/
structure QualityDetail where
  expectedUnit : String
  observedUnit : String
  expectedMappingVersion : Int
  observedMappingVersion : Int
  maximumSequence : Option Nat := none
  minimum : Option NumericValue := none
  maximum : Option NumericValue := none
  freshnessAgeMs : Option Int := none

structure QualityCounts where
  good : Nat := 0
  uncertain : Nat := 0
  bad : Nat := 0
  duplicate : Nat := 0

/-- `counts[quality_code] += 1`. -/
def QualityCounts.count (counts : QualityCounts) : Quality → QualityCounts
  | .good => { counts with good := counts.good + 1 }
  | .uncertain => { counts with uncertain := counts.uncertain + 1 }
  | .bad => { counts with bad := counts.bad + 1 }

def QualityCounts.total (counts : QualityCounts) : Nat :=
  counts.good + counts.uncertain + counts.bad + counts.duplicate

inductive SampleReport where
  | stored (measurementId : Nat) (sampleId signalCode : String) (quality : Quality)
      (reason : QualityReason)
  | duplicate (sampleId signalCode : String)

structure TelemetryResponse where
  batchId : String
  idempotentReplay : Bool := false
  counts : QualityCounts
  samples : List SampleReport
  centralIngestedAt : Timestamp

/-- `_logical_batch_identity`. -/
structure BatchIdentity where
  batchId : String
  source : DataSource
  sourceId : String
  equipmentCode : String
  samples : List TelemetrySample
deriving DecidableEq

structure SampleIdentity where
  sampleId : String
  signalCode : String
  value : SignalValue
  unit : String
  mappingVersion : Int
  sequenceNo : Nat
deriving DecidableEq

/-- A row of `ingest_batches`. A digest is represented by what it is taken of. -/
structure BatchRow where
  payloadHash : BatchIdentity
  source : DataSource
  sourceId : String
  equipmentCode : String
  sampleCount : Nat
  response : Option TelemetryResponse := none
  ingestedBy : String
  centralIngestedAt : Timestamp

structure Receipt where
  sampleId : String
  payloadHash : SampleIdentity
  batchId : String
  sourceId : String
  signalCode : String
  sequenceNo : Nat
  sourceTimestamp : Timestamp

structure Measurement where
  sampleId : String
  batchId : String
  source : DataSource
  sourceId : String
  equipmentCode : String
  signalCode : String
  numericValue : Option NumericValue
  textValue : Option String
  unit : String
  quality : Quality
  reason : QualityReason
  mappingVersion : Int
  sequenceNo : Nat
  sourceTimestamp : Timestamp
  edgeReceivedAt : Timestamp
  centralIngestedAt : Timestamp
  simulationTime : Option Timestamp
deriving DecidableEq

structure QualityEvent where
  sampleId : String
  sourceId : String
  signalCode : String
  quality : Quality
  reason : QualityReason
  detail : QualityDetail
  occurredAt : Timestamp

structure AggregateKey where
  sourceId : String
  signalCode : String
  windowStart : Timestamp
deriving DecidableEq

/-- A row of `aggregates_hourly`, without its key. -/
structure HourlyAggregate where
  windowEnd : Timestamp
  sampleCount : Nat
  goodCount : Nat
  uncertainCount : Nat
  badCount : Nat
  minimum : Option NumericValue
  maximum : Option NumericValue
  average : FloatValue
  generatedAt : Timestamp

inductive RetentionStatus where
  | running
  | completed
  | failed

structure RetentionRun where
  rawCutoff : Timestamp
  aggregateCutoff : Timestamp
  rawDeleted : Nat := 0
  aggregateDeleted : Nat := 0
  status : RetentionStatus := .running
  reason : String
  createdBy : String
  startedAt : Timestamp
  completedAt : Option Timestamp := none

structure TelemetryStore where
  signals : Dictionary String SignalDefinition
  equipment : List String
  batches : Dictionary String BatchRow
  receipts : Table Receipt
  measurements : SerialTable Measurement
  qualityEvents : Table QualityEvent
  aggregates : Dictionary AggregateKey HourlyAggregate
  retentionRuns : Table RetentionRun

def TelemetryStore.registered (signals : Dictionary String SignalDefinition)
    (equipment : List String) : TelemetryStore where
  signals := signals
  equipment := equipment
  batches := .empty
  receipts := Table.empty
  measurements := .empty
  qualityEvents := Table.empty
  aggregates := .empty
  retentionRuns := Table.empty

structure HistorianSettings where
  /-- `float` of a text, which raises on some. -/
  parseFloat : String → Option FloatValue
  /-- `str` of a value that is not a text. -/
  str : SignalValue → String
  /-- `sum(values) / len(values)`. -/
  mean : List NumericValue → FloatValue
  rawRetentionDays : Nat
  aggregateRetentionDays : Nat

/-- What `ingest_batch` and `run_retention` raise. -/
inductive TelemetryFault where
  | dataPlatform (error : AuthorityError)
  | valueError (text : String)
  | overflowError

end MiniOgas
