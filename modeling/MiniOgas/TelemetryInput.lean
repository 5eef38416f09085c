import Mathlib.Algebra.Order.Field.Rat
import Mathlib.Data.Rat.Floor
import MiniOgas.Payload

namespace MiniOgas

/-- `round(q)`. -/
def roundHalfEven (q : ℚ) : Int :=
  let rest := q - q.floor
  if rest < 1 / 2 then q.floor
  else if 1 / 2 < rest then q.floor + 1
  else if q.floor % 2 = 0 then q.floor
  else q.floor + 1

/-- The exponent of the greatest power of two that is not above `|q|`. -/
def binaryExponent (q : ℚ) : Int :=
  let exponent : Int := q.num.natAbs.log2 - q.den.log2
  if (2 : ℚ) ^ exponent ≤ |q| then exponent else exponent - 1

/-- The `float` nearest to a number that is not too small for 53 bits. -/
def toDouble (q : ℚ) : ℚ :=
  if q = 0 then 0
  else
    let unit := (2 : ℚ) ^ (binaryExponent q - 52)
    roundHalfEven (q / unit) * unit

/-- `float(n)`, which raises when the number is too large. -/
def floatOfInt (n : Int) : Option ℚ :=
  let rounded := toDouble n
  if |rounded| < 2 ^ 1024 then some rounded else none

/-- `int(q)`. -/
def truncate (q : ℚ) : Int := if 0 ≤ q then q.floor else q.ceil

/-- `timedelta(microseconds=duration).total_seconds() * 1_000`. -/
def totalMilliseconds (duration : Int) : ℚ := toDouble (toDouble (duration / 1000000) * 1000)

inductive DataSource where
  | simulated
  | replay
  | shadow
  | live
deriving DecidableEq

/-- The values of `float` that are not rationals. -/
inductive SpecialFloat where
  | negativeZero
  | infinity
  | negativeInfinity
  | notANumber
deriving DecidableEq

/-- The `value` of a sample. -/
inductive SignalValue where
  | number (q : ℚ)
  | special (x : SpecialFloat)
  | integer (n : Int)
  | boolean (b : Bool)
  | text (s : String)
deriving DecidableEq

structure TelemetrySample where
  sampleId : String
  signalCode : String
  value : SignalValue
  unit : String := ""
  mappingVersion : Int
  sequenceNo : Nat
  sourceTimestamp : Timestamp
  simulationTime : Option Timestamp := none
deriving DecidableEq

structure TelemetryBatch where
  batchId : String
  source : DataSource
  sourceId : String
  equipmentCode : String
  edgeReceivedAt : Timestamp
  samples : List TelemetrySample
deriving DecidableEq

/-- The validators of `TelemetryBatchIn` and `TelemetrySampleIn`. -/
structure TelemetryBatch.Valid (batch : TelemetryBatch) : Prop where
  nonempty : batch.samples ≠ []
  bounded : batch.samples.length ≤ 2000
  mapped : ∀ sample ∈ batch.samples, 0 < sample.mappingVersion
  sampleIds : (batch.samples.map (·.sampleId)).Nodup
  sequences : (batch.samples.map fun sample => (sample.signalCode, sample.sequenceNo)).Nodup

theorem TelemetryBatch.valid_iff (batch : TelemetryBatch) : batch.Valid ↔
    batch.samples ≠ [] ∧ batch.samples.length ≤ 2000 ∧
      (∀ sample ∈ batch.samples, 0 < sample.mappingVersion) ∧
      (batch.samples.map (·.sampleId)).Nodup ∧
      (batch.samples.map fun sample => (sample.signalCode, sample.sequenceNo)).Nodup :=
  ⟨fun h => ⟨h.nonempty, h.bounded, h.mapped, h.sampleIds, h.sequences⟩,
    fun ⟨nonempty, bounded, mapped, sampleIds, sequences⟩ =>
      ⟨nonempty, bounded, mapped, sampleIds, sequences⟩⟩

instance (batch : TelemetryBatch) : Decidable batch.Valid :=
  decidable_of_iff _ batch.valid_iff.symm

abbrev TelemetryBatchIn := { batch : TelemetryBatch // batch.Valid }

/-- `_payload_sequence`. -/
def TelemetryBatch.sequence (batch : TelemetryBatch) : Nat :=
  (batch.samples.map (·.sequenceNo)).foldl max 0

end MiniOgas
