import MiniOgas.StepSystem
import MiniOgas.TelemetryStore

namespace MiniOgas

open Steps

/-- The value of a latest-value key: the columns of its row that are projected. -/
structure LatestValue where
  id : Nat
  sampleId : String
  source : DataSource
  sourceId : String
  equipmentCode : String
  signalCode : String
  numericValue : Option NumericValue
  textValue : Option String
  unit : String
  quality : Quality
  reason : QualityReason
  sourceTimestamp : Timestamp
  centralIngestedAt : Timestamp

def latestValue (row : Nat × Measurement) : LatestValue where
  id := row.1
  sampleId := row.2.sampleId
  source := row.2.source
  sourceId := row.2.sourceId
  equipmentCode := row.2.equipmentCode
  signalCode := row.2.signalCode
  numericValue := row.2.numericValue
  textValue := row.2.textValue
  unit := row.2.unit
  quality := row.2.quality
  reason := row.2.reason
  sourceTimestamp := row.2.sourceTimestamp
  centralIngestedAt := row.2.centralIngestedAt

/-- A latest-value key: the generation of its namespace, and what follows it. -/
abbrev LatestKey := String × String

def latestKey (generation : String) (row : Nat × Measurement) : LatestKey :=
  (generation, s!"{row.2.sourceId}:{row.2.signalCode}")

/-- The keys below `_root`. -/
structure RedisServer where
  latest : Dictionary LatestKey LatestValue := .empty
  activeGeneration : Option String := none
  rebuildLock : Option String := none

structure ProjectionCheckpoint where
  generation : String
  measurementCount : Nat
  projectedKeyCount : Nat
  maximumId : Nat
  status : String
  reason : String
  actor : String

/-- What `projection_source` reads. -/
structure ProjectionSource where
  rows : List (Nat × Measurement)
  measurementCount : Nat
  maximumId : Nat

/-- A call of `rebuild`, with the generation and the lock value that it draws. -/
structure RebuildCall where
  generation : String
  lockValue : String
  source : ProjectionSource
  reason : String
  actor : String

def RebuildCall.createdKeys (call : RebuildCall) : List LatestKey :=
  call.source.rows.map (latestKey call.generation)

inductive RebuildFault where
  | dataPlatform (error : AuthorityError)
  | redis
  | database

structure RebuildReport where
  generation : String
  measurementCount : Nat
  projectedKeyCount : Nat
  maximumId : Nat
  checkpoint : ProjectionCheckpoint

abbrev RebuildReply := Except RebuildFault RebuildReport

/-- The command that a rebuild runs next; a clean-up that is `guarded` swallows its error. -/
inductive RebuildPhase where
  | ping
  | lock
  | project (rows : List (Nat × Measurement)) (failed : Bool)
  | verify
  | activate
  | checkpoint
  | cleanUp (guarded : Bool) (fault : RebuildFault)
  | readLock (reply : RebuildReply)
  | releaseLock (reply : RebuildReply)
  | ended (reply : RebuildReply)

structure Rebuild where
  call : RebuildCall
  phase : RebuildPhase := .ping

structure ProjectionSystem where
  redis : RedisServer := {}
  checkpoints : List ProjectionCheckpoint := []
  rebuilds : Dictionary String Rebuild := .empty

inductive Fate where
  | refused
  | answered
  | unanswered
deriving DecidableEq

def Fate.executed : Fate → Bool
  | .refused => false
  | .answered | .unanswered => true

def rebuildInProgress : RebuildFault := .dataPlatform
  { statusCode := 409, code := "REDIS_PROJECTION_REBUILD_IN_PROGRESS"
    message := "another projection rebuild currently owns the Redis lock" }

def verificationFailed (expected observed : Nat) : RebuildFault := .dataPlatform
  { statusCode := 503, code := "REDIS_PROJECTION_VERIFICATION_FAILED"
    message := "Redis did not retain every projected latest-value key"
    context := [("expected", .int expected), ("observed", .int observed)] }

def projectionUnavailable : RebuildFault := .dataPlatform
  { statusCode := 503, code := "REDIS_PROJECTION_UNAVAILABLE"
    message := "Redis projection could not be reached or verified" }

def cleanUpPhase (created : List LatestKey) (guarded : Bool) (fault : RebuildFault) :
    RebuildPhase :=
  if created = [] then .readLock (.error fault) else .cleanUp guarded fault

/-- The phase after a `SET` of the pipeline. -/
def projectPhase (created : List LatestKey) (rest : List (Nat × Measurement)) (failed : Bool) :
    RebuildPhase :=
  match rest with
  | [] => if failed then cleanUpPhase created true projectionUnavailable else .verify
  | row :: rest => .project (row :: rest) failed

def RebuildCall.checkpoint (call : RebuildCall) : ProjectionCheckpoint where
  generation := call.generation
  measurementCount := call.source.measurementCount
  projectedKeyCount := call.createdKeys.length
  maximumId := call.source.maximumId
  status := "active"
  reason := call.reason
  actor := call.actor

def RebuildCall.report (call : RebuildCall) : RebuildReport where
  generation := call.generation
  measurementCount := call.source.measurementCount
  projectedKeyCount := call.createdKeys.length
  maximumId := call.source.maximumId
  checkpoint := call.checkpoint

def RedisServer.delete (redis : RedisServer) (keys : List LatestKey) : RedisServer :=
  { redis with latest := redis.latest.keepIf fun key _ => decide (key ∉ keys) }

/-- How many of the keys `client.mget` finds. -/
def RedisServer.present (redis : RedisServer) (keys : List LatestKey) : Nat :=
  keys.countP fun key => (redis.latest.get? key).isSome

def RebuildPhase.execute (call : RebuildCall) (system : ProjectionSystem) :
    RebuildPhase → ProjectionSystem
  | .lock =>
    match system.redis.rebuildLock with
    | none => { system with redis := { system.redis with rebuildLock := some call.lockValue } }
    | some _ => system
  | .project (row :: _) _ =>
    let latest := system.redis.latest.set (latestKey call.generation row) (latestValue row)
    { system with redis := { system.redis with latest := latest } }
  | .activate =>
    { system with redis := { system.redis with activeGeneration := some call.generation } }
  | .checkpoint => { system with checkpoints := system.checkpoints ++ [call.checkpoint] }
  | .cleanUp _ _ => { system with redis := system.redis.delete call.createdKeys }
  | .releaseLock _ => { system with redis := { system.redis with rebuildLock := none } }
  | .ping | .project [] _ | .verify | .readLock _ | .ended _ => system

/-- Where the rebuild goes on when its command is answered by Redis as it was before it. -/
def RebuildPhase.next (call : RebuildCall) (redis : RedisServer) : RebuildPhase → RebuildPhase
  | .ping => .lock
  | .lock =>
    match redis.rebuildLock with
    | none =>
      if call.source.rows = [] then .activate else .project call.source.rows false
    | some _ => .readLock (.error rebuildInProgress)
  | .project rows failed => projectPhase call.createdKeys rows.tail failed
  | .verify =>
    let observed := redis.present call.createdKeys
    if observed = call.createdKeys.length then .activate
    else cleanUpPhase call.createdKeys false
      (verificationFailed call.createdKeys.length observed)
  | .activate => .checkpoint
  | .checkpoint => .readLock (.ok call.report)
  | .cleanUp _ fault => .readLock (.error fault)
  | .readLock reply =>
    if redis.rebuildLock = some call.lockValue then .releaseLock reply else .ended reply
  | .releaseLock reply => .ended reply
  | .ended reply => .ended reply

def RebuildPhase.raised (call : RebuildCall) : RebuildPhase → RebuildPhase
  | .ping | .lock => .readLock (.error projectionUnavailable)
  | .project rows _ => projectPhase call.createdKeys rows.tail true
  | .verify | .activate => cleanUpPhase call.createdKeys true projectionUnavailable
  | .checkpoint => .readLock (.error .database)
  | .cleanUp guarded fault => .readLock (.error (if guarded then fault else .redis))
  | .readLock reply | .releaseLock reply | .ended reply => .ended reply

inductive ProjectionEvent where
  /-- A call of `rebuild`; no two draw one generation. -/
  | start (call : RebuildCall)
  /-- The next command of a rebuild. -/
  | command (generation : String) (fate : Fate)
  /-- The 60 seconds of the lock are over. -/
  | lockExpires

def ProjectionSystem.command (system : ProjectionSystem) (generation : String) (rebuild : Rebuild)
    (fate : Fate) : ProjectionSystem :=
  let phase := if fate = .answered then rebuild.phase.next rebuild.call system.redis
    else rebuild.phase.raised rebuild.call
  let executed := if fate.executed then rebuild.phase.execute rebuild.call system else system
  { executed with
    rebuilds := system.rebuilds.set generation { rebuild with phase := phase } }

def ProjectionSystem.step (system : ProjectionSystem) : ProjectionEvent → ProjectionSystem
  | .start call =>
    { system with rebuilds := system.rebuilds.setDefault call.generation { call := call } }
  | .command generation fate =>
    match system.rebuilds.get? generation with
    | some rebuild => system.command generation rebuild fate
    | none => system
  | .lockExpires => { system with redis := { system.redis with rebuildLock := none } }

end MiniOgas
