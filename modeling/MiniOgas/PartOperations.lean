import MiniOgas.StoreTables

namespace MiniOgas

open Bounded Serial

/-- `:05d`. -/
def fiveDigits (n : Nat) : String := String.ofList ((Nat.toDigits 10 n).leftpad 5 '0')

def partIdText (seq : Nat) : String := "PART-" ++ fiveDigits seq

def partCapacity : Nat := 500

/-- The arguments of `create_ready_part`. -/
structure PartRequest where
  orderId : String
  productCode : String := "A3"
  sourceNode : String := "turning-workshop-01"
  targetNode : String := "milling-workshop-01"
  currentStep : String := "milling"
  parentPartId : String := ""

/-- `product_code or "A3"`. -/
def PartRequest.product (request : PartRequest) : String :=
  if request.productCode = "" then "A3" else request.productCode

def operationAfter (route : List String) (step : String) : String :=
  if step ∈ route then route.getD (route.idxOf step + 1) "" else ""

section Operations

variable (env : StoreEnv) (store : MemoryStore) (now : Timestamp)

/-- The run that `create_ready_part` gives a part. -/
def partRunId (sourceNode : String) : String :=
  let runId := currentRunIdForSystem env store
  if runId = "" then currentRunIdForNode env store sourceNode else runId

/-- The scenario that `create_ready_part` gives a part. -/
def partScenarioId (sourceNode : String) : String :=
  let runId := partRunId env store sourceNode
  let heartbeat := (store.nodeHeartbeatsV2.get? sourceNode).getD []
  if runId ≠ "" ∧ runtimeText env heartbeat "run_id" ≠ runId then
    let reported := store.nodeHeartbeatsV2.values.find? fun payload =>
      runtimeText env payload "run_id" = runId
    runtimeText env (reported.getD []) "scenario_id"
  else runtimeText env heartbeat "scenario_id"

def PartRequest.part (request : PartRequest) : PartQueueItem where
  partId := partIdText (store.partSeq + 1)
  runId := partRunId env store request.sourceNode
  scenarioId := partScenarioId env store request.sourceNode
  batchId := "BATCH-" ++ request.orderId
  parentPartId := request.parentPartId
  orderId := request.orderId
  productCode := request.product
  currentStep := request.currentStep
  currentOperation := request.currentStep
  nextOperation := operationAfter (productRoute request.product) request.currentStep
  sourceNode := request.sourceNode
  targetNode := request.targetNode
  createdAt := now
  updatedAt := now

def persistPartQueueItem (part : PartQueueItem) : MemoryStore :=
  { store with partRows := store.partRows ++ [part] }

def persistPartQueueItems (parts : List PartQueueItem) : MemoryStore :=
  { store with partRows := store.partRows ++ parts }

def queuePart (part : PartQueueItem) : MemoryStore :=
  { store with
    partSeq := store.partSeq + 1
    partQueue := keepLast partCapacity (store.partQueue ++ [part]) }

def createReadyPart (request : PartRequest) : PartQueueItem × MemoryStore :=
  let part := request.part env store now
  (part, persistPartQueueItem (queuePart store part) part)

def nextPartQueueStep (part : PartQueueItem) (completedBy : String) : Option (String × String) :=
  let route := productRoute part.productCode
  if part.currentStep ∈ route then
    (route.drop (route.idxOf part.currentStep + 1)).findSome? fun step =>
      let workshopType := processWorkshop.lookup step
      if workshopType = some "grinding" then some ("grinding", "grinding-workshop-01")
      else if workshopType = some "milling" ∧ completedBy ≠ "milling-workshop-01" then
        some ("milling", "milling-workshop-01")
      else none
  else none

end Operations

section Claims

variable (env : StoreEnv) (store : MemoryStore) (now : Timestamp) (run nodeCode : String)

def PartQueueItem.claimExpired (part : PartQueueItem) : Bool :=
  part.status = .claimed && part.inRun run && part.claimExpiresAt.any (· ≤ now)

def PartQueueItem.release (part : PartQueueItem) : PartQueueItem :=
  { part with
    status := .ready
    claimedBy := ""
    claimToken := ""
    claimExpiresAt := none
    eventSequence := part.eventSequence + 1
    updatedAt := now }

/-- What `_release_expired_part_claims_locked` makes of the queue. -/
def releasedQueue (queue : List PartQueueItem) : List PartQueueItem :=
  queue.map fun part => if part.claimExpired now run then part.release now else part

/-- The parts that `_release_expired_part_claims_locked` returns. -/
def releasedParts (queue : List PartQueueItem) : List PartQueueItem :=
  (queue.filter (·.claimExpired now run)).map (·.release now)

def releaseExpiredPartClaims : Nat × MemoryStore :=
  let run := currentRunIdForSystem env store
  let released := releasedParts now run store.partQueue
  (released.length, persistPartQueueItems
    { store with partQueue := releasedQueue now run store.partQueue } released)

def PartQueueItem.claimable (part : PartQueueItem) : Bool :=
  part.targetNode = nodeCode && part.status = .ready && part.inRun run

def PartQueueItem.claim (token : String) (ttl : Int) (part : PartQueueItem) : PartQueueItem :=
  { part with
    status := .claimed
    eventSequence := part.eventSequence + 1
    claimedBy := nodeCode
    claimToken := token
    claimExpiresAt := some (now + ttl * second)
    updatedAt := now }

/-- The `ttl` of `claim_next_part_for_node`. -/
def claimTtl (ttlSeconds : Int) : Int :=
  max 1 (min (if ttlSeconds = 0 then 30 else ttlSeconds) 3600)

def claimRows (released : List PartQueueItem) (claimed : PartQueueItem) : List PartQueueItem :=
  released.map (fun part => if part.partId = claimed.partId then claimed else part) ++ [claimed]

def claimNextPartForNode (ttlSeconds : Int) : Option PartQueueItem × MemoryStore :=
  let run := currentRunIdForSystem env store
  let released := releasedParts now run store.partQueue
  let queue := releasedQueue now run store.partQueue
  let claim := PartQueueItem.claim now nodeCode (env.uuid store.uuids) (claimTtl ttlSeconds)
  match queue.find? (·.claimable run nodeCode) with
  | none => (none, persistPartQueueItems { store with partQueue := queue } released)
  | some part =>
    (some (claim part), persistPartQueueItems
      { store with
        uuids := store.uuids + 1
        partQueue := modifyFirst (·.claimable run nodeCode) claim queue }
      (claimRows released (claim part)))

end Claims

section Completion

variable (store : MemoryStore) (now : Timestamp)

/-- The checks of `complete_claimed_part`. -/
def completablePart (nodeCode partId claimToken : String) : Except StoreFault PartQueueItem := do
  let part ← orFault (store.partQueue.find? (·.partId = partId))
    (.valueError s!"part {partId} not found")
  check (part.targetNode = nodeCode)
    (.valueError s!"part {partId} is assigned to {part.targetNode}, not {nodeCode}")
  check (part.status = .claimed)
    (.valueError s!"part {partId} is not claimed (current: {part.status.text})")
  check (claimToken ≠ "" ∧ part.claimToken = claimToken) (.valueError "invalid claim token")
  return part

def PartQueueItem.complete (part : PartQueueItem) : PartQueueItem :=
  { part with
    status := .completed
    qualityStatus := "accepted"
    eventSequence := part.eventSequence + 1
    claimExpiresAt := none
    updatedAt := now }

/-- The part that a completed one goes on as. -/
def PartQueueItem.downstream (part : PartQueueItem) (seq : Nat) (nodeCode step target : String) :
    PartQueueItem where
  partId := partIdText seq
  runId := part.runId
  scenarioId := part.scenarioId
  batchId := part.batchId
  parentPartId := part.partId
  orderId := part.orderId
  productCode := part.productCode
  currentStep := step
  currentOperation := step
  nextOperation := operationAfter (productRoute part.productCode) step
  eventSequence := part.eventSequence + 1
  sourceNode := nodeCode
  targetNode := target
  createdAt := now
  updatedAt := now

/-- What `complete_claimed_part` does with a part that meets its checks. -/
def finishPart (nodeCode : String) (part : PartQueueItem) :
    (PartQueueItem × Option PartQueueItem) × MemoryStore :=
  let done := part.complete now
  let store := { store with
    partQueue := modifyFirst (·.partId = part.partId) (·.complete now) store.partQueue }
  match nextPartQueueStep done nodeCode with
  | none => ((done, none), persistPartQueueItem store done)
  | some (step, target) =>
    let downstream := done.downstream now (store.partSeq + 1) nodeCode step target
    ((done, some downstream),
      persistPartQueueItems (queuePart store downstream) [done, downstream])

def completeClaimedPart (nodeCode partId claimToken : String) :
    Except StoreFault ((PartQueueItem × Option PartQueueItem) × MemoryStore) := do
  let part ← completablePart store nodeCode partId claimToken
  return finishPart store now nodeCode part

end Completion

end MiniOgas
