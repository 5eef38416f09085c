import MiniOgas.ReadCommitted
import MiniOgas.Payload
import MiniOgas.Serial

namespace MiniOgas

section OutboxTables

open ReadCommitted

inductive OutboxStatus where
  | pending
  | publishing
  | published
  | deadLetter
deriving DecidableEq

/-- The statuses `IN ('pending', 'publishing')` that hold later messages back. -/
def OutboxStatus.unfinished : OutboxStatus → Bool
  | .pending | .publishing => true
  | .published | .deadLetter => false

/-- A row of `outbox_messages`, whose key is `message_id`. -/
structure OutboxMessage where
  aggregateType : String
  aggregateId : String
  messageType : String
  subject : String
  schemaVersion : String
  payloadJson : List JsonToken
  status : OutboxStatus
  attempts : Nat
  availableAt : Timestamp
  claimedAt : Option Timestamp
  claimToken : Option Nat
  publishedAt : Option Timestamp
  lastError : String
  createdAt : Timestamp

/-- What `enqueue_in_transaction` takes from an envelope, with its `subject_for_envelope`. -/
structure OutboxEnvelope where
  messageId : String
  messageType : String
  nodeCode : String
  schemaVersion : String
  subject : String
  content : Json

structure Candidate where
  messageId : String
  payloadJson : List JsonToken
  attempts : Nat
deriving DecidableEq

/-- A message that `claim_pending` returns. The code keeps neither the instant of the claim nor
its turn, which is what the claim left in the column `attempts`: they say which claim it is. -/
structure Claim where
  messageId : String
  payload : List JsonToken
  attempts : Nat
  claimToken : Nat
  claimedAt : Timestamp
  turn : Nat
deriving DecidableEq

inductive PublishOutcome where
  | invalid (error : String)
  | published
  | failed (error : String)
deriving DecidableEq

/-- Where a run of `publish_outbox_batch` stands: in the transaction of `claim_pending`,
between two messages, or between the answer for a message and its `mark_*`. -/
inductive Worker where
  | idle
  | resetting (begun : Timestamp) (token limit : Nat) (targets : List String)
  | taking (begun : Timestamp) (token : Nat) (candidates : List Candidate) (taken : List Claim)
  | publishing (claims : List Claim)
  | answered (claim : Claim) (outcome : PublishOutcome) (claims : List Claim)
deriving DecidableEq

def Worker.claims : Worker → List Claim
  | .idle | .resetting .. => []
  | .taking _ _ _ taken => taken
  | .publishing claims => claims
  | .answered claim _ claims => claim :: claims

def Worker.candidates : Worker → List Candidate
  | .taking _ _ candidates _ => candidates
  | _ => []

/-- A worker in the transaction of `claim_pending`. -/
def Worker.claiming : Worker → Bool
  | .resetting .. | .taking .. => true
  | .idle | .publishing _ | .answered .. => false

/-- The outbox and its workers. Tokens are numbers: `uuid4` is taken as never repeating. -/
structure Outbox where
  now : Timestamp
  messages : Relation String Nat OutboxMessage
  workers : Nat → Worker
  nextToken : Nat

def Outbox.empty : Outbox := ⟨0, .empty, fun _ => .idle, 0⟩

def Outbox.setWorker (s : Outbox) (w : Nat) (worker : Worker) : Outbox :=
  { s with workers := Function.update s.workers w worker }

inductive OutboxStep where
  | tick (now : Timestamp)
  | enqueue (envelope : OutboxEnvelope) (availableAt createdAt : Timestamp)
  | beginClaim (w limit : Nat)
  | resetNext (w : Nat)
  | selectCandidates (w : Nat)
  | takeNext (w : Nat)
  | commitClaim (w : Nat)
  | publish (w : Nat) (outcome : PublishOutcome)
  | record (w : Nat)
  | finish (w : Nat)
  | abandon (w : Nat)

end OutboxTables

open ReadCommitted Serial

/-- The row that `enqueue_in_transaction` inserts. -/
def OutboxEnvelope.row (envelope : OutboxEnvelope) (availableAt createdAt : Timestamp) :
    OutboxMessage where
  aggregateType := envelope.messageType
  aggregateId := envelope.nodeCode
  messageType := envelope.messageType
  subject := envelope.subject
  schemaVersion := envelope.schemaVersion
  payloadJson := canonicalJson envelope.content
  status := .pending
  attempts := 0
  availableAt
  claimedAt := none
  claimToken := none
  publishedAt := none
  lastError := ""
  createdAt

def OutboxMessage.isStale (row : OutboxMessage) (staleBefore : Timestamp) : Bool :=
  row.status = .publishing && row.claimedAt.any (· < staleBefore)

def OutboxMessage.reset (row : OutboxMessage) : OutboxMessage :=
  { row with status := .pending, claimToken := none, claimedAt := none }

def OutboxMessage.claim (row : OutboxMessage) (now : Timestamp) (token : Nat) : OutboxMessage :=
  { row with
    status := .publishing, attempts := row.attempts + 1, claimedAt := some now
    claimToken := some token }

def precedes (id : String) (row : OutboxMessage) (id' : String) (row' : OutboxMessage) : Bool :=
  row.aggregateType = row'.aggregateType && row.aggregateId = row'.aggregateId &&
    (decide (row.createdAt < row'.createdAt) ||
      row.createdAt = row'.createdAt && decide (id < id'))

def Outbox.sees (s : Outbox) (w : Nat) (id : String) (p : OutboxMessage → Bool) : Bool :=
  (s.messages.read w id).any p

def Outbox.staleMessages (s : Outbox) (w : Nat) (staleBefore : Timestamp) : List String :=
  s.messages.keys.filter fun id => s.sees w id (·.isStale staleBefore)

def Outbox.isCandidate (s : Outbox) (w : Nat) (now : Timestamp) (id : String) : Bool :=
  s.sees w id fun row => row.status = .pending && row.availableAt ≤ now &&
    !s.messages.keys.any fun id' =>
      s.sees w id' fun row' => row'.status.unfinished && precedes id' row' id row

def Outbox.candidate (s : Outbox) (w : Nat) (id : String) : Option Candidate :=
  (s.messages.read w id).map fun row => ⟨id, row.payloadJson, row.attempts⟩

/-- `ORDER BY created_at, message_id`. -/
def Outbox.before (s : Outbox) (w : Nat) (id id' : String) : Prop :=
  ∃ row ∈ s.messages.read w id, ∃ row' ∈ s.messages.read w id',
    row.createdAt < row'.createdAt ∨ row.createdAt = row'.createdAt ∧ id ≤ id'

instance (s : Outbox) (w : Nat) : DecidableRel (s.before w) := fun id id' => by
  unfold Outbox.before
  infer_instance

def Outbox.candidates (s : Outbox) (w limit : Nat) (now : Timestamp) : List Candidate :=
  (((s.messages.keys.filter (s.isCandidate w now)).insertionSort (s.before w)).take
    (max 1 limit)).filterMap (s.candidate w)

def Candidate.claim (candidate : Candidate) (begun : Timestamp) (token turn : Nat) : Claim :=
  ⟨candidate.messageId, candidate.payloadJson, candidate.attempts + 1, token, begun, turn⟩

def OutboxMessage.markPublished (now : Timestamp) (row : OutboxMessage) : OutboxMessage :=
  { row with status := .published, publishedAt := some now, claimToken := none, lastError := "" }

/-- `error[:1024]`. -/
def shortened (error : String) : String := String.ofList (error.toList.take 1024)

def OutboxMessage.markFailed (now : Timestamp) (error : String) (attempts : Nat)
    (row : OutboxMessage) : OutboxMessage :=
  let retrySeconds : Int := min 60 (max 1 (2 ^ min (max attempts 1) 6))
  { row with
    status := .pending, availableAt := now + retrySeconds * second, claimToken := none
    claimedAt := none, lastError := shortened error }

def OutboxMessage.markDeadLetter (error : String) (row : OutboxMessage) : OutboxMessage :=
  { row with
    status := .deadLetter, claimToken := none, claimedAt := none, lastError := shortened error }

/-- What `publish_outbox_batch` writes for a message. -/
def Claim.mark (claim : Claim) (outcome : PublishOutcome) (now : Timestamp) :
    OutboxMessage → OutboxMessage :=
  match outcome with
  | .invalid error => OutboxMessage.markDeadLetter ("invalid outbox envelope: " ++ error)
  | .published => OutboxMessage.markPublished now
  | .failed error =>
    if 10 ≤ claim.attempts then OutboxMessage.markDeadLetter error
    else OutboxMessage.markFailed now error claim.attempts

variable (lease : Int) (s : Outbox) (w : Nat)

/-- The instant before which a claim is stale: `now - timedelta(seconds=max(1, lease_seconds))`. -/
def staleBefore (now : Timestamp) : Timestamp := now - max 1 lease * second

def Outbox.resetNext : Option Outbox :=
  match s.workers w with
  | .resetting begun token limit (id :: targets) => do
    let (_, messages) ← s.messages.update w id (·.isStale (staleBefore lease begun))
      OutboxMessage.reset
    return { s with messages }.setWorker w (.resetting begun token limit targets)
  | _ => none

def Outbox.selectCandidates : Option Outbox :=
  match s.workers w with
  | .resetting begun token limit [] =>
    some (s.setWorker w (.taking begun token (s.candidates w limit begun) []))
  | _ => none

def Outbox.takeNext : Option Outbox :=
  match s.workers w with
  | .taking begun token (candidate :: candidates) taken => do
    let (changed, messages) ← s.messages.update w candidate.messageId (·.status = .pending)
      (·.claim begun token)
    let turn := ((messages.read w candidate.messageId).map (·.attempts)).getD 0
    return { s with messages }.setWorker w (.taking begun token candidates
      (if changed then taken ++ [candidate.claim begun token turn] else taken))
  | _ => none

def Outbox.commitClaim : Option Outbox :=
  match s.workers w with
  | .taking _ _ [] taken =>
    some ({ s with messages := s.messages.commit w }.setWorker w (.publishing taken))
  | _ => none

def Outbox.publish (outcome : PublishOutcome) : Option Outbox :=
  match s.workers w with
  | .publishing (claim :: claims) => some (s.setWorker w (.answered claim outcome claims))
  | _ => none

/-- `mark_published`, `mark_failed` or `mark_dead_letter`: a transaction of one update. -/
def Outbox.record : Option Outbox :=
  match s.workers w with
  | .answered claim outcome claims => do
    let (_, messages) ← s.messages.update w claim.messageId (·.status ≠ .published)
      (claim.mark outcome s.now)
    return { s with messages := messages.commit w }.setWorker w (.publishing claims)
  | _ => none

/-- A step, if it is possible and does not have to wait. -/
def Outbox.perform : OutboxStep → Option Outbox
  | .tick now => if s.now ≤ now then some { s with now } else none
  | .enqueue envelope availableAt createdAt =>
    some { s with
      messages := s.messages.insert envelope.messageId (envelope.row availableAt createdAt) }
  | .beginClaim w limit =>
    if s.workers w = .idle then
      some ({ s with nextToken := s.nextToken + 1 }.setWorker w
        (.resetting s.now s.nextToken limit (s.staleMessages w (staleBefore lease s.now))))
    else none
  | .resetNext w => s.resetNext lease w
  | .selectCandidates w => s.selectCandidates w
  | .takeNext w => s.takeNext w
  | .commitClaim w => s.commitClaim w
  | .publish w outcome => s.publish w outcome
  | .record w => s.record w
  | .finish w => if s.workers w = .publishing [] then some (s.setWorker w .idle) else none
  | .abandon w => some ({ s with messages := s.messages.rollback w }.setWorker w .idle)

def outboxAuthority : Authority OutboxStep Outbox Unit Unit where
  attempt step s := orFault ((s.perform lease step).map fun s' => ((), s')) ()

end MiniOgas
