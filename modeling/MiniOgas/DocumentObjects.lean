import MiniOgas.Dictionary
import MiniOgas.Payload
import MiniOgas.StepSystem

namespace MiniOgas

open Steps

abbrev ObjectBytes := List UInt8

structure ObjectEnv where
  sha256 : ObjectBytes → String
  sha256_injective : Function.Injective sha256
  digest : String
  objectId : Nat
  objectKey : String
  bucket : String
  maxBytes : Nat

inductive ObjectStatus where
  | pending
  | available
  | quarantined
deriving DecidableEq

/-- A row of `objects`. -/
structure ObjectManifest where
  id : Nat
  objectKey : String
  bucket : String
  contentSha256 : String
  byteLength : Nat
  contentType : String
  originalName : String
  status : ObjectStatus := .pending
  etag : String := ""
  storageVersion : String := ""
  createdBy : String
  createdAt : Timestamp
  verifiedAt : Option Timestamp := none

structure IntegrityEvent where
  verified : Bool
  expectedSha256 : String
  observedSha256 : String
  byteLength : Nat
  actor : String
  createdAt : Timestamp

/-- The arguments of `store`. -/
structure StoreRequest where
  originalName : String
  content : ObjectBytes
  contentType : String
  expectedSha256 : String
  actor : String

structure PutResult where
  etag : String := ""
  versionId : String := ""

/-- What `complete_object_manifest` is called with, and when the bytes have been read. -/
structure ObjectVerdict where
  status : ObjectStatus
  expectedSha256 : String
  observedSha256 : String
  bytes : ObjectBytes
  etag : String
  storageVersion : String
  actor : String
  readAt : Nat

inductive ObjectCall where
  | putting (request : StoreRequest)
  | readingBack (request : StoreRequest) (result : PutResult)
  | reading (manifest : ObjectManifest) (actor : String)
  | storing (verdict : ObjectVerdict)
  | retrieving (expectedBytes : Nat) (verdict : ObjectVerdict)

inductive ObjectReply where
  | stored (manifest : ObjectManifest)
  | retrieved (bytes : ObjectBytes) (manifest : ObjectManifest)
  | refused (error : AuthorityError)

structure WrittenRead where
  readAt : Nat
  bytes : ObjectBytes
deriving DecidableEq

/-- The row of the object and its integrity events, the bucket, the calls that run, and what has
been answered; `reads` counts the reads, and `written` has those whose verdict has been written. -/
structure ObjectSystem where
  manifest : Option ObjectManifest := none
  events : List IntegrityEvent := []
  stored : Option ObjectBytes := none
  calls : Dictionary Nat ObjectCall := .empty
  replies : List (Nat × ObjectReply) := []
  reads : Nat := 0
  written : List WrittenRead := []

/-- `store` and `retrieve` begin a call with the look-up of its manifest, `put`, `read` and
`verdict` are the next step of a call, which `fail` ends; `change` is what others do to the
bucket. -/
inductive ObjectEvent where
  | store (id : Nat) (request : StoreRequest) (now : Timestamp)
  | retrieve (id : Nat) (actor : String)
  | put (id : Nat) (result : PutResult)
  | read (id : Nat)
  | verdict (id : Nat) (now : Timestamp)
  | fail (id : Nat) (errorType : String)
  | change (stored : Option ObjectBytes)

def objectChecksumMismatch (expected observed : String) : AuthorityError where
  statusCode := 409
  code := "OBJECT_CHECKSUM_MISMATCH"
  message := "request checksum does not match the supplied object bytes"
  context := [("expected_sha256", .str expected), ("observed_sha256", .str observed)]

def objectTooLarge (maximum observed : Nat) : AuthorityError where
  statusCode := 413
  code := "OBJECT_TOO_LARGE"
  message := "document object exceeds the configured maximum byte length"
  context := [("maximum_bytes", .int maximum), ("observed_bytes", .int observed)]

def objectUploadFailed (errorType : String) : AuthorityError where
  statusCode := 503
  code := "OBJECT_STORAGE_UNAVAILABLE"
  message := "MinIO upload or read-back verification failed"
  context := [("error_type", .str errorType)]

def objectRetrievalFailed (objectId : Nat) (errorType : String) : AuthorityError where
  statusCode := 503
  code := "OBJECT_STORAGE_UNAVAILABLE"
  message := "MinIO retrieval failed before integrity verification completed"
  context := [("object_id", .int objectId), ("error_type", .str errorType)]

def storedObjectMismatch (objectId : Nat) : AuthorityError where
  statusCode := 409
  code := "OBJECT_READBACK_CHECKSUM_MISMATCH"
  message := "stored object failed read-back checksum verification and was quarantined"
  context := [("object_id", .int objectId)]

def retrievedObjectMismatch (objectId expectedBytes : Nat) (verdict : ObjectVerdict) :
    AuthorityError where
  statusCode := 409
  code := "OBJECT_READBACK_CHECKSUM_MISMATCH"
  message := "retrieved object failed checksum or length verification and was quarantined"
  context := [("object_id", .int objectId),
    ("expected_sha256", .str verdict.expectedSha256),
    ("observed_sha256", .str verdict.observedSha256),
    ("expected_bytes", .int expectedBytes),
    ("observed_bytes", .int verdict.bytes.length)]

def documentObjectNotAvailable (objectId : Nat) : AuthorityError where
  statusCode := 409
  code := "DOCUMENT_OBJECT_NOT_AVAILABLE"
  message := "document object is absent, unverified, or outside the active scope"
  context := [("object_id", .int objectId)]

def objectManifestLimit (objectId maximum length : Nat) : AuthorityError where
  statusCode := 409
  code := "OBJECT_MANIFEST_LIMIT_VIOLATION"
  message := "object manifest exceeds the configured retrieval limit"
  context := [("object_id", .int objectId), ("maximum_bytes", .int maximum),
    ("manifest_bytes", .int length)]

namespace ObjectSystem

section Steps

variable (env : ObjectEnv) (system : ObjectSystem)

def reply (id : Nat) (answer : ObjectReply) : ObjectSystem :=
  { system with
    calls := system.calls.pop id
    replies := system.replies ++ [(id, answer)] }

def goOn (id : Nat) (call : ObjectCall) : ObjectSystem :=
  { system with calls := system.calls.set id call }

def newManifest (request : StoreRequest) (now : Timestamp) : ObjectManifest where
  id := env.objectId
  objectKey := env.objectKey
  bucket := env.bucket
  contentSha256 := env.sha256 request.content
  byteLength := request.content.length
  contentType :=
    if request.contentType = "" then "application/octet-stream" else request.contentType
  originalName := request.originalName
  createdBy := request.actor
  createdAt := now

/-- `create_object_manifest`, which returns the row that there is. -/
def createObjectManifest (request : StoreRequest) (now : Timestamp) : ObjectManifest :=
  system.manifest.getD (newManifest env request now)

/-- The checks of `store` and its look-up. -/
def beginStore (id : Nat) (request : StoreRequest) (now : Timestamp) : ObjectSystem :=
  if request.expectedSha256 ≠ env.sha256 request.content then
    system.reply id (.refused
      (objectChecksumMismatch request.expectedSha256 (env.sha256 request.content)))
  else if env.maxBytes < request.content.length then
    system.reply id (.refused (objectTooLarge env.maxBytes request.content.length))
  -- the digest is the key: other bytes are another object
  else if env.sha256 request.content ≠ env.digest then system
  else
    let manifest := system.createObjectManifest env request now
    let system := { system with manifest := some manifest }
    if manifest.status = .available then system.reply id (.stored manifest)
    else system.goOn id (.putting request)

/-- `require_available_object`, and the limit of `retrieve`. -/
def beginRetrieve (id : Nat) (actor : String) : ObjectSystem :=
  match system.manifest with
  | some manifest =>
    if manifest.status ≠ .available then
      system.reply id (.refused (documentObjectNotAvailable env.objectId))
    else if env.maxBytes < manifest.byteLength then
      system.reply id (.refused
        (objectManifestLimit env.objectId env.maxBytes manifest.byteLength))
    else system.goOn id (.reading manifest actor)
  | none => system.reply id (.refused (documentObjectNotAvailable env.objectId))

/-- What a call has read, with the verdict that it comes to. -/
def readCall (call : ObjectCall) (stored : ObjectBytes) : Option ObjectCall :=
  match call with
  | .readingBack request result =>
    some (.storing {
      status := if env.sha256 stored = env.sha256 request.content then .available
        else .quarantined
      expectedSha256 := env.sha256 request.content
      observedSha256 := env.sha256 stored
      bytes := stored
      etag := result.etag
      storageVersion := result.versionId
      actor := request.actor
      readAt := system.reads })
  | .reading manifest actor =>
    let bytes := stored.take (manifest.byteLength + 1)
    some (.retrieving manifest.byteLength {
      status := if bytes.length = manifest.byteLength ∧ env.sha256 bytes = manifest.contentSha256
        then .available else .quarantined
      expectedSha256 := manifest.contentSha256
      observedSha256 := env.sha256 bytes
      bytes
      etag := manifest.etag
      storageVersion := manifest.storageVersion
      actor
      readAt := system.reads })
  | .putting _ | .storing _ | .retrieving .. => none

def completedManifest (manifest : ObjectManifest) (verdict : ObjectVerdict) (now : Timestamp) :
    ObjectManifest :=
  { manifest with
    status := verdict.status
    etag := verdict.etag
    storageVersion := verdict.storageVersion
    verifiedAt := some now }

def completeObjectManifest (manifest : ObjectManifest) (verdict : ObjectVerdict)
    (now : Timestamp) : ObjectSystem :=
  { system with
    manifest := some (completedManifest manifest verdict now)
    events := system.events ++ [{
      verified := verdict.status = .available
      expectedSha256 := verdict.expectedSha256
      observedSha256 := verdict.observedSha256
      byteLength := verdict.bytes.length
      actor := verdict.actor
      createdAt := now }]
    written := system.written ++ [⟨verdict.readAt, verdict.bytes⟩] }

/-- What `store` answers when its verdict has been written. -/
def storeReply (manifest : ObjectManifest) (verdict : ObjectVerdict) : ObjectReply :=
  if verdict.status = .available then .stored manifest
  else .refused (storedObjectMismatch env.objectId)

/-- What `retrieve` answers when its verdict has been written. -/
def retrieveReply (manifest : ObjectManifest) (expectedBytes : Nat) (verdict : ObjectVerdict) :
    ObjectReply :=
  if verdict.status = .available then .retrieved verdict.bytes manifest
  else .refused (retrievedObjectMismatch env.objectId expectedBytes verdict)

def step (system : ObjectSystem) : ObjectEvent → ObjectSystem
  | .store id request now =>
    if (system.calls.get? id).isSome then system else system.beginStore env id request now
  | .retrieve id actor =>
    if (system.calls.get? id).isSome then system else system.beginRetrieve env id actor
  | .put id result =>
    match system.calls.get? id with
    | some (.putting request) =>
      { system with stored := some request.content }.goOn id (.readingBack request result)
    | _ => system
  | .read id =>
    match system.calls.get? id, system.stored with
    | some call, some stored =>
      match system.readCall env call stored with
      | some later => { system with reads := system.reads + 1 }.goOn id later
      | none => system
    | _, _ => system
  | .verdict id now =>
    match system.calls.get? id, system.manifest with
    | some (.storing verdict), some manifest =>
      let system := system.completeObjectManifest manifest verdict now
      system.reply id (storeReply env (completedManifest manifest verdict now) verdict)
    | some (.retrieving expectedBytes verdict), some manifest =>
      let system := system.completeObjectManifest manifest verdict now
      system.reply id
        (retrieveReply env (completedManifest manifest verdict now) expectedBytes verdict)
    | _, _ => system
  | .fail id errorType =>
    match system.calls.get? id with
    | some (.putting _) | some (.readingBack ..) =>
      system.reply id (.refused (objectUploadFailed errorType))
    | some (.reading ..) =>
      system.reply id (.refused (objectRetrievalFailed env.objectId errorType))
    -- nothing has been committed
    | some (.storing _) | some (.retrieving ..) => { system with calls := system.calls.pop id }
    | none => system
  | .change stored => { system with stored }

end Steps

end ObjectSystem

def mostRecent (written : List WrittenRead) : Option WrittenRead :=
  written.foldl (fun latest read => match latest with
    | some last => if last.readAt < read.readAt then some read else latest
    | none => some read) none

structure Intact (env : ObjectEnv) (manifest : ObjectManifest) (bytes : ObjectBytes) : Prop where
  sha256 : env.sha256 bytes = manifest.contentSha256
  length : bytes.length = manifest.byteLength

def lastVerdict (events : List IntegrityEvent) : ObjectStatus :=
  match events.getLast? with
  | some event => if event.verified then .available else .quarantined
  | none => .pending

structure Truthful (env : ObjectEnv) (system : ObjectSystem) : Prop where
  available : ∀ manifest, system.manifest = some manifest → manifest.status = .available →
    ∃ read, mostRecent system.written = some read ∧ Intact env manifest read.bytes
  status : ∀ manifest, system.manifest = some manifest →
    manifest.status = lastVerdict system.events
  retrieved : ∀ id bytes manifest, (id, ObjectReply.retrieved bytes manifest) ∈ system.replies →
    Intact env manifest bytes

def verdict? : ObjectCall → Option ObjectVerdict
  | .storing verdict | .retrieving _ verdict => some verdict
  | .putting _ | .readingBack .. | .reading .. => none

/-- A verdict on the bytes of the object is written before that on a later read of others. -/
def WrittenInTime (env : ObjectEnv) (system : ObjectSystem) : ObjectEvent → Prop
  | .verdict id _ => ∀ call verdict manifest last, system.calls.get? id = some call →
    verdict? call = some verdict → system.manifest = some manifest →
    Intact env manifest verdict.bytes → mostRecent system.written = some last →
      last.readAt < verdict.readAt ∨ Intact env manifest last.bytes
  | _ => True

section Laws

variable {env : ObjectEnv} {system : ObjectSystem} {manifest : ObjectManifest}
  {bytes : ObjectBytes} {verdict : ObjectVerdict} {call : ObjectCall} {id : Nat} {now : Timestamp}

theorem mostRecent_append (written : List WrittenRead) (read : WrittenRead) :
    mostRecent (written ++ [read]) =
      some ((mostRecent written).elim read fun last =>
        if last.readAt < read.readAt then read else last) := by
  unfold mostRecent
  rw [List.foldl_append, List.foldl_cons, List.foldl_nil]
  generalize written.foldl _ none = latest
  cases latest with
  | none => rfl
  | some last =>
    dsimp only [Option.elim]
    split <;> rfl

theorem lastVerdict_append (events : List IntegrityEvent) (event : IntegrityEvent) :
    lastVerdict (events ++ [event]) = if event.verified then .available else .quarantined := by
  unfold lastVerdict
  rw [List.getLast?_append_of_ne_nil _ (List.cons_ne_nil _ _)]
  rfl

/-- The bytes whose digest is the key. -/
def Genuine (env : ObjectEnv) (bytes : ObjectBytes) : Prop := env.sha256 bytes = env.digest

instance : Decidable (Genuine env bytes) := inferInstanceAs (Decidable (_ = _))

structure Identified (env : ObjectEnv) (manifest : ObjectManifest) : Prop where
  sha256 : manifest.contentSha256 = env.digest
  length : ∃ content, Genuine env content ∧ content.length = manifest.byteLength

theorem Identified.intact_iff (identified : Identified env manifest) :
    Intact env manifest bytes ↔ Genuine env bytes := by
  obtain ⟨content, genuine, length⟩ := identified.length
  constructor
  · intro intact
    exact intact.sha256.trans identified.sha256
  · intro same
    have equal : bytes = content := env.sha256_injective (same.trans genuine.symm)
    exact ⟨same.trans identified.sha256.symm, equal ▸ length⟩

def verdictOn (env : ObjectEnv) (bytes : ObjectBytes) : ObjectStatus :=
  if Genuine env bytes then .available else .quarantined

theorem genuine_of_available (status : verdictOn env bytes = .available) : Genuine env bytes := by
  unfold verdictOn at status
  split at status
  next genuine => exact genuine
  next => cases status

/-- What a call carries is about the object. -/
def CallSound (env : ObjectEnv) : ObjectCall → Prop
  | .putting request | .readingBack request _ => Genuine env request.content
  | .reading manifest _ => Identified env manifest
  | .storing verdict | .retrieving _ verdict => verdict.status = verdictOn env verdict.bytes

structure ObjectSound (env : ObjectEnv) (system : ObjectSystem) : Prop where
  identified : ∀ manifest, system.manifest = some manifest → Identified env manifest
  available : ∀ manifest, system.manifest = some manifest → manifest.status = .available →
    ∃ read, mostRecent system.written = some read ∧ Genuine env read.bytes
  status : ∀ manifest, system.manifest = some manifest →
    manifest.status = lastVerdict system.events
  retrieved : ∀ id bytes manifest, (id, ObjectReply.retrieved bytes manifest) ∈ system.replies →
    Identified env manifest ∧ Genuine env bytes
  calls : ∀ id call, system.calls.get? id = some call →
    CallSound env call ∧ system.manifest.isSome = true
  fresh : system.manifest = none → system.events = []

theorem ObjectSound.truthful (sound : ObjectSound env system) : Truthful env system where
  available manifest found open' := by
    obtain ⟨read, latest, genuine⟩ := sound.available manifest found open'
    exact ⟨read, latest, (sound.identified manifest found).intact_iff.mpr genuine⟩
  status := sound.status
  retrieved id bytes manifest answered := by
    obtain ⟨identified, genuine⟩ := sound.retrieved id bytes manifest answered
    exact identified.intact_iff.mpr genuine

theorem ObjectSound.initial : ObjectSound env {} where
  identified manifest found := by cases found
  available manifest found := by cases found
  status manifest found := by cases found
  retrieved id bytes manifest answered := by cases answered
  calls id call found := by cases found
  fresh _ := rfl

theorem ObjectSound.endCall (sound : ObjectSound env system) (id : Nat) :
    ObjectSound env { system with calls := system.calls.pop id } := by
  refine { sound with calls := ?_ }
  intro other call found
  have kept : (system.calls.pop id).get? other = some call := found
  obtain ⟨-, kept⟩ := Dictionary.of_get?_pop kept
  exact sound.calls other call kept

theorem ObjectSound.reply (sound : ObjectSound env system) {answer : ObjectReply}
    (own : ∀ bytes manifest, answer = .retrieved bytes manifest →
      Identified env manifest ∧ Genuine env bytes) :
    ObjectSound env (system.reply id answer) := by
  have ended : ObjectSound env { system with calls := system.calls.pop id } := sound.endCall id
  refine { ended with retrieved := ?_ }
  intro other bytes manifest answered
  rcases List.mem_append.mp answered with old | new
  · exact sound.retrieved other bytes manifest old
  · have same := List.mem_singleton.mp new
    exact own bytes manifest (congrArg Prod.snd same).symm

theorem ObjectSound.goOn (sound : ObjectSound env system) (about : CallSound env call)
    (present : system.manifest.isSome = true) : ObjectSound env (system.goOn id call) := by
  refine { sound with calls := ?_ }
  intro other later found
  have kept : (system.calls.set id call).get? other = some later := found
  rcases Dictionary.of_get?_set kept with ⟨-, rfl⟩ | ⟨-, kept⟩
  · exact ⟨about, present⟩
  · exact sound.calls other later kept

theorem ObjectSound.createObjectManifest (sound : ObjectSound env system) {request : StoreRequest}
    (genuine : Genuine env request.content) :
    ObjectSound env
      { system with manifest := some (system.createObjectManifest env request now) } := by
  unfold ObjectSystem.createObjectManifest
  cases given : system.manifest with
  | some manifest =>
    have same : { system with manifest := some manifest } = system := by rw [← given]
    rw [Option.getD_some, same]
    exact sound
  | none =>
    refine ⟨?_, ?_, ?_, sound.retrieved, fun id call found => ⟨(sound.calls id call found).1, rfl⟩,
      nofun⟩
    · intro manifest found
      cases found
      exact ⟨genuine, request.content, genuine, rfl⟩
    · intro manifest found open'
      cases found
      cases open'
    · intro manifest found
      cases found
      have none : lastVerdict system.events = .pending := by
        rw [sound.fresh given]
        rfl
      exact none.symm

theorem ObjectSound.beginStore (sound : ObjectSound env system) (id : Nat)
    (request : StoreRequest) (now : Timestamp) :
    ObjectSound env (system.beginStore env id request now) := by
  unfold ObjectSystem.beginStore
  split
  next => exact sound.reply nofun
  split
  next => exact sound.reply nofun
  split
  next => exact sound
  next genuine =>
    have same : Genuine env request.content := not_not.mp genuine
    have created : ObjectSound env
        { system with manifest := some (system.createObjectManifest env request now) } :=
      sound.createObjectManifest same
    dsimp only
    split
    next => exact created.reply nofun
    next => exact created.goOn same rfl

theorem ObjectSound.beginRetrieve (sound : ObjectSound env system) (id : Nat) (actor : String) :
    ObjectSound env (system.beginRetrieve env id actor) := by
  unfold ObjectSystem.beginRetrieve
  split
  next manifest found =>
    split
    next => exact sound.reply nofun
    split
    next => exact sound.reply nofun
    next =>
      refine sound.goOn (sound.identified manifest found) ?_
      rw [found]
      rfl
  next => exact sound.reply nofun

theorem readCall_sound {stored : ObjectBytes} {later : ObjectCall} (about : CallSound env call)
    (reads : system.readCall env call stored = some later) : CallSound env later := by
  cases call with
  | readingBack request result =>
    cases reads
    have genuine : env.sha256 request.content = env.digest := about
    have same : env.sha256 stored = env.sha256 request.content ↔ Genuine env stored := by
      rw [genuine]
      exact Iff.rfl
    exact if_congr same rfl rfl
  | reading manifest actor =>
    cases reads
    have identified : Identified env manifest := about
    have same : (stored.take (manifest.byteLength + 1)).length = manifest.byteLength ∧
        env.sha256 (stored.take (manifest.byteLength + 1)) = manifest.contentSha256 ↔
          Genuine env (stored.take (manifest.byteLength + 1)) := by
      rw [← identified.intact_iff]
      exact ⟨fun both => ⟨both.2, both.1⟩, fun intact => ⟨intact.length, intact.sha256⟩⟩
    exact if_congr same rfl rfl
  | putting | storing | retrieving => cases reads

theorem ObjectSound.put (sound : ObjectSound env system) (id : Nat) (result : PutResult) :
    ObjectSound env (system.step env (.put id result)) := by
  unfold ObjectSystem.step
  dsimp only
  split
  next request running =>
    obtain ⟨about, present⟩ := sound.calls id _ running
    have stored : ObjectSound env { system with stored := some request.content } :=
      { sound with }
    exact stored.goOn about present
  next => exact sound

theorem ObjectSound.read (sound : ObjectSound env system) (id : Nat) :
    ObjectSound env (system.step env (.read id)) := by
  unfold ObjectSystem.step
  dsimp only
  split
  next call stored running _ =>
    split
    next later reads =>
      obtain ⟨about, present⟩ := sound.calls id call running
      have counted : ObjectSound env { system with reads := system.reads + 1 } :=
        { sound with }
      exact counted.goOn (readCall_sound about reads) present
    next => exact sound
  next => exact sound

theorem ObjectSound.fail (sound : ObjectSound env system) (id : Nat) (errorType : String) :
    ObjectSound env (system.step env (.fail id errorType)) := by
  unfold ObjectSystem.step
  dsimp only
  split
  next => exact sound.reply nofun
  next => exact sound.reply nofun
  next => exact sound.reply nofun
  next => exact sound.endCall id
  next => exact sound.endCall id
  next => exact sound

theorem ObjectSound.completeObjectManifest (sound : ObjectSound env system)
    (found : system.manifest = some manifest)
    (verdictIs : verdict.status = verdictOn env verdict.bytes)
    (inTime : Genuine env verdict.bytes → ∀ last, mostRecent system.written = some last →
      last.readAt < verdict.readAt ∨ Genuine env last.bytes) :
    ObjectSound env (system.completeObjectManifest manifest verdict now) := by
  have identified : Identified env manifest := sound.identified manifest found
  refine ⟨?_, ?_, ?_, sound.retrieved, ?_, nofun⟩
  · intro completed same
    cases same
    exact ⟨identified.sha256, identified.length⟩
  · intro completed same open'
    cases same
    have genuine : Genuine env verdict.bytes :=
      genuine_of_available (verdictIs.symm.trans open')
    refine ⟨_, mostRecent_append _ _, ?_⟩
    cases latest : mostRecent system.written with
    | none => exact genuine
    | some last =>
      rw [Option.elim]
      split
      next => exact genuine
      next late => exact (inTime genuine last latest).resolve_left late
  · intro completed same
    cases same
    have last := lastVerdict_append system.events {
      verified := verdict.status = .available
      expectedSha256 := verdict.expectedSha256
      observedSha256 := verdict.observedSha256
      byteLength := verdict.bytes.length
      actor := verdict.actor
      createdAt := now }
    refine Eq.trans ?_ last.symm
    show verdict.status = _
    rw [verdictIs]
    unfold verdictOn
    split <;> rfl
  · intro id call running
    exact ⟨(sound.calls id call running).1, rfl⟩

theorem ObjectSound.pending (sound : ObjectSound env system)
    (running : system.calls.get? id = some call) (given : verdict? call = some verdict) :
    verdict.status = verdictOn env verdict.bytes := by
  have about : CallSound env call := (sound.calls id call running).1
  cases call with
  | storing own =>
    cases given
    exact about
  | retrieving expectedBytes own =>
    cases given
    exact about
  | putting | readingBack | reading => cases given

theorem step_verdict (env : ObjectEnv) (system : ObjectSystem) (id : Nat) (now : Timestamp) :
    (∃ call verdict manifest answer, system.calls.get? id = some call ∧
      verdict? call = some verdict ∧ system.manifest = some manifest ∧
      (∀ bytes completed, answer = ObjectReply.retrieved bytes completed →
        verdict.status = .available ∧ bytes = verdict.bytes ∧
          completed = ObjectSystem.completedManifest manifest verdict now) ∧
      system.step env (.verdict id now) =
        (system.completeObjectManifest manifest verdict now).reply id answer) ∨
    (∀ call verdict manifest, system.calls.get? id = some call → verdict? call = some verdict →
      system.manifest ≠ some manifest) ∧ system.step env (.verdict id now) = system := by
  unfold ObjectSystem.step
  dsimp only
  split
  next verdict manifest running found =>
    refine .inl ⟨_, verdict, manifest, _, running, rfl, found, ?_, rfl⟩
    intro bytes completed same
    unfold ObjectSystem.storeReply at same
    split at same <;> cases same
  next expectedBytes verdict manifest running found =>
    refine .inl ⟨_, verdict, manifest, _, running, rfl, found, ?_, rfl⟩
    intro bytes completed same
    unfold ObjectSystem.retrieveReply at same
    split at same
    next open' =>
      cases same
      exact ⟨open', rfl, rfl⟩
    next => cases same
  next idle stopped =>
    refine .inr ⟨?_, rfl⟩
    intro call verdict manifest running given found
    cases call with
    | storing own => exact idle own manifest running found
    | retrieving expectedBytes own => exact stopped expectedBytes own manifest running found
    | putting | readingBack | reading => cases given

theorem ObjectSound.writeVerdict (sound : ObjectSound env system) (id : Nat) (now : Timestamp)
    (inTime : WrittenInTime env system (.verdict id now)) :
    ObjectSound env (system.step env (.verdict id now)) := by
  obtain ⟨call, verdict, manifest, answer, running, given, found, gives, same⟩ | ⟨_, same⟩ :=
    step_verdict env system id now
  · have identified : Identified env manifest := sound.identified manifest found
    have verdictIs : verdict.status = verdictOn env verdict.bytes := sound.pending running given
    have completed : ObjectSound env (system.completeObjectManifest manifest verdict now) := by
      refine sound.completeObjectManifest found verdictIs ?_
      intro genuine last latest
      have intact : Intact env manifest verdict.bytes := identified.intact_iff.mpr genuine
      have either := inTime call verdict manifest last running given found intact latest
      exact either.imp_right identified.intact_iff.mp
    rw [same]
    refine completed.reply ?_
    intro bytes later answered
    obtain ⟨open', rfl, rfl⟩ := gives bytes later answered
    exact ⟨⟨identified.sha256, identified.length⟩,
      genuine_of_available (verdictIs.symm.trans open')⟩
  · rw [same]
    exact sound

theorem ObjectSound.step (sound : ObjectSound env system) (event : ObjectEvent)
    (inTime : WrittenInTime env system event) : ObjectSound env (system.step env event) := by
  cases event with
  | store id request now =>
    unfold ObjectSystem.step
    dsimp only
    split
    next => exact sound
    next => exact sound.beginStore id request now
  | retrieve id actor =>
    unfold ObjectSystem.step
    dsimp only
    split
    next => exact sound
    next => exact sound.beginRetrieve id actor
  | put id result => exact sound.put id result
  | read id => exact sound.read id
  | verdict id now => exact sound.writeVerdict id now inTime
  | fail id errorType => exact sound.fail id errorType
  | change stored =>
    exact { sound with }

theorem ObjectSound.untruthful (sound : ObjectSound env system) {event : ObjectEvent}
    (late : ¬ WrittenInTime env system event) : ¬ Truthful env (system.step env event) := by
  cases event with
  | verdict id now =>
    unfold WrittenInTime at late
    push Not at late
    obtain ⟨call, verdict, manifest, last, running, given, found, intact, latest, after, spoilt⟩ :=
      late
    have identified : Identified env manifest := sound.identified manifest found
    have verdictIs : verdict.status = verdictOn env verdict.bytes := sound.pending running given
    have genuine : Genuine env verdict.bytes := identified.intact_iff.mp intact
    have open' : verdict.status = .available := by
      rw [verdictIs]
      exact if_pos genuine
    intro truthful
    obtain ⟨call', verdict', manifest', answer, running', given', found', _, same⟩ | ⟨idle, _⟩ :=
      step_verdict env system id now
    · cases running.symm.trans running'
      cases given.symm.trans given'
      cases found.symm.trans found'
      rw [same] at truthful
      obtain ⟨read, latest', intact'⟩ := truthful.available _ rfl open'
      have unmoved := mostRecent_append system.written ⟨verdict.readAt, verdict.bytes⟩
      rw [latest, Option.elim, if_neg (not_lt.mpr after)] at unmoved
      cases unmoved.symm.trans latest'
      exact spoilt ⟨intact'.sha256, intact'.length⟩
    · exact idle call verdict manifest running given found
  | store | retrieve | put | read | fail | change => exact absurd trivial late

end Laws

/-- The object is what its manifest says in all states of a run exactly if no verdict on the bytes
of the object is written after that on a later read of other bytes. -/
theorem objectStorage_truthful_iff (env : ObjectEnv) (events : List ObjectEvent) :
    Throughout (ObjectSystem.step env) (Truthful env) {} events ↔
      Meets (ObjectSystem.step env) (WrittenInTime env) {} events :=
  throughout_iff_meets (I := ObjectSound env) (fun _ event sound inTime => sound.step event inTime)
    (fun _ sound => sound.truthful) (fun _ _ sound late => sound.untruthful late) .initial

def sampleDigest (bytes : ObjectBytes) : String :=
  String.ofList (bytes.map fun byte => Char.ofNat byte.toNat)

theorem sampleDigest_injective : Function.Injective sampleDigest := by
  have chars : Function.Injective fun byte : UInt8 => Char.ofNat byte.toNat := by
    intro one other same
    have valid : ∀ n < 256, (Char.ofNat n).toNat = n := by decide +kernel
    have codes := congrArg Char.toNat same
    rw [valid _ one.toNat_lt, valid _ other.toNat_lt] at codes
    exact UInt8.toNat_inj.mp codes
  intro one other same
  exact chars.list_map (String.ofList_injective same)

def sampleObjectEnv : ObjectEnv where
  sha256 := sampleDigest
  sha256_injective := sampleDigest_injective
  digest := sampleDigest [1, 2]
  objectId := 1
  objectKey := "tenant/site/sha256/01/0102"
  bucket := "documents"
  maxBytes := 100

def staleVerdict : List ObjectEvent :=
  let request : StoreRequest := {
    originalName := "drawing.pdf"
    content := [1, 2]
    contentType := "application/pdf"
    expectedSha256 := sampleDigest [1, 2]
    actor := "engineer" }
  [.store 0 request 0, .put 0 {}, .read 0, .verdict 0 1, .retrieve 1 "viewer",
    .retrieve 2 "viewer", .read 1, .change (some [3]), .read 2, .verdict 2 2, .verdict 1 3]

theorem stale_verdict_lifts_quarantine : ¬ ∀ (env : ObjectEnv) (events : List ObjectEvent),
    Throughout (ObjectSystem.step env) (Truthful env) {} events := by
  intro always
  have truthful := (always sampleObjectEnv staleVerdict).last
  have status : ((exec (ObjectSystem.step sampleObjectEnv) {} staleVerdict).manifest.map
      fun manifest => (manifest.status, manifest.byteLength)) = some (.available, 2) := by
    decide +kernel
  have latest : mostRecent (exec (ObjectSystem.step sampleObjectEnv) {} staleVerdict).written =
      some ⟨2, [3]⟩ := by
    decide +kernel
  obtain ⟨manifest, found, same⟩ := Option.map_eq_some_iff.mp status
  obtain ⟨read, latest', intact⟩ := truthful.available manifest found (congrArg Prod.fst same)
  cases latest.symm.trans latest'
  have length : 1 = 2 := intact.length.trans (congrArg Prod.snd same)
  omega

end MiniOgas
