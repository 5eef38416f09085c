import MiniOgas.TransportEnvelopes

namespace MiniOgas

/-- `raw.get(key) or ... or default`. -/
def firstOf (raw : Fields) (keys : List String) (default : Json) : Json :=
  keys.foldr (fun key value => (raw.get key).or value) default

/-- `dict(value or {})`; `none` when it raises. -/
def dictOr : Json → Option Fields
  | .obj fields => some fields
  | value => if value.truthy then none else some []

def TransportData.get (data : TransportData) (key : String) : Json := data.fields.dict.get key

section Builders

variable (builtins : Builtins) (codec : TransportCodec) (published : Timestamp)

/-- `str(raw.get(key) or ... or default)`. -/
def textOf (raw : Fields) (keys : List String) (default : String) : String :=
  builtins.text (firstOf raw keys (.str default))

/-- `int(raw.get(key) or ... or default)`. -/
def intOf (raw : Fields) (keys : List String) (default : Int) : Option Int :=
  builtins.int (firstOf raw keys (.int default))

def makeData (kind : MessageType) (fields : Fields) : Option TransportData :=
  (readModel (kind.model codec) (.obj fields)).map (TransportData.mk kind)

def heartbeatEnvelope (payload : Fields) : Option TransportEnvelope := do
  let occurredAt ← asUtc builtins codec.toReaders (payload.get "timestamp") published
  guard ((dictOr (payload.get "runtime")).isSome = true)
  let data ← makeData codec .heartbeat (transportData published payload occurredAt)
  let nodeCode ← (data.get "node_code").text?
  let runId ← ((data.get "runtime").dict.get "run_id").text?
  let sequence ← ((data.get "sync").dict.get "last_sync_id").asInt
  TransportEnvelope.make codec {
    messageId := codec.messageIdOf "heartbeat" ((payload.pop "schema_version").pop "_received_at")
    messageType := .heartbeat
    source := nodeCode
    nodeCode
    occurredAt
    publishedAt := published
    correlationId := s!"{runId}:{nodeCode}:{sequence}"
    runId
    sequence
    data }

def eventEnvelope (raw : Fields) : Option TransportEnvelope := do
  let eventType := textOf builtins raw ["event_type", "stage"] ""
  let sequence ← intOf builtins raw ["local_sequence", "id"] 0
  let runId := textOf builtins raw ["run_id"] "unbound"
  let nodeCode := textOf builtins raw ["source_node", "node_code"] "central"
  let occurredAt ← asUtc builtins codec.toReaders
    ((raw.get "event_time").or (raw.get "created_at")) published
  let payload ← dictOr (raw.get "payload")
  let data ← makeData codec .event
    [("event_type", .str eventType),
      ("severity", .str (textOf builtins raw ["severity"] "info")),
      ("message", .str (textOf builtins raw ["message"] eventType)),
      ("scenario_id", .str (textOf builtins raw ["scenario_id"] "")),
      ("local_sequence", .int sequence), ("payload", .obj payload)]
  TransportEnvelope.make codec {
    messageId := textOf builtins raw ["event_id"] (codec.messageIdOf "event" raw)
    messageType := .event
    source := nodeCode
    nodeCode
    occurredAt
    publishedAt := published
    correlationId := textOf builtins raw ["correlation_id"] s!"{runId}:{nodeCode}:{sequence}"
    runId
    sequence
    data }

def commandEnvelope (raw : Fields) : Option TransportEnvelope := do
  let commandId ← intOf builtins raw ["id", "command_id"] 0
  let version ← intOf builtins raw ["version"] 1
  let nodeCode := textOf builtins raw ["node_code"] ""
  let riskLevel := textOf builtins raw ["risk_level"] "low"
  let status := textOf builtins raw ["status"] "pending"
  let occurredAt ← asUtc builtins codec.toReaders
    ((raw.get "updated_at").or (raw.get "created_at")) published
  let expiresAt ← asUtc builtins codec.toReaders (raw.get "expires_at") (published + 120000000)
  let parameters ← dictOr (raw.get "parameters")
  let data ← makeData codec .command
    [("command_id", .int commandId), ("version", .int version),
      ("command_type", .str (textOf builtins raw ["command_type"] "")),
      ("risk_level", .str riskLevel), ("status", .str status),
      ("operator", .str (textOf builtins raw ["operator"] "central")),
      ("parameters", .obj parameters), ("expires_at", .time expiresAt),
      ("confirmation_required", .bool (["high", "critical"].contains riskLevel)),
      ("reason", .str (textOf builtins raw ["result_message"] ""))]
  TransportEnvelope.make codec {
    messageId := codec.messageIdOf "command" [("command_id", .int commandId),
      ("version", .int version), ("status", .str status), ("node_code", .str nodeCode)]
    messageType := .command
    source := "central-api"
    nodeCode
    occurredAt
    publishedAt := published
    correlationId := s!"command:{commandId}:v{version}"
    runId := textOf builtins raw ["run_id"] "unbound"
    sequence := commandId
    data }

def auditEnvelope (raw : Fields) (runId : String) : Option TransportEnvelope := do
  let auditId ← intOf builtins raw ["id"] 0
  let durableRunId := if runId = "" then textOf builtins raw ["run_id"] "unbound" else runId
  let occurredAt ← asUtc builtins codec.toReaders (raw.get "created_at") published
  let data ← makeData codec .audit
    [("actor", .str (textOf builtins raw ["actor"] "central")),
      ("action", .str (textOf builtins raw ["action"] "unknown")),
      ("resource_type", .str (textOf builtins raw ["resource_type"] "system")),
      ("resource_id", .str (builtins.text ((raw.get "resource_id").or (.int auditId)))),
      ("result", .str (textOf builtins raw ["result"] "recorded")),
      ("detail", .str (textOf builtins raw ["detail"] ""))]
  TransportEnvelope.make codec {
    messageId := codec.messageIdOf "audit" (("id", .int auditId) ::
      ("run_id", .str durableRunId) :: dumpFields codec data.fields.dict)
    messageType := .audit
    source := "central-api"
    nodeCode := "central"
    occurredAt
    publishedAt := published
    correlationId := s!"audit:{durableRunId}:{auditId}"
    runId := durableRunId
    sequence := auditId
    data }

inductive TransportInput where
  | heartbeat (payload : Fields)
  | event (raw : Fields)
  | command (raw : Fields)
  | audit (raw : Fields) (runId : String)

def TransportInput.build : TransportInput → Option TransportEnvelope
  | .heartbeat payload => heartbeatEnvelope builtins codec published payload
  | .event raw => eventEnvelope builtins codec published raw
  | .command raw => commandEnvelope builtins codec published raw
  | .audit raw runId => auditEnvelope builtins codec published raw runId

end Builders

/-- A row of `nats_shadow_receipts`, of the message that its key names. -/
structure TransportReceipt where
  subject : String
  messageType : String
  sourceNode : String
  runId : String
  localSequence : Int
  correlationId : String
  occurredAt : Timestamp
  ingestedAt : Timestamp
  payloadJson : String
  deliveryCount : Nat
  duplicateCount : Nat
  lastIngestedAt : Timestamp

inductive DatabaseKind where
  | sqlite
  | postgres
deriving DecidableEq

def DatabaseKind.takesText (database : DatabaseKind) (s : String) : Bool :=
  database = .sqlite || !s.toList.contains '\x00'

/-- `INTEGER` of SQLite and `BIGINT` of PostgreSQL. -/
def fitsBigint (n : Int) : Bool := -(2 ^ 63) ≤ n && n < 2 ^ 63

def DatabaseKind.takes (database : DatabaseKind) (envelope : TransportEnvelope) : Bool :=
  fitsBigint envelope.sequence && database.takesText envelope.messageId &&
    database.takesText envelope.runId && database.takesText envelope.correlationId

section Worker

variable (codec : TransportCodec) (database : DatabaseKind)

/-- `persist_nats_receipt`, with the table and the time; `none` when the database raises. -/
def persistNatsReceipt (envelope : TransportEnvelope) (subject : String) (now : Timestamp)
    (receipts : Dictionary String TransportReceipt) :
    Option (Bool × Dictionary String TransportReceipt) :=
  if database.takes envelope then
    let receipt : TransportReceipt := match receipts.get? envelope.messageId with
      | some receipt => { receipt with
          deliveryCount := receipt.deliveryCount + 1
          duplicateCount := receipt.duplicateCount + 1
          lastIngestedAt := now }
      | none => {
          subject
          messageType := envelope.messageType.text
          sourceNode := envelope.nodeCode
          runId := envelope.runId
          localSequence := envelope.sequence
          correlationId := envelope.correlationId
          occurredAt := envelope.occurredAt
          ingestedAt := now
          payloadJson := envelope.storedPayload codec
          deliveryCount := 1
          duplicateCount := 0
          lastIngestedAt := now }
    some (receipt.deliveryCount = 1, receipts.set envelope.messageId receipt)
  else none

structure NatsMessage where
  subject : String
  data : ByteArray
  now : Timestamp

inductive Acknowledgement where
  | ack
  | term
  | nak

structure NatsEventWorker where
  receipts : Dictionary String TransportReceipt := .empty
  status : String := "not_started"
  persistedCount : Nat := 0
  duplicateCount : Nat := 0
  invalidCount : Nat := 0
  failureCount : Nat := 0

def processMessage (message : NatsMessage) (worker : NatsEventWorker) :
    Acknowledgement × NatsEventWorker :=
  let invalid : NatsEventWorker :=
    { worker with invalidCount := worker.invalidCount + 1, status := "degraded" }
  match TransportEnvelope.decodeBytes codec message.data with
  | none => (.term, invalid)
  | some envelope =>
    match subjectForEnvelope envelope with
    | none => (.term, invalid)
    | some expectedSubject =>
      if message.subject = expectedSubject then
        match persistNatsReceipt codec database envelope message.subject message.now
            worker.receipts with
        | none =>
          (.nak, { worker with failureCount := worker.failureCount + 1, status := "degraded" })
        | some (inserted, receipts) =>
          (.ack, { worker with
            receipts
            persistedCount := worker.persistedCount + if inserted then 1 else 0
            duplicateCount := worker.duplicateCount + if inserted then 0 else 1
            status := "live" })
      else (.term, invalid)

def processAll : List NatsMessage → NatsEventWorker → List Acknowledgement × NatsEventWorker
  | [], worker => ([], worker)
  | message :: messages, worker =>
    let (answer, worker) := processMessage codec database message worker
    let (answers, worker) := processAll messages worker
    (answer :: answers, worker)

end Worker

/-- A codec gives the envelope back, with data of its class. -/
def GivesBack (decoded : Option TransportEnvelope) (envelope : TransportEnvelope) : Prop :=
  ∃ other, decoded = some other ∧ other.Same envelope ∧ other.data.kind = envelope.data.kind

structure Counted (receipt : Option TransportReceipt) (accepted : Nat) : Prop where
  absent : accepted = 0 → receipt = none
  counts : 0 < accepted → ∃ row, receipt = some row ∧ row.deliveryCount = accepted ∧
    row.duplicateCount + 1 = accepted

def deliveriesOf (data : ByteArray) (subjects : List (String × Timestamp)) : List NatsMessage :=
  subjects.map fun delivery => ⟨delivery.1, data, delivery.2⟩

/-- The worker accepts the deliveries of an envelope under its subject, and counts them. -/
def AcceptsOwn (codec : TransportCodec) (database : DatabaseKind) (envelope : TransportEnvelope) :
    Prop :=
  ∀ (worker : NatsEventWorker) (subjects : List (String × Timestamp)),
    worker.receipts.get? envelope.messageId = none →
      (processAll codec database (deliveriesOf (envelope.bytes codec) subjects) worker).1 =
          subjects.map (fun delivery =>
            if delivery.1 = envelope.subject then .ack else .term) ∧
        Counted ((processAll codec database (deliveriesOf (envelope.bytes codec) subjects)
          worker).2.receipts.get? envelope.messageId)
          (subjects.countP fun delivery => delivery.1 = envelope.subject) ∧
        ∀ other, other ≠ envelope.messageId →
          (processAll codec database (deliveriesOf (envelope.bytes codec) subjects)
            worker).2.receipts.get? other = worker.receipts.get? other

structure Lossless (codec : TransportCodec) (database : DatabaseKind)
    (envelope : TransportEnvelope) : Prop where
  stored : GivesBack (TransportEnvelope.decodeText codec (envelope.storedPayload codec)) envelope
  wire : GivesBack (TransportEnvelope.decodeBytes codec (envelope.bytes codec)) envelope
  subject : subjectForEnvelope envelope = some envelope.subject ∧
    validSubject envelope.subject = true ∧ streamCovers envelope.subject = true
  accepted : AcceptsOwn codec database envelope

section Laws

variable {builtins : Builtins} {codec : TransportCodec} {published : Timestamp}
  {database : DatabaseKind} {envelope decoded : TransportEnvelope} {worker : NatsEventWorker}
  {data : ByteArray}

theorem make_eq_some_iff {made : TransportEnvelope} :
    TransportEnvelope.make codec envelope = some made ↔
      envelope.valid codec = true ∧ envelope = made := by
  unfold TransportEnvelope.make
  split
  next valid => simp [valid]
  next invalid => simp [invalid]

theorem makeData_eq_some {kind : MessageType} {fields : Fields} {data : TransportData}
    (made : makeData codec kind fields = some data) :
    data.kind = kind ∧ ∃ raw, readModel (kind.model codec) raw = some data.fields := by
  obtain ⟨made, reads, rfl⟩ := Option.map_eq_some_iff.mp made
  exact ⟨rfl, .obj fields, reads⟩

theorem built_of_make {kind : MessageType} {fields : Fields} {other : TransportEnvelope}
    (data : makeData codec kind fields = some other.data) (own : other.messageType = kind)
    (made : TransportEnvelope.make codec other = some envelope) : Built codec envelope := by
  obtain ⟨valid, rfl⟩ := make_eq_some_iff.mp made
  refine ⟨valid, ?_⟩
  rw [own]
  exact (makeData_eq_some data).2

theorem built_of_build (input : TransportInput)
    (made : input.build builtins codec published = some envelope) : Built codec envelope := by
  cases input with
  | heartbeat payload =>
    unfold TransportInput.build heartbeatEnvelope at made
    simp only [Option.bind_eq_bind, Option.bind_eq_some_iff] at made
    obtain ⟨occurred, -, _, -, data, reads, nodeCode, -, runId, -, sequence, -, made⟩ := made
    exact built_of_make reads rfl made
  | event raw =>
    unfold TransportInput.build eventEnvelope at made
    simp only [Option.bind_eq_bind, Option.bind_eq_some_iff] at made
    obtain ⟨sequence, -, occurred, -, payload, -, data, reads, made⟩ := made
    exact built_of_make reads rfl made
  | command raw =>
    unfold TransportInput.build commandEnvelope at made
    simp only [Option.bind_eq_bind, Option.bind_eq_some_iff] at made
    obtain ⟨commandId, -, version, -, occurred, -, expires, -, parameters, -, data, reads,
      made⟩ := made
    exact built_of_make reads rfl made
  | audit raw runId =>
    unfold TransportInput.build auditEnvelope at made
    simp only [Option.bind_eq_bind, Option.bind_eq_some_iff] at made
    obtain ⟨auditId, -, occurred, -, data, reads, made⟩ := made
    exact built_of_make reads rfl made

theorem nodeCode_of_valid {readers : Readers} {data : Fields} {made : Json}
    (reads : readModel (heartbeatModel readers) (.obj data) = some made) :
    ∃ s, data.get "node_code" = .str s ∧ made.dict.get "node_code" = .str s ∧
      nodeToken s = true := by
  have required : .required "node_code" (readTextWhen nodeToken) ∈ heartbeatModel readers := by
    simp [heartbeatModel]
  obtain ⟨fields, values, same, rfl, _, _, found, read, gives⟩ :=
    required_of_readModel distinct_heartbeatModel reads required
  cases same
  obtain ⟨s, rfl, rfl, token⟩ := readTextWhen_eq_some read
  exact ⟨s, get_of_find found, get_of_find gives, token⟩

theorem runId_of_valid {readers : Readers} {data : Fields} {made : Json}
    (reads : readModel (heartbeatModel readers) (.obj data) = some made) :
    ∃ s, (data.get "runtime").dict.get "run_id" = .str s ∧
      (made.dict.get "runtime").dict.get "run_id" = .str s ∧ 1 ≤ s.length ∧ s.length ≤ 128 := by
  have required : .required "runtime" (readModel (runtimeModel readers)) ∈
      heartbeatModel readers := by
    simp [heartbeatModel]
  obtain ⟨fields, values, same, rfl, runtime, given, found, read, gives⟩ :=
    required_of_readModel distinct_heartbeatModel reads required
  cases same
  have required : .required "run_id" (lengthFrom 1 128) ∈ runtimeModel readers := by
    simp [runtimeModel]
  obtain ⟨fields', values', rfl, rfl, _, _, found', read, gives'⟩ :=
    required_of_readModel (by simp [runtimeModel, ReadField.required, ReadField.optional]) read
      required
  obtain ⟨s, rfl, rfl, short⟩ := readTextWhen_eq_some read
  dsimp only [Json.dict]
  rw [get_of_find found, get_of_find gives]
  exact ⟨s, get_of_find found', get_of_find gives', by simpa using short⟩

/-- The envelope of a heartbeat, as the transaction of its facts queues it. -/
def TransportEnvelope.queued (payload : Fields) (envelope : TransportEnvelope) :
    HeartbeatEnvelope where
  messageId := envelope.messageId
  nodeCode := envelope.nodeCode
  subject := envelope.subject
  occurredAt := envelope.occurredAt
  publishedAt := envelope.publishedAt
  correlationId := envelope.correlationId
  runId := envelope.runId
  sequence := envelope.sequence
  data := transportData envelope.publishedAt payload envelope.occurredAt

/-- What the transaction of the facts queues is the envelope that the worker will decode. -/
theorem buildHeartbeatEnvelope_eq {payload : Fields}
    (runtime : (dictOr (payload.get "runtime")).isSome = true)
    (named : ∀ fields, codec.messageId fields = codec.messageIdOf "heartbeat" fields)
    (unique : ∀ fields, codec.uuid (codec.messageIdOf "heartbeat" fields) = true) :
    buildHeartbeatEnvelope builtins codec published payload =
      (heartbeatEnvelope builtins codec published payload).map
        (TransportEnvelope.queued payload) := by
  unfold buildHeartbeatEnvelope heartbeatEnvelope
  cases asUtc builtins codec (payload.get "timestamp") published with
  | none => rfl
  | some occurred =>
    rw [runtime]
    simp only [Option.bind_eq_bind, Option.bind_some]
    cases reads : readModel (heartbeatModel codec) (.obj (transportData published payload occurred))
      with
    | none => simp [makeData, MessageType.model, reads, guard]
    | some made =>
      obtain ⟨node, raw, given, token⟩ := nodeCode_of_valid reads
      obtain ⟨run, rawRun, givenRun, filled, short⟩ := runId_of_valid reads
      obtain ⟨sequence, number, given', positive⟩ := sync_of_valid reads
      have data : makeData codec .heartbeat (transportData published payload occurred) =
          some ⟨.heartbeat, made⟩ := by
        simp only [makeData, MessageType.model, reads, Option.map_some]
      have correlated : correlationIdOf builtins (transportData published payload occurred)
          sequence = s!"{run}:{node}:{sequence}" := by
        simp only [correlationIdOf, envelopeRunId, envelopeNodeCode, raw, rawRun, Builtins.text]
      rw [data]
      simp only [TransportData.get, given, givenRun, given', Json.text?, Json.asInt, guard,
        number, Option.isSome_some, if_true, Option.bind_some, correlated, Option.pure_def,
        envelopeNodeCode, envelopeRunId, raw, rawRun, Builtins.text, TransportEnvelope.make]
      have nonempty : 1 ≤ (s!"{run}:{node}:{sequence}").length := by
        simp [toString, String.length_append]
        omega
      by_cases fits : (s!"{run}:{node}:{sequence}").length ≤ 128
      · rw [if_pos fits, if_pos]
        · simp only [Option.map_some, TransportEnvelope.queued, TransportEnvelope.subject, named]
          rfl
        · exact valid_iff.mpr ⟨token, token, ⟨nonempty, fits⟩, ⟨filled, short⟩, positive, rfl,
            unique _⟩
      · rw [if_neg fits, if_neg]
        · rfl
        · exact fun valid => fits (valid_iff.mp valid).2.2.1.2

theorem text_sorted (kind : MessageType) (value : Json) (key : String) :
    TransportData.text ⟨kind, value.sorted⟩ key = TransportData.text ⟨kind, value⟩ key := by
  cases value with
  | obj fields =>
    have found : Fields.find ((sortedFields fields).insertionSort keyBefore) key =
        (Fields.find fields key).map Json.sorted := find_sortedFields key
    unfold TransportData.text
    rw [Json.sorted]
    dsimp only
    rw [found]
    cases Fields.find fields key with
    | none => rfl
    | some value =>
      cases value with
      | str => rfl
      | null | bool | int | float | time | arr | obj => rfl
  | null | bool | int | float | str | time | arr => rfl

theorem subject_normal (envelope : TransportEnvelope) :
    envelope.normal.subject = envelope.subject := by
  have text : ∀ key, envelope.normal.data.text key = envelope.data.text key :=
    text_sorted envelope.data.kind envelope.data.fields
  unfold TransportEnvelope.subject
  rw [text, text]
  rfl

theorem subject_of_same (same : decoded.Same envelope) : decoded.subject = envelope.subject := by
  have equal : decoded.normal = envelope.normal := same
  rw [← subject_normal decoded, equal, subject_normal]

theorem messageId_of_same (same : decoded.Same envelope) :
    decoded.messageId = envelope.messageId := by
  have equal : decoded.normal = envelope.normal := same
  have normal : decoded.normal.messageId = envelope.normal.messageId := by rw [equal]
  exact normal

theorem takes_of_same (same : decoded.Same envelope) :
    database.takes decoded = database.takes envelope := by
  have equal : decoded.normal = envelope.normal := same
  have normal : database.takes decoded.normal = database.takes envelope.normal := by rw [equal]
  exact normal

theorem subjectForEnvelope_of_same (built : Built codec envelope) (same : decoded.Same envelope) :
    subjectForEnvelope decoded = some envelope.subject := by
  unfold subjectForEnvelope
  rw [subject_of_same same, if_pos (validSubject_subject built)]

/-- The bytes of a message are decoded as an envelope. -/
def Carries (codec : TransportCodec) (data : ByteArray) (envelope : TransportEnvelope) : Prop :=
  ∃ decoded, TransportEnvelope.decodeBytes codec data = some decoded ∧ decoded.Same envelope

theorem processMessage_other (built : Built codec envelope) (carries : Carries codec data envelope)
    {subject : String} (other : subject ≠ envelope.subject) (now : Timestamp) :
    (processMessage codec database ⟨subject, data, now⟩ worker).1 = .term ∧
      (processMessage codec database ⟨subject, data, now⟩ worker).2.receipts =
        worker.receipts := by
  obtain ⟨decoded, decodes, same⟩ := carries
  unfold processMessage
  rw [decodes]
  dsimp only
  rw [subjectForEnvelope_of_same built same]
  dsimp only
  rw [if_neg other]
  exact ⟨rfl, rfl⟩

theorem processMessage_refused (built : Built codec envelope)
    (carries : Carries codec data envelope) (refused : database.takes envelope = false)
    (now : Timestamp) :
    (processMessage codec database ⟨envelope.subject, data, now⟩ worker).1 = .nak := by
  obtain ⟨decoded, decodes, same⟩ := carries
  have refuses : database.takes decoded = false := by rw [takes_of_same same, refused]
  unfold processMessage
  rw [decodes]
  dsimp only
  rw [subjectForEnvelope_of_same built same]
  dsimp only
  rw [if_pos rfl]
  unfold persistNatsReceipt
  rw [refuses]
  rfl

theorem processMessage_own (built : Built codec envelope) (carries : Carries codec data envelope)
    (takes : database.takes envelope = true) (now : Timestamp) {accepted : Nat}
    (counted : Counted (worker.receipts.get? envelope.messageId) accepted) :
    (processMessage codec database ⟨envelope.subject, data, now⟩ worker).1 = .ack ∧
      Counted ((processMessage codec database ⟨envelope.subject, data, now⟩
        worker).2.receipts.get? envelope.messageId) (accepted + 1) ∧
      ∀ other, other ≠ envelope.messageId →
        (processMessage codec database ⟨envelope.subject, data, now⟩
          worker).2.receipts.get? other = worker.receipts.get? other := by
  obtain ⟨decoded, decodes, same⟩ := carries
  have takes : database.takes decoded = true := by rw [takes_of_same same, takes]
  have id := messageId_of_same same
  unfold processMessage
  rw [decodes]
  dsimp only
  rw [subjectForEnvelope_of_same built same]
  dsimp only
  rw [if_pos rfl]
  unfold persistNatsReceipt
  rw [if_pos takes, id]
  refine ⟨rfl, ?_, fun other different => ?_⟩
  · refine ⟨fun none => by omega, fun _ => ?_⟩
    rw [Dictionary.get?_set, if_pos rfl]
    refine ⟨_, rfl, ?_⟩
    rcases Nat.eq_zero_or_pos accepted with zero | pos
    · rw [counted.absent zero, zero]
      exact ⟨rfl, rfl⟩
    · obtain ⟨row, found, deliveries, duplicates⟩ := counted.counts pos
      rw [found]
      dsimp only
      omega
  · dsimp only
    rw [Dictionary.get?_set, if_neg different]

theorem processAll_cons (message : NatsMessage) (messages : List NatsMessage)
    (worker : NatsEventWorker) : processAll codec database (message :: messages) worker =
      ((processMessage codec database message worker).1 ::
        (processAll codec database messages (processMessage codec database message worker).2).1,
        (processAll codec database messages
          (processMessage codec database message worker).2).2) := by
  rw [processAll]

theorem processAll_own (built : Built codec envelope) (carries : Carries codec data envelope)
    (takes : database.takes envelope = true) (subjects : List (String × Timestamp))
    {accepted : Nat} (counted : Counted (worker.receipts.get? envelope.messageId) accepted) :
    (processAll codec database (deliveriesOf data subjects) worker).1 =
        subjects.map (fun delivery =>
          if delivery.1 = envelope.subject then .ack else .term) ∧
      Counted ((processAll codec database (deliveriesOf data subjects)
        worker).2.receipts.get? envelope.messageId)
        (accepted + subjects.countP fun delivery => delivery.1 = envelope.subject) ∧
      ∀ other, other ≠ envelope.messageId →
        (processAll codec database (deliveriesOf data subjects) worker).2.receipts.get? other =
          worker.receipts.get? other := by
  induction subjects generalizing worker accepted with
  | nil => exact ⟨rfl, counted, fun _ _ => rfl⟩
  | cons delivery subjects ih =>
    obtain ⟨subject, now⟩ := delivery
    have carried : deliveriesOf data ((subject, now) :: subjects) =
        ⟨subject, data, now⟩ :: deliveriesOf data subjects := List.map_cons
    rw [carried, processAll_cons, List.map_cons]
    by_cases own : subject = envelope.subject
    · subst own
      obtain ⟨answer, counts, frame⟩ :=
        @processMessage_own codec database envelope worker data built carries takes now _ counted
      obtain ⟨answers, total, rest⟩ := ih counts
      rw [answer, answers, if_pos rfl, List.countP_cons_of_pos (by simp)]
      refine ⟨rfl, ?_, fun other different => (rest other different).trans (frame other different)⟩
      rw [Nat.add_comm _ 1, ← Nat.add_assoc]
      exact total
    · obtain ⟨answer, frame⟩ :=
        @processMessage_other codec database envelope worker data built carries subject own now
      rw [← frame] at counted
      obtain ⟨answers, total, rest⟩ := ih counted
      rw [answer, answers, if_neg own, List.countP_cons_of_neg (by simpa using own)]
      refine ⟨rfl, total, fun other different => ?_⟩
      rw [rest other different, frame]

theorem acceptsOwn_iff (built : Built codec envelope) :
    AcceptsOwn codec database envelope ↔ database.takes envelope = true := by
  have carries : Carries codec (envelope.bytes codec) envelope := decodeBytes_bytes built
  unfold AcceptsOwn
  generalize envelope.bytes codec = data at carries
  constructor
  · intro accepts
    by_contra refused
    have absent : ({} : NatsEventWorker).receipts.get? envelope.messageId = none := rfl
    have answer := (accepts {} [(envelope.subject, 0)] absent).1
    have nak := @processMessage_refused codec database envelope {} data built carries
      (Bool.eq_false_iff.mpr refused) 0
    have carried : deliveriesOf data [(envelope.subject, 0)] =
        [⟨envelope.subject, data, 0⟩] := List.map_cons
    rw [carried, processAll_cons, nak, List.map_cons, if_pos rfl] at answer
    cases (List.cons.inj answer).1
  · intro takes worker subjects absent
    have counted : Counted (worker.receipts.get? envelope.messageId) 0 :=
      ⟨fun _ => absent, fun pos => absurd pos (Nat.lt_irrefl 0)⟩
    have all := processAll_own built carries takes subjects counted
    rw [Nat.zero_add] at all
    exact all

theorem lossless_iff (built : Built codec envelope) :
    Lossless codec database envelope ↔ database.takes envelope = true := by
  rw [← acceptsOwn_iff built]
  constructor
  · exact Lossless.accepted
  · intro accepted
    obtain ⟨stored, decodes, same⟩ := decodeText_storedPayload built
    obtain ⟨wire, reads, alike⟩ := decodeBytes_bytes built
    exact ⟨⟨stored, decodes, same, same_kind same⟩, ⟨wire, reads, alike, same_kind alike⟩,
      ⟨subjectForEnvelope_of_built built, validSubject_subject built,
        streamCovers_subject built⟩, accepted⟩

theorem takes_iff (valid : envelope.valid codec = true) :
    database.takes envelope = true ↔ envelope.sequence < 2 ^ 63 ∧
      (database = .postgres → ∀ s ∈ [envelope.messageId, envelope.runId, envelope.correlationId],
        '\x00' ∉ s.toList) := by
  have low := (valid_iff.mp valid).2.2.2.2.1
  have whole : fitsBigint envelope.sequence = true ↔ envelope.sequence < 2 ^ 63 := by
    unfold fitsBigint
    rw [Bool.and_eq_true, decide_eq_true_eq, decide_eq_true_eq]
    omega
  unfold DatabaseKind.takes DatabaseKind.takesText
  simp only [Bool.and_eq_true, whole]
  cases database with
  | sqlite => simp
  | postgres => simp [and_assoc]

/-- The transport loses nothing of the envelopes whose receipt the database can store. -/
theorem transport_lossless_iff (builtins : Builtins) (codec : TransportCodec)
    (published : Timestamp) (database : DatabaseKind) (input : TransportInput)
    (envelope : TransportEnvelope)
    (built : input.build builtins codec published = some envelope) :
    Lossless codec database envelope ↔ envelope.sequence < 2 ^ 63 ∧
      (database = .postgres → ∀ s ∈ [envelope.messageId, envelope.runId, envelope.correlationId],
        '\x00' ∉ s.toList) := by
  have made := built_of_build input built
  rw [lossless_iff made, takes_iff made.valid]

end Laws

def epochText : String := "1970-01-01T00:00:00Z"

/-- The text of a time, that of `isoformat` for the epoch. -/
def sampleIsoFormat (t : Timestamp) : String :=
  if t = 0 then epochText else String.ofList (writeInt t)

def sampleDatetime : Json → Option Timestamp
  | .time t => some t
  | .str s => if s = epochText then some 0 else readInteger s.toList
  | _ => none

theorem sampleDatetime_isoFormat (t : Timestamp) :
    sampleDatetime (.str (sampleIsoFormat t)) = some t := by
  unfold sampleIsoFormat
  split
  next zero =>
    rw [zero]
    rfl
  next other =>
    have different : String.ofList (writeInt t) ≠ epochText := by
      intro same
      have text : writeInt t = epochText.toList := by rw [← same, String.toList_ofList]
      have reads := readInteger_writeInt t
      rw [text] at reads
      cases reads
    unfold sampleDatetime
    dsimp only
    rw [if_neg different, String.toList_ofList]
    exact readInteger_writeInt t

def sampleBool : Json → Option Bool
  | .bool b => some b
  | _ => none

def sampleFloat : Json → Option ℚ
  | .float q => some q
  | .int n => some n
  | _ => none

theorem sampleInt_int (n : Int) : Json.asInt (.int n) = some n := rfl

theorem sampleFloat_float (q : ℚ) : sampleFloat (.float q) = some q := rfl

theorem sampleBool_bool (b : Bool) : sampleBool (.bool b) = some b := rfl

def sampleCodec : TransportCodec where
  int := Json.asInt
  float := sampleFloat
  bool := sampleBool
  datetime := sampleDatetime
  fromIsoFormat s := sampleDatetime (.str s)
  messageId _ := "00000000-0000-5000-8000-000000000000"
  isoFormat := sampleIsoFormat
  uuid s := s.length = 36
  messageIdOf _ _ := "00000000-0000-5000-8000-000000000000"
  format := sampleFormat
  int_int := sampleInt_int
  float_float := sampleFloat_float
  bool_bool := sampleBool_bool
  datetime_iso := sampleDatetime_isoFormat

def sampleToolEvent (sequence : Int) : TransportInput :=
  .event [("event_id", .str "6c1ef2a0-6f0b-5b7e-9a63-3b0a9a6e4d11"),
    ("event_type", .str "tool_wear"), ("source_node", .str "turning-workshop-01"),
    ("run_id", .str "run-1"), ("local_sequence", .int sequence)]

def sampleToolEnvelope (sequence : Int) : Option TransportEnvelope :=
  (sampleToolEvent sequence).build sampleBuiltins sampleCodec 0

theorem sampleToolEvent_built {sequence : Int}
    (built : (sampleToolEnvelope sequence).map (·.sequence) = some sequence) :
    ∃ envelope, sampleToolEnvelope sequence = some envelope ∧ envelope.sequence = sequence :=
  Option.map_eq_some_iff.mp built

/-- An event whose sequence number is no `BIGINT` is published, and never accepted. -/
theorem huge_sequence_lost : ¬ ∀ (builtins : Builtins) (codec : TransportCodec)
    (published : Timestamp) (database : DatabaseKind) (input : TransportInput)
    (envelope : TransportEnvelope), input.build builtins codec published = some envelope →
      Lossless codec database envelope := by
  intro h
  obtain ⟨envelope, built, sequence⟩ := @sampleToolEvent_built (2 ^ 63) (by decide +kernel)
  have lossless := h sampleBuiltins sampleCodec 0 .sqlite (sampleToolEvent (2 ^ 63)) envelope built
  have valid := built_of_build (sampleToolEvent (2 ^ 63)) built
  have takes := (lossless_iff valid).mp lossless
  have fits := ((takes_iff valid.valid).mp takes).1
  omega

/-- The event of the seventh tick is not lost. -/
theorem seventh_event_lossless : ∃ envelope, sampleToolEnvelope 7 = some envelope ∧
    Lossless sampleCodec .sqlite envelope := by
  obtain ⟨envelope, built, sequence⟩ := @sampleToolEvent_built 7 (by decide +kernel)
  refine ⟨envelope, built, ?_⟩
  rw [transport_lossless_iff sampleBuiltins sampleCodec 0 .sqlite (sampleToolEvent 7) envelope
    built]
  refine ⟨by omega, fun other => ?_⟩
  cases other

end MiniOgas
