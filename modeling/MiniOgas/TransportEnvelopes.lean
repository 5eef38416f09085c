import MiniOgas.TransportModels

namespace MiniOgas

inductive MessageType where
  | heartbeat
  | event
  | command
  | audit
deriving DecidableEq

namespace MessageType

def text : MessageType → String
  | heartbeat => "heartbeat"
  | event => "event"
  | command => "command"
  | audit => "audit"

def all : List MessageType := [heartbeat, event, command, audit]

def ofText (s : String) : Option MessageType := all.find? fun kind => kind.text = s

def model (codec : TransportCodec) : MessageType → List ReadField
  | heartbeat => heartbeatModel codec
  | event => eventModel codec
  | command => commandModel codec
  | audit => auditModel

def mark : MessageType → String
  | heartbeat => "metrics"
  | event => "event_type"
  | command => "command_id"
  | audit => "actor"

end MessageType

structure TransportData where
  kind : MessageType
  fields : Json

def TransportData.text (data : TransportData) (key : String) : String :=
  match data.fields with
  | .obj fields => match Fields.find fields key with
    | some (.str s) => s
    | _ => ""
  | _ => ""

/-- `HeartbeatData | EventData | CommandData | AuditData`. -/
def readData (codec : TransportCodec) (value : Json) : Option TransportData :=
  MessageType.all.findSome? fun kind =>
    (readModel (kind.model codec) value).map fun fields => ⟨kind, fields⟩

structure TransportEnvelope where
  messageId : String
  messageType : MessageType
  source : String
  nodeCode : String
  occurredAt : Timestamp
  publishedAt : Timestamp
  correlationId : String
  runId : String
  sequence : Int
  data : TransportData

def Json.text? : Json → Option String
  | .str s => some s
  | _ => none

namespace TransportEnvelope

section Envelopes

variable (codec : TransportCodec)

def names : List String :=
  ["schema_version", "message_id", "message_type", "source", "node_code", "occurred_at",
    "published_at", "correlation_id", "run_id", "sequence", "data"]

/-- The fields and `validate_message_data_pair`. -/
def valid (envelope : TransportEnvelope) : Bool :=
  nodeToken envelope.source && nodeToken envelope.nodeCode &&
    (1 ≤ envelope.correlationId.length && envelope.correlationId.length ≤ 128) &&
    (1 ≤ envelope.runId.length && envelope.runId.length ≤ 128) && 0 ≤ envelope.sequence &&
    envelope.data.kind = envelope.messageType && codec.uuid envelope.messageId

/-- The constructor of `TransportEnvelope`, of data that has been validated. -/
def make (envelope : TransportEnvelope) : Option TransportEnvelope :=
  if envelope.valid codec then some envelope else none

/-- `TransportEnvelope.model_validate`. -/
def validate : Json → Option TransportEnvelope
  | .obj fields => do
    let field := Fields.find fields
    guard ((fields.all fun entry => names.contains entry.1) = true)
    guard ((field "schema_version").all (·.isText "3.0") = true)
    let messageId ← (field "message_id").bind Json.text?
    let messageType ← ((field "message_type").bind Json.text?).bind MessageType.ofText
    let source ← (field "source").bind Json.text?
    let nodeCode ← (field "node_code").bind Json.text?
    let occurredAt ← (field "occurred_at").bind codec.datetime
    let publishedAt ← (field "published_at").bind codec.datetime
    let correlationId ← (field "correlation_id").bind Json.text?
    let runId ← (field "run_id").bind Json.text?
    let sequence ← (field "sequence").bind codec.int
    let data ← (field "data").bind (readData codec)
    make codec { messageId, messageType, source, nodeCode, occurredAt, publishedAt, correlationId
                 runId, sequence, data }
  | _ => none

/-- `model_dump(mode="json")`. -/
def dump (envelope : TransportEnvelope) : Fields :=
  [("schema_version", .str "3.0"), ("message_id", .str envelope.messageId),
    ("message_type", .str envelope.messageType.text), ("source", .str envelope.source),
    ("node_code", .str envelope.nodeCode),
    ("occurred_at", .str (codec.isoFormat envelope.occurredAt)),
    ("published_at", .str (codec.isoFormat envelope.publishedAt)),
    ("correlation_id", .str envelope.correlationId), ("run_id", .str envelope.runId),
    ("sequence", .int envelope.sequence), ("data", dumpValue codec envelope.data.fields)]

def normal (envelope : TransportEnvelope) : TransportEnvelope :=
  { envelope with data := { envelope.data with fields := envelope.data.fields.sorted } }

/-- The envelopes are equal, where the order of keys does not matter. -/
def Same (envelope other : TransportEnvelope) : Prop := envelope.normal = other.normal

/-- The text of the payload that `enqueue_in_transaction` stores. -/
def storedPayload (envelope : TransportEnvelope) : String :=
  dumpJson codec.format (.obj (envelope.dump codec))

/-- `envelope_bytes`. -/
def bytes (envelope : TransportEnvelope) : ByteArray :=
  (dumpJson codec.format (.obj (envelope.dump codec))).toUTF8

def decodeText (text : String) : Option TransportEnvelope :=
  (loadJson codec.format text).bind (validate codec)

def decodeBytes (bytes : ByteArray) : Option TransportEnvelope :=
  (String.fromUTF8? bytes).bind (decodeText codec)

def subject (envelope : TransportEnvelope) : String :=
  match envelope.messageType with
  | .heartbeat => "ogas.heartbeats." ++ envelope.nodeCode
  | .event => "ogas.events." ++ envelope.data.text "event_type" ++ "." ++ envelope.nodeCode
  | .command => "ogas.commands." ++ envelope.nodeCode
  | .audit => "ogas.audit." ++ envelope.data.text "resource_type"

end Envelopes

end TransportEnvelope

/-- `subject.split(".")`. -/
def subjectTokens (subject : String) : List String :=
  (subject.toList.splitOn '.').map String.ofList

/-- `validate_subject`. -/
def validSubject (subject : String) : Bool :=
  subject.length ≤ 256 && 3 ≤ (subjectTokens subject).length &&
    (subjectTokens subject).length ≤ 16 && (subjectTokens subject).all nodeToken

/-- `subject_for_envelope`; `none` when it raises. -/
def subjectForEnvelope (envelope : TransportEnvelope) : Option String :=
  if validSubject envelope.subject then some envelope.subject else none

/-- A filter covers a subject: an asterisk covers one token, and `>` what is left. -/
def filterCovers : List String → List String → Bool
  | [], tokens => tokens.isEmpty
  | [">"], tokens => !tokens.isEmpty
  | filter :: filters, token :: tokens =>
    (filter = "*" || filter = token) && filterCovers filters tokens
  | _ :: _, [] => false

def streamSubjects : List String :=
  ["ogas.events.>", "ogas.heartbeats.*", "ogas.commands.*", "ogas.audit.*"]

def streamCovers (subject : String) : Bool :=
  streamSubjects.any fun filter => filterCovers (subjectTokens filter) (subjectTokens subject)

section Laws

variable {codec : TransportCodec} {envelope : TransportEnvelope} {model : List ReadField}
  {value sent : Json} {others fields : Fields}

theorem readModel_keys (made : (readModel model value).isSome) :
    ∃ fields : Fields, value = .obj fields ∧ ∀ entry ∈ fields, entry.1 ∈ model.map (·.name) := by
  unfold readModel at made
  split at made
  next fields =>
    split at made
    next known =>
      refine ⟨fields, rfl, fun entry member => ?_⟩
      simpa using List.all_eq_true.mp known entry member
    next => cases made
  next => cases made

theorem mark_required (kind : MessageType) :
    ∃ read, .required kind.mark read ∈ kind.model codec := by
  cases kind with
  | heartbeat =>
    refine ⟨readModel (metricsModel codec), ?_⟩
    simp [MessageType.model, MessageType.mark, heartbeatModel]
  | event =>
    refine ⟨readTextWhen nodeToken, ?_⟩
    simp [MessageType.model, MessageType.mark, eventModel]
  | command =>
    refine ⟨readIntFrom codec 1, ?_⟩
    simp [MessageType.model, MessageType.mark, commandModel]
  | audit =>
    refine ⟨lengthFrom 1 128, ?_⟩
    simp [MessageType.model, MessageType.mark, auditModel]

theorem mark_own {kind other : MessageType}
    (member : kind.mark ∈ (other.model codec).map (·.name)) : kind = other := by
  cases kind <;> cases other <;> first
    | rfl
    | simp [MessageType.mark, MessageType.model, heartbeatModel, eventModel, commandModel,
        auditModel, ReadField.required, ReadField.defaulted] at member

theorem distinct_names (kind : MessageType) : ((kind.model codec).map (·.name)).Nodup := by
  cases kind <;> simp [MessageType.model, heartbeatModel, eventModel, commandModel, auditModel,
    ReadField.required, ReadField.defaulted]

theorem data_unique {kind other : MessageType}
    (made : (readModel (kind.model codec) value).isSome)
    (also : (readModel (other.model codec) value).isSome) : kind = other := by
  obtain ⟨made, reads⟩ := Option.isSome_iff_exists.mp made
  obtain ⟨read, required⟩ := @mark_required codec kind
  obtain ⟨fields, values, rfl, -, raw, -, found, -⟩ :=
    required_of_readModel (distinct_names kind) reads required
  obtain ⟨others, same, known⟩ := readModel_keys also
  cases same
  obtain ⟨entry, there, -⟩ := Option.map_eq_some_iff.mp found
  have own : entry.1 = kind.mark := by simpa using List.find?_some there
  refine @mark_own codec kind other ?_
  rw [← own]
  exact known entry (List.mem_of_find?_eq_some there)

theorem readData_of_model {kind : MessageType}
    (made : readModel (kind.model codec) value = some sent) :
    readData codec value = some ⟨kind, sent⟩ := by
  have only : ∀ other : MessageType, other ≠ kind → readModel (other.model codec) value = none := by
    intro other different
    by_contra some
    exact different (data_unique (Option.isSome_iff_ne_none.mpr some) (by rw [made]; rfl))
  unfold readData MessageType.all
  cases kind with
  | heartbeat => simp [made]
  | event => simp [made, only .heartbeat]
  | command => simp [made, only .heartbeat, only .event]
  | audit => simp [made, only .heartbeat, only .event, only .command]

structure Built (codec : TransportCodec) (envelope : TransportEnvelope) : Prop where
  valid : envelope.valid codec = true
  made : ∃ raw, readModel (envelope.messageType.model codec) raw = some envelope.data.fields

theorem stable_model (kind : MessageType) : Stable codec (readModel (kind.model codec)) := by
  cases kind with
  | heartbeat => exact stable_heartbeatModel
  | event => exact stable_eventModel
  | command => exact stable_commandModel
  | audit => exact stable_auditModel

theorem valid_iff : envelope.valid codec = true ↔
    nodeToken envelope.source = true ∧ nodeToken envelope.nodeCode = true ∧
      (1 ≤ envelope.correlationId.length ∧ envelope.correlationId.length ≤ 128) ∧
      (1 ≤ envelope.runId.length ∧ envelope.runId.length ≤ 128) ∧ 0 ≤ envelope.sequence ∧
      envelope.data.kind = envelope.messageType ∧ codec.uuid envelope.messageId = true := by
  unfold TransportEnvelope.valid
  simp only [Bool.and_eq_true, decide_eq_true_eq, and_assoc]

theorem ofText_text (kind : MessageType) : MessageType.ofText kind.text = some kind := by
  cases kind <;> decide

theorem text_field {key text : String}
    (same : (Fields.find others key).map Json.sorted = (Fields.find fields key).map Json.sorted)
    (given : Fields.find fields key = some (.str text)) :
    Fields.find others key = some (.str text) := by
  rw [given] at same
  obtain ⟨value, found, equal⟩ := Option.map_eq_some_iff.mp same
  rw [found, sorted_eq_str equal]

theorem sequence_field {key : String} {n : Int}
    (same : (Fields.find others key).map Json.sorted = (Fields.find fields key).map Json.sorted)
    (given : Fields.find fields key = some (.int n)) :
    Fields.find others key = some (.int n) := by
  rw [given] at same
  obtain ⟨value, found, equal⟩ := Option.map_eq_some_iff.mp same
  rw [found, sorted_eq_int equal]

theorem plain_dump (built : Built codec envelope) :
    (Json.obj (envelope.dump codec)).plain = true := by
  obtain ⟨raw, made⟩ := built.made
  have data := (stable_model _ raw _ made).plain
  simp [Json.plain, TransportEnvelope.dump, plainFields, data]

theorem validate_again (built : Built codec envelope)
    (same : sent.sorted = (Json.obj (envelope.dump codec)).sorted) :
    ∃ decoded, TransportEnvelope.validate codec sent = some decoded ∧ decoded.Same envelope := by
  obtain ⟨raw, made⟩ := built.made
  have valid := valid_iff.mp built.valid
  obtain ⟨others, rfl, found, listed⟩ := sent_for_object same
  have known : (others.all fun entry => TransportEnvelope.names.contains entry.1) = true := by
    rw [List.all_eq_true]
    intro entry member
    simpa [TransportEnvelope.dump, TransportEnvelope.names] using listed entry member
  have data := found "data"
  have given : Fields.find (envelope.dump codec) "data" =
      some (dumpValue codec envelope.data.fields) := rfl
  obtain ⟨value, field, equal⟩ := Option.map_eq_some_iff.mp data
  obtain ⟨fields', reads, alike⟩ := (stable_model _ raw _ made).again value equal
  refine ⟨{ envelope with data := ⟨envelope.messageType, fields'⟩ }, ?_, ?_⟩
  · unfold TransportEnvelope.validate
    dsimp only
    rw [known, text_field (found "schema_version") rfl, text_field (found "message_id") rfl,
      text_field (found "message_type") rfl, text_field (found "source") rfl,
      text_field (found "node_code") rfl, text_field (found "occurred_at") rfl,
      text_field (found "published_at") rfl, text_field (found "correlation_id") rfl,
      text_field (found "run_id") rfl, sequence_field (found "sequence") rfl, field]
    have again : TransportEnvelope.valid codec
        { envelope with data := ⟨envelope.messageType, fields'⟩ } = true := by
      rw [valid_iff]
      refine ⟨valid.1, valid.2.1, valid.2.2.1, valid.2.2.2.1, valid.2.2.2.2.1, rfl,
        valid.2.2.2.2.2.2⟩
    simp [Json.text?, Json.isText, ofText_text, codec.datetime_iso, codec.int_int,
      readData_of_model reads, TransportEnvelope.make, again, guard]
  · have data : TransportData.mk envelope.messageType fields'.sorted =
        ⟨envelope.data.kind, envelope.data.fields.sorted⟩ := by
      rw [alike, valid.2.2.2.2.2.1]
    unfold TransportEnvelope.Same TransportEnvelope.normal
    rw [data]

theorem decodeText_storedPayload (built : Built codec envelope) :
    ∃ decoded, TransportEnvelope.decodeText codec (envelope.storedPayload codec) = some decoded ∧
      decoded.Same envelope := by
  have again := @validate_again codec envelope _ built (sorted_sorted (.obj (envelope.dump codec)))
  unfold TransportEnvelope.decodeText TransportEnvelope.storedPayload
  rw [loadJson_dumpJson codec.format (plain_dump built), Option.bind_some]
  exact again

theorem fromUTF8?_toUTF8 (text : String) : String.fromUTF8? text.toUTF8 = some text :=
  dif_pos text.isValidUTF8

theorem decodeBytes_bytes (built : Built codec envelope) :
    ∃ decoded, TransportEnvelope.decodeBytes codec (envelope.bytes codec) = some decoded ∧
      decoded.Same envelope := by
  have decodes := decodeText_storedPayload built
  unfold TransportEnvelope.decodeBytes TransportEnvelope.bytes
  rw [fromUTF8?_toUTF8, Option.bind_some]
  exact decodes

theorem same_kind {decoded : TransportEnvelope} (same : decoded.Same envelope) :
    decoded.data.kind = envelope.data.kind := by
  have equal : decoded.normal = envelope.normal := same
  have data : decoded.normal.data.kind = envelope.normal.data.kind := by rw [equal]
  exact data

def TransportEnvelope.subjectParts (envelope : TransportEnvelope) : List String :=
  match envelope.messageType with
  | .heartbeat => ["ogas", "heartbeats", envelope.nodeCode]
  | .event => ["ogas", "events", envelope.data.text "event_type", envelope.nodeCode]
  | .command => ["ogas", "commands", envelope.nodeCode]
  | .audit => ["ogas", "audit", envelope.data.text "resource_type"]

theorem nodeToken_cases {token : String} (valid : nodeToken token = true) :
    '.' ∉ token.toList ∧ token.length ≤ 64 := by
  unfold nodeToken at valid
  rw [← String.length_toList]
  split at valid
  next => cases valid
  next first rest text =>
    simp only [Bool.and_eq_true, decide_eq_true_eq, List.all_eq_true] at valid
    obtain ⟨⟨head, short⟩, tail⟩ := valid
    rw [text]
    constructor
    · intro member
      rcases List.mem_cons.mp member with same | member
      · rw [← same] at head
        cases head
      · cases tail '.' member
    · rw [List.length_cons]
      omega

theorem subjectTokens_of_parts {subject : String} {parts : List String} (nonempty : parts ≠ [])
    (tokens : ∀ part ∈ parts, nodeToken part = true)
    (text : subject.toList = ['.'].intercalate (parts.map String.toList)) :
    subjectTokens subject = parts := by
  have apart : ∀ cs ∈ parts.map String.toList, '.' ∉ cs := by
    intro cs member
    obtain ⟨part, there, rfl⟩ := List.mem_map.mp member
    exact (nodeToken_cases (tokens part there)).1
  unfold subjectTokens
  rw [text, List.splitOn_intercalate '.' apart (by simpa using nonempty), List.map_map]
  have same : String.ofList ∘ String.toList = id := funext fun s => String.ofList_toList
  rw [same, List.map_id]

theorem subject_toList (envelope : TransportEnvelope) :
    envelope.subject.toList = ['.'].intercalate (envelope.subjectParts.map String.toList) := by
  unfold TransportEnvelope.subject TransportEnvelope.subjectParts
  cases envelope.messageType <;> simp [List.intercalate, List.intersperse, String.toList_append]

theorem token_of_made {kind : MessageType} {raw made : Json} {name : String}
    (reads : readModel (kind.model codec) raw = some made)
    (member : .required name (readTextWhen nodeToken) ∈ kind.model codec) :
    nodeToken (TransportData.text ⟨kind, made⟩ name) = true := by
  obtain ⟨_, values, -, rfl, _, _, -, read, found⟩ :=
    required_of_readModel (distinct_names kind) reads member
  obtain ⟨s, -, rfl, valid⟩ := readTextWhen_eq_some read
  have same : Fields.find values name = some (.str s) := found
  unfold TransportData.text
  dsimp only
  rw [same]
  exact valid

theorem subjectParts_tokens (built : Built codec envelope) :
    ∀ part ∈ envelope.subjectParts, nodeToken part = true := by
  obtain ⟨raw, made⟩ := built.made
  have valid := valid_iff.mp built.valid
  have node := valid.2.1
  have text : ∀ name, .required name (readTextWhen nodeToken) ∈ envelope.messageType.model codec →
      nodeToken (envelope.data.text name) = true := by
    intro name member
    have token := token_of_made made member
    exact token
  unfold TransportEnvelope.subjectParts
  cases given : envelope.messageType with
  | heartbeat => simpa [node] using by decide
  | event =>
    have token := text "event_type" (by rw [given]; simp [MessageType.model, eventModel])
    simpa [node, token] using by decide
  | command => simpa [node] using by decide
  | audit =>
    have token := text "resource_type" (by rw [given]; simp [MessageType.model, auditModel])
    simpa [token] using by decide

theorem subjectTokens_subject (built : Built codec envelope) :
    subjectTokens envelope.subject = envelope.subjectParts := by
  refine subjectTokens_of_parts ?_ (subjectParts_tokens built) (subject_toList envelope)
  unfold TransportEnvelope.subjectParts
  cases envelope.messageType <;> simp

theorem validSubject_subject (built : Built codec envelope) :
    validSubject envelope.subject = true := by
  have tokens := subjectParts_tokens built
  have parts := subjectTokens_subject built
  have all : (envelope.subjectParts).all nodeToken = true := List.all_eq_true.mpr tokens
  have short : ∀ part ∈ envelope.subjectParts, part.length ≤ 64 := fun part member =>
    (nodeToken_cases (tokens part member)).2
  have fixed : "ogas.heartbeats.".length = 16 ∧ "ogas.events.".length = 12 ∧
      "ogas.commands.".length = 14 ∧ "ogas.audit.".length = 11 ∧ ".".length = 1 := by decide
  unfold validSubject
  rw [parts, all]
  unfold TransportEnvelope.subject TransportEnvelope.subjectParts at *
  cases given : envelope.messageType with
  | heartbeat | event | command | audit =>
    rw [given] at short
    simp only [List.forall_mem_cons] at short
    simp [String.length_append]
    omega

theorem subjectForEnvelope_of_built (built : Built codec envelope) :
    subjectForEnvelope envelope = some envelope.subject := if_pos (validSubject_subject built)

/-- The stream covers the subject of every envelope that is built. -/
theorem streamCovers_subject (built : Built codec envelope) :
    streamCovers envelope.subject = true := by
  have parts := subjectTokens_subject built
  have filters : streamSubjects.map subjectTokens = [["ogas", "events", ">"],
      ["ogas", "heartbeats", "*"], ["ogas", "commands", "*"], ["ogas", "audit", "*"]] := by
    decide
  have covers : streamCovers envelope.subject = ((streamSubjects.map subjectTokens).any
      fun filter => filterCovers filter envelope.subjectParts) := by
    unfold streamCovers
    rw [List.any_map, parts]
    rfl
  rw [covers, filters]
  unfold TransportEnvelope.subjectParts
  cases envelope.messageType <;> simp [filterCovers]

end Laws

end MiniOgas
