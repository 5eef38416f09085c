import MiniOgas.ExecutionTables
import MiniOgas.RevisionStore
import MiniOgas.TableKey
import MiniOgas.TransportReceipts

namespace MiniOgas

open Relational Serial

structure ProductRow where
  productCode : String

structure CalendarRow where
  calendarCode : String

structure ShiftRow where
  calendarId : Nat
  shiftCode : String

/-- A row of `boms` or of `routings`. -/
structure ProductPart where
  productId : Nat

structure BomRevisionRow where
  bomId : Nat
  status : RevisionStatus

/-- An entry of `operations` in `routing_revisions.content_json`, as far as a release reads it. -/
structure RoutingStep where
  sequence : Int
  capabilityCode : String
  requiredSkillCode : String
  requiredSkillLevel : Int
  documentCode : String

structure RoutingRevisionRow where
  routingId : Nat
  status : RevisionStatus
  operations : List RoutingStep

structure ControlledDocument where
  documentCode : String

structure DocumentRevisionRow where
  documentId : Nat
  status : RevisionStatus

structure EquipmentRow where
  equipmentCode : String
  active : Bool

structure EquipmentCapability where
  equipmentId : Nat
  capabilityCode : String

structure SkillRow where
  skillCode : String

structure PersonnelRow where
  personnelCode : String
  active : Bool

structure QualificationRow where
  personnelId : Nat
  skillId : Nat
  level : Int
  validFrom : Timestamp
  validTo : Timestamp

structure WorkOrderRow where
  workOrderCode : Code
  productId : Nat
  quantity : Quantity
  bomRevisionId : Nat
  routingRevisionId : Nat
  documentRevisionIds : List Int
  calendarId : Nat
  shiftId : Nat
  operationAssignments : List OperationAssignment
  status : WorkOrderStatus := .draft
  createdBy : String
  releasedBy : Option String := none
  releasedAt : Option Timestamp := none
  createdAt : Timestamp

/-- A row of `audit_logs` with the run `master-data` and the result `success`. -/
structure MasterDataAudit where
  actor : String
  action : String
  resourceType : String
  resourceId : String
  detail : String
  createdAt : Timestamp

structure MasterDataMessage where
  aggregateType : String
  aggregateId : String
  subject : String
  payloadJson : String
  createdAt : Timestamp

structure MasterDataTables where
  products : Table ProductRow
  calendars : Table CalendarRow
  calendarShifts : Table ShiftRow
  boms : Table ProductPart
  routings : Table ProductPart
  bomRevisions : Table BomRevisionRow
  routingRevisions : Table RoutingRevisionRow
  controlledDocuments : Table ControlledDocument
  documentRevisions : Table DocumentRevisionRow
  equipment : Table EquipmentRow
  equipmentCapabilities : Table EquipmentCapability
  skills : Table SkillRow
  personnel : Table PersonnelRow
  personnelQualifications : Table QualificationRow
  workOrders : Table WorkOrderRow
  auditLogs : Table MasterDataAudit
  outboxMessages : Dictionary String MasterDataMessage

/-- A `MasterDataError`, or what else a call raises. -/
inductive MasterDataFault where
  | masterData (error : AuthorityError)
  | keyError (key : Int)
  | validation
  | runtime (message : String)

def masterDataError (statusCode : Nat) (code message : String)
    (context : List (String × Json)) : MasterDataFault :=
  .masterData ⟨statusCode, code, message, context⟩

section LookUps

variable {α : Type} {table : Table α} {codeOf : α → String}

def requireByCode (table : Table α) (codeOf : α → String) (code resource : String) :
    Except MasterDataFault (Nat × α) :=
  orFault (table.first? (codeOf · = code)) (masterDataError 409 "REFERENCE_NOT_FOUND"
    s!"referenced {resource} does not exist in the active tenant/site"
    [("resource_type", .str resource), ("resource_code", .str code)])

def requireById (table : Table α) (identifier : Int) (resource : String) :
    Except MasterDataFault α :=
  orFault (table.find? identifier.toNat) (masterDataError 409 "REFERENCE_NOT_FOUND"
    s!"referenced {resource} does not exist in the active tenant/site"
    [("resource_type", .str resource), ("resource_id", .int identifier)])

theorem requireByCode_eq_ok {code resource : String} {entry : Nat × α} :
    requireByCode table codeOf code resource = .ok entry ↔
      table.first? (codeOf · = code) = some entry :=
  orFault_eq_ok

theorem exists_requireByCode (keyed : table.Keyed codeOf) (code resource : String)
    (meets : Nat → α → Prop) :
    (∃ entry, requireByCode table codeOf code resource = .ok entry ∧ meets entry.1 entry.2) ↔
      ∃ id row, table.find? id = some row ∧ codeOf row = code ∧ meets id row := by
  simp only [requireByCode_eq_ok]
  constructor
  · rintro ⟨⟨id, row⟩, found, holds⟩
    obtain ⟨there, same⟩ := Table.first?_spec found
    exact ⟨id, row, there, of_decide_eq_true same, holds⟩
  · rintro ⟨id, row, there, same, holds⟩
    refine ⟨(id, row), keyed.first? there (decide_eq_true same) ?_, holds⟩
    intro j other _ alike
    exact (of_decide_eq_true alike).trans same.symm

end LookUps

structure MasterDataEnv where
  builtins : Builtins
  codec : TransportCodec
  int_int : ∀ n, builtins.int (.int n) = some n
  uuid_messageIdOf : ∀ kind fields, codec.uuid (codec.messageIdOf kind fields) = true
  messageIdOf_id : ∀ (n m : Int) (fields other : Fields),
    codec.messageIdOf "audit" (("id", .int n) :: fields) =
      codec.messageIdOf "audit" (("id", .int m) :: other) → n = m

section Audit

variable (env : MasterDataEnv)

def MasterDataAudit.fields (id : Nat) (log : MasterDataAudit) : Fields :=
  [("id", .int id), ("run_id", .str "master-data"), ("actor", .str log.actor),
    ("action", .str log.action), ("resource_type", .str log.resourceType),
    ("resource_id", .str log.resourceId), ("result", .str "success"),
    ("detail", .str log.detail), ("created_at", .time log.createdAt)]

def MasterDataAudit.envelope (id : Nat) (log : MasterDataAudit) : Option TransportEnvelope :=
  auditEnvelope env.builtins env.codec log.createdAt (log.fields id) "master-data"

def auditMessage (envelope : TransportEnvelope) (subject : String) (now : Timestamp) :
    MasterDataMessage where
  aggregateType := envelope.messageType.text
  aggregateId := envelope.nodeCode
  subject := subject
  payloadJson := envelope.storedPayload env.codec
  createdAt := now

/-- `enqueue_in_transaction`. -/
def enqueueAudit (envelope : TransportEnvelope) (now : Timestamp) :
    Procedure MasterDataFault MasterDataTables Unit := fun db =>
  match subjectForEnvelope envelope with
  | none => .error .validation db
  | some subject =>
    if db.outboxMessages.contains envelope.messageId then
      .error (.runtime "failed to enqueue the master-data audit envelope") db
    else
      .ok () { db with
        outboxMessages := db.outboxMessages.set envelope.messageId
          (auditMessage env envelope subject now) }

/-- `_audit`. -/
def auditMasterData (log : MasterDataAudit) : Procedure MasterDataFault MasterDataTables Unit :=
    do
  let db ← get
  set { db with auditLogs := db.auditLogs.insert log }
  match log.envelope env db.auditLogs.nextId with
  | none => throw .validation
  | some envelope => enqueueAudit env envelope log.createdAt

end Audit

/-- A work order as `_format_work_order` gives it. -/
structure FormattedWorkOrder where
  id : Nat
  row : WorkOrderRow
  productCode : String
  calendarCode : String
  shiftCode : String

def formattedWorkOrder? (db : MasterDataTables) (id : Nat) : Option FormattedWorkOrder := do
  let row ← db.workOrders.find? id
  let product ← db.products.find? row.productId
  let calendar ← db.calendars.find? row.calendarId
  let shift ← db.calendarShifts.find? row.shiftId
  return ⟨id, row, product.productCode, calendar.calendarCode, shift.shiftCode⟩

def formatWorkOrder (db : MasterDataTables) (id : Nat) :
    Except MasterDataFault FormattedWorkOrder :=
  orFault (formattedWorkOrder? db id)
    (masterDataError 404 "WORK_ORDER_NOT_FOUND" "work order was not found" [])

structure MasterDataAudit.Fits (log : MasterDataAudit) : Prop where
  actor : log.actor.length ≤ 128
  detail : log.detail.length ≤ 4096

structure MasterDataAudit.Named (log : MasterDataAudit) : Prop where
  action : 1 ≤ log.action.length ∧ log.action.length ≤ 128
  resourceType : nodeToken log.resourceType = true
  resourceId : 1 ≤ log.resourceId.length ∧ log.resourceId.length ≤ 128

section AuditLaws

variable {env : MasterDataEnv} {log : MasterDataAudit} {id : Nat} {s : String}

theorem str_or_of_length (given : 1 ≤ s.length) (other : Json) :
    (Json.str s).or other = .str s := by
  have nonempty : s ≠ "" := by
    intro same
    rw [same] at given
    cases given
  unfold Json.or Json.truthy
  rw [if_pos (decide_eq_true nonempty)]

theorem correlation_length (small : id < 2 ^ 63) :
    (s!"audit:master-data:{(id : Int)}").length ≤ 128 := by
  have digits : (Nat.repr id).length ≤ 19 := by
    refine (Nat.length_repr_le_iff (by omega)).mpr ?_
    exact small.trans_le (by norm_num)
  have text : toString (id : Int) = Nat.repr id := rfl
  have first : (toString "audit:master-data:").length = 18 := rfl
  rw [text, String.length_append]
  omega

theorem readModel_audit (actor action resourceType resourceId result detail : String) :
    readModel auditModel (.obj [("actor", .str actor), ("action", .str action),
      ("resource_type", .str resourceType), ("resource_id", .str resourceId),
      ("result", .str result), ("detail", .str detail)]) =
    if (1 ≤ actor.length ∧ actor.length ≤ 128) ∧ (1 ≤ action.length ∧ action.length ≤ 128) ∧
        nodeToken resourceType = true ∧ (1 ≤ resourceId.length ∧ resourceId.length ≤ 128) ∧
        (1 ≤ result.length ∧ result.length ≤ 64) ∧ detail.length ≤ 4096 then
      some (.obj [("actor", .str actor), ("action", .str action),
        ("resource_type", .str resourceType), ("resource_id", .str resourceId),
        ("result", .str result), ("detail", .str detail)])
    else none := by
  have guarded {α β : Type} (p : Prop) [Decidable p] (x : Option α) (f : α → Option β) :
      (if p then x else none).bind f = if p then x.bind f else none := by
    split <;> rfl
  have mapped {α β : Type} (p : Prop) [Decidable p] (x : Option α) (f : α → β) :
      Option.map f (if p then x else none) = if p then x.map f else none := by
    split <;> rfl
  simp [readModel, auditModel, readFields, ReadField.make, Fields.find, ReadField.required,
    ReadField.defaulted, lengthFrom, lengthAtMost, readTextWhen, guarded, mapped, ite_and]

theorem textOf_str {builtins : Builtins} {raw : Fields} {key : String}
    (got : raw.get key = .str s) (default : String) :
    textOf builtins raw [key] default = if s = "" then default else s := by
  unfold textOf firstOf
  rw [List.foldr_cons, List.foldr_nil, got]
  unfold Json.or Json.truthy
  by_cases blank : s = ""
  · rw [if_pos blank, if_neg (by simpa using blank)]
    rfl
  · rw [if_neg blank, if_pos (decide_eq_true blank)]
    rfl

theorem textOf_own {builtins : Builtins} {raw : Fields} {key : String}
    (got : raw.get key = .str s) (given : 1 ≤ s.length) (default : String) :
    textOf builtins raw [key] default = s := by
  rw [textOf_str got, if_neg]
  intro same
  rw [same] at given
  cases given

def auditActor (actor : String) : String := if actor = "" then "central" else actor

theorem auditActor_length (actor : String) :
    (1 ≤ (auditActor actor).length ∧ (auditActor actor).length ≤ 128) ↔ actor.length ≤ 128 := by
  unfold auditActor
  split
  next blank =>
    rw [blank]
    decide
  next given =>
    have pos : 1 ≤ actor.length := by
      by_contra none
      exact given (String.length_eq_zero_iff.mp (by omega))
    omega

theorem length_of_nodeToken (token : nodeToken s = true) : 1 ≤ s.length := by
  by_contra none
  have empty : s = "" := String.length_eq_zero_iff.mp (by omega)
  rw [empty] at token
  cases token

def MasterDataAudit.data (log : MasterDataAudit) : Json :=
  .obj [("actor", .str (auditActor log.actor)), ("action", .str log.action),
    ("resource_type", .str log.resourceType), ("resource_id", .str log.resourceId),
    ("result", .str "success"), ("detail", .str log.detail)]

theorem MasterDataAudit.makeData_eq (named : log.Named) :
    makeData env.codec .audit [("actor", .str (auditActor log.actor)),
      ("action", .str log.action), ("resource_type", .str log.resourceType),
      ("resource_id", .str log.resourceId), ("result", .str "success"),
      ("detail", .str log.detail)] =
      if log.actor.length ≤ 128 ∧ log.detail.length ≤ 4096 then some ⟨.audit, log.data⟩
      else none := by
  have result : 1 ≤ "success".length ∧ "success".length ≤ 64 := by decide
  unfold makeData MessageType.model
  rw [readModel_audit]
  simp only [auditActor_length, named.action, named.resourceType, named.resourceId, result,
    and_true, true_and]
  split <;> rfl

theorem MasterDataAudit.envelope_eq (env : MasterDataEnv) (named : log.Named)
    (small : id < 2 ^ 63) :
    log.envelope env id =
      if log.actor.length ≤ 128 ∧ log.detail.length ≤ 4096 then some {
        messageId := env.codec.messageIdOf "audit" (("id", .int id) ::
          ("run_id", .str "master-data") :: dumpFields env.codec log.data.dict)
        messageType := .audit
        source := "central-api"
        nodeCode := "central"
        occurredAt := log.createdAt
        publishedAt := log.createdAt
        correlationId := s!"audit:master-data:{(id : Int)}"
        runId := "master-data"
        sequence := id
        data := ⟨.audit, log.data⟩ }
      else none := by
  have numbered : intOf env.builtins (log.fields id) ["id"] 0 = some (id : Int) := by
    have given : (Json.int id).or (.int 0) = .int id := by
      unfold Json.or Json.truthy
      by_cases zero : (id : Int) = 0
      · rw [if_neg (by simpa using zero), zero]
      · rw [if_pos (decide_eq_true zero)]
    exact (congrArg env.builtins.int given).trans (env.int_int id)
  have actor : textOf env.builtins (log.fields id) ["actor"] "central" = auditActor log.actor :=
    textOf_str rfl _
  have action : textOf env.builtins (log.fields id) ["action"] "unknown" = log.action :=
    textOf_own rfl named.action.1 _
  have resourceType :
      textOf env.builtins (log.fields id) ["resource_type"] "system" = log.resourceType :=
    textOf_own rfl (length_of_nodeToken named.resourceType) _
  have resourceId : env.builtins.text (((log.fields id).get "resource_id").or (.int id)) =
      log.resourceId :=
    congrArg env.builtins.text (str_or_of_length named.resourceId.1 _)
  have result : textOf env.builtins (log.fields id) ["result"] "recorded" = "success" :=
    textOf_own rfl (by decide) _
  have detail : textOf env.builtins (log.fields id) ["detail"] "" = log.detail := by
    rw [textOf_str (s := log.detail) rfl]
    split
    next blank => exact blank.symm
    next => rfl
  have occurred : asUtc env.builtins env.codec.toReaders ((log.fields id).get "created_at")
      log.createdAt = some log.createdAt := rfl
  have short := correlation_length small
  have long : 1 ≤ (s!"audit:master-data:{(id : Int)}").length := by
    rw [String.length_append]
    exact Nat.le_add_right_of_le (by decide)
  unfold MasterDataAudit.envelope auditEnvelope
  simp only [numbered, actor, action, resourceType, resourceId, result, detail, occurred,
    Option.bind_eq_bind, Option.bind_some, MasterDataAudit.makeData_eq named]
  split
  next =>
    have run : (if "master-data" = "" then textOf env.builtins (log.fields id) ["run_id"] "unbound"
        else "master-data") = "master-data" := if_neg (by decide)
    rw [Option.bind_some, run]
    refine if_pos ?_
    simp only [valid_iff]
    exact ⟨by decide, by decide, ⟨long, short⟩, by decide, Int.natCast_nonneg id, trivial,
      env.uuid_messageIdOf _ _⟩
  next => rfl

/-- No message has the id of a log that is still to come. -/
def MessagesNumbered (env : MasterDataEnv) (db : MasterDataTables) : Prop :=
  ∀ (n : Int) (fields : Fields),
    db.outboxMessages.contains (env.codec.messageIdOf "audit" (("id", .int n) :: fields)) = true →
      n < db.auditLogs.nextId

def recordAudit (db : MasterDataTables) (log : MasterDataAudit) (messageId : String)
    (message : MasterDataMessage) : MasterDataTables :=
  { db with
    auditLogs := db.auditLogs.insert log
    outboxMessages := db.outboxMessages.set messageId message }

variable {db : MasterDataTables} {envelope : TransportEnvelope}

theorem MasterDataAudit.exists_envelope (env : MasterDataEnv) (named : log.Named)
    (fits : log.Fits) (small : id < 2 ^ 63) : ∃ envelope fields,
      log.envelope env id = some envelope ∧ envelope.messageId =
        env.codec.messageIdOf "audit" (("id", .int id) :: fields) := by
  have made := MasterDataAudit.envelope_eq env named small
  rw [if_pos ⟨fits.actor, fits.detail⟩] at made
  exact ⟨_, _, made, rfl⟩

theorem auditMasterData_enqueue (made : log.envelope env db.auditLogs.nextId = some envelope) :
    auditMasterData env log db = enqueueAudit env envelope log.createdAt
      { db with auditLogs := db.auditLogs.insert log } := by
  refine (Procedure.bind_ok rfl).trans ((Procedure.bind_ok rfl).trans ?_)
  rw [made]

theorem enqueueAudit_ok {now : Timestamp} {subject : String}
    (named : subjectForEnvelope envelope = some subject)
    (absent : db.outboxMessages.contains envelope.messageId = false) :
    enqueueAudit env envelope now db = .ok () { db with
      outboxMessages := db.outboxMessages.set envelope.messageId
        (auditMessage env envelope subject now) } := by
  unfold enqueueAudit
  rw [named]
  rw [absent]
  rfl

theorem auditMasterData_ok (named : log.Named) (fits : log.Fits)
    (small : db.auditLogs.nextId < 2 ^ 63) (fresh : MessagesNumbered env db) :
    ∃ fields message, auditMasterData env log db = .ok () (recordAudit db log
      (env.codec.messageIdOf "audit" (("id", .int db.auditLogs.nextId) :: fields)) message) := by
  obtain ⟨envelope, fields, made, own⟩ := MasterDataAudit.exists_envelope env named fits small
  have built := built_of_build (.audit (log.fields db.auditLogs.nextId) "master-data") made
  have subject := subjectForEnvelope_of_built built
  have absent : db.outboxMessages.contains envelope.messageId = false := by
    rw [own]
    by_contra present
    exact lt_irrefl _ (fresh _ _ (Bool.of_not_eq_false present))
  refine ⟨fields, auditMessage env envelope envelope.subject log.createdAt, ?_⟩
  rw [← own]
  exact (auditMasterData_enqueue made).trans (enqueueAudit_ok subject absent)

theorem auditMasterData_error (env : MasterDataEnv) (named : log.Named) (refused : ¬ log.Fits)
    (small : db.auditLogs.nextId < 2 ^ 63) :
    ∃ after, auditMasterData env log db = .error .validation after := by
  have made := MasterDataAudit.envelope_eq env named small
  rw [if_neg fun both => refused ⟨both.1, both.2⟩] at made
  refine ⟨{ db with auditLogs := db.auditLogs.insert log }, ?_⟩
  refine (Procedure.bind_ok rfl).trans ((Procedure.bind_ok rfl).trans ?_)
  rw [made]
  rfl

theorem MessagesNumbered.record (fresh : MessagesNumbered env db) (fields : Fields)
    (message : MasterDataMessage) : MessagesNumbered env (recordAudit db log
      (env.codec.messageIdOf "audit" (("id", .int db.auditLogs.nextId) :: fields)) message) := by
  intro n other present
  have next : (recordAudit db log (env.codec.messageIdOf "audit"
      (("id", .int db.auditLogs.nextId) :: fields)) message).auditLogs.nextId =
      db.auditLogs.nextId + 1 := by
    simp [recordAudit, Table.insert, Table.nextId]
  unfold recordAudit Dictionary.contains at present
  rw [Dictionary.get?_set] at present
  split at present
  next same =>
    have own := env.messageIdOf_id n db.auditLogs.nextId other fields same
    omega
  next =>
    have old := fresh n other present
    omega

end AuditLaws

end MiniOgas
