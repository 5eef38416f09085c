import MiniOgas.Escalations
import MiniOgas.EventStore
import MiniOgas.JsonText

namespace MiniOgas

open Bounded Serial

/-- A row of `command_shadow`; the columns with a name of a status hold no other text. -/
structure CommandRow where
  commandId : Nat
  runId : String
  nodeCode : String
  commandType : String
  riskLevel : String
  status : CommandStatus
  operator : String
  parametersJson : String
  claimedBy : String
  resultMessage : String
  version : Int
  expiresAt : Option Timestamp
  dispatchedAt : Option Timestamp
  receivedAt : Option Timestamp
  appliedAt : Option Timestamp
  verifiedAt : Option Timestamp
  attemptCount : Nat
  verificationStatus : VerificationStatus
  verificationBaselineJson : String
  verificationEvidenceJson : String
  createdAt : Timestamp
  updatedAt : Timestamp

def baselineJson (baseline : List (String × Fields)) : Json :=
  .obj (baseline.map fun item => (item.1, .obj item.2))

/-- The production of each node, which the model of a command requires to be a `dict`. -/
def readBaseline (fields : Fields) : Option (List (String × Fields)) :=
  fields.mapM fun field => if field.2.isDict then some (field.1, field.2.dict) else none

def Severity.text : Severity → String
  | .info => "info"
  | .low => "low"
  | .medium => "medium"
  | .high => "high"
  | .critical => "critical"

/-- `Severity(text)`; `info` when there is no such severity. -/
def readSeverity (text : String) : Severity :=
  if text = "low" then .low
  else if text = "medium" then .medium
  else if text = "high" then .high
  else if text = "critical" then .critical
  else .info

section Columns

variable (format : FloatFormat)

/-- The values of `_upsert_command_shadow`. -/
def NodeCommand.shadow (command : NodeCommand) (runId : String) : CommandRow where
  commandId := command.id
  runId := runId
  nodeCode := command.nodeCode
  commandType := command.commandType
  riskLevel := command.riskLevel
  status := command.status
  operator := command.operator
  parametersJson := dumpJson format (.obj command.parameters)
  claimedBy := command.claimedBy
  resultMessage := command.resultMessage
  version := command.version
  expiresAt := command.expiresAt
  dispatchedAt := command.dispatchedAt
  receivedAt := command.receivedAt
  appliedAt := command.appliedAt
  verifiedAt := command.verifiedAt
  attemptCount := command.attemptCount
  verificationStatus := command.verificationStatus
  verificationBaselineJson := dumpJson format (baselineJson command.verificationBaseline)
  verificationEvidenceJson := dumpJson format (.obj command.verificationEvidence)
  createdAt := command.createdAt
  updatedAt := command.updatedAt

/-- `json.loads(text or "{}")`. -/
def loadColumn (text : String) : Option Json := loadJson format (if text = "" then "{}" else text)

/-- The command of a row; `none` when the model refuses the baseline. -/
def CommandRow.load (row : CommandRow) : Option NodeCommand := do
  let parameters := (loadColumn format row.parametersJson).getD (.obj [])
  let (baseline, evidence) :=
    match loadColumn format row.verificationBaselineJson,
      loadColumn format row.verificationEvidenceJson with
    | some baseline, some evidence => (baseline, evidence)
    | _, _ => (.obj [], .obj [])
  let verificationBaseline ← readBaseline baseline.dict
  return {
    id := row.commandId
    nodeCode := row.nodeCode
    commandType := row.commandType
    riskLevel := row.riskLevel
    status := row.status
    operator := row.operator
    parameters := parameters.dict
    claimedBy := row.claimedBy
    resultMessage := row.resultMessage
    version := if row.version = 0 then 1 else row.version
    expiresAt := row.expiresAt
    dispatchedAt := row.dispatchedAt
    receivedAt := row.receivedAt
    appliedAt := row.appliedAt
    verifiedAt := row.verifiedAt
    attemptCount := row.attemptCount
    verificationStatus := row.verificationStatus
    verificationBaseline := verificationBaseline
    verificationEvidence := evidence.dict
    createdAt := row.createdAt
    updatedAt := row.updatedAt }

/-- The commands that `load_projection` reads, of which the projection keeps the last hundred. -/
def loadProjection (rows : List CommandRow) : Option (List NodeCommand) :=
  (rows.mergeSort fun first second => first.commandId ≤ second.commandId).mapM
    (CommandRow.load format)

def EventRow.payloadJson (row : EventRow) : String := dumpJson format (.obj row.payload)

def EventRow.load (builtins : Builtins) (row : EventRow) : IncidentEvent :=
  let payload := ((loadColumn format (row.payloadJson format)).getD (.obj [])).dict
  { id := row.globalSequence
    nodeCode := row.sourceNode
    stage := builtins.text ((payload.get "stage").or (.str row.eventType))
    severity := (readSeverity (builtins.text ((payload.get "severity").or (.str "info")))).text
    message := builtins.text ((payload.get "message").or (.str ""))
    runId := row.runId
    eventId := row.eventId
    eventType := row.eventType
    schemaVersion := if row.schemaVersion = "" then "2.5" else row.schemaVersion
    sourceNode := row.sourceNode
    eventTime := row.eventTime
    ingestTime := row.ingestTime
    localSequence := row.localSequence
    globalSequence := row.globalSequence
    correlationId := row.correlationId
    scenarioId := row.scenarioId
    payload := payload
    createdAt := row.eventTime }

/-- The events of `load_audits_and_events`, from a table that has some. -/
def loadEvents (builtins : Builtins) (log : EventLog) : List IncidentEvent :=
  (log.events.mergeSort fun first second => first.globalSequence ≤ second.globalSequence).map
    (EventRow.load format builtins)

end Columns

/-- The arguments of `append_event`, and the identifier that the event is given. -/
structure EventInput where
  eventId : String
  nodeCode : String
  stage : String
  severity : Severity
  message : String
  runId : String
  scenarioId : String
  occurredAt : Timestamp

structure DurableFacts where
  commands : List NodeCommand
  commandRows : List CommandRow
  events : List IncidentEvent
  incidentEventSeq : Int
  nodeEventSequences : Dictionary (String × String) Int
  log : EventLog

def DurableFacts.empty : DurableFacts := ⟨[], [], [], 0, .empty, .empty⟩

def EventInput.event (input : EventInput) (globalSequence localSequence : Int) :
    IncidentEvent where
  id := globalSequence
  nodeCode := input.nodeCode
  stage := input.stage
  severity := input.severity.text
  message := input.message
  runId := input.runId
  eventId := input.eventId
  eventType := input.stage
  sourceNode := input.nodeCode
  eventTime := input.occurredAt
  ingestTime := input.occurredAt
  localSequence := localSequence
  globalSequence := globalSequence
  correlationId := (if input.runId ≠ "" then input.runId else "unbound") ++
    s!":{input.nodeCode}:{globalSequence}"
  scenarioId := input.scenarioId
  payload := [("stage", .str input.stage), ("severity", .str input.severity.text),
    ("message", .str input.message)]
  createdAt := input.occurredAt

/-- `_insert_event`, all of its statements: whether the event is new, and what it is then. -/
def insertEvent (log : EventLog) (call : EventCall) : (Bool × IncidentEvent) × EventLog :=
  match log.events.find? (·.eventId = call.event.eventId) with
  | some row => ((false, call.adopt row), log)
  | none =>
    let numbered := call.number log
    ((true, numbered), (log.put (.event (call.row numbered))).put (.audit (call.audit numbered)))

def renumber (events : List IncidentEvent) (eventId : String) (numbered : IncidentEvent) :
    List IncidentEvent :=
  events.map fun other => if other.eventId = eventId then numbered else other

namespace DurableFacts

variable (facts : DurableFacts)

def appendEvent (input : EventInput) : DurableFacts :=
  let globalSequence := facts.incidentEventSeq + 1
  let key := (input.nodeCode, input.runId)
  let localSequence := (facts.nodeEventSequences.get? key).getD 0 + 1
  { facts with
    events := facts.events ++ [input.event globalSequence localSequence]
    incidentEventSeq := globalSequence
    nodeEventSequences := facts.nodeEventSequences.set key localSequence }

def notePersistedEvent (event : IncidentEvent) : DurableFacts :=
  let key := (if event.sourceNode ≠ "" then event.sourceNode else event.nodeCode, event.runId)
  { facts with
    incidentEventSeq := max (max facts.incidentEventSeq event.id) event.globalSequence
    nodeEventSequences := facts.nodeEventSequences.set key
      (max ((facts.nodeEventSequences.get? key).getD 0) event.localSequence) }

def persistEvent (eventId runId : String) : DurableFacts :=
  match facts.events.find? (·.eventId = eventId) with
  | none => facts
  | some event =>
    let ((_, numbered), log) := insertEvent facts.log ⟨event, runId⟩
    notePersistedEvent { facts with events := renumber facts.events eventId numbered, log } numbered

def persistCommand (format : FloatFormat) (command : NodeCommand) (runId : String) :
    DurableFacts :=
  { facts with
    commands := RowLog.upsert NodeCommand.id (fun _ new => new) facts.commands command
    commandRows := RowLog.upsert CommandRow.commandId (fun _ new => new) facts.commandRows
      (command.shadow format runId) }

end DurableFacts

inductive FactStep where
  | appendEvent (input : EventInput)
  | persistEvent (eventId runId : String)
  | persistCommand (command : NodeCommand) (runId : String)
  | persistCommandEvents (commands : List NodeCommand) (eventId runId : String)
  /-- Another process writes an event to the same database. -/
  | insertOther (call : EventCall)

def DurableFacts.step (format : FloatFormat) (facts : DurableFacts) : FactStep → DurableFacts
  | .appendEvent input => facts.appendEvent input
  | .persistEvent eventId runId => facts.persistEvent eventId runId
  | .persistCommand command runId => facts.persistCommand format command runId
  | .persistCommandEvents commands eventId runId =>
    (commands.foldl (fun facts command => facts.persistCommand format command runId)
      facts).persistEvent eventId runId
  | .insertOther call => { facts with log := (insertEvent facts.log call).2 }

def durableAuthority (format : FloatFormat) : Authority FactStep DurableFacts Unit Empty :=
  ⟨fun step facts => .ok ((), facts.step format step)⟩

/-- A command as `==` takes it: the fields of its objects have no order. -/
def NodeCommand.value (command : NodeCommand) : NodeCommand × Json × Json × Json :=
  ({ command with parameters := [], verificationBaseline := [], verificationEvidence := [] },
    (Json.obj command.parameters).sorted, (baselineJson command.verificationBaseline).sorted,
    (Json.obj command.verificationEvidence).sorted)

def IncidentEvent.value (event : IncidentEvent) : IncidentEvent × Json :=
  ({ event with payload := [] }, (Json.obj event.payload).sorted)

structure RestartTransparent (builtins : Builtins) (format : FloatFormat) (facts : DurableFacts) :
    Prop where
  commands : ∃ loaded, loadProjection format facts.commandRows = some loaded ∧
    (loaded.map (·.id)).Pairwise (· < ·) ∧
    loaded.map NodeCommand.value =
      (facts.commands.mergeSort fun first second => first.id ≤ second.id).map NodeCommand.value
  events : ∀ event ∈ facts.events, ∀ row ∈ facts.log.events, row.eventId = event.eventId →
    ∃ loaded ∈ loadEvents format builtins facts.log, loaded.value = event.value
  eventOrder : ((loadEvents format builtins facts.log).map (·.id)).Pairwise (· < ·)

structure NodeCommand.Plain (command : NodeCommand) : Prop where
  parameters : (Json.obj command.parameters).plain = true
  baseline : (baselineJson command.verificationBaseline).plain = true
  evidence : (Json.obj command.verificationEvidence).plain = true

/-- The step can be made: identifiers of events are not given twice, and the objects of commands
are JSON. -/
def FactStep.Valid (facts : DurableFacts) : FactStep → Prop
  | .appendEvent input => (∀ event ∈ facts.events, event.eventId ≠ input.eventId) ∧
    ∀ row ∈ facts.log.events, row.eventId ≠ input.eventId
  | .persistEvent _ _ => True
  | .persistCommand command _ => command.Plain
  | .persistCommandEvents commands _ _ => (∀ command ∈ commands, command.Plain) ∧
    (commands.map (·.id)).Nodup
  | .insertOther call => ∀ event ∈ facts.events, event.eventId ≠ call.event.eventId

/-- An event that is written with a run has one of its own, if it is not stored yet. -/
def NamesRun (facts : DurableFacts) (eventId runId : String) : Prop :=
  ∀ event ∈ facts.events, event.eventId = eventId →
    (∃ row ∈ facts.log.events, row.eventId = eventId) ∨ event.runId ≠ "" ∨ runId = ""

/-- Nothing is filled in by the step that the record in memory does not get. -/
def FactStep.Mirrors (facts : DurableFacts) : FactStep → Prop
  | .persistEvent eventId runId => NamesRun facts eventId runId
  | .persistCommand command _ => command.version ≠ 0
  | .persistCommandEvents commands eventId runId =>
    (∀ command ∈ commands, command.version ≠ 0) ∧ NamesRun facts eventId runId
  | .appendEvent _ | .insertOther _ => True

section Records

variable {builtins : Builtins} {format : FloatFormat} {command : NodeCommand} {runId : String}
  {fields : Fields} {baseline : List (String × Fields)} {event : IncidentEvent}

theorem dumpJson_ne (format : FloatFormat) {value : Json} (plain : value.plain = true) :
    dumpJson format value ≠ "" := by
  intro blank
  have read := loadJson_dumpJson format plain
  rw [blank] at read
  cases read

theorem loadColumn_dumpJson {value : Json} (plain : value.plain = true) :
    loadColumn format (dumpJson format value) = some value.sorted := by
  rw [loadColumn, if_neg (dumpJson_ne format plain)]
  exact loadJson_dumpJson format plain

theorem dict_sorted (fields : Fields) :
    Json.obj (Json.obj fields).sorted.dict = (Json.obj fields).sorted := rfl

theorem readBaseline_objects {fields : Fields} (objects : ∀ field ∈ fields, field.2.isDict = true) :
    ∃ baseline, readBaseline fields = some baseline ∧ baselineJson baseline = .obj fields := by
  unfold readBaseline
  induction fields with
  | nil => exact ⟨[], rfl, rfl⟩
  | cons field fields ih =>
    obtain ⟨baseline, read, same⟩ := ih fun other member =>
      objects other (List.mem_cons_of_mem _ member)
    have own := objects field List.mem_cons_self
    refine ⟨(field.1, field.2.dict) :: baseline, ?_, ?_⟩
    · rw [List.mapM_cons, if_pos own, read]
      rfl
    · have rest := Json.obj.inj same
      have value : Json.obj field.2.dict = field.2 := by
        cases own' : field.2 with
        | obj => rfl
        | null | bool | int | float | str | time | arr =>
          rw [own'] at own
          cases own
      rw [baselineJson, List.map_cons, rest, value]

theorem readBaseline_sorted (baseline : List (String × Fields)) :
    ∃ read, readBaseline (baselineJson baseline).sorted.dict = some read ∧
      baselineJson read = (baselineJson baseline).sorted := by
  have objects : ∀ field ∈ (baselineJson baseline).sorted.dict, field.2.isDict = true := by
    intro field member
    have member := (List.perm_insertionSort keyBefore _).mem_iff.mp member
    rw [sortedFields_eq, List.map_map] at member
    obtain ⟨item, -, rfl⟩ := List.mem_map.mp member
    rfl
  exact readBaseline_objects objects

theorem load_shadow_eq (plain : command.Plain) :
    ∃ baseline, baselineJson baseline = (baselineJson command.verificationBaseline).sorted ∧
      (command.shadow format runId).load format = some { command with
        parameters := (Json.obj command.parameters).sorted.dict
        version := if command.version = 0 then 1 else command.version
        verificationBaseline := baseline
        verificationEvidence := (Json.obj command.verificationEvidence).sorted.dict } := by
  obtain ⟨baseline, read, same⟩ := readBaseline_sorted command.verificationBaseline
  have parameters := @loadColumn_dumpJson format _ plain.parameters
  have stored := @loadColumn_dumpJson format _ plain.baseline
  have evidence := @loadColumn_dumpJson format _ plain.evidence
  refine ⟨baseline, same, ?_⟩
  unfold CommandRow.load NodeCommand.shadow
  rw [parameters, stored, evidence]
  dsimp only
  rw [read]
  rfl

theorem load_shadow (plain : command.Plain) :
    ∃ loaded, (command.shadow format runId).load format = some loaded ∧ loaded.id = command.id ∧
      (loaded.value = command.value ↔ command.version ≠ 0) := by
  obtain ⟨baseline, same, read⟩ := @load_shadow_eq format command runId plain
  refine ⟨_, read, rfl, ?_⟩
  unfold NodeCommand.value
  rw [dict_sorted, dict_sorted, same, sorted_sorted, sorted_sorted, sorted_sorted, Prod.mk.injEq]
  constructor
  · intro ⟨kept, _⟩ zero
    have version := congrArg NodeCommand.version kept
    rw [if_pos zero, zero] at version
    cases version
  · intro version
    rw [if_neg version]
    exact ⟨rfl, rfl⟩

/-- An event as `append_event` has made it, whatever numbers it has got since. -/
structure Appended (event : IncidentEvent) : Prop where
  source : event.sourceNode = event.nodeCode
  kind : event.eventType = event.stage
  schema : event.schemaVersion = "2.5"
  created : event.createdAt = event.eventTime
  correlated : event.correlationId ≠ ""
  severity : ∃ severity : Severity, event.severity = severity.text
  payload : event.payload = [("stage", .str event.stage), ("severity", .str event.severity),
    ("message", .str event.message)]

structure StoredAs (event : IncidentEvent) (row : EventRow) : Prop where
  written : ∃ runId, row = (⟨event, runId⟩ : EventCall).row event
  local_ : 1 ≤ event.localSequence
  global : 1 ≤ event.globalSequence
  numbered : event.id = event.globalSequence

theorem StoredAs.numbers {row : EventRow} (stored : StoredAs event row) :
    event.localSequence ≠ 0 ∧ event.globalSequence ≠ 0 := by
  have one := stored.local_
  have two := stored.global
  omega

theorem text_or (builtins : Builtins) (text : String) :
    builtins.text ((Json.str text).or (.str "")) = text := by
  unfold Json.or
  split
  next => rfl
  next falsy =>
    have blank : text = "" := by simpa [Json.truthy] using falsy
    rw [blank]
    rfl

theorem get_sorted (fields : Fields) (key : String) :
    Fields.get (Json.obj fields).sorted.dict key = (fields.get key).sorted := by
  change Fields.get ((sortedFields fields).insertionSort keyBefore) key = _
  unfold Fields.get
  rw [find?_insertionSort, sortedFields_eq, find?_mapValues]
  cases (fields.find? (·.1 = key)).map (·.2) <;> rfl

theorem row_eq (appended : Appended event) {row : EventRow} (stored : StoredAs event row) :
    row = {
      eventId := event.eventId, eventType := event.stage, schemaVersion := "2.5"
      sourceNode := event.nodeCode, eventTime := event.eventTime, ingestTime := event.ingestTime
      localSequence := event.localSequence, globalSequence := event.globalSequence
      correlationId := event.correlationId, runId := row.runId, scenarioId := event.scenarioId
      payload := event.payload } := by
  obtain ⟨runId, rfl⟩ := stored.written
  have kind : (if event.eventType ≠ "" then event.eventType else event.stage) = event.stage := by
    split
    next => exact appended.kind
    next => rfl
  have source : EventCall.sourceNode ⟨event, runId⟩ = event.nodeCode := by
    unfold EventCall.sourceNode
    split
    next => exact appended.source
    next => rfl
  obtain ⟨local_, global⟩ := stored.numbers
  have payload : ((event.payload.setDefault "stage" (.str event.stage)).setDefault "severity"
      (.str event.severity)).setDefault "message" (.str event.message) = event.payload := by
    rw [appended.payload]
    rfl
  unfold EventCall.row
  rw [kind, source, payload, appended.schema, if_pos local_, if_pos global,
    if_pos appended.correlated]

theorem plain_payload (appended : Appended event) : (Json.obj event.payload).plain = true := by
  rw [appended.payload]
  rfl

theorem load_row (appended : Appended event) {row : EventRow} (stored : StoredAs event row) :
    (row.load format builtins).value = { event with runId := row.runId }.value := by
  have same := row_eq appended stored
  obtain ⟨severity, named⟩ := appended.severity
  have stage : event.payload.get "stage" = .str event.stage := by
    rw [appended.payload]
    rfl
  have level : event.payload.get "severity" = .str event.severity := by
    rw [appended.payload]
    rfl
  have message : event.payload.get "message" = .str event.message := by
    rw [appended.payload]
    rfl
  have column := @loadColumn_dumpJson format _ (plain_payload appended)
  rw [same]
  unfold EventRow.load EventRow.payloadJson
  dsimp only
  rw [column, Option.getD_some, get_sorted, get_sorted, get_sorted, stage, level, message]
  have shown : builtins.text ((Json.str event.stage).sorted.or (.str event.stage)) =
      event.stage := by
    unfold Json.or
    split <;> rfl
  have ranked : (readSeverity (builtins.text
      ((Json.str event.severity).sorted.or (.str "info")))).text = event.severity := by
    rw [named]
    cases severity <;> rfl
  rw [shown, ranked, show (Json.str event.message).sorted = .str event.message from rfl,
    text_or, if_neg (by decide)]
  unfold IncidentEvent.value
  rw [dict_sorted, sorted_sorted, ← stored.numbered, appended.source, appended.kind,
    appended.schema, appended.created]

end Records

section Commands

variable {format : FloatFormat} {commands : List NodeCommand} {rows : List CommandRow}
  {command : NodeCommand} {runId : String}

structure CommandsSaved (format : FloatFormat) (commands : List NodeCommand)
    (rows : List CommandRow) : Prop where
  saved : ∃ saved : List (NodeCommand × String), commands = saved.map Prod.fst ∧
    rows = saved.map fun item => item.1.shadow format item.2
  distinct : (commands.map (·.id)).Nodup
  plain : ∀ command ∈ commands, command.Plain

theorem commandsSaved_persist (saved : CommandsSaved format commands rows)
    (plain : command.Plain) :
    CommandsSaved format (RowLog.upsert NodeCommand.id (fun _ new => new) commands command)
      (RowLog.upsert CommandRow.commandId (fun _ new => new) rows
        (command.shadow format runId)) := by
  obtain ⟨⟨items, named, written⟩, distinct, plains⟩ := saved
  refine ⟨⟨RowLog.upsert (fun item => item.1.id) (fun _ new => new) items (command, runId),
    ?_, ?_⟩, RowLog.upsert_distinct ?_ distinct, fun other member => ?_⟩
  · rw [named]
    refine Eq.symm (RowLog.map_upsert ?_ ?_)
    · exact fun _ => rfl
    · exact fun _ _ => rfl
  · rw [written]
    refine Eq.symm (RowLog.map_upsert ?_ ?_)
    · exact fun _ => rfl
    · exact fun _ _ => rfl
  · exact fun _ _ own => own.symm
  · rcases RowLog.mem_of_mem_replaced member with rfl | old
    · exact plain
    · exact plains other old

theorem mapM_load_shadow {items : List (NodeCommand × String)}
    (plain : ∀ item ∈ items, item.1.Plain) :
    ∃ loaded, (items.map fun item => item.1.shadow format item.2).mapM (CommandRow.load format) =
        some loaded ∧ loaded.map (·.id) = items.map (·.1.id) ∧
      (loaded.map NodeCommand.value = (items.map Prod.fst).map NodeCommand.value ↔
        ∀ item ∈ items, item.1.version ≠ 0) := by
  induction items with
  | nil => exact ⟨[], rfl, rfl, by simp⟩
  | cons item items ih =>
    obtain ⟨loaded, read, ids, same⟩ := ih fun other member =>
      plain other (List.mem_cons_of_mem _ member)
    obtain ⟨first, own, firstId, equal⟩ :=
      @load_shadow format item.1 item.2 (plain item List.mem_cons_self)
    refine ⟨first :: loaded, ?_, ?_, ?_⟩
    · rw [List.map_cons, List.mapM_cons, own, read]
      rfl
    · rw [List.map_cons, List.map_cons, firstId, ids]
    · rw [List.map_cons, List.map_cons, List.map_cons, List.cons.injEq, equal, same,
        List.forall_mem_cons]

theorem loadProjection_iff (saved : CommandsSaved format commands rows) :
    (∃ loaded, loadProjection format rows = some loaded ∧
      (loaded.map (·.id)).Pairwise (· < ·) ∧ loaded.map NodeCommand.value =
        (commands.mergeSort fun first second => first.id ≤ second.id).map NodeCommand.value) ↔
      ∀ command ∈ commands, command.version ≠ 0 := by
  obtain ⟨⟨items, named, written⟩, distinct, plains⟩ := saved
  rw [named] at plains distinct
  let sorted := items.mergeSort fun first second => first.1.id ≤ second.1.id
  have perm : sorted.Perm items := List.mergeSort_perm _ _
  have byRow : rows.mergeSort (fun first second => first.commandId ≤ second.commandId) =
      sorted.map fun item => item.1.shadow format item.2 := by
    rw [written]
    refine Eq.symm (List.map_mergeSort ?_)
    exact fun _ _ _ _ => rfl
  have byId : commands.mergeSort (fun first second => first.id ≤ second.id) =
      sorted.map Prod.fst := by
    rw [named]
    refine Eq.symm (List.map_mergeSort ?_)
    exact fun _ _ _ _ => rfl
  obtain ⟨loaded, read, ids, same⟩ := @mapM_load_shadow format sorted fun item member =>
    plains item.1 (List.mem_map_of_mem (perm.mem_iff.mp member))
  have ordered : (sorted.map (·.1.id)).Pairwise (· ≤ ·) := by
    rw [List.pairwise_map]
    refine (List.pairwise_mergeSort ?_ ?_ items).imp fun le => of_decide_eq_true le
    · intro a b c
      simpa using fun first second => Nat.le_trans first second
    · intro a b
      simpa using Nat.le_total a.1.id b.1.id
  have nodup : (sorted.map (·.1.id)).Nodup := by
    rw [(perm.map _).nodup_iff]
    rw [List.map_map] at distinct
    exact distinct
  have increasing : (loaded.map (·.id)).Pairwise (· < ·) := by
    rw [ids]
    exact ordered.imp₂ (fun _ _ le ne => lt_of_le_of_ne le ne) nodup
  have members : (∀ item ∈ sorted, item.1.version ≠ 0) ↔
      ∀ command ∈ commands, command.version ≠ 0 := by
    rw [named, List.forall_mem_map]
    exact forall_congr' fun item => by rw [perm.mem_iff]
  unfold loadProjection
  rw [byRow, byId, read, ← members, ← same]
  constructor
  · intro ⟨other, given, _, equal⟩
    rw [Option.some.inj given]
    exact equal
  · intro equal
    exact ⟨loaded, rfl, increasing, equal⟩

end Commands

section Events

variable {builtins : Builtins} {format : FloatFormat} {events : List IncidentEvent}
  {log : EventLog} {event : IncidentEvent} {call : EventCall} {eventId runId : String}

structure EventsStored (events : List IncidentEvent) (log : EventLog) : Prop where
  sound : EventsSound log.events
  distinct : (events.map (·.eventId)).Nodup
  appended : ∀ event ∈ events, Appended event
  stored : ∀ event ∈ events, ∀ row ∈ log.events, row.eventId = event.eventId → StoredAs event row

theorem loadEvents_eq (sound : EventsSound log.events) :
    loadEvents format builtins log = log.events.map (EventRow.load format builtins) := by
  unfold loadEvents
  rw [List.mergeSort_of_pairwise]
  exact sound.ordered.increasing.imp fun less => decide_eq_true less.le

theorem loadEvents_increasing (sound : EventsSound log.events) :
    ((loadEvents format builtins log).map (·.id)).Pairwise (· < ·) := by
  rw [loadEvents_eq sound, List.map_map, List.pairwise_map]
  exact sound.ordered.increasing

theorem loadEvents_iff (kept : EventsStored events log) :
    (∀ event ∈ events, ∀ row ∈ log.events, row.eventId = event.eventId →
      ∃ loaded ∈ loadEvents format builtins log, loaded.value = event.value) ↔
    ∀ event ∈ events, ∀ row ∈ log.events, row.eventId = event.eventId →
      row.runId = event.runId := by
  rw [loadEvents_eq kept.sound]
  constructor
  · intro restored event member row there same
    obtain ⟨loaded, read, equal⟩ := restored event member row there same
    obtain ⟨other, there', rfl⟩ := List.mem_map.mp read
    have named : other.eventId = event.eventId :=
      congrArg (fun value => value.1.eventId) equal
    have is : other = row :=
      List.inj_on_of_nodup_map kept.sound.distinct there' there (named.trans same.symm)
    exact is ▸ congrArg (fun value => value.1.runId) equal
  · intro agree event member row there same
    refine ⟨row.load format builtins, List.mem_map_of_mem there, ?_⟩
    rw [load_row (kept.appended event member) (kept.stored event member row there same),
      agree event member row there same]

theorem correlation_ne (run nodeCode : String) (n : Int) : run ++ s!":{nodeCode}:{n}" ≠ "" := by
  intro blank
  have parts := (String.append_eq_empty_iff.mp blank).2
  have colon := (String.append_eq_empty_iff.mp (String.append_eq_empty_iff.mp parts).1).2
  exact absurd colon (by decide)

theorem appended_event (input : EventInput) (globalSequence localSequence : Int) :
    Appended (input.event globalSequence localSequence) := by
  refine ⟨rfl, rfl, rfl, rfl, ?_, ⟨input.severity, rfl⟩, rfl⟩
  exact correlation_ne _ _ _

theorem eventsStored_append {input : EventInput} (kept : EventsStored events log)
    (fresh : ∀ event ∈ events, event.eventId ≠ input.eventId)
    (unused : ∀ row ∈ log.events, row.eventId ≠ input.eventId)
    (globalSequence localSequence : Int) :
    EventsStored (events ++ [input.event globalSequence localSequence]) log := by
  refine ⟨kept.sound, ?_, fun event member => ?_, fun event member row there same => ?_⟩
  · rw [List.map_append]
    exact List.Nodup.append kept.distinct (List.nodup_singleton _)
      (by simpa [EventInput.event] using fresh)
  · rcases of_mem_concat member with old | rfl
    · exact kept.appended event old
    · exact appended_event input _ _
  · rcases of_mem_concat member with old | rfl
    · exact kept.stored event old row there same
    · exact absurd same (unused row there)

theorem adopt_stored {row : EventRow} (stored : StoredAs event row) :
    (⟨event, runId⟩ : EventCall).adopt row = event := by
  obtain ⟨other, rfl⟩ := stored.written
  obtain ⟨local_, global⟩ := stored.numbers
  unfold EventCall.adopt EventCall.row
  rw [if_pos local_, if_pos global]
  exact congrArg (fun n => { event with id := n }) stored.numbered.symm

theorem appended_number (appended : Appended call.event) : Appended (call.number log) := by
  refine { appended with correlated := ?_ }
  unfold EventCall.number
  dsimp only
  split
  next =>
    exact correlation_ne _ _ _
  next => exact appended.correlated

theorem storedAs_number (sound : EventsSound log.events) (event : IncidentEvent)
    (runId : String) : StoredAs ((⟨event, runId⟩ : EventCall).number log)
      ((⟨event, runId⟩ : EventCall).row ((⟨event, runId⟩ : EventCall).number log)) := by
  have positive := @number_positive ⟨event, runId⟩ log sound
  exact ⟨⟨runId, rfl⟩, positive.1, positive.2, rfl⟩

theorem insertEvent_new (unused : ∀ row ∈ log.events, row.eventId ≠ call.event.eventId) :
    insertEvent log call = ((true, call.number log),
      ⟨log.events ++ [call.row (call.number log)],
        log.audits ++ [call.audit (call.number log)]⟩) := by
  have none : log.events.find? (·.eventId = call.event.eventId) = none := by
    rw [List.find?_eq_none]
    exact fun row there same => unused row there (of_decide_eq_true same)
  unfold insertEvent
  rw [none]
  rfl

theorem insertEvent_stored {row : EventRow} (there : row ∈ log.events)
    (same : row.eventId = call.event.eventId) (distinct : (log.events.map (·.eventId)).Nodup) :
    insertEvent log call = ((false, call.adopt row), log) := by
  have found := RowLog.find?_of_distinct distinct there
  rw [same] at found
  unfold insertEvent
  rw [found]

theorem eventsStored_other (kept : EventsStored events log)
    (foreign : ∀ event ∈ events, event.eventId ≠ call.event.eventId) :
    EventsStored events (insertEvent log call).2 := by
  by_cases known : ∃ row ∈ log.events, row.eventId = call.event.eventId
  · obtain ⟨row, there, same⟩ := known
    rw [insertEvent_stored there same kept.sound.distinct]
    exact kept
  · have unused : ∀ row ∈ log.events, row.eventId ≠ call.event.eventId := by
      simpa using known
    rw [insertEvent_new unused]
    refine ⟨kept.sound.append (followsAll_number kept.sound unused), kept.distinct,
      kept.appended, fun event member row there same => ?_⟩
    rcases of_mem_concat there with old | rfl
    · exact kept.stored event member row old same
    · exact absurd same.symm (foreign event member)

theorem renumber_same (distinct : (events.map (·.eventId)).Nodup) (member : event ∈ events) :
    renumber events event.eventId event = events := by
  refine (List.map_congr_left fun other there => ?_).trans (List.map_id _)
  split
  next same => exact (List.inj_on_of_nodup_map distinct there member same).symm
  next => rfl

theorem mem_renumber {numbered other : IncidentEvent}
    (member : other ∈ renumber events eventId numbered) :
    other = numbered ∨ other ∈ events ∧ other.eventId ≠ eventId := by
  obtain ⟨old, there, same⟩ := List.mem_map.mp member
  split at same
  next => exact .inl same.symm
  next foreign => exact .inr (same ▸ ⟨there, foreign⟩)

theorem eventsStored_new (kept : EventsStored events log) (member : event ∈ events)
    (unused : ∀ row ∈ log.events, row.eventId ≠ event.eventId) (runId : String) :
    EventsStored (renumber events event.eventId ((⟨event, runId⟩ : EventCall).number log))
      (insertEvent log ⟨event, runId⟩).2 := by
  have follows := @followsAll_number ⟨event, runId⟩ log kept.sound unused
  rw [insertEvent_new unused]
  refine ⟨kept.sound.append follows, ?_, fun other there => ?_,
    fun other there row stored same => ?_⟩
  · have names : (renumber events event.eventId ((⟨event, runId⟩ : EventCall).number log)).map
        (·.eventId) = events.map (·.eventId) := by
      unfold renumber
      rw [List.map_map]
      refine List.map_congr_left fun other _ => ?_
      rw [Function.comp_apply]
      split
      next same => exact same.symm
      next => rfl
    rw [names]
    exact kept.distinct
  · rcases mem_renumber there with rfl | ⟨old, -⟩
    · exact appended_number (kept.appended event member)
    · exact kept.appended other old
  · rcases of_mem_concat stored with old | rfl
    · rcases mem_renumber there with rfl | ⟨earlier, -⟩
      · exact absurd same (unused row old)
      · exact kept.stored other earlier row old same
    · rcases mem_renumber there with rfl | ⟨-, foreign⟩
      · exact storedAs_number kept.sound event runId
      · exact absurd same.symm foreign

end Events

section Runs

variable {builtins : Builtins} {format : FloatFormat} {facts : DurableFacts} {step : FactStep}
  {eventId runId : String} {command : NodeCommand} {commands : List NodeCommand}

structure FactsSound (format : FloatFormat) (facts : DurableFacts) : Prop where
  commands : CommandsSaved format facts.commands facts.commandRows
  events : EventsStored facts.events facts.log

structure FilledIn (facts : DurableFacts) : Prop where
  versions : ∀ command ∈ facts.commands, command.version ≠ 0
  runs : ∀ event ∈ facts.events, ∀ row ∈ facts.log.events, row.eventId = event.eventId →
    row.runId = event.runId

theorem restartTransparent_iff (sound : FactsSound format facts) :
    RestartTransparent builtins format facts ↔ FilledIn facts := by
  constructor
  · intro transparent
    exact ⟨(loadProjection_iff sound.commands).mp transparent.commands,
      (loadEvents_iff sound.events).mp transparent.events⟩
  · intro filled
    exact ⟨(loadProjection_iff sound.commands).mpr filled.versions,
      (loadEvents_iff sound.events).mpr filled.runs, loadEvents_increasing sound.events.sound⟩

theorem persistEvent_absent (absent : ∀ event ∈ facts.events, event.eventId ≠ eventId) :
    facts.persistEvent eventId runId = facts := by
  have none : facts.events.find? (·.eventId = eventId) = none := by
    rw [List.find?_eq_none]
    exact fun event there same => absent event there (of_decide_eq_true same)
  unfold DurableFacts.persistEvent
  rw [none]

theorem persistEvent_eq {event : IncidentEvent} (sound : FactsSound format facts)
    (member : event ∈ facts.events) :
    (facts.persistEvent event.eventId runId).commands = facts.commands ∧
    (facts.persistEvent event.eventId runId).commandRows = facts.commandRows ∧
    (facts.persistEvent event.eventId runId).events = renumber facts.events event.eventId
      (insertEvent facts.log ⟨event, runId⟩).1.2 ∧
    (facts.persistEvent event.eventId runId).log = (insertEvent facts.log ⟨event, runId⟩).2 := by
  have found := RowLog.find?_of_distinct sound.events.distinct member
  unfold DurableFacts.persistEvent
  rw [found]
  exact ⟨rfl, rfl, rfl, rfl⟩

theorem persistEvent_commands : (facts.persistEvent eventId runId).commands = facts.commands := by
  unfold DurableFacts.persistEvent
  split <;> rfl

theorem factsSound_persistEvent (sound : FactsSound format facts) :
    FactsSound format (facts.persistEvent eventId runId) := by
  by_cases there : ∃ event ∈ facts.events, event.eventId = eventId
  · obtain ⟨event, member, rfl⟩ := there
    obtain ⟨commands, rows, events, log⟩ := @persistEvent_eq format facts runId event sound member
    refine ⟨by rw [commands, rows]; exact sound.commands, ?_⟩
    rw [events, log]
    by_cases known : ∃ row ∈ facts.log.events, row.eventId = event.eventId
    · obtain ⟨row, stored, same⟩ := known
      rw [insertEvent_stored stored same sound.events.sound.distinct]
      rw [adopt_stored (sound.events.stored event member row stored same),
        renumber_same sound.events.distinct member]
      exact sound.events
    · have unused : ∀ row ∈ facts.log.events, row.eventId ≠ event.eventId := by
        simpa using known
      have kept := eventsStored_new sound.events member unused runId
      rw [insertEvent_new unused] at kept ⊢
      exact kept
  · rw [persistEvent_absent (by simpa using there)]
    exact sound

theorem filledIn_persistEvent_iff (sound : FactsSound format facts) (filled : FilledIn facts) :
    FilledIn (facts.persistEvent eventId runId) ↔ NamesRun facts eventId runId := by
  by_cases there : ∃ event ∈ facts.events, event.eventId = eventId
  · obtain ⟨event, member, rfl⟩ := there
    obtain ⟨commands, -, events, log⟩ := @persistEvent_eq format facts runId event sound member
    by_cases known : ∃ row ∈ facts.log.events, row.eventId = event.eventId
    · refine ⟨fun _ _ _ _ => .inl known, fun _ => ?_⟩
      obtain ⟨row, stored, same⟩ := known
      rw [insertEvent_stored stored same sound.events.sound.distinct] at events log
      rw [adopt_stored (sound.events.stored event member row stored same),
        renumber_same sound.events.distinct member] at events
      exact ⟨by rw [commands]; exact filled.versions, by rw [events, log]; exact filled.runs⟩
    · have unused : ∀ row ∈ facts.log.events, row.eventId ≠ event.eventId := by
        simpa using known
      rw [insertEvent_new unused] at events log
      have names : NamesRun facts event.eventId runId ↔ event.runId ≠ "" ∨ runId = "" := by
        constructor
        · intro named
          exact (named event member rfl).resolve_left known
        · intro own other earlier same
          rw [List.inj_on_of_nodup_map sound.events.distinct earlier member same]
          exact .inr own
      have durable : EventCall.durableRunId ⟨event, runId⟩ = event.runId ↔
          event.runId ≠ "" ∨ runId = "" := by
        unfold EventCall.durableRunId
        split
        next own => exact ⟨fun _ => .inl own, fun _ => rfl⟩
        next blank =>
          have blank : event.runId = "" := not_not.mp blank
          simp [blank]
      rw [names, ← durable]
      constructor
      · intro later
        refine later.runs ((⟨event, runId⟩ : EventCall).number facts.log) ?_
          ((⟨event, runId⟩ : EventCall).row ((⟨event, runId⟩ : EventCall).number facts.log))
          ?_ rfl
        · rw [events]
          exact List.mem_map.mpr ⟨event, member, if_pos rfl⟩
        · rw [log]
          exact List.mem_append_right _ List.mem_cons_self
      · intro same
        refine ⟨by rw [commands]; exact filled.versions, ?_⟩
        rw [events, log]
        intro other own row stored named
        rcases of_mem_concat stored with old | rfl
        · rcases mem_renumber own with rfl | ⟨earlier, -⟩
          · exact absurd named (unused row old)
          · exact filled.runs other earlier row old named
        · rcases mem_renumber own with rfl | ⟨-, foreign⟩
          · exact same
          · exact absurd named.symm foreign
  · have absent : ∀ event ∈ facts.events, event.eventId ≠ eventId := by simpa using there
    rw [persistEvent_absent absent]
    exact ⟨fun _ event member same => absurd same (absent event member), fun _ => filled⟩

theorem factsSound_persistCommand (sound : FactsSound format facts) (plain : command.Plain) :
    FactsSound format (facts.persistCommand format command runId) :=
  ⟨commandsSaved_persist sound.commands plain, sound.events⟩

def DurableFacts.persistCommands (format : FloatFormat) (runId : String) (facts : DurableFacts)
    (commands : List NodeCommand) : DurableFacts :=
  commands.foldl (fun facts command => facts.persistCommand format command runId) facts

theorem persistCommands_frame (commands : List NodeCommand) (facts : DurableFacts) :
    (facts.persistCommands format runId commands).events = facts.events ∧
      (facts.persistCommands format runId commands).log = facts.log := by
  induction commands generalizing facts with
  | nil => exact ⟨rfl, rfl⟩
  | cons command commands ih => exact ih (facts.persistCommand format command runId)

theorem factsSound_persistCommands {commands : List NodeCommand}
    (sound : FactsSound format facts) (plain : ∀ command ∈ commands, command.Plain) :
    FactsSound format (facts.persistCommands format runId commands) := by
  induction commands generalizing facts with
  | nil => exact sound
  | cons command commands ih =>
    obtain ⟨own, others⟩ := List.forall_mem_cons.mp plain
    exact ih (factsSound_persistCommand sound own) others

theorem mem_of_mem_persistCommands
    (member : command ∈ (facts.persistCommands format runId commands).commands) :
    command ∈ commands ∨ command ∈ facts.commands := by
  induction commands generalizing facts with
  | nil => exact .inr member
  | cons first commands ih =>
    rcases ih member with later | earlier
    · exact .inl (List.mem_cons_of_mem _ later)
    · rcases RowLog.mem_of_mem_replaced earlier with rfl | old
      · exact .inl List.mem_cons_self
      · exact .inr old

theorem mem_persistCommands_of_ne {command : NodeCommand} {commands : List NodeCommand}
    (member : command ∈ facts.commands) (others : command.id ∉ commands.map (·.id)) :
    command ∈ (facts.persistCommands format runId commands).commands := by
  induction commands generalizing facts with
  | nil => exact member
  | cons first commands ih =>
    rw [List.map_cons, List.mem_cons, not_or] at others
    exact ih (RowLog.mem_replaced_of_ne member others.1) others.2

theorem mem_persistCommands (member : command ∈ commands) (distinct : (commands.map (·.id)).Nodup) :
    command ∈ (facts.persistCommands format runId commands).commands := by
  induction commands generalizing facts with
  | nil => cases member
  | cons first commands ih =>
    rw [List.map_cons, List.nodup_cons] at distinct
    rcases List.mem_cons.mp member with rfl | later
    · have here : command ∈ (facts.persistCommand format command runId).commands :=
        RowLog.mem_replaced
      exact @mem_persistCommands_of_ne format (facts.persistCommand format command runId) runId
        command commands here distinct.1
    · exact ih later distinct.2

theorem filledIn_persistCommands_iff {commands : List NodeCommand} (filled : FilledIn facts)
    (distinct : (commands.map (·.id)).Nodup) :
    FilledIn (facts.persistCommands format runId commands) ↔
      ∀ command ∈ commands, command.version ≠ 0 := by
  obtain ⟨events, log⟩ := @persistCommands_frame format runId commands facts
  constructor
  · intro later command member
    exact later.versions command (mem_persistCommands member distinct)
  · intro versions
    refine ⟨fun command member => ?_, by rw [events, log]; exact filled.runs⟩
    rcases mem_of_mem_persistCommands member with new | old
    · exact versions command new
    · exact filled.versions command old

theorem filledIn_append {input : EventInput} (filled : FilledIn facts)
    (unused : ∀ row ∈ facts.log.events, row.eventId ≠ input.eventId) :
    FilledIn (facts.appendEvent input) := by
  refine ⟨filled.versions, fun event member row stored same => ?_⟩
  rcases of_mem_concat member with old | rfl
  · exact filled.runs event old row stored same
  · exact absurd same (unused row stored)

theorem filledIn_other {call : EventCall} (sound : FactsSound format facts)
    (filled : FilledIn facts)
    (foreign : ∀ event ∈ facts.events, event.eventId ≠ call.event.eventId) :
    FilledIn { facts with log := (insertEvent facts.log call).2 } := by
  refine ⟨filled.versions, fun event member row stored same => ?_⟩
  by_cases known : ∃ row ∈ facts.log.events, row.eventId = call.event.eventId
  · obtain ⟨old, there, named⟩ := known
    rw [insertEvent_stored there named sound.events.sound.distinct] at stored
    exact filled.runs event member row stored same
  · rw [insertEvent_new (by simpa using known)] at stored
    rcases of_mem_concat stored with old | rfl
    · exact filled.runs event member row old same
    · exact absurd same.symm (foreign event member)

theorem factsSound_step (sound : FactsSound format facts) (valid : step.Valid facts) :
    FactsSound format (facts.step format step) := by
  cases step with
  | appendEvent input =>
    exact ⟨sound.commands, eventsStored_append sound.events valid.1 valid.2 _ _⟩
  | persistEvent => exact factsSound_persistEvent sound
  | persistCommand => exact factsSound_persistCommand sound valid
  | persistCommandEvents commands eventId runId =>
    have saved := @factsSound_persistCommands format facts runId commands sound valid.1
    exact @factsSound_persistEvent format _ eventId runId saved
  | insertOther call => exact ⟨sound.commands, eventsStored_other sound.events valid⟩

theorem filledIn_step_iff (sound : FactsSound format facts) (filled : FilledIn facts)
    (valid : step.Valid facts) :
    FilledIn (facts.step format step) ↔ step.Mirrors facts := by
  cases step with
  | appendEvent => exact ⟨fun _ => trivial, fun _ => filledIn_append filled valid.2⟩
  | persistEvent => exact filledIn_persistEvent_iff sound filled
  | persistCommand command runId =>
    have single := @filledIn_persistCommands_iff format facts runId [command] filled
      (List.nodup_singleton _)
    exact single.trans (List.forall_mem_singleton)
  | persistCommandEvents commands eventId runId =>
    have saved := @factsSound_persistCommands format facts runId commands sound valid.1
    have versions := @filledIn_persistCommands_iff format facts runId commands filled valid.2
    obtain ⟨events, log⟩ := @persistCommands_frame format runId commands facts
    have names : NamesRun (facts.persistCommands format runId commands) eventId runId ↔
        NamesRun facts eventId runId := by
      unfold NamesRun
      rw [events, log]
    change FilledIn ((facts.persistCommands format runId commands).persistEvent eventId runId) ↔ _
    constructor
    · intro later
      have kept : FilledIn (facts.persistCommands format runId commands) := by
        refine ⟨fun command member => later.versions command ?_, ?_⟩
        · rw [persistEvent_commands]
          exact member
        · rw [events, log]
          exact filled.runs
      exact ⟨versions.mp kept, names.mp ((filledIn_persistEvent_iff saved kept).mp later)⟩
    · intro ⟨own, named⟩
      exact (filledIn_persistEvent_iff saved (versions.mpr own)).mpr (names.mpr named)
  | insertOther => exact ⟨fun _ => trivial, fun _ => filledIn_other sound filled valid⟩

theorem factsSound_empty (format : FloatFormat) : FactsSound format .empty := by
  have commands : CommandsSaved format [] [] :=
    ⟨⟨[], rfl, rfl⟩, List.nodup_nil, List.forall_mem_nil _⟩
  have rows : EventsSound [] :=
    ⟨⟨.nil, .nil⟩, List.forall_mem_nil _, List.nodup_nil⟩
  have events : EventsStored [] .empty :=
    ⟨rows, List.nodup_nil, List.forall_mem_nil _,
      List.forall_mem_nil _⟩
  exact ⟨commands, events⟩

theorem filledIn_empty : FilledIn .empty :=
  ⟨List.forall_mem_nil _, List.forall_mem_nil _⟩

theorem attempt_eq {reply : Unit} {later : DurableFacts}
    (h : (durableAuthority format).attempt step facts = .ok (reply, later)) :
    later = facts.step format step := by
  cases h
  rfl

/-- In every run of appended, written and foreign events and of written commands, a restart after
any step gives back the records in memory exactly when each write of an event names a run only if
the event has one, and no command has version zero. -/
theorem restart_transparent_iff (builtins : Builtins) (format : FloatFormat)
    (steps : List FactStep)
    (valid : (durableAuthority format).Along (fun facts step => step.Valid facts) .empty steps) :
    (durableAuthority format).Along
        (fun facts step => RestartTransparent builtins format (facts.step format step))
        .empty steps ↔
      (durableAuthority format).Along (fun facts step => step.Mirrors facts) .empty steps := by
  have agree : (durableAuthority format).Along (fun facts step => step.Valid facts ∧
        RestartTransparent builtins format (facts.step format step)) .empty steps ↔
      (durableAuthority format).Along (fun facts step => step.Valid facts ∧ step.Mirrors facts)
        .empty steps := by
    refine Authority.along_iff (I := fun facts => FactsSound format facts ∧ FilledIn facts) ?_ ?_
      ⟨factsSound_empty format, filledIn_empty⟩
    · intro facts step reply later ⟨sound, filled⟩ ⟨valid, transparent⟩ h
      rw [attempt_eq h]
      have kept := factsSound_step sound valid
      exact ⟨kept, (restartTransparent_iff kept).mp transparent⟩
    · intro facts step ⟨sound, filled⟩
      refine and_congr_right fun valid => ?_
      rw [restartTransparent_iff (factsSound_step sound valid)]
      exact filledIn_step_iff sound filled valid
  rw [Authority.along_and, Authority.along_and] at agree
  constructor
  · intro transparent
    exact (agree.mp ⟨valid, transparent⟩).2
  · intro mirrors
    exact (agree.mpr ⟨valid, mirrors⟩).2

end Runs

def sampleEventInput (runId : String) : EventInput where
  eventId := "event-1"
  nodeCode := "turning-workshop-01"
  stage := "command-created"
  severity := .info
  message := "command_id=1 created with status=pending type=set_target_rate."
  runId := runId
  scenarioId := ""
  occurredAt := 5

def sampleStoredCommand : NodeCommand :=
  { id := 1, nodeCode := "turning-workshop-01", commandType := "set_target_rate"
    riskLevel := "low", status := .pending, operator := "admin"
    parameters := [("target_rate", .int 2), ("idempotency_key", .str "command-1")]
    expiresAt := some 300000005, createdAt := 5, updatedAt := 5
    verificationBaseline := [("turning-workshop-01", [("actual_rate", .int 1)])] }

def sampleFactSteps (ownRun runId : String) : List FactStep :=
  [.appendEvent (sampleEventInput ownRun),
    .persistCommandEvents [sampleStoredCommand] "event-1" runId]

theorem sampleStoredCommand_plain : sampleStoredCommand.Plain := ⟨rfl, rfl, rfl⟩

theorem sampleFactSteps_valid (ownRun runId : String) : (durableAuthority sampleFormat).Along
    (fun facts step => step.Valid facts) .empty (sampleFactSteps ownRun runId) := by
  refine ⟨⟨fun event member => absurd member List.not_mem_nil,
    fun row member => absurd member List.not_mem_nil⟩, ⟨?_, List.nodup_singleton _⟩, trivial⟩
  intro command member
  rw [List.mem_singleton.mp member]
  exact sampleStoredCommand_plain

theorem sampleFactSteps_transparent :
    (durableAuthority sampleFormat).Along (fun facts step =>
        RestartTransparent sampleBuiltins sampleFormat (facts.step sampleFormat step))
        .empty (sampleFactSteps "RUN-1" "RUN-1") ↔
      (durableAuthority sampleFormat).Along (fun facts step => step.Mirrors facts)
        .empty (sampleFactSteps "RUN-1" "RUN-1") :=
  restart_transparent_iff sampleBuiltins sampleFormat _ (sampleFactSteps_valid "RUN-1" "RUN-1")

/-- The run that is filled in when the event is written is not filled in in memory. -/
theorem filled_run_not_mirrored : ¬ ∀ (builtins : Builtins) (format : FloatFormat)
    (steps : List FactStep),
    (durableAuthority format).Along (fun facts step => step.Valid facts) .empty steps →
    (durableAuthority format).Along
      (fun facts step => RestartTransparent builtins format (facts.step format step))
      .empty steps := by
  intro claimed
  have transparent := (claimed sampleBuiltins sampleFormat _ (sampleFactSteps_valid "" "RUN-1")).2.1
  generalize hfacts : (durableAuthority sampleFormat).serve .empty
    (.appendEvent (sampleEventInput "")) = facts at transparent
  have appended : facts = DurableFacts.empty.appendEvent (sampleEventInput "") := hfacts.symm
  have sound : FactsSound sampleFormat facts := by
    rw [appended]
    exact @factsSound_step sampleFormat _ (.appendEvent (sampleEventInput ""))
      (factsSound_empty sampleFormat) (sampleFactSteps_valid "" "RUN-1").1
  have filled : FilledIn facts := by
    rw [appended]
    exact filledIn_append filledIn_empty (sampleFactSteps_valid "" "RUN-1").1.2
  have valid : (FactStep.persistCommandEvents [sampleStoredCommand] "event-1" "RUN-1").Valid
      facts := by
    rw [appended]
    exact (sampleFactSteps_valid "" "RUN-1").2.1
  have later := factsSound_step sound valid
  have mirrors := (filledIn_step_iff sound filled valid).mp
    ((restartTransparent_iff later).mp transparent)
  rw [appended] at mirrors
  rcases mirrors.2 ((sampleEventInput "").event 1 1) (List.mem_singleton_self _) rfl with
    ⟨row, stored, -⟩ | own | blank
  · exact absurd stored List.not_mem_nil
  · exact own rfl
  · exact absurd blank (by decide)

end MiniOgas
