import MiniOgas.RunIdentity

namespace MiniOgas

open Serial

/-- What the validators of pydantic and `datetime.fromisoformat` make of a value, and the
identifier that a message gets from its content. -/
structure Readers where
  int : Json → Option Int
  float : Json → Option ℚ
  bool : Json → Option Bool
  datetime : Json → Option Timestamp
  fromIsoFormat : String → Option Timestamp
  messageId : Fields → String

/-- A field of a `StrictModel`, and what its validator makes of a value. -/
structure ReadField where
  name : String
  default : Option Json
  read : Json → Option Json

namespace ReadField

def required (name : String) (read : Json → Option Json) : ReadField := ⟨name, none, read⟩

/-- A field that may be absent or `None`. -/
def optional (name : String) (read : Json → Option Json) : ReadField :=
  ⟨name, some .null, fun value => match value with
    | .null => some .null
    | value => read value⟩

def defaulted (name : String) (default : Json) (read : Json → Option Json) : ReadField :=
  ⟨name, some default, read⟩

end ReadField

def Fields.find (fields : Fields) (key : String) : Option Json :=
  (fields.find? (·.1 = key)).map (·.2)

def ReadField.make (field : ReadField) (fields : Fields) : Option Json :=
  match fields.find field.name with
  | some value => field.read value
  | none => field.default

def readFields : List ReadField → Fields → Option Fields
  | [], _ => some []
  | field :: model, fields => do
    let value ← field.make fields
    let values ← readFields model fields
    return (field.name, value) :: values

/-- `model_validate` of a `StrictModel`. -/
def readModel (model : List ReadField) : Json → Option Json
  | .obj fields =>
    if fields.all fun entry => (model.map (·.name)).contains entry.1 then
      (readFields model fields).map Json.obj
    else none
  | _ => none

def readTextWhen (p : String → Bool) : Json → Option Json
  | .str s => if p s then some (.str s) else none
  | _ => none

def readList (limit : Nat) (read : Json → Option Json) : Json → Option Json
  | .arr items => if items.length ≤ limit then (items.mapM read).map Json.arr else none
  | _ => none

def oneOf (values : List String) : Json → Option Json := readTextWhen values.contains

def lengthAtMost (limit : Nat) : Json → Option Json := readTextWhen fun s => s.length ≤ limit

def lengthFrom (low high : Nat) : Json → Option Json :=
  readTextWhen fun s => low ≤ s.length && s.length ≤ high

/-- `^[a-z0-9][a-z0-9_-]{0,63}$`. -/
def nodeToken (s : String) : Bool :=
  let lower := fun c : Char => ('a' ≤ c && c ≤ 'z') || c.isDigit
  match s.toList with
  | [] => false
  | first :: rest => lower first && rest.length ≤ 63 &&
    rest.all fun c => lower c || c = '_' || c = '-'

/-- `^[A-Z][A-Z0-9_]{0,63}$`. -/
def alarmType (s : String) : Bool :=
  let upper := fun c : Char => 'A' ≤ c && c ≤ 'Z'
  match s.toList with
  | [] => false
  | first :: rest => upper first && rest.length ≤ 63 &&
    rest.all fun c => upper c || c.isDigit || c = '_'

section Models

variable (readers : Readers)

def readIntWhen (p : Int → Bool) (value : Json) : Option Json :=
  ((readers.int value).filter p).map Json.int

def readFloatWhen (p : ℚ → Bool) (value : Json) : Option Json :=
  ((readers.float value).filter p).map Json.float

def readBoolean (value : Json) : Option Json := (readers.bool value).map Json.bool

def readDatetime (value : Json) : Option Json := (readers.datetime value).map Json.time

def readIntFrom (low : Int) : Json → Option Json := readIntWhen readers fun n => low ≤ n

def readAnyFloat : Json → Option Json := readFloatWhen readers fun _ => true

def readFloatFrom (low : ℚ) : Json → Option Json := readFloatWhen readers fun q => low ≤ q

def readFloatBetween (low high : ℚ) : Json → Option Json :=
  readFloatWhen readers fun q => low ≤ q && q ≤ high

open ReadField

def alarmModel : List ReadField :=
  [required "type" (readTextWhen alarmType),
    required "severity" (oneOf ["info", "low", "medium", "high", "critical"]),
    required "status" (oneOf ["open", "acknowledged", "resolved"]),
    optional "value" (readAnyFloat readers), optional "threshold" (readAnyFloat readers),
    optional "unit" (lengthAtMost 32)]

def metricsModel : List ReadField :=
  [required "cpu_usage" (readFloatBetween readers 0 100),
    required "memory_usage" (readFloatBetween readers 0 100),
    required "disk_usage" (readFloatBetween readers 0 100),
    required "db_latency_ms" (readIntFrom readers 0),
    required "network_latency_ms" (readIntFrom readers 0)]

def productionModel : List ReadField :=
  [required "workshop_type" (oneOf ["turning", "milling", "grinding"]),
    required "machine_code" (lengthFrom 1 64),
    optional "machine_count" (readIntFrom readers 1),
    optional "active_order" (lengthAtMost 128), optional "active_part_id" (lengthAtMost 128),
    required "finished_quantity" (readIntFrom readers 0),
    optional "raw_finished_quantity" (readIntFrom readers 0),
    required "defect_quantity" (readIntFrom readers 0),
    required "target_rate" (readFloatFrom readers 0),
    required "actual_rate" (readFloatFrom readers 0),
    optional "target_rate_per_hour" (readFloatFrom readers 0),
    optional "actual_rate_per_hour" (readFloatFrom readers 0),
    optional "nominal_capacity_per_hour" (readFloatFrom readers 0),
    required "rate_unit" (oneOf ["parts_per_minute", "parts_per_hour"]),
    required "utilization" (readFloatBetween readers 0 1),
    required "defect_rate" (readFloatBetween readers 0 1),
    required "wip_input" (readIntFrom readers 0), required "wip_output" (readIntFrom readers 0),
    optional "process_time_sec" (readIntFrom readers 0),
    optional "spindle_temp" (readAnyFloat readers),
    optional "tool_wear_level" (readFloatBetween readers 0 100),
    optional "dispatch_policy" (lengthAtMost 64)]

def syncModel : List ReadField :=
  [required "last_sync_id" (readIntFrom readers 0),
    required "pending_records" (readIntFrom readers 0)]

def runtimeModel : List ReadField :=
  [required "run_id" (lengthFrom 1 128), required "scenario_id" (lengthFrom 1 128),
    required "simulation_engine" (oneOf ["simple", "simpy", "physical"]),
    required "simulation_mode" (lengthAtMost 64),
    optional "simulation_speed" (readFloatWhen readers fun q => 0 < q),
    required "random_seed" (readIntFrom readers 0),
    optional "simulation_started_at" (readDatetime readers),
    required "simulation_time" (readDatetime readers),
    required "wall_clock_time" (readDatetime readers),
    required "deployment_mode" (oneOf ["process", "container", "vm", "physical"]),
    required "runtime_source" (oneOf ["live", "simulated", "replay", "fixture", "fallback"]),
    optional "part_flow_mode" (lengthAtMost 64),
    optional "heartbeat_sec" (readIntWhen readers fun n => 1 ≤ n && n ≤ 60),
    optional "host" (lengthAtMost 128), optional "pid" (readIntFrom readers 1),
    required "clock_offset_ms" (readAnyFloat readers),
    required "clock_synchronized" (readBoolean readers),
    optional "clock_source" (lengthAtMost 128)]

def heartbeatModel : List ReadField :=
  [required "node_code" (readTextWhen nodeToken),
    required "status"
      (oneOf ["running", "warning", "fault", "degraded", "isolated", "shutting_down"]),
    required "timestamp" (readDatetime readers),
    required "agent_version" (lengthFrom 1 32),
    required "uptime_sec" (readIntFrom readers 0),
    required "metrics" (readModel (metricsModel readers)),
    required "production" (readModel (productionModel readers)),
    required "alarms" (readList 64 (readModel (alarmModel readers))),
    required "sync" (readModel (syncModel readers)),
    required "runtime" (readModel (runtimeModel readers))]

end Models

/-- `TransportEnvelope` of a heartbeat; `data` is as it was sent. -/
structure HeartbeatEnvelope where
  messageId : String
  nodeCode : String
  subject : String
  occurredAt : Timestamp
  publishedAt : Timestamp
  correlationId : String
  runId : String
  sequence : Int
  data : Fields

section Builder

variable (builtins : Builtins) (readers : Readers) (published : Timestamp)

/-- `_as_utc(value, fallback)`; `none` when `fromisoformat` raises. -/
def asUtc (value : Json) (fallback : Timestamp) : Option Timestamp :=
  match value with
  | .time t => some t
  | value =>
    if value.truthy then readers.fromIsoFormat ((builtins.text value).replace "Z" "+00:00")
    else some fallback

/-- The `runtime` of a message, with what is known of the clock of the node. -/
def transportRuntime (occurred : Timestamp) (runtime : Fields) : Fields :=
  let named :=
    if (runtime.get "runtime_source").isText "node-agent" then
      runtime.set "runtime_source" (.str (
        if (runtime.get "simulation_engine").isText "physical" ||
          (runtime.get "deployment_mode").isText "physical" then "live" else "simulated"))
    else runtime
  let skewMs : ℚ := (published - occurred : Int) / 1000
  ((named.setDefault "clock_offset_ms" (.float skewMs)).setDefault "clock_synchronized"
    (.bool (|skewMs| ≤ 2000))).setDefault "clock_source" (.str "central-arrival-skew")

/-- The object that `build_heartbeat_envelope` validates. -/
def transportData (payload : Fields) (occurred : Timestamp) : Fields :=
  ((payload.pop "schema_version").pop "_received_at").set "runtime"
    (.obj (transportRuntime published occurred (payload.get "runtime").dict))

def envelopeRunId (data : Fields) : String := builtins.text ((data.get "runtime").dict.get "run_id")

def envelopeNodeCode (data : Fields) : String := builtins.text (data.get "node_code")

def correlationIdOf (data : Fields) (sequence : Int) : String :=
  s!"{envelopeRunId builtins data}:{envelopeNodeCode builtins data}:{sequence}"

def envelopeSequence (data : Fields) : Option Int :=
  readers.int ((data.get "sync").dict.get "last_sync_id")

/-- `build_heartbeat_envelope` of a heartbeat whose `runtime` is an object; `none` when it
raises. -/
def buildHeartbeatEnvelope (payload : Fields) : Option HeartbeatEnvelope := do
  let occurred ← asUtc builtins readers (payload.get "timestamp") published
  let data := transportData published payload occurred
  guard ((readModel (heartbeatModel readers) (.obj data)).isSome = true)
  let sequence ← envelopeSequence readers data
  guard ((correlationIdOf builtins data sequence).length ≤ 128)
  return {
    messageId := readers.messageId ((payload.pop "schema_version").pop "_received_at")
    nodeCode := envelopeNodeCode builtins data
    subject := s!"ogas.heartbeats.{envelopeNodeCode builtins data}"
    occurredAt := occurred
    publishedAt := published
    correlationId := correlationIdOf builtins data sequence
    runId := envelopeRunId builtins data
    sequence
    data }

end Builder

structure TransportStore where
  facts : FactStore
  outbox : List HeartbeatEnvelope

def enqueueInTransaction (envelope : HeartbeatEnvelope) (outbox : List HeartbeatEnvelope) :
    List HeartbeatEnvelope :=
  if outbox.any (·.messageId = envelope.messageId) then outbox else outbox ++ [envelope]

/-- `persist_heartbeat`, with the setting `nats_enabled`. -/
def persistHeartbeatTransport (env : FactEnv) (readers : Readers) (published : Timestamp)
    (natsEnabled : Bool) (payload : Fields) (store : TransportStore) :
    Except StoreFault (HeartbeatFact × TransportStore) := do
  let envelope :=
    if natsEnabled then buildHeartbeatEnvelope env.store.builtins readers published payload
    else none
  let (fact, facts) ←
    persistHeartbeat env payload (envelope.isSome || !natsEnabled) store.facts
  return (fact, ⟨facts, envelope.elim store.outbox fun envelope =>
    enqueueInTransaction envelope store.outbox⟩)

structure NodeHeartbeatV2In where
  nodeCode : String
  status : String := "running"
  timestamp : Option String := none
  schemaVersion : Option String := none
  agentVersion : String := "0.2.0"
  uptimeSec : Nat := 0
  metrics : Option Fields := none
  production : Option Fields := none
  alarms : List Fields := []
  sync : Option Fields := none
  runtime : Option Fields := none

/-- A field that `model_dump(exclude_none=True)` leaves out. -/
def dumpField {α : Type} (name : String) (encode : α → Json) : Option α → Fields
  | none => []
  | some value => [(name, encode value)]

/-- `model_dump(exclude_none=True)`. -/
def NodeHeartbeatV2In.dump (heartbeat : NodeHeartbeatV2In) : Fields :=
  [("node_code", .str heartbeat.nodeCode), ("status", .str heartbeat.status)] ++
    dumpField "timestamp" Json.str heartbeat.timestamp ++
    dumpField "schema_version" Json.str heartbeat.schemaVersion ++
    [("agent_version", .str heartbeat.agentVersion), ("uptime_sec", .int heartbeat.uptimeSec)] ++
    dumpField "metrics" Json.obj heartbeat.metrics ++
    dumpField "production" Json.obj heartbeat.production ++
    [("alarms", .arr (heartbeat.alarms.map Json.obj))] ++
    dumpField "sync" Json.obj heartbeat.sync ++ dumpField "runtime" Json.obj heartbeat.runtime

/-- The payload that `ingest_agent_heartbeat` hands on, with the class of its source, as
`persist_heartbeat` gets it. -/
def NodeHeartbeatV2In.payload (heartbeat : NodeHeartbeatV2In) (runtimeSource : String)
    (receivedAt : Timestamp) : Fields :=
  (heartbeat.dump.set "runtime"
    (.obj ((heartbeat.runtime.getD []).set "runtime_source" (.str runtimeSource)))).set
    "_received_at" (.time receivedAt)

section Laws

variable {env : FactEnv} {readers : Readers} {published : Timestamp} {payload : Fields}
  {store : TransportStore} {facts : FactStore} {fact : HeartbeatFact}

def factsAfter (env : FactEnv) (readers : Readers) (published : Timestamp) (natsEnabled : Bool)
    (payload : Fields) (store : TransportStore) : Option FactStore :=
  match persistHeartbeatTransport env readers published natsEnabled payload store with
  | .ok (_, store') => some store'.facts
  | .error _ => none

/-- The checks of `persist_heartbeat` itself let a heartbeat pass. -/
def Storable (env : FactEnv) (payload : Fields) (facts : FactStore) : Prop :=
  ∃ fact, readFact env payload = .ok fact ∧
    checkRunRow facts fact.runId fact.scenarioId fact.randomSeed = .ok () ∧
    checkScenarioRow facts fact.scenarioId fact.simulationEngine fact.randomSeed = .ok ()

structure Transportable (builtins : Builtins) (readers : Readers) (published : Timestamp)
    (payload : Fields) (occurred : Timestamp) : Prop where
  time : asUtc builtins readers (payload.get "timestamp") published = some occurred
  schema : (readModel (heartbeatModel readers)
    (.obj (transportData published payload occurred))).isSome = true
  correlated : ∀ sequence,
    envelopeSequence readers (transportData published payload occurred) = some sequence →
    (correlationIdOf builtins (transportData published payload occurred) sequence).length ≤ 128

theorem find_readFields {model : List ReadField} {fields values : Fields}
    (distinct : (model.map (·.name)).Nodup)
    (made : readFields model fields = some values) {field : ReadField} (member : field ∈ model) :
    ∃ value, field.make fields = some value ∧ Fields.find values field.name = some value := by
  induction model generalizing values with
  | nil => cases member
  | cons first model ih =>
    unfold readFields at made
    simp only [Option.bind_eq_bind, Option.bind_eq_some_iff, Option.pure_def,
      Option.some.injEq] at made
    obtain ⟨value, makes, rest, others, rfl⟩ := made
    obtain ⟨apart, distinct⟩ := List.nodup_cons.mp distinct
    rcases List.mem_cons.mp member with rfl | later
    · refine ⟨value, makes, ?_⟩
      unfold Fields.find
      rw [List.find?_cons_of_pos (by simp)]
      rfl
    · obtain ⟨own, makes, found⟩ := ih distinct others later
      have different : first.name ≠ field.name := by
        intro same
        exact apart (List.mem_map.mpr ⟨field, later, same.symm⟩)
      refine ⟨own, makes, ?_⟩
      unfold Fields.find at found ⊢
      rw [List.find?_cons_of_neg (by simpa using different)]
      exact found

theorem required_of_readModel {model : List ReadField} {value made : Json} {name : String}
    {read : Json → Option Json} (distinct : (model.map (·.name)).Nodup)
    (reads : readModel model value = some made) (member : .required name read ∈ model) :
    ∃ fields values : Fields, value = .obj fields ∧ made = .obj values ∧
      ∃ raw given, Fields.find fields name = some raw ∧ read raw = some given ∧
        Fields.find values name = some given := by
  unfold readModel at reads
  split at reads
  next fields =>
    split at reads
    next =>
      obtain ⟨values, makes, rfl⟩ := Option.map_eq_some_iff.mp reads
      obtain ⟨given, made, found⟩ := find_readFields distinct makes member
      unfold ReadField.make at made
      split at made
      next raw sent => exact ⟨fields, values, rfl, rfl, raw, given, sent, made, found⟩
      next => cases made
    next => cases reads
  next => cases reads

theorem get_of_find {fields : Fields} {name : String} {value : Json}
    (found : Fields.find fields name = some value) : Fields.get fields name = value :=
  congrArg (·.getD .null) found

theorem readTextWhen_eq_some {p : String → Bool} {raw given : Json}
    (read : readTextWhen p raw = some given) : ∃ s, raw = .str s ∧ given = .str s ∧ p s = true := by
  unfold readTextWhen at read
  split at read
  next s =>
    split at read
    next takes =>
      cases read
      exact ⟨s, rfl, rfl, takes⟩
    next => cases read
  next => cases read

theorem distinct_heartbeatModel : ((heartbeatModel readers).map (·.name)).Nodup := by
  simp [heartbeatModel, ReadField.required]

theorem sync_of_valid {data : Fields} {made : Json}
    (reads : readModel (heartbeatModel readers) (.obj data) = some made) :
    ∃ sequence, envelopeSequence readers data = some sequence ∧
      (made.dict.get "sync").dict.get "last_sync_id" = .int sequence ∧ 0 ≤ sequence := by
  have required : .required "sync" (readModel (syncModel readers)) ∈ heartbeatModel readers := by
    simp [heartbeatModel]
  obtain ⟨fields, values, same, rfl, sync, given, found, read, gives⟩ :=
    required_of_readModel distinct_heartbeatModel reads required
  cases same
  have required : .required "last_sync_id" (readIntFrom readers 0) ∈ syncModel readers := by
    simp [syncModel]
  obtain ⟨fields', values', rfl, rfl, last, number, found', read, gives'⟩ :=
    required_of_readModel (by simp [syncModel, ReadField.required]) read required
  unfold envelopeSequence
  dsimp only [Json.dict]
  rw [get_of_find found, get_of_find gives]
  dsimp only
  rw [get_of_find found', get_of_find gives']
  obtain ⟨sequence, number, rfl⟩ := Option.map_eq_some_iff.mp read
  obtain ⟨number, positive⟩ := Option.filter_eq_some_iff.mp number
  exact ⟨sequence, number, rfl, by simpa using positive⟩

theorem sequence_of_valid {data : Fields}
    (valid : (readModel (heartbeatModel readers) (.obj data)).isSome = true) :
    ∃ sequence, envelopeSequence readers data = some sequence := by
  obtain ⟨made, reads⟩ := Option.isSome_iff_exists.mp valid
  obtain ⟨sequence, number, -⟩ := sync_of_valid reads
  exact ⟨sequence, number⟩

theorem buildHeartbeatEnvelope_isSome_iff {builtins : Builtins} :
    (buildHeartbeatEnvelope builtins readers published payload).isSome = true ↔
      ∃ occurred, Transportable builtins readers published payload occurred := by
  unfold buildHeartbeatEnvelope
  constructor
  · intro built
    obtain ⟨envelope, built⟩ := Option.isSome_iff_exists.mp built
    obtain ⟨occurred, time, built⟩ := Option.bind_eq_some_iff.mp built
    obtain ⟨_, valid, built⟩ := Option.bind_eq_some_iff.mp built
    obtain ⟨sequence, numbered, built⟩ := Option.bind_eq_some_iff.mp built
    obtain ⟨_, short, -⟩ := Option.bind_eq_some_iff.mp built
    refine ⟨occurred, time, by simpa [guard, Option.isSome_iff_ne_none] using valid,
      fun other same => ?_⟩
    cases numbered.symm.trans same
    simpa [guard] using short
  · rintro ⟨occurred, time, schema, correlated⟩
    obtain ⟨sequence, numbered⟩ := sequence_of_valid schema
    have short := correlated sequence numbered
    rw [time, Option.bind_eq_bind, Option.bind_some]
    dsimp only
    rw [schema, numbered]
    simp [guard, short]

theorem persistHeartbeat_cases (env : FactEnv) (payload : Fields) (facts : FactStore) :
    (¬ Storable env payload facts ∧ ∀ enqueued, ∃ fault,
      persistHeartbeat env payload enqueued facts = .error fault) ∨
    Storable env payload facts ∧ ∃ fact, persistHeartbeat env payload true facts =
        .ok (fact, facts.writeFact env fact) ∧
      persistHeartbeat env payload false facts = .error .validationError := by
  unfold persistHeartbeat Storable
  cases read : readFact env payload with
  | error fault => exact .inl ⟨by simp, fun _ => ⟨fault, rfl⟩⟩
  | ok fact =>
    cases run : checkRunRow facts fact.runId fact.scenarioId fact.randomSeed with
    | error fault =>
      refine .inl ⟨?_, fun _ => ⟨fault, ?_⟩⟩
      · rintro ⟨other, same, passes, -⟩
        cases same
        rw [run] at passes
        cases passes
      · simp [run, bind, Except.bind]
    | ok =>
      cases scenario : checkScenarioRow facts fact.scenarioId fact.simulationEngine
          fact.randomSeed with
      | error fault =>
        refine .inl ⟨?_, fun _ => ⟨fault, ?_⟩⟩
        · rintro ⟨other, same, -, passes⟩
          cases same
          rw [scenario] at passes
          cases passes
        · simp [run, scenario, bind, Except.bind]
      | ok =>
        refine .inr ⟨⟨fact, rfl, run, scenario⟩, fact, ?_, ?_⟩ <;>
          simp [run, scenario, check, bind, Except.bind, pure, Except.pure]

theorem factsAfter_cases (env : FactEnv) (readers : Readers) (published : Timestamp)
    (payload : Fields) (store : TransportStore) :
    (¬ Storable env payload store.facts ∧ ∀ natsEnabled,
      factsAfter env readers published natsEnabled payload store = none) ∨
    Storable env payload store.facts ∧ ∃ fact,
      factsAfter env readers published false payload store =
        some (store.facts.writeFact env fact) ∧
      factsAfter env readers published true payload store =
        if (buildHeartbeatEnvelope env.store.builtins readers published payload).isSome = true then
          some (store.facts.writeFact env fact)
        else none := by
  unfold factsAfter persistHeartbeatTransport
  rcases persistHeartbeat_cases env payload store.facts with
    ⟨refused, faults⟩ | ⟨storable, fact, stored, rejected⟩
  · refine .inl ⟨refused, fun natsEnabled => ?_⟩
    generalize (if natsEnabled then buildHeartbeatEnvelope env.store.builtins readers published
      payload else none) = envelope
    dsimp only
    obtain ⟨fault, raised⟩ := faults (envelope.isSome || !natsEnabled)
    rw [raised]
    rfl
  · refine .inr ⟨storable, fact, ?_, ?_⟩
    · simp [stored, bind, Except.bind, pure, Except.pure]
    · cases built : buildHeartbeatEnvelope env.store.builtins readers published payload with
      | none => simp [rejected, bind, Except.bind]
      | some envelope => simp [stored, bind, Except.bind, pure, Except.pure]

end Laws

def sampleReaders : Readers where
  int := Json.asInt
  float := Json.asFloat
  bool _ := none
  datetime _ := none
  fromIsoFormat _ := none
  messageId _ := ""

end MiniOgas
