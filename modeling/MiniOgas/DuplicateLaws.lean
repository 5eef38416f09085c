import MiniOgas.TaskScripts
import MiniOgas.IdempotencyLaws

namespace MiniOgas

open Relational Serial Interleaving

section PlainWrites

variable {env : ExecutionEnv} {actor : String} {db : ExecutionTables} {taskId : Nat}
  {α β : Type} {key : ActionKey} {request response : Json} {writes : List TaskWrite}

def TaskWrite.plain : TaskWrite → Bool
  | .idempotency _ => false
  | _ => true

def Plain (script : TaskScript α) : Prop := script.Writes fun write => write.plain = true

theorem plain_bind {script : TaskScript α} {rest : α → TaskScript β} (first : Plain script)
    (later : ∀ a, Plain (rest a)) : Plain (script >>= rest) :=
  writes_bind first later

theorem plain_pure (a : α) : Plain (pure a : TaskScript α) := trivial

theorem plain_selectFacts (query : ExecutionFacts → Except Fault α) :
    Plain (selectFacts query) :=
  writes_select _ _

theorem plain_updateFacts
    (query : ExecutionFacts → Except Fault (α × List TaskLock × List FactWrite)) :
    Plain (updateFacts query) := by
  refine writes_execute fun db result h => ?_
  obtain ⟨read, -, rfl⟩ := map_eq_ok.mp h
  intro write member
  obtain ⟨fact, -, rfl⟩ := List.mem_map.mp member
  rfl

theorem plain_checkRead (p : Prop) [Decidable p] (fault : Fault) : Plain (checkRead p fault) := by
  unfold checkRead
  split
  next => exact plain_pure _
  next => trivial

theorem plain_checkTransition (task : OperationTask) (allowed : List TaskStatus)
    (action : String) : Plain (checkTransition taskId task allowed action) := by
  unfold checkTransition
  split
  next => exact plain_pure _
  next => trivial

theorem plain_changeStatus {task : OperationTask} {toStatus : TaskStatus} {action : String}
    {idempotencyKey : Text 1 128} {change : StatusChange} : Plain
      (changeStatus env taskId task toStatus action actor idempotencyKey change) :=
  plain_bind (plain_updateFacts _) fun _ => plain_bind (plain_updateFacts _) fun _ =>
    plain_selectFacts _

theorem plain_replyTask {auditAction : String} {auditDetail : Json} :
    Plain (replyTask env taskId auditAction auditDetail) :=
  plain_bind (plain_selectFacts _) fun _ => plain_pure _

theorem plain_insertAudit (reply : ActionReply) : Plain (insertAudit env actor reply) := by
  refine writes_execute fun db result h => ?_
  obtain ⟨auditLogs, -, h⟩ := of_bind h
  cases h
  intro write member
  rw [List.mem_singleton.mp member]
  rfl

theorem plain_completionAggregates (executionId : Nat) :
    Plain (completionAggregatesScript env executionId) := by
  refine plain_bind (plain_selectFacts _) fun remaining => ?_
  split
  next => exact plain_pure _
  next =>
    refine plain_bind (plain_updateFacts _) fun _ => plain_bind (plain_selectFacts _) fun _ =>
      plain_bind (plain_selectFacts _) fun _ => ?_
    split
    next => exact plain_updateFacts _
    next => exact plain_pure _

theorem plain_opened {allowed : List TaskStatus} {action : String}
    {query : ExecutionFacts → Except Fault (OperationTask × List TaskLock × List FactWrite)}
    {rest : OperationTask → TaskScript α} (later : ∀ task, Plain (rest task)) :
    Plain (updateFacts query >>= fun task =>
      checkTransition taskId task allowed action >>= fun _ => rest task) :=
  plain_bind (plain_updateFacts _) fun task => plain_bind (plain_checkTransition _ _ _) fun _ =>
    later task

theorem plain_body (request : TaskRequest) : Plain (request.body env actor) := by
  cases request with
  | startSetup taskId payload | releaseHold taskId payload =>
    exact plain_opened fun _ => plain_bind (plain_selectFacts _) fun _ => plain_bind
      (plain_updateFacts _) fun _ => plain_bind plain_changeStatus fun _ => plain_replyTask
  | completeSetup taskId payload | holdTask taskId payload =>
    exact plain_opened fun _ => plain_bind (plain_updateFacts _) fun _ => plain_bind
      plain_changeStatus fun _ => plain_replyTask
  | startTask taskId payload =>
    exact plain_opened fun _ => plain_bind (plain_selectFacts _) fun _ => plain_bind
      plain_changeStatus fun _ => plain_bind (plain_updateFacts _) fun _ => plain_replyTask
  | pauseTask taskId payload | closeTask taskId payload =>
    exact plain_opened fun _ => plain_bind plain_changeStatus fun _ => plain_replyTask
  | resumeTask taskId payload =>
    exact plain_opened fun _ => plain_bind (plain_selectFacts _) fun _ => plain_bind
      (plain_selectFacts _) fun _ => plain_bind plain_changeStatus fun _ => plain_replyTask
  | completeTask taskId payload =>
    refine plain_opened fun _ => plain_bind (plain_selectFacts _) fun _ => plain_bind
      (plain_checkRead _ _) fun _ => ?_
    exact plain_bind (plain_checkRead _ _) fun _ => plain_bind plain_changeStatus fun _ =>
      plain_bind (plain_completionAggregates _) fun _ => plain_replyTask
  | startDowntime taskId payload =>
    exact plain_opened fun _ => plain_bind (plain_updateFacts _) fun _ => plain_bind
      plain_changeStatus fun _ => plain_bind (plain_selectFacts _) fun _ => plain_pure _
  | endDowntime downtimeId payload =>
    exact plain_bind (plain_updateFacts _) fun _ => plain_bind (plain_checkRead _ _) fun _ =>
      plain_bind (plain_updateFacts _) fun _ => plain_bind (plain_checkTransition _ _ _) fun _ =>
      plain_bind (plain_selectFacts _) fun _ => plain_bind (plain_updateFacts _) fun _ => plain_bind
      plain_changeStatus fun _ => plain_bind (plain_selectFacts _) fun _ => plain_pure _

def ExecutionTables.recorded (db : ExecutionTables) (key : ActionKey) :
    Option IdempotencyRecord :=
  (db.idempotency.first? (·.matchesKey key)).map (·.2)

theorem recorded_put_of_plain {write : TaskWrite} (plain : write.plain = true) :
    (db.put write).recorded key = db.recorded key := by
  cases write with
  | facts write => rfl
  | auditLogs row => rfl
  | idempotency row => cases plain

theorem recorded_foldl_of_plain (plain : ∀ write ∈ writes, write.plain = true) :
    (writes.foldl ExecutionTables.put db).recorded key = db.recorded key := by
  induction writes generalizing db with
  | nil => rfl
  | cons write writes ih =>
    exact (ih fun w member => plain w (List.mem_cons_of_mem _ member)).trans
      (recorded_put_of_plain (plain write List.mem_cons_self))

theorem recorded_put_idempotency (row : IdempotencyRecord) :
    (db.put (.idempotency row)).recorded key =
      (db.recorded key).or (if row.matchesKey key then some row else none) := by
  unfold ExecutionTables.recorded ExecutionTables.put
  rw [Table.first?_insert]
  cases db.idempotency.first? (·.matchesKey key) with
  | some entry => rfl
  | none =>
    by_cases matched : row.matchesKey key = true <;> simp [matched]

theorem idempotentGet_recorded : idempotentGet db.idempotency key request =
    match db.recorded key with
    | none => .ok none
    | some record =>
      if record.requestHash = requestHash request then .ok (some record.response)
      else .error (keyReused key) := by
  unfold idempotentGet ExecutionTables.recorded
  cases db.idempotency.first? (·.matchesKey key) with
  | none => rfl
  | some entry =>
    by_cases same : entry.2.requestHash = requestHash request
    · simp only [check, if_pos same, Option.map_some]
      rfl
    · simp only [check, if_neg same, Option.map_some]
      rfl

theorem recorded_of_idempotentStore {table : Table IdempotencyRecord}
    (h : idempotentStore db.idempotency key request response = .ok table) :
    db.recorded key = none := by
  obtain ⟨_, absent, -⟩ := of_bind h
  have absent := Table.any_eq_false_iff.mp (check_eq_ok.mp absent)
  exact Option.map_eq_none_iff.mpr (Table.first?_eq_none_iff.mpr absent)

end PlainWrites

variable {S : Type} [DecidableEq S] {calls : S → TaskCall}

abbrev TaskServer (S : Type) :=
  Server S (TaskScript Json) ExecutionTables TaskWrite TaskLock Json Fault

def TaskCall.key (call : TaskCall) : ActionKey := call.request.key

def TaskCall.hash (call : TaskCall) : List JsonToken := requestHash call.request.json

def TaskCall.record (call : TaskCall) (response : Json) : IdempotencyRecord :=
  ⟨call.key.resourceType, call.key.resourceId, call.key.action, call.key.idempotencyKey,
    call.hash, response⟩

def FindsResponse (calls : S → TaskCall) (s : S) : TaskServer S → List (Event S) → Prop
  | _, [] => False
  | σ, event :: events =>
    if event = .run s then (σ.data.recorded (calls s).key).isSome = true
    else FindsResponse calls s ((taskProtocol calls).step σ event) events

def TaskCall.afterLookup (call : TaskCall) (db : ExecutionTables) : TaskScript Json :=
  match db.recorded call.key with
  | some record =>
    if record.requestHash = call.hash then .done record.response
    else .raise (keyReused call.key)
  | none => ((call.request.body call.env call.actor >>= insertAudit call.env call.actor).bind
      (insertIdempotency call.key call.request.json))

/-- What a session that runs is at: it replays a response, or does its work, or has stored its
response. -/
inductive CallStage (call : TaskCall) (finds holds : Prop) (data : ExecutionTables) :
    TaskScript Json → List TaskWrite → Prop
  | replays {record : IdempotencyRecord} (found : finds)
      (recorded : data.recorded call.key = some record) (hash : record.requestHash = call.hash) :
      CallStage call finds holds data (.done record.response) []
  | works {body : TaskScript Json} {log : List TaskWrite} (blind : ¬ finds) (plain : Plain body)
      (logged : ∀ write ∈ log, write.plain = true) :
      CallStage call finds holds data
        (body.bind (insertIdempotency call.key call.request.json)) log
  | stored {response : Json} {log : List TaskWrite} (blind : ¬ finds)
      (logged : ∀ write ∈ log, write.plain = true) (held : holds)
      (absent : data.recorded call.key = none) :
      CallStage call finds holds data (.done response)
        (log ++ [.idempotency (call.record response)])

/-- How a session stands, with the events to come; `finds` tells which sessions find a response
in the whole run. -/
inductive Standing (calls : S → TaskCall) (db : ExecutionTables) (finds : S → Prop)
    (σ : TaskServer S) (events : List (Event S)) (s : S) : Prop
  | waiting (session : σ.session s = .running (calls s).script) (log : σ.log s = [])
      (later : finds s ↔ FindsResponse calls s σ events)
  | running (script : TaskScript Json) (session : σ.session s = .running script)
      (fresh : ¬ finds s → db.recorded (calls s).key = none)
      (stage : CallStage (calls s) (finds s) (σ.holder (.idempotency (calls s).key) = some s) σ.data
        script (σ.log s))
  | committed (response : Json) (session : σ.session s = .committed response)
  | failed (fault : Fault) (session : σ.session s = .failed fault)
      (fresh : ¬ finds s → db.recorded (calls s).key = none)
      (refused : finds s → ∃ record, σ.data.recorded (calls s).key = some record ∧
        record.requestHash ≠ (calls s).hash)
  | killed (session : σ.session s = .killed)

structure Traced (calls : S → TaskCall) (db : ExecutionTables) (finds : S → Prop)
    (σ : TaskServer S) (events : List (Event S)) : Prop where
  standing : ∀ s, Standing calls db finds σ events s
  /-- A committed session has replied what is stored. -/
  replied : ∀ s response, σ.session s = .committed response →
    ∃ record, σ.data.recorded (calls s).key = some record ∧
      record.requestHash = (calls s).hash ∧ record.response = response
  kept : ∀ key record, db.recorded key = some record → σ.data.recorded key = some record
  /-- A response that was not there at first is of a session that found none. -/
  origin : ∀ key, db.recorded key = none → (σ.data.recorded key).isSome = true →
    ∃ s response, (calls s).key = key ∧ ¬ finds s ∧ σ.session s = .committed response
  /-- Of two sessions with one key at most one commits without a response that it finds. -/
  once : ∀ s r response response', s ≠ r → (calls s).key = (calls r).key →
    σ.session s = .committed response → σ.session r = .committed response' → finds s ∨ finds r

variable {db : ExecutionTables} {finds : S → Prop} {σ : TaskServer S} {event : Event S}
  {events : List (Event S)} {s r : S} {call : TaskCall} {response : Json} {writes : List TaskWrite}
  {next : TaskScript Json} {data : ExecutionTables} {status : Session (TaskScript Json) Json Fault}
  {script : TaskScript Json}

theorem script_eq (call : TaskCall) :
    call.script = .stmt (fun _ => ([], [])) call.afterLookup := by
  have effect : (fun db : ExecutionTables => effectOf (F := Fault)
      ((idempotentGet db.idempotency call.request.key call.request.json).map
        fun replay => (replay, ([] : List TaskLock), ([] : List TaskWrite)))) =
      fun _ => ([], []) := by
    funext db
    cases idempotentGet db.idempotency call.request.key call.request.json <;> rfl
  change Script.stmt _ _ = _
  congr 1
  funext db
  unfold TaskCall.afterLookup TaskCall.key
  dsimp only
  rw [idempotentGet_recorded]
  cases db.recorded call.request.key with
  | none => rfl
  | some record =>
    dsimp only
    by_cases same : record.requestHash = requestHash call.request.json
    · rw [if_pos same]
      exact (if_pos same).symm
    · rw [if_neg same]
      exact (if_neg same).symm

theorem recorded_put_record {key : ActionKey} :
    (db.put (.idempotency (call.record response))).recorded key =
      (db.recorded key).or (if call.key = key then some (call.record response) else none) := by
  rw [recorded_put_idempotency]
  by_cases same : call.key = key
  · rw [if_pos same, if_pos (matchesKey_iff.mpr same)]
  · rw [if_neg same, if_neg fun matched => same (matchesKey_iff.mp matched)]

theorem recorded_stored {log : List TaskWrite} {key : ActionKey}
    (logged : ∀ write ∈ log, write.plain = true) :
    ((log ++ [TaskWrite.idempotency (call.record response)]).foldl ExecutionTables.put
        db).recorded key =
      (db.recorded key).or (if call.key = key then some (call.record response) else none) := by
  rw [List.foldl_append, List.foldl_cons, List.foldl_nil, recorded_put_record,
    recorded_foldl_of_plain logged]

structure Persists (calls : S → TaskCall) (σ σ' : TaskServer S) (r : S) : Prop where
  session : σ'.session r = σ.session r
  log : σ'.log r = σ.log r
  holder : σ.holder (.idempotency (calls r).key) = some r →
    σ'.holder (.idempotency (calls r).key) = some r
  recorded : ∀ key record, σ.data.recorded key = some record → σ'.data.recorded key = some record
  absent : σ.holder (.idempotency (calls r).key) = some r →
    σ.data.recorded (calls r).key = none → σ'.data.recorded (calls r).key = none

theorem Standing.persists (standing : Standing calls db finds σ (event :: events) r)
    (other : event ≠ .run r) (persists : Persists calls σ ((taskProtocol calls).step σ event) r) :
    Standing calls db finds ((taskProtocol calls).step σ event) events r := by
  cases standing with
  | waiting session log later =>
    refine .waiting (persists.session.trans session) (persists.log.trans log) (later.trans ?_)
    rw [FindsResponse, if_neg other]
  | running script session fresh stage =>
    refine .running script (persists.session.trans session) fresh ?_
    rw [persists.log]
    generalize σ.log r = log at stage
    cases stage with
    | replays found recorded hash => exact .replays found (persists.recorded _ _ recorded) hash
    | works blind plain logged => exact .works blind plain logged
    | stored blind logged held absent =>
      exact .stored blind logged (persists.holder held) (persists.absent held absent)
  | committed response session => exact .committed response (persists.session.trans session)
  | failed fault session fresh refused =>
    refine .failed fault (persists.session.trans session) fresh fun found => ?_
    obtain ⟨record, recorded, hash⟩ := refused found
    exact ⟨record, persists.recorded _ _ recorded, hash⟩
  | killed session => exact .killed (persists.session.trans session)

theorem persists_advance {locks : List TaskLock}
    (free : ∀ l ∈ locks, σ.holder l = none ∨ σ.holder l = some s) (ne : r ≠ s) :
    Persists calls σ (σ.advance s locks writes next) r where
  session := advance_session_ne σ s locks writes next ne
  log := advance_log_ne σ s locks writes next ne
  holder := advance_holder_ne σ s locks writes next free ne
  recorded := fun _ _ recorded => recorded
  absent := fun _ absent => absent

theorem persists_finish (ne : r ≠ s)
    (recorded : ∀ key record, σ.data.recorded key = some record → data.recorded key = some record)
    (absent : σ.holder (.idempotency (calls r).key) = some r →
      σ.data.recorded (calls r).key = none → data.recorded (calls r).key = none) :
    Persists calls σ (σ.finish s data status) r where
  session := finish_session_ne σ s data status ne
  log := finish_log_ne σ s data status ne
  holder := (finish_holder_iff σ s data status ne).mpr
  recorded := recorded
  absent := absent

theorem Traced.same (traced : Traced calls db finds σ (event :: events)) {σ' : TaskServer S}
    (standing : ∀ r, Standing calls db finds σ' events r)
    (committed : ∀ r response, σ'.session r = .committed response ↔
      σ.session r = .committed response) (data : σ'.data = σ.data) :
    Traced calls db finds σ' events where
  standing := standing
  replied := by
    intro r response own
    rw [data]
    exact traced.replied r response ((committed r response).mp own)
  kept := by
    rw [data]
    exact traced.kept
  origin := by
    intro key none some
    rw [data] at some
    obtain ⟨r, response, named, blind, own⟩ := traced.origin key none some
    exact ⟨r, response, named, blind, (committed r response).mpr own⟩
  once := fun p q response response' ne named first second =>
    traced.once p q response response' ne named ((committed p response).mp first)
      ((committed q response').mp second)

theorem Traced.advance (traced : Traced calls db finds σ (.run s :: events))
    (running : σ.session s = .running script) {locks : List TaskLock}
    (free : ∀ l ∈ locks, σ.holder l = none ∨ σ.holder l = some s)
    (goes : (taskProtocol calls).step σ (.run s) = σ.advance s locks writes next)
    (own : Standing calls db finds (σ.advance s locks writes next) events s) :
    Traced calls db finds (σ.advance s locks writes next) events := by
  refine traced.same (fun r => ?_) (fun r response => ?_) rfl
  · by_cases same : r = s
    · subst same
      exact own
    · have persists : Persists calls σ (σ.advance s locks writes next) r :=
      persists_advance free same
      rw [← goes] at persists ⊢
      exact (traced.standing r).persists (fun h => same (Event.run.inj h).symm) persists
  · by_cases same : r = s
    · subst same
      rw [advance_session_self, running]
      simp
    · rw [advance_session_ne σ s locks writes next same]

theorem Traced.abandon (traced : Traced calls db finds σ (event :: events))
    (running : σ.session s = .running script) (of : event = .run s ∨ event = .kill s)
    (uncommitted : ∀ response, status ≠ .committed response)
    (goes : (taskProtocol calls).step σ event = σ.finish s σ.data status)
    (own : Standing calls db finds (σ.finish s σ.data status) events s) :
    Traced calls db finds (σ.finish s σ.data status) events := by
  refine traced.same (fun r => ?_) (fun r response => ?_) rfl
  · by_cases same : r = s
    · subst same
      exact own
    · have persists : Persists calls σ (σ.finish s σ.data status) r :=
        persists_finish same (fun _ _ recorded => recorded) fun _ absent => absent
      rw [← goes] at persists ⊢
      refine (traced.standing r).persists ?_ persists
      rcases of with rfl | rfl
      · exact fun h => same (Event.run.inj h).symm
      · exact nofun
  · by_cases same : r = s
    · subst same
      rw [finish_session_self, running]
      simp [uncommitted response]
    · rw [finish_session_ne σ s σ.data status same]

theorem Traced.commit (traced : Traced calls db finds σ (.run s :: events))
    (running : σ.session s = .running script)
    (goes : (taskProtocol calls).step σ (.run s) = σ.finish s data (.committed response))
    (own : ∃ record, data.recorded (calls s).key = some record ∧
      record.requestHash = (calls s).hash ∧ record.response = response)
    (recorded : ∀ key record, σ.data.recorded key = some record → data.recorded key = some record)
    (absent : ∀ r, r ≠ s → σ.holder (.idempotency (calls r).key) = some r →
      σ.data.recorded (calls r).key = none → data.recorded (calls r).key = none)
    (stores : (finds s ∧ ∀ key, data.recorded key = σ.data.recorded key) ∨
      (¬ finds s ∧ σ.data.recorded (calls s).key = none ∧
        ∀ key, key ≠ (calls s).key → data.recorded key = σ.data.recorded key)) :
    Traced calls db finds (σ.finish s data (.committed response)) events := by
  have before : ∀ r reply, r ≠ s →
      (σ.finish s data (.committed response)).session r = .committed reply →
      σ.session r = .committed reply := by
    intro r reply ne committed
    rwa [finish_session_ne σ s data _ ne] at committed
  have not_before : ∀ r reply, σ.session r = .committed reply → r ≠ s := by
    rintro r reply committed rfl
    rw [running] at committed
    cases committed
  refine ⟨fun r => ?_, fun r reply committed => ?_, fun key record kept => ?_,
    fun key none some => ?_, fun p q reply reply' ne named first second => ?_⟩
  · by_cases same : r = s
    · subst same
      exact .committed response (finish_session_self ..)
    · have persists : Persists calls σ (σ.finish s data (.committed response)) r :=
        persists_finish same recorded (absent r same)
      rw [← goes] at persists ⊢
      exact (traced.standing r).persists (fun h => same (Event.run.inj h).symm) persists
  · by_cases same : r = s
    · subst same
      rw [finish_session_self] at committed
      cases committed
      exact own
    · obtain ⟨record, found, replies⟩ := traced.replied r reply (before r reply same committed)
      exact ⟨record, recorded _ _ found, replies⟩
  · exact recorded _ _ (traced.kept key record kept)
  · by_cases earlier : (σ.data.recorded key).isSome = true
    · obtain ⟨r, reply, named, blind, committed⟩ := traced.origin key none earlier
      refine ⟨r, reply, named, blind, ?_⟩
      rw [finish_session_ne σ s data _ (not_before r reply committed)]
      exact committed
    · rcases stores with ⟨-, same⟩ | ⟨blind, -, others⟩
      · exact absurd (same key ▸ some) earlier
      · refine ⟨s, response, ?_, blind, finish_session_self ..⟩
        by_contra ne
        exact earlier (others key (Ne.symm ne) ▸ some)
  · -- another session with the key has committed, so its response is stored
    have stored : ∀ r reply, r ≠ s → (calls r).key = (calls s).key →
        (σ.finish s data (.committed response)).session r = .committed reply → finds s := by
      intro r reply other same committed
      obtain ⟨record, found, -⟩ := traced.replied r reply (before r reply other committed)
      rcases stores with ⟨finds, -⟩ | ⟨-, none, -⟩
      · exact finds
      · rw [same, none] at found
        cases found
    by_cases isP : p = s
    · subst isP
      exact .inl (stored q reply' (Ne.symm ne) named.symm second)
    · by_cases isQ : q = s
      · subst isQ
        exact .inr (stored p reply isP named first)
      · exact traced.once p q reply reply' ne named (before p reply isP first)
          (before q reply' isQ second)

theorem Standing.ended (standing : Standing calls db finds σ (event :: events) s)
    (ended : ∀ phase, σ.session s ≠ .running phase) : Standing calls db finds σ events s := by
  cases standing with
  | waiting session log later => exact absurd session (ended _)
  | running script session fresh stage => exact absurd session (ended _)
  | committed response session => exact .committed response session
  | failed fault session fresh refused => exact .failed fault session fresh refused
  | killed session => exact .killed session

theorem Traced.skip (traced : Traced calls db finds σ (event :: events))
    (own : event = .run s ∨ event = .kill s) (stays : (taskProtocol calls).step σ event = σ)
    (standing : Standing calls db finds σ events s) : Traced calls db finds σ events := by
  refine traced.same (fun r => ?_) (fun r response => Iff.rfl) rfl
  by_cases same : r = s
  · subst same
    exact standing
  · have persists : Persists calls σ σ r := ⟨rfl, rfl, id, fun _ _ h => h, fun _ h => h⟩
    rw [← stays] at persists ⊢
    rw [stays] at persists
    refine (traced.standing r).persists ?_ (by rw [stays]; exact persists)
    rcases own with rfl | rfl
    · exact fun h => same (Event.run.inj h).symm
    · exact nofun

theorem Traced.lookup (traced : Traced calls db finds σ (.run s :: events))
    (session : σ.session s = .running (calls s).script) (log : σ.log s = [])
    (later : finds s ↔ FindsResponse calls s σ (.run s :: events)) :
    Traced calls db finds ((taskProtocol calls).step σ (.run s)) events := by
  have found : finds s ↔ (σ.data.recorded (calls s).key).isSome = true := by
    rw [later, FindsResponse, if_pos rfl]
  have view : (taskProtocol calls).view σ s = σ.data := by
    rw [Protocol.view, log]
    rfl
  have fresh : ¬ finds s → db.recorded (calls s).key = none := by
    intro blind
    cases stored : db.recorded (calls s).key with
    | none => rfl
    | some record =>
      refine absurd (found.mpr ?_) blind
      rw [traced.kept _ record stored]
      rfl
  rcases statement_stmt (fun _ => ([], [])) (calls s).afterLookup σ.data with
    ⟨fault, raises, acts⟩ | ⟨goes, acts⟩
  · rw [← script_eq] at acts
    have step : (taskProtocol calls).step σ (.run s) = σ.finish s σ.data (.failed fault) :=
      step_raise session (by rw [view]; exact acts)
    rw [step]
    refine traced.abandon session (.inl rfl) ?_ step ?_
    · intro script same
      cases same
    refine .failed fault (finish_session_self ..) fresh fun finds => ?_
    obtain ⟨record, stored⟩ := Option.isSome_iff_exists.mp (found.mp finds)
    refine ⟨record, stored, fun same => ?_⟩
    rw [TaskCall.afterLookup, stored] at raises
    simp only [if_pos same] at raises
    cases raises
  · rw [← script_eq] at acts
    have step : (taskProtocol calls).step σ (.run s) =
        σ.advance s [] [] ((calls s).afterLookup σ.data) :=
      step_go session (by rw [view]; exact acts) (List.forall_mem_nil _)
    rw [step]
    refine traced.advance session (List.forall_mem_nil _) step ?_
    refine .running _ (advance_session_self ..) fresh ?_
    rw [advance_log_self, log, List.append_nil]
    cases stored : σ.data.recorded (calls s).key with
    | none =>
      have after : (calls s).afterLookup σ.data = ((calls s).request.body (calls s).env
          (calls s).actor >>= insertAudit (calls s).env (calls s).actor).bind
            (insertIdempotency (calls s).key (calls s).request.json) := by
        rw [TaskCall.afterLookup, stored]
      rw [after]
      refine .works (fun finds => ?_) (plain_bind (plain_body _) fun _ => plain_insertAudit _)
        (List.forall_mem_nil _)
      have some := found.mp finds
      rw [stored] at some
      cases some
    | some record =>
      by_cases same : record.requestHash = (calls s).hash
      · have after : (calls s).afterLookup σ.data = .done record.response := by
          rw [TaskCall.afterLookup, stored]
          exact if_pos same
        rw [after]
        exact .replays (found.mpr (by rw [stored]; rfl)) stored same
      · refine absurd ?_ (goes (keyReused (calls s).key))
        rw [TaskCall.afterLookup, stored]
        exact if_neg same

/-- What `insertIdempotency` does. -/
def TaskCall.store (call : TaskCall) (response : Json) (db : ExecutionTables) :
    Except Fault (Json × List TaskLock × List TaskWrite) := do
  let _ ← idempotentStore db.idempotency call.key call.request.json response
  return (response, [.idempotency call.key], [.idempotency (call.record response)])

theorem store_goes {t : ExecutionTables}
    (goes : ∀ fault, (restOf (call.store response t) : TaskScript Json) ≠ .raise fault) :
    t.recorded call.key = none ∧
      effectOf (call.store response t) =
        ([.idempotency call.key], [.idempotency (call.record response)]) ∧
      (restOf (call.store response t) : TaskScript Json) = .done response := by
  unfold TaskCall.store at goes ⊢
  cases stored : idempotentStore t.idempotency call.key call.request.json response with
  | ok table => exact ⟨recorded_of_idempotentStore stored, rfl, rfl⟩
  | error fault =>
    rw [stored] at goes
    exact absurd rfl (goes fault)

theorem Traced.work (traced : Traced calls db finds σ (.run s :: events))
    {body : TaskScript Json}
    (session : σ.session s =
      .running (body.bind (insertIdempotency (calls s).key (calls s).request.json)))
    (fresh : ¬ finds s → db.recorded (calls s).key = none) (blind : ¬ finds s)
    (plain : Plain body) (logged : ∀ write ∈ σ.log s, write.plain = true) :
    Traced calls db finds ((taskProtocol calls).step σ (.run s)) events := by
  -- a statement that raises ends the session, one that waits changes nothing
  have ends : ∀ fault, (body.bind (insertIdempotency (calls s).key
      (calls s).request.json)).statement ((taskProtocol calls).view σ s) = .raise fault →
      Traced calls db finds ((taskProtocol calls).step σ (.run s)) events := by
    intro fault acts
    have step : (taskProtocol calls).step σ (.run s) = σ.finish s σ.data (.failed fault) :=
      step_raise session acts
    rw [step]
    refine traced.abandon session (.inl rfl) (fun _ => nofun) step ?_
    exact .failed fault (finish_session_self ..) fresh fun finds => absurd finds blind
  have goes : ∀ locks writes next, (body.bind (insertIdempotency (calls s).key
      (calls s).request.json)).statement ((taskProtocol calls).view σ s) =
        .go locks writes next →
      CallStage (calls s) (finds s) (TaskLock.idempotency (calls s).key ∈ locks) σ.data next
        (σ.log s ++ writes) →
      Traced calls db finds ((taskProtocol calls).step σ (.run s)) events := by
    intro locks writes next acts stage
    rcases @step_run_go _ _ _ _ _ _ _ _ _ (taskProtocol calls) _ _ _ _ _ _ session acts with
      ⟨free, step⟩ | step
    · rw [step]
      refine traced.advance session free step (.running next (advance_session_self ..) fresh ?_)
      rw [advance_log_self]
      generalize σ.log s ++ writes = log at stage
      cases stage with
      | replays found recorded hash => exact .replays found recorded hash
      | works blind plain logged => exact .works blind plain logged
      | stored blind logged held absent =>
        exact .stored blind logged (advance_holder_self σ s _ _ _ (.inl held)) absent
    · rw [step]
      exact traced.skip (.inl rfl) step (.running _ session fresh (.works blind plain logged))
  cases body with
  | done response =>
    change ∀ fault, (insertIdempotency _ _ response).statement _ = _ → _ at ends
    change ∀ locks writes next, (insertIdempotency _ _ response).statement _ = _ → _ at goes
    rcases statement_stmt (fun t => effectOf ((calls s).store response t))
        (fun t => restOf ((calls s).store response t)) ((taskProtocol calls).view σ s) with
      ⟨fault, -, acts⟩ | ⟨stores, acts⟩
    · exact ends fault acts
    · obtain ⟨absent, effect, rest⟩ := store_goes stores
      refine goes _ _ _ acts ?_
      rw [effect, rest]
      refine .stored blind logged List.mem_cons_self ?_
      exact (recorded_foldl_of_plain logged).symm.trans absent
  | raise fault => exact ends fault rfl
  | stmt effect next =>
    rcases statement_stmt effect (fun t => (next t).bind (insertIdempotency (calls s).key
        (calls s).request.json)) ((taskProtocol calls).view σ s) with
      ⟨fault, -, acts⟩ | ⟨-, acts⟩
    · exact ends fault acts
    · obtain ⟨writes, rest⟩ := plain ((taskProtocol calls).view σ s)
      refine goes _ _ _ acts (.works blind rest fun write member => ?_)
      rcases List.mem_append.mp member with old | new
      · exact logged write old
      · exact writes write new

theorem Traced.step (traced : Traced calls db finds σ (event :: events)) :
    Traced calls db finds ((taskProtocol calls).step σ event) events := by
  cases event with
  | kill s =>
    cases session : σ.session s with
    | running script =>
      rw [step_kill session]
      exact traced.abandon session (.inr rfl) (fun _ => nofun) (step_kill session)
        (.killed (finish_session_self ..))
    | _ =>
      have ended : ∀ phase, σ.session s ≠ .running phase := by simp [session]
      have stays : (taskProtocol calls).step σ (.kill s) = σ := step_of_over ended (.inr rfl)
      rw [stays]
      exact traced.skip (.inr rfl) stays ((traced.standing s).ended ended)
  | run s =>
    cases traced.standing s with
    | waiting session log later => exact traced.lookup session log later
    | running script session fresh stage =>
      generalize logs : σ.log s = log at stage
      cases stage with
      | replays found recorded hash =>
        have view : (taskProtocol calls).view σ s = σ.data := by
          rw [Protocol.view, logs]
          rfl
        have step : (taskProtocol calls).step σ (.run s) =
            σ.finish s ((taskProtocol calls).view σ s) (.committed _) :=
          step_commit session rfl
        rw [step]
        rw [view] at step ⊢
        exact traced.commit session step ⟨_, recorded, hash, rfl⟩ (fun _ _ h => h)
          (fun _ _ _ h => h) (.inl ⟨found, fun _ => rfl⟩)
      | works blind plain logged =>
        refine traced.work session fresh blind plain ?_
        rwa [logs]
      | @stored response log blind logged held absent =>
        have view : ∀ key, ((taskProtocol calls).view σ s).recorded key =
            (σ.data.recorded key).or
              (if (calls s).key = key then some ((calls s).record response) else none) := by
          intro key
          rw [Protocol.view, logs]
          exact recorded_stored logged
        have step : (taskProtocol calls).step σ (.run s) =
            σ.finish s ((taskProtocol calls).view σ s) (.committed _) :=
          step_commit session rfl
        rw [step]
        refine traced.commit session step ⟨(calls s).record response, ?_, rfl, rfl⟩ ?_ ?_ (.inr
          ⟨blind, absent, fun key ne => ?_⟩)
        · rw [view, absent, if_pos rfl]
          rfl
        · intro key record found
          rw [view, found]
          rfl
        · intro r ne holds none
          rw [view, none, if_neg]
          · rfl
          · intro same
            rw [same] at held
            rw [held] at holds
            exact ne (Option.some.inj holds).symm
        · rw [view, if_neg (Ne.symm ne), Option.or_none]
    | committed response session =>
      have ended : ∀ phase, σ.session s ≠ .running phase := by simp [session]
      have stays : (taskProtocol calls).step σ (.run s) = σ := step_of_over ended (.inl rfl)
      rw [stays]
      exact traced.skip (.inl rfl) stays (.committed response session)
    | failed fault session fresh refused =>
      have ended : ∀ phase, σ.session s ≠ .running phase := by simp [session]
      have stays : (taskProtocol calls).step σ (.run s) = σ := step_of_over ended (.inl rfl)
      rw [stays]
      exact traced.skip (.inl rfl) stays (.failed fault session fresh refused)
    | killed session =>
      have ended : ∀ phase, σ.session s ≠ .running phase := by simp [session]
      have stays : (taskProtocol calls).step σ (.run s) = σ := step_of_over ended (.inl rfl)
      rw [stays]
      exact traced.skip (.inl rfl) stays (.killed session)

theorem Traced.exec (traced : Traced calls db finds σ events) :
    Traced calls db finds ((taskProtocol calls).exec σ events) [] := by
  induction events generalizing σ with
  | nil => exact traced
  | cons event events ih => exact ih traced.step

theorem traced_init (calls : S → TaskCall) (db : ExecutionTables) (events : List (Event S)) :
    Traced calls db (fun s => FindsResponse calls s ((taskProtocol calls).init db) events)
      ((taskProtocol calls).init db) events where
  standing := fun s => .waiting rfl rfl Iff.rfl
  replied := nofun
  kept := fun _ _ stored => stored
  origin := by
    intro key none some
    change (db.recorded key).isSome = true at some
    rw [none] at some
    cases some
  once := nofun

/-- Two calls with one request agree once one of them has replied, in every interleaving with
calls of other requests, exactly when one of the two looks its key up after a response is
stored. -/
theorem duplicates_agree_iff (calls : S → TaskCall) (db : ExecutionTables)
    (events : List (Event S)) (s r : S) (ne : s ≠ r)
    (same : (calls s).request = (calls r).request)
    (only : ∀ q, (calls q).key = (calls s).key → q = s ∨ q = r) (response : Json)
    (replied : ((taskProtocol calls).exec ((taskProtocol calls).init db) events).session s =
      .committed response)
    (ended : (((taskProtocol calls).exec ((taskProtocol calls).init db) events).session
      r).isAnswered = true) :
    ((taskProtocol calls).exec ((taskProtocol calls).init db) events).session r =
        .committed response ↔
      FindsResponse calls s ((taskProtocol calls).init db) events ∨
        FindsResponse calls r ((taskProtocol calls).init db) events := by
  have traced := (traced_init calls db events).exec
  generalize (taskProtocol calls).exec ((taskProtocol calls).init db) events = σ at *
  have key : (calls s).key = (calls r).key := congrArg TaskRequest.key same
  have hash : (calls s).hash = (calls r).hash :=
    congrArg (fun request : TaskRequest => requestHash request.json) same
  obtain ⟨record, stored, ofHash, rfl⟩ := traced.replied s response replied
  constructor
  · intro committed
    exact traced.once s r _ _ ne key replied committed
  · intro finds
    cases traced.standing r with
    | waiting session log later | running script session fresh stage | killed session =>
      rw [session] at ended
      cases ended
    | committed reply session =>
      obtain ⟨record', stored', -, rfl⟩ := traced.replied r reply session
      rw [key, stored'] at stored
      cases stored
      exact session
    | failed fault session fresh refused =>
      by_cases found : FindsResponse calls r ((taskProtocol calls).init db) events
      · obtain ⟨record', stored', otherHash⟩ := refused found
        rw [key, stored'] at stored
        cases stored
        exact absurd (ofHash.trans hash) otherHash
      · -- the response is of a call with the key that found none, but that is neither of the two
        obtain ⟨q, reply, named, blind, committed⟩ :=
          traced.origin (calls r).key (fresh found) (by rw [← key, stored]; rfl)
        rcases only q (named.trans key.symm) with rfl | rfl
        · exact absurd (finds.resolve_right found) blind
        · rw [session] at committed
          cases committed

def sampleDuplicates (_ : Bool) : TaskCall :=
  ⟨⟨0, sampleMaster, .empty, fun _ => true⟩, "operator",
    .startSetup 1 (sampleAction (sampleKey "K-4"))⟩

def sampleServer : TaskServer Bool :=
  (taskProtocol sampleDuplicates).init (executionAuthority.run .empty sampleDispatch)

def sampleInTurns : List (Event Bool) :=
  List.replicate 20 (.run false) ++ List.replicate 20 (.run true)

def sampleLookups : List (Event Bool) :=
  [.run false, .run true] ++ sampleInTurns

theorem duplicates_agree_in_turn : ∃ response,
    (((taskProtocol sampleDuplicates).exec sampleServer sampleInTurns).session true =
        .committed response ↔
      FindsResponse sampleDuplicates false sampleServer sampleInTurns ∨
        FindsResponse sampleDuplicates true sampleServer sampleInTurns) := by
  have commits : (((taskProtocol sampleDuplicates).exec sampleServer sampleInTurns).session
      false).isCommitted = true := by
    decide +kernel
  have ends : (((taskProtocol sampleDuplicates).exec sampleServer sampleInTurns).session
      true).isAnswered = true := by
    decide +kernel
  obtain ⟨response, replied⟩ := isCommitted_iff.mp commits
  rw [sampleServer] at replied ends ⊢
  exact ⟨response, duplicates_agree_iff sampleDuplicates _ sampleInTurns false true (by decide) rfl
    (by decide) response replied ends⟩

/-- The second of two calls with one request is refused after the first one has replied. -/
theorem duplicate_refused : ¬ ∀ (before : List ExecutionCall) (calls : Bool → TaskCall)
    (events : List (Event Bool)) (response : Json), (calls false).request = (calls true).request →
    ((taskProtocol calls).exec ((taskProtocol calls).init (executionAuthority.run .empty before))
      events).session false = .committed response →
    (((taskProtocol calls).exec ((taskProtocol calls).init (executionAuthority.run .empty before))
      events).session true).isAnswered = true →
    ((taskProtocol calls).exec ((taskProtocol calls).init (executionAuthority.run .empty before))
      events).session true = .committed response := by
  intro h
  have commits : (((taskProtocol sampleDuplicates).exec sampleServer sampleLookups).session
      false).isCommitted = true := by
    decide +kernel
  have ends : (((taskProtocol sampleDuplicates).exec sampleServer sampleLookups).session
      true).isAnswered = true := by
    decide +kernel
  have refused : (((taskProtocol sampleDuplicates).exec sampleServer sampleLookups).session
      true).isCommitted = false := by
    decide +kernel
  obtain ⟨response, replied⟩ := isCommitted_iff.mp commits
  rw [sampleServer] at replied ends refused
  have agrees := h sampleDispatch sampleDuplicates sampleLookups response rfl replied ends
  have committed := isCommitted_iff.mpr ⟨response, agrees⟩
  exact absurd (refused.symm.trans committed) Bool.false_ne_true

end MiniOgas
