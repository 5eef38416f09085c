import MiniOgas.CommandTables
import MiniOgas.Interleaving
import MiniOgas.RowLog

namespace MiniOgas

open Interleaving

structure IncidentEvent where
  id : Int
  nodeCode : String
  stage : String
  severity : String
  message : String
  runId : String := ""
  eventId : String
  eventType : String := ""
  schemaVersion : String := "2.5"
  sourceNode : String := ""
  eventTime : Timestamp
  ingestTime : Timestamp
  localSequence : Int := 0
  globalSequence : Int := 0
  correlationId : String := ""
  scenarioId : String := ""
  payload : Fields := []
  createdAt : Timestamp

structure EventRow where
  eventId : String
  eventType : String
  schemaVersion : String
  sourceNode : String
  eventTime : Timestamp
  ingestTime : Timestamp
  localSequence : Int
  globalSequence : Int
  correlationId : String
  runId : String
  scenarioId : String
  payload : Fields

/-- A row of `audit_logs` for an event. -/
structure EventAudit where
  runId : String
  actor : String
  action : String
  resourceType : String
  resourceId : String
  result : String
  detail : String
  createdAt : Timestamp

structure EventLog where
  events : List EventRow
  audits : List EventAudit

def EventLog.empty : EventLog := ⟨[], []⟩

inductive EventWrite where
  | event (row : EventRow)
  | audit (row : EventAudit)

def EventLog.put (log : EventLog) : EventWrite → EventLog
  | .event row => { log with events := log.events ++ [row] }
  | .audit row => { log with audits := log.audits ++ [row] }

/-- `COALESCE(MAX(n), 0)`. -/
def coalescedMax : List Int → Int
  | [] => 0
  | n :: rest => rest.foldl max n

/-- The arguments of `_insert_event`. The event has the numbers that the counters of its process
have proposed, which can be any numbers. -/
structure EventCall where
  event : IncidentEvent
  runId : String

namespace EventCall

variable (call : EventCall)

def durableRunId : String := if call.event.runId ≠ "" then call.event.runId else call.runId

def sourceNode : String :=
  if call.event.sourceNode ≠ "" then call.event.sourceNode else call.event.nodeCode

def correlation (n : Int) : String :=
  (if call.durableRunId ≠ "" then call.durableRunId else "unbound") ++
    s!":{call.event.nodeCode}:{n}"

def autoCorrelations : List String :=
  ["", call.correlation call.event.id,
    call.correlation
      (if call.event.globalSequence ≠ 0 then call.event.globalSequence else call.event.id)]

def number (log : EventLog) : IncidentEvent :=
  let own := log.events.filter fun row =>
    row.sourceNode = call.sourceNode && row.runId = call.durableRunId
  let requestedLocal :=
    if call.event.localSequence ≠ 0 then call.event.localSequence else call.event.id
  let requestedGlobal :=
    if call.event.globalSequence ≠ 0 then call.event.globalSequence else call.event.id
  let nextLocal := max requestedLocal (coalescedMax (own.map (·.localSequence)) + 1)
  let nextGlobal := max requestedGlobal (coalescedMax (log.events.map (·.globalSequence)) + 1)
  { call.event with
    localSequence := nextLocal
    globalSequence := nextGlobal
    id := nextGlobal
    correlationId := if call.autoCorrelations.contains call.event.correlationId then
        call.correlation nextGlobal
      else call.event.correlationId }

def adopt (row : EventRow) : IncidentEvent :=
  { call.event with
    localSequence := row.localSequence
    globalSequence := row.globalSequence
    id := row.globalSequence }

def row (numbered : IncidentEvent) : EventRow where
  eventId := numbered.eventId
  eventType := if numbered.eventType ≠ "" then numbered.eventType else numbered.stage
  schemaVersion := numbered.schemaVersion
  sourceNode := call.sourceNode
  eventTime := numbered.eventTime
  ingestTime := numbered.ingestTime
  localSequence := if numbered.localSequence ≠ 0 then numbered.localSequence else numbered.id
  globalSequence := if numbered.globalSequence ≠ 0 then numbered.globalSequence else numbered.id
  correlationId := if numbered.correlationId ≠ "" then numbered.correlationId
    else call.correlation numbered.id
  runId := call.durableRunId
  scenarioId := numbered.scenarioId
  payload := ((numbered.payload.setDefault "stage" (.str numbered.stage)).setDefault "severity"
    (.str numbered.severity)).setDefault "message" (.str numbered.message)

def audit (numbered : IncidentEvent) : EventAudit where
  runId := call.durableRunId
  actor := numbered.nodeCode
  action := numbered.stage
  resourceType := "incident_event"
  resourceId := toString numbered.id
  result := numbered.severity
  detail := numbered.message
  createdAt := numbered.createdAt

end EventCall

inductive EventPhase where
  | lock
  | selectEvent
  | selectNumbers
  | insertEvent (numbered : IncidentEvent)
  | insertAudit (numbered : IncidentEvent)
  | commit (numbered : IncidentEvent)

inductive EventFault where
  | uniqueViolation

/-- A row that a unique index of `event_store` excludes. -/
def EventRow.excludes (row other : EventRow) : Bool :=
  row.globalSequence = other.globalSequence || row.sourceNode = other.sourceNode &&
    row.runId = other.runId && row.localSequence = other.localSequence

/-- `_insert_event` in a transaction of its own: whether it inserts the event, and the event. -/
def eventStatement (call : EventCall) :
    EventPhase → EventLog → Action EventPhase EventWrite Unit (Bool × IncidentEvent) EventFault
  | .lock, _ => .go [()] [] .selectEvent
  | .selectEvent, log =>
    match log.events.find? (·.eventId = call.event.eventId) with
    | some row => .commit (false, call.adopt row)
    | none => .go [] [] .selectNumbers
  | .selectNumbers, log => .go [] [] (.insertEvent (call.number log))
  | .insertEvent numbered, log =>
    if log.events.any (·.eventId = (call.row numbered).eventId) then
      .go [] [] (.insertAudit numbered)
    else if log.events.any (·.excludes (call.row numbered)) then .raise .uniqueViolation
    else .go [] [.event (call.row numbered)] (.insertAudit numbered)
  | .insertAudit numbered, _ => .go [] [.audit (call.audit numbered)] (.commit numbered)
  | .commit numbered, _ => .commit (true, numbered)

abbrev EventServer (S : Type) :=
  Server S EventPhase EventLog EventWrite Unit (Bool × IncidentEvent) EventFault

def eventProtocol {S : Type} (persist : S → EventCall) :
    Protocol S EventPhase EventLog EventWrite Unit (Bool × IncidentEvent) EventFault where
  start _ := .lock
  statement s := eventStatement (persist s)
  apply := EventLog.put

theorem le_foldl_max (ns : List Int) (n : Int) :
    n ≤ ns.foldl max n ∧ ∀ m ∈ ns, m ≤ ns.foldl max n := by
  induction ns generalizing n with
  | nil => exact ⟨le_refl n, List.forall_mem_nil _⟩
  | cons k rest ih =>
    obtain ⟨first, later⟩ := ih (max n k)
    refine ⟨le_trans (le_max_left n k) first, fun m member => ?_⟩
    rcases List.mem_cons.mp member with rfl | member
    · exact le_trans (le_max_right n m) first
    · exact later m member

theorem le_coalescedMax {ns : List Int} {n : Int} (member : n ∈ ns) : n ≤ coalescedMax ns := by
  cases ns with
  | nil => cases member
  | cons k rest =>
    obtain ⟨first, later⟩ := le_foldl_max rest k
    rcases List.mem_cons.mp member with rfl | member
    · exact first
    · exact later n member

theorem coalescedMax_nonneg {ns : List Int} (positive : ∀ n ∈ ns, 1 ≤ n) : 0 ≤ coalescedMax ns := by
  cases ns with
  | nil => exact le_refl 0
  | cons k rest =>
    have first := positive k List.mem_cons_self
    have le := le_coalescedMax (List.mem_cons_self (a := k) (l := rest))
    omega

variable {S : Type} [DecidableEq S] {persist : S → EventCall} {σ σ' : EventServer S} {s r : S}
  {call : EventCall} {log : EventLog} {events : List EventRow}
  {numbered : IncidentEvent} {phase : EventPhase} {row : EventRow}

structure TotallyOrdered (events : List EventRow) : Prop where
  increasing : events.Pairwise fun first second => first.globalSequence < second.globalSequence
  perSource : events.Pairwise fun first second => first.sourceNode = second.sourceNode →
    first.runId = second.runId → first.localSequence < second.localSequence

structure EventsSound (events : List EventRow) : Prop where
  ordered : TotallyOrdered events
  positive : ∀ row ∈ events, 1 ≤ row.localSequence ∧ 1 ≤ row.globalSequence
  distinct : (events.map (·.eventId)).Nodup

structure FollowsAll (events : List EventRow) (row : EventRow) : Prop where
  positive : 1 ≤ row.localSequence ∧ 1 ≤ row.globalSequence
  fresh : ∀ old ∈ events, old.eventId ≠ row.eventId
  above : ∀ old ∈ events, old.globalSequence < row.globalSequence
  perSource : ∀ old ∈ events, old.sourceNode = row.sourceNode → old.runId = row.runId →
    old.localSequence < row.localSequence

theorem number_positive (sound : EventsSound log.events) :
    1 ≤ (call.number log).localSequence ∧ 1 ≤ (call.number log).globalSequence := by
  have global : coalescedMax (log.events.map (·.globalSequence)) + 1 ≤
      (call.number log).globalSequence := le_max_right _ _
  have ofSource : coalescedMax ((log.events.filter fun row =>
      row.sourceNode = call.sourceNode && row.runId = call.durableRunId).map
        (·.localSequence)) + 1 ≤ (call.number log).localSequence := le_max_right _ _
  have globalNonneg : 0 ≤ coalescedMax (log.events.map (·.globalSequence)) := by
    refine coalescedMax_nonneg fun n member => ?_
    obtain ⟨row, there, rfl⟩ := List.mem_map.mp member
    exact (sound.positive row there).2
  have localNonneg : 0 ≤ coalescedMax ((log.events.filter fun row =>
      row.sourceNode = call.sourceNode && row.runId = call.durableRunId).map
        (·.localSequence)) := by
    refine coalescedMax_nonneg fun n member => ?_
    obtain ⟨row, there, rfl⟩ := List.mem_map.mp member
    exact (sound.positive row (List.mem_filter.mp there).1).1
  exact ⟨by omega, by omega⟩

theorem followsAll_number (sound : EventsSound log.events)
    (fresh : ∀ old ∈ log.events, old.eventId ≠ call.event.eventId) :
    FollowsAll log.events (call.row (call.number log)) := by
  have global : coalescedMax (log.events.map (·.globalSequence)) + 1 ≤
      (call.number log).globalSequence := le_max_right _ _
  have ofSource : coalescedMax ((log.events.filter fun row =>
      row.sourceNode = call.sourceNode && row.runId = call.durableRunId).map
        (·.localSequence)) + 1 ≤ (call.number log).localSequence := le_max_right _ _
  have positive := @number_positive call log sound
  have rowLocal : (call.row (call.number log)).localSequence =
      (call.number log).localSequence := if_pos (by omega)
  have rowGlobal : (call.row (call.number log)).globalSequence =
      (call.number log).globalSequence := if_pos (by omega)
  refine ⟨⟨by omega, by omega⟩, fresh, fun old member => ?_, fun old member source run => ?_⟩
  · have le := le_coalescedMax (List.mem_map.mpr ⟨old, member, rfl⟩ :
      old.globalSequence ∈ log.events.map (·.globalSequence))
    omega
  · have own : old ∈ log.events.filter fun row =>
        row.sourceNode = call.sourceNode && row.runId = call.durableRunId := by
      have source : old.sourceNode = call.sourceNode := source
      have run : old.runId = call.durableRunId := run
      exact List.mem_filter.mpr ⟨member, by simp [source, run]⟩
    have le := le_coalescedMax (List.mem_map.mpr ⟨old, own, rfl⟩ :
      old.localSequence ∈ (log.events.filter fun row =>
        row.sourceNode = call.sourceNode && row.runId = call.durableRunId).map (·.localSequence))
    omega

theorem EventsSound.append (sound : EventsSound events) (follows : FollowsAll events row) :
    EventsSound (events ++ [row]) := by
  have each {R : EventRow → EventRow → Prop} (old : events.Pairwise R)
      (new : ∀ old ∈ events, R old row) : (events ++ [row]).Pairwise R := by
    rw [List.pairwise_append]
    refine ⟨old, List.pairwise_singleton _ _, fun first member second last => ?_⟩
    rw [List.mem_singleton.mp last]
    exact new first member
  refine ⟨⟨each sound.ordered.increasing follows.above,
    each sound.ordered.perSource follows.perSource⟩, fun other member => ?_, ?_⟩
  · rcases Serial.of_mem_concat member with old | rfl
    · exact sound.positive other old
    · exact follows.positive
  · have distinct := sound.distinct
    rw [List.nodup_iff_pairwise_ne, List.pairwise_map] at distinct ⊢
    exact each distinct follows.fresh

/-- What a transaction has written, and what its numbers are, before each statement. -/
def EventStage (call : EventCall) (events : List EventRow) (written : List EventWrite) :
    EventPhase → Prop
  | .lock | .selectEvent => written = []
  | .selectNumbers => written = [] ∧ ∀ old ∈ events, old.eventId ≠ call.event.eventId
  | .insertEvent numbered => written = [] ∧ FollowsAll events (call.row numbered)
  | .insertAudit numbered =>
    written = [.event (call.row numbered)] ∧ FollowsAll events (call.row numbered)
  | .commit numbered => written = [.event (call.row numbered), .audit (call.audit numbered)] ∧
    FollowsAll events (call.row numbered)

structure LogSound (persist : S → EventCall) (σ : EventServer S) : Prop where
  sound : EventsSound σ.data.events
  locked : ∀ s phase, σ.session s = .running phase → phase = .lock ∨ σ.holder () = some s
  stage : ∀ s phase, σ.session s = .running phase →
    EventStage (persist s) σ.data.events (σ.log s) phase

theorem LogSound.finish (sound : LogSound persist σ) {data : EventLog}
    {status : Session EventPhase (Bool × IncidentEvent) EventFault}
    (ended : ∀ phase, status ≠ .running phase) (events : EventsSound data.events)
    (stage : ∀ r phase, r ≠ s → σ.session r = .running phase →
      EventStage (persist r) data.events (σ.log r) phase) :
    LogSound persist (σ.finish s data status) := by
  refine ⟨events, fun r phase running => ?_, fun r phase running => ?_⟩
  · obtain ⟨same, running⟩ := running_of_finish _ _ _ _ ended running
    rw [finish_holder_iff _ _ _ _ same]
    exact sound.locked r phase running
  · obtain ⟨same, running⟩ := running_of_finish _ _ _ _ ended running
    rw [finish_log_ne _ _ _ _ same]
    exact stage r phase same running

omit [DecidableEq S] in
theorem LogSound.waiting (sound : LogSound persist σ) (holds : σ.holder () = some s) (ne : r ≠ s)
    (running : σ.session r = .running phase) : phase = .lock := by
  rcases sound.locked r phase running with first | other
  · exact first
  · rw [holds] at other
    exact absurd (Option.some.inj other).symm ne

theorem LogSound.commit (sound : LogSound persist σ) {reply : Bool × IncidentEvent}
    (running : σ.session s = .running phase)
    (acts : eventStatement (persist s) phase ((eventProtocol persist).view σ s) = .commit reply) :
    LogSound persist (σ.finish s ((eventProtocol persist).view σ s) (.committed reply)) := by
  have stage := sound.stage s phase running
  have view : (eventProtocol persist).view σ s = (σ.log s).foldl EventLog.put σ.data := rfl
  cases phase with
  | lock => cases acts
  | selectEvent =>
    have unwritten : σ.log s = [] := stage
    rw [unwritten, List.foldl_nil] at view
    rw [view]
    refine sound.finish (nofun) sound.sound fun r other _ running' => ?_
    exact sound.stage r other running'
  | selectNumbers => cases acts
  | insertEvent numbered =>
    rw [eventStatement] at acts
    split at acts
    next => cases acts
    next => split at acts <;> cases acts
  | insertAudit numbered => cases acts
  | commit numbered =>
    obtain ⟨written, follows⟩ := stage
    rw [written] at view
    have events : ((eventProtocol persist).view σ s).events =
        σ.data.events ++ [(persist s).row numbered] := by
      rw [view]
      rfl
    have holds : σ.holder () = some s := by
      rcases sound.locked s _ running with first | holds
      · cases first
      · exact holds
    refine sound.finish (nofun) ?_ fun r other ne running' => ?_
    · rw [events]
      exact sound.sound.append follows
    · have first := sound.waiting holds ne running'
      have stage' := sound.stage r other running'
      rw [first] at stage' ⊢
      exact stage'

theorem LogSound.advance (sound : LogSound persist σ) {next : EventPhase} {locks : List Unit}
    {writes : List EventWrite} (running : σ.session s = .running phase)
    (acts : eventStatement (persist s) phase ((eventProtocol persist).view σ s) =
      .go locks writes next)
    (free : ∀ l ∈ locks, σ.holder l = none ∨ σ.holder l = some s) :
    LogSound persist (σ.advance s locks writes next) := by
  have stage := sound.stage s phase running
  have view : (eventProtocol persist).view σ s = (σ.log s).foldl EventLog.put σ.data := rfl
  have own : (next = .lock ∨ (σ.advance s locks writes next).holder () = some s) ∧
      EventStage (persist s) σ.data.events (σ.log s ++ writes) next := by
    have held : phase = .lock ∨ (σ.advance s locks writes next).holder () = some s := by
      rcases sound.locked s phase running with first | holds
      · exact .inl first
      · exact .inr (by simp [Server.advance, holds])
    cases phase with
    | lock =>
      cases acts
      have unwritten : σ.log s = [] := stage
      exact ⟨.inr (by simp [Server.advance]), by rw [unwritten]; rfl⟩
    | selectEvent =>
      have unwritten : σ.log s = [] := stage
      rw [unwritten, List.foldl_nil] at view
      rw [view] at acts
      rw [eventStatement] at acts
      split at acts
      next => cases acts
      next absent =>
        cases acts
        refine ⟨.inr (held.resolve_left (by simp)), by rw [unwritten]; rfl, fun old member => ?_⟩
        simpa using List.find?_eq_none.mp absent old member
    | selectNumbers =>
      obtain ⟨unwritten, fresh⟩ := stage
      rw [unwritten, List.foldl_nil] at view
      rw [view] at acts
      cases acts
      exact ⟨.inr (held.resolve_left (by simp)), by rw [unwritten]; rfl,
        followsAll_number sound.sound fresh⟩
    | insertEvent numbered =>
      obtain ⟨unwritten, follows⟩ := stage
      rw [unwritten, List.foldl_nil] at view
      rw [view] at acts
      rw [eventStatement] at acts
      split at acts
      next known =>
        obtain ⟨old, member, same⟩ := List.any_eq_true.mp known
        exact absurd (of_decide_eq_true same) (follows.fresh old member)
      next =>
        split at acts
        next => cases acts
        next =>
          cases acts
          exact ⟨.inr (held.resolve_left (by simp)), by rw [unwritten]; rfl, follows⟩
    | insertAudit numbered =>
      obtain ⟨written, follows⟩ := stage
      cases acts
      exact ⟨.inr (held.resolve_left (by simp)), by rw [written]; rfl, follows⟩
    | commit numbered => cases acts
  refine ⟨sound.sound, fun r other running' => ?_, fun r other running' => ?_⟩
  · by_cases same : r = s
    · rw [same, advance_session_self] at running'
      cases running'
      rw [same]
      exact own.1
    · rw [advance_session_ne _ _ _ _ _ same] at running'
      rcases sound.locked r other running' with first | holds
      · exact .inl first
      · exact .inr (advance_holder_ne σ s locks writes next free same holds)
  · by_cases same : r = s
    · rw [same, advance_session_self] at running'
      cases running'
      rw [same, advance_log_self]
      exact own.2
    · rw [advance_session_ne _ _ _ _ _ same] at running'
      rw [advance_log_ne _ _ _ _ _ same]
      exact sound.stage r other running'

theorem logSound_moves (sound : LogSound persist σ) (moves : (eventProtocol persist).Moves σ σ') :
    LogSound persist σ' := by
  cases moves with
  | same => exact sound
  | advanced s phase next locks writes running acts free => exact sound.advance running acts free
  | committed s phase reply running acts => exact sound.commit running acts
  | raised s phase fault running acts | killed s phase running =>
    refine sound.finish (nofun) sound.sound fun r other _ running' => ?_
    exact sound.stage r other running'

omit [DecidableEq S] in
theorem logSound_init (persist : S → EventCall) :
    LogSound persist ((eventProtocol persist).init .empty) := by
  refine ⟨⟨⟨.nil, .nil⟩, List.forall_mem_nil _, List.nodup_nil⟩,
    fun s phase running => ?_, fun s phase running => ?_⟩
  · cases running
    exact .inl rfl
  · cases running
    rfl

theorem put_extends (write : EventWrite) : log.events <+: (log.put write).events := by
  cases write with
  | event row => exact List.prefix_append ..
  | audit row => exact List.prefix_refl _

theorem foldl_put_extends (writes : List EventWrite) :
    log.events <+: (writes.foldl EventLog.put log).events := by
  induction writes generalizing log with
  | nil => exact List.prefix_refl _
  | cons write rest ih => exact (put_extends write).trans ih

theorem events_extended_moves (moves : (eventProtocol persist).Moves σ σ') :
    σ.data.events <+: σ'.data.events := by
  cases moves with
  | committed s phase reply running acts => exact foldl_put_extends (σ.log s)
  | _ => exact List.prefix_refl _

theorem events_extended_exec (run : List (Event S)) :
    σ.data.events <+: ((eventProtocol persist).exec σ run).data.events :=
  exec_invariant (I := fun σ' : EventServer S => σ.data.events <+: σ'.data.events)
    (fun kept moves => kept.trans (events_extended_moves moves)) (List.prefix_refl _) run

structure Redelivered (persist : S → EventCall) (s : S) (row : EventRow) (σ : EventServer S) :
    Prop where
  sound : LogSound persist σ
  stored : row ∈ σ.data.events
  unwritten : σ.log s = []
  status : σ.session s = .running .lock ∨ σ.session s = .running .selectEvent ∨
    σ.session s = .killed ∨ σ.session s = .committed (false, (persist s).adopt row)

omit [DecidableEq S] in
theorem Redelivered.elsewhere {row : EventRow} (redelivered : Redelivered persist s row σ)
    (sound : LogSound persist σ') (stored : row ∈ σ'.data.events) (log : σ'.log s = σ.log s)
    (session : σ'.session s = σ.session s) : Redelivered persist s row σ' := by
  refine ⟨sound, stored, log.trans redelivered.unwritten, ?_⟩
  rw [session]
  exact redelivered.status

omit [DecidableEq S] in
theorem Redelivered.acts (redelivered : Redelivered persist s row σ)
    (same : row.eventId = (persist s).event.eventId) (running : σ.session s = .running phase) :
    phase = .lock ∨ (eventProtocol persist).statement s phase ((eventProtocol persist).view σ s) =
      .commit (false, (persist s).adopt row) := by
  rcases redelivered.status with at_lock | at_select | ended | ended
  · rw [at_lock] at running
    cases running
    exact .inl rfl
  · rw [at_select] at running
    cases running
    have view : (eventProtocol persist).view σ s = σ.data := by
      rw [Protocol.view, redelivered.unwritten]
      rfl
    have found := RowLog.find?_of_distinct redelivered.sound.sound.distinct redelivered.stored
    rw [same] at found
    refine .inr ?_
    rw [view]
    change eventStatement (persist s) .selectEvent σ.data = _
    rw [eventStatement, found]
  · rw [ended] at running
    cases running
  · rw [ended] at running
    cases running

theorem redelivered_moves (same : row.eventId = (persist s).event.eventId)
    (redelivered : Redelivered persist s row σ) (moves : (eventProtocol persist).Moves σ σ') :
    Redelivered persist s row σ' := by
  have sound := logSound_moves redelivered.sound moves
  have stored := (events_extended_moves moves).subset redelivered.stored
  cases moves with
  | same => exact redelivered
  | advanced r phase next locks writes running acts free =>
    by_cases own : s = r
    · subst own
      rcases redelivered.acts same running with rfl | ends
      · cases acts
        refine ⟨sound, stored, ?_, .inr (.inl (advance_session_self ..))⟩
        rw [advance_log_self, redelivered.unwritten, List.append_nil]
      · rw [ends] at acts
        cases acts
    · exact redelivered.elsewhere sound stored (advance_log_ne _ _ _ _ _ own)
        (advance_session_ne _ _ _ _ _ own)
  | committed r phase reply running acts =>
    by_cases own : s = r
    · subst own
      rcases redelivered.acts same running with rfl | ends
      · cases acts
      · rw [ends] at acts
        cases acts
        exact ⟨sound, stored, finish_log_self .., .inr (.inr (.inr (finish_session_self ..)))⟩
    · exact redelivered.elsewhere sound stored (finish_log_ne _ _ _ _ own)
        (finish_session_ne _ _ _ _ own)
  | raised r phase fault running acts =>
    by_cases own : s = r
    · subst own
      rcases redelivered.acts same running with rfl | ends
      · cases acts
      · rw [ends] at acts
        cases acts
    · exact redelivered.elsewhere sound stored (finish_log_ne _ _ _ _ own)
        (finish_session_ne _ _ _ _ own)
  | killed r phase running =>
    by_cases own : s = r
    · subst own
      exact ⟨sound, stored, finish_log_self .., .inr (.inr (.inl (finish_session_self ..)))⟩
    · exact redelivered.elsewhere sound stored (finish_log_ne _ _ _ _ own)
        (finish_session_ne _ _ _ _ own)

/-- In any interleaving of transactions with any proposed numbers, the committed events are ordered
by their global numbers, and those of one source and run by their local ones. A transaction whose
event is stored before it looks writes nothing, and gives the event the stored numbers. -/
theorem event_log_ordered (persist : S → EventCall) (before after : List (Event S)) :
    let first := (eventProtocol persist).exec ((eventProtocol persist).init .empty) before
    let last := (eventProtocol persist).exec first after
    TotallyOrdered first.data.events ∧ first.data.events <+: last.data.events ∧
      ∀ s, ∀ row ∈ first.data.events, row.eventId = (persist s).event.eventId →
        (first.session s = .running .lock ∨ first.session s = .running .selectEvent) →
        last.log s = [] ∧ (last.session s = .running .lock ∨
          last.session s = .running .selectEvent ∨ last.session s = .killed ∨
          last.session s = .committed (false, (persist s).adopt row)) := by
  intro first last
  have sound : LogSound persist first :=
    exec_invariant (I := LogSound persist) logSound_moves (logSound_init persist) before
  refine ⟨sound.sound.ordered, events_extended_exec after, fun s row stored same at_start => ?_⟩
  have redelivered : Redelivered persist s row first := by
    refine ⟨sound, stored, ?_, at_start.imp_right .inl⟩
    rcases at_start with at_lock | at_select
    · exact sound.stage s .lock at_lock
    · exact sound.stage s .selectEvent at_select
  have ended : Redelivered persist s row last := exec_invariant
    (I := Redelivered persist s row) (redelivered_moves same) redelivered after
  exact ⟨ended.unwritten, ended.status⟩

def sampleEvent (eventId : String) : EventCall where
  event :=
    { id := 1, nodeCode := "edge-1", stage := "telemetry", severity := "info", message := "",
      eventId := eventId, eventTime := 0, ingestTime := 0, localSequence := 1, globalSequence := 1,
      createdAt := 0 }
  runId := "run"

/-- Two processes propose the same numbers, and the first event is delivered again. -/
example :
    (((eventProtocol (S := Fin 3) fun s => sampleEvent (if s = 1 then "b" else "a")).exec
      ((eventProtocol fun s => sampleEvent (if s = 1 then "b" else "a")).init .empty)
      ((List.replicate 6 (.run 0)) ++ (List.replicate 6 (.run 1)) ++
        (List.replicate 2 (.run 2)))).data.events.map
          fun row => (row.eventId, row.localSequence, row.globalSequence)) =
      [("a", 1, 1), ("b", 2, 2)] := by
  decide +kernel

end MiniOgas
