import MiniOgas.ApprovalGate

namespace MiniOgas

open Bounded

inductive Severity where
  | info
  | low
  | medium
  | high
  | critical
deriving DecidableEq

inductive AlertStatus where
  | opened
  | confirmed
  | diagnosed
  | observing
  | closed
  | resolved
deriving DecidableEq

/-- `status not in {"closed", "resolved"}`. -/
def AlertStatus.active (status : AlertStatus) : Bool := status ≠ .closed && status ≠ .resolved

structure Alert where
  id : Nat
  runId : String := ""
  nodeCode : String
  alertType : String
  severity : Severity
  description : String
  source : String := "central-api"
  handledBy : Option String := none
  status : AlertStatus := .opened

/-- A stage that is neither an escalation nor a decision on one. -/
abbrev OtherStage :=
  { stage : String // stage ∉ ["escalation", "escalation-approved", "escalation-rejected"] }

inductive Notice where
  | escalation (issueType description : String)
  | approved (message : String)
  | rejected (message : String)
  | other (stage : OtherStage) (message : String)
deriving DecidableEq

def Notice.stage : Notice → String
  | .escalation .. => "escalation"
  | .approved _ => "escalation-approved"
  | .rejected _ => "escalation-rejected"
  | .other stage _ => stage

def Notice.message : Notice → String
  | .escalation issueType description => "[需人工介入] " ++ issueType ++ ": " ++ description
  | .approved message => message
  | .rejected message => message
  | .other _ message => message

/-- An entry of `incident_events`. -/
structure NoticedEvent where
  id : Nat
  nodeCode : String
  severity : Severity
  notice : Notice
deriving DecidableEq

def incidentCapacity : Nat := 160

/-- `incident_events` and `incident_event_seq`. -/
structure IncidentLog where
  events : List NoticedEvent
  seq : Nat
  bounded : events.length ≤ incidentCapacity
  ordered : (events.map (·.id)).Pairwise (· < ·)
  numbered : ∀ event ∈ events, event.id ≤ seq

theorem noEvents_bounded : ([] : List NoticedEvent).length ≤ incidentCapacity := by decide

theorem noEvents_ordered : (([] : List NoticedEvent).map (·.id)).Pairwise (· < ·) := .nil

theorem noEvents_numbered : ∀ event ∈ ([] : List NoticedEvent), event.id ≤ 0 :=
  List.forall_mem_nil _

def IncidentLog.empty : IncidentLog :=
  ⟨[], 0, noEvents_bounded, noEvents_ordered, noEvents_numbered⟩

/-- `add_event`; the table of events may have numbers that are `ahead` of the counter. -/
def IncidentLog.add (log : IncidentLog) (ahead : Nat) (nodeCode : String) (severity : Severity)
    (notice : Notice) : IncidentLog where
  events := keepLast incidentCapacity
    (log.events ++ [⟨log.seq + 1 + ahead, nodeCode, severity, notice⟩])
  seq := log.seq + 1 + ahead
  bounded := length_keepLast_le _ _
  ordered := by
    refine List.Pairwise.sublist ((keepLast_sublist _ _).map _) ?_
    rw [List.map_append, List.pairwise_append]
    refine ⟨log.ordered, List.pairwise_singleton _ _, fun id earlier last own => ?_⟩
    obtain ⟨event, member, rfl⟩ := List.mem_map.mp earlier
    have below := log.numbered event member
    have same : last = log.seq + 1 + ahead := by simpa using own
    omega
  numbered := by
    intro event member
    rcases of_mem_keepLast_append member with old | same
    · have below := log.numbered event old
      omega
    · rw [same]

/-- The part of `MemoryStore` that escalations read, with the alerts and the events. -/
structure IncidentState where
  store : MemoryStore
  alerts : List Alert
  log : IncidentLog

section Operations

variable (env : StoreEnv)

def alertInCurrentRun (store : MemoryStore) (alert : Alert) : Bool :=
  let nodeRunId := currentRunIdForNode env store alert.nodeCode
  if nodeRunId ≠ "" then alert.runId = nodeRunId
  else if alert.runId = "" then true
  else
    let systemRunId := currentRunIdForSystem env store
    systemRunId = "" || alert.runId = systemRunId

def Alert.current (store : MemoryStore) (alert : Alert) : Bool :=
  alert.status.active && alertInCurrentRun env store alert

def Alert.awaitsHuman (store : MemoryStore) (alert : Alert) : Bool :=
  alert.current env store && alert.handledBy = some "human-required"

/-- `f"{alert.alert_type}:" in event.message`, on the node of the event. -/
def Alert.namedBy (event : NoticedEvent) (alert : Alert) : Bool :=
  alert.nodeCode = event.nodeCode && containsText (alert.alertType ++ ":") event.notice.message

def NoticedEvent.decides (event : NoticedEvent) : Bool :=
  ["escalation-approved", "escalation-rejected"].contains event.notice.stage

def pends (state : IncidentState) (event : NoticedEvent) : Bool :=
  event.notice.stage = "escalation" &&
    (state.alerts.any fun alert => alert.awaitsHuman env state.store && alert.namedBy event) &&
    !(state.log.events.any fun later =>
      event.id < later.id && later.nodeCode = event.nodeCode && later.decides)

def pendingEscalations (state : IncidentState) : List NoticedEvent :=
  keepLast 20 (state.log.events.filter (pends env state))

def IncidentState.createAlert (state : IncidentState) (nodeCode alertType : String)
    (severity : Severity) (description : String) (handledBy : Option String)
    (source : String := "central-api") : IncidentState :=
  let nodeRunId := currentRunIdForNode env state.store nodeCode
  let runId := if nodeRunId = "" then currentRunIdForSystem env state.store else nodeRunId
  let alert : Alert :=
    { id := greatest (state.alerts.map (·.id)) + 1
      runId, nodeCode, alertType, severity, description, source, handledBy }
  { state with alerts := keepLast 120 (state.alerts ++ [alert]) }

def IncidentState.addEvent (state : IncidentState) (ahead : Nat) (nodeCode : String)
    (severity : Severity) (notice : Notice) : IncidentState :=
  { state with log := state.log.add ahead nodeCode severity notice }

/-- `f` on the last item that meets `p`. -/
def modifyLast {α : Type} (p : α → Bool) (f : α → α) (items : List α) : List α :=
  (modifyFirst p f items.reverse).reverse

def escalateToHuman (state : IncidentState) (ahead : Nat)
    (nodeCode issueType description : String) : IncidentState :=
  let known := fun alert : Alert =>
    alert.nodeCode = nodeCode && alert.alertType = issueType && alert.current env state.store
  let marked :=
    if state.alerts.any known then
      { state with
        alerts := modifyLast known (fun alert => { alert with handledBy := some "human-required" })
          state.alerts }
    else state.createAlert env nodeCode issueType .high description (some "human-required")
  marked.addEvent ahead nodeCode .high (.escalation issueType description)

end Operations

inductive EscalationDecision where
  | approve
  | reject
deriving DecidableEq

/-- The arguments of `escalation_decision`; `ahead` is how far the numbers of the table of events
are ahead at each event. -/
structure EscalationCall where
  escalationId : Nat
  decision : EscalationDecision
  confirmationCode : String
  role : String
  operator : String
  ahead : Nat × Nat := (0, 0)

def EscalationCall.safety (call : EscalationCall) : SafetyDecision :=
  SafetyGovernor.confirmationGate
    { action := "escalation_approve"
      targetNode := ""
      riskLevel := "high"
      actorRole := call.role
      actorId := call.operator
      knownNodes := []
      confirmationCode := some call.confirmationCode }

def EscalationCall.blocked (call : EscalationCall) : Bool :=
  call.decision = .approve && !call.safety.allow

def EscalationCall.message (call : EscalationCall) : String :=
  match call.decision with
  | .approve => s!"人工升级 #{call.escalationId} 已批准。操作员: {call.operator}。" ++
    s!"确认码: {call.confirmationCode}"
  | .reject => s!"人工升级 #{call.escalationId} 已驳回。操作员: {call.operator}。"

def humanEscalation : OtherStage := ⟨"human-escalation", by decide⟩

section Decisions

variable (env : StoreEnv)

def closedBy (store : MemoryStore) (escalation : NoticedEvent) (alert : Alert) : Bool :=
  alert.current env store && alert.namedBy escalation

def Alert.closeFor (alert : Alert) (operator : String) : Alert :=
  { alert with status := .closed, handledBy := some operator }

def closeAlerts (operator : String) (escalation : NoticedEvent) (state : IncidentState) :
    IncidentState :=
  { state with alerts := state.alerts.map fun alert =>
      if closedBy env state.store escalation alert then alert.closeFor operator else alert }

def closedAlerts (escalation : NoticedEvent) (state : IncidentState) : List String :=
  (state.alerts.filter (closedBy env state.store escalation)).map fun alert =>
    s!"{alert.nodeCode}-{alert.alertType}"

def closingMessage (closed : List String) : String :=
  s!"Human approval closed {closed.length} alert(s): " ++ ", ".intercalate closed

def escalationDecision (call : EscalationCall) (state : IncidentState) : IncidentState :=
  let escalation := state.log.events.find? (·.id = call.escalationId)
  let nodeCode := (escalation.map (·.nodeCode)).getD "central-api"
  match call.decision with
  | .approve =>
    if call.safety.allow = false then state
    else
      let decided := state.addEvent call.ahead.1 nodeCode .high (.approved call.message)
      match escalation with
      | none => decided
      | some escalation =>
        let closed := closedAlerts env escalation decided
        (closeAlerts env call.operator escalation decided).addEvent call.ahead.2 nodeCode .info
          (.other humanEscalation (closingMessage closed))
  | .reject => state.addEvent call.ahead.1 nodeCode .medium (.rejected call.message)

end Decisions

/-- The event is an escalation of an alert. -/
def NoticedEvent.Escalates (event : NoticedEvent) (alert : Alert) : Prop :=
  event.nodeCode = alert.nodeCode ∧
    ∃ description, event.notice = .escalation alert.alertType description

structure Independent (env : StoreEnv) (state later : IncidentState)
    (nodeCode issueType : String) : Prop where
  closes : List.Forall₂ (fun alert after => after = alert ∨
    alert.current env state.store = true ∧ alert.nodeCode = nodeCode ∧
      alert.alertType = issueType) state.alerts later.alerts
  listed : ∀ alert ∈ state.alerts, alert.awaitsHuman env state.store = true →
    ¬ (alert.nodeCode = nodeCode ∧ alert.alertType = issueType) →
    ∀ event ∈ pendingEscalations env state, event.Escalates alert →
      event ∈ pendingEscalations env later

def EscalationCall.adds (call : EscalationCall) : Nat :=
  match call.decision with
  | .approve => 2
  | .reject => 1

def EscalationCall.pushedOut (call : EscalationCall) (log : IncidentLog) : List NoticedEvent :=
  log.events.take (log.events.length + call.adds - incidentCapacity)

structure Untangled (env : StoreEnv) (state : IncidentState) (call : EscalationCall)
    (escalation : NoticedEvent) (issueType : String) : Prop where
  named : call.decision = .approve → ∀ alert ∈ state.alerts,
    alert.current env state.store = true → alert.namedBy escalation = true →
    alert.alertType = issueType
  alone : ∀ alert ∈ state.alerts, alert.awaitsHuman env state.store = true →
    ¬ (alert.nodeCode = escalation.nodeCode ∧ alert.alertType = issueType) →
    ∀ event ∈ pendingEscalations env state, event.Escalates alert →
      event.nodeCode ≠ escalation.nodeCode ∧ event ∉ call.pushedOut state.log

section Laws

variable {env : StoreEnv} {state later : IncidentState} {call : EscalationCall}
  {escalation event : NoticedEvent} {alert : Alert} {issueType description : String}
  {added : List NoticedEvent}

theorem nodup_events (log : IncidentLog) : log.events.Nodup :=
  (List.pairwise_map.mp log.ordered).imp fun below same => by
    rw [same] at below
    exact Nat.lt_irrefl _ below

structure DecisionRecorded (env : StoreEnv) (call : EscalationCall) (escalation : NoticedEvent)
    (state later : IncidentState) (added : List NoticedEvent) : Prop where
  store : later.store = state.store
  alerts : later.alerts = state.alerts.map fun alert =>
    if call.decision = .approve ∧ closedBy env state.store escalation alert = true then
      alert.closeFor call.operator
    else alert
  events : later.log.events = keepLast incidentCapacity (state.log.events ++ added)
  count : added.length = call.adds
  apart : ∀ event ∈ added, event.nodeCode = escalation.nodeCode ∧
    event.notice.stage ≠ "escalation"
  decided : ∃ event ∈ added, state.log.seq < event.id ∧ event.decides = true

theorem addEvent_store (state : IncidentState) (ahead : Nat) (nodeCode : String)
    (severity : Severity) (notice : Notice) :
    (state.addEvent ahead nodeCode severity notice).store = state.store := by
  simp only [IncidentState.addEvent]

theorem addEvent_alerts (state : IncidentState) (ahead : Nat) (nodeCode : String)
    (severity : Severity) (notice : Notice) :
    (state.addEvent ahead nodeCode severity notice).alerts = state.alerts := by
  simp only [IncidentState.addEvent]

theorem addEvent_seq (state : IncidentState) (ahead : Nat) (nodeCode : String)
    (severity : Severity) (notice : Notice) :
    (state.addEvent ahead nodeCode severity notice).log.seq = state.log.seq + 1 + ahead := by
  simp only [IncidentState.addEvent, IncidentLog.add]

theorem addEvent_events (state : IncidentState) (ahead : Nat) (nodeCode : String)
    (severity : Severity) (notice : Notice) :
    (state.addEvent ahead nodeCode severity notice).log.events =
      keepLast incidentCapacity
        (state.log.events ++ [⟨state.log.seq + 1 + ahead, nodeCode, severity, notice⟩]) := by
  simp only [IncidentState.addEvent, IncidentLog.add]

theorem closeAlerts_log (operator : String) :
    (closeAlerts env operator escalation state).log = state.log := rfl

theorem escalationDecision_cases
    (found : state.log.events.find? (·.id = call.escalationId) = some escalation) :
    (call.blocked = true ∧ escalationDecision env call state = state) ∨
      call.blocked = false ∧ ∃ added,
        DecisionRecorded env call escalation state (escalationDecision env call state) added := by
  unfold escalationDecision EscalationCall.blocked
  rw [found]
  cases decision : call.decision with
  | approve =>
    by_cases allow : call.safety.allow = false
    · exact .inl ⟨by simp [allow], by simp [allow]⟩
    · rw [Bool.not_eq_false] at allow
      refine .inr ⟨by simp [allow], [⟨state.log.seq + 1 + call.ahead.1, escalation.nodeCode, .high,
          .approved call.message⟩, ⟨state.log.seq + 1 + call.ahead.1 + 1 + call.ahead.2,
          escalation.nodeCode, .info, .other humanEscalation (closingMessage
            (closedAlerts env escalation (state.addEvent call.ahead.1 escalation.nodeCode .high
              (.approved call.message))))⟩], ?_⟩
      simp only [allow, Bool.true_eq_false, if_false, Option.map_some, Option.getD_some]
      refine ⟨?_, ?_, ?_, ?_, ?_, ?_⟩
      · simp only [closeAlerts, addEvent_store]
      · simp only [closeAlerts, addEvent_store, addEvent_alerts, decision, true_and]
      · rw [addEvent_events, closeAlerts_log, addEvent_events, addEvent_seq,
          keepLast_keepLast_append, List.append_assoc, List.singleton_append]
      · simp [EscalationCall.adds, decision]
      · simp [Notice.stage, humanEscalation]
      · refine ⟨_, List.mem_cons_self, ?_, rfl⟩
        dsimp only
        omega
  | reject =>
    refine .inr ⟨by simp, [⟨state.log.seq + 1 + call.ahead.1, escalation.nodeCode, .medium,
      .rejected call.message⟩], addEvent_store _ _ _ _ _, ?_, addEvent_events _ _ _ _ _, ?_, ?_,
      ?_⟩
    · simp [decision, addEvent_alerts]
    · simp [EscalationCall.adds, decision]
    · simp [Notice.stage]
    · refine ⟨_, List.mem_cons_self, ?_, rfl⟩
      dsimp only
      omega

theorem later_events (recorded : DecisionRecorded env call escalation state later added) :
    later.log.events =
      state.log.events.drop (state.log.events.length + call.adds - incidentCapacity) ++ added := by
  have few : call.adds ≤ incidentCapacity := by
    unfold EscalationCall.adds incidentCapacity
    cases call.decision <;> decide
  rw [recorded.events, keepLast, List.length_append, recorded.count,
    List.drop_append_of_le_length (by omega)]

theorem mem_pushedOut_or_later (recorded : DecisionRecorded env call escalation state later added)
    (member : event ∈ state.log.events) :
    event ∈ call.pushedOut state.log ∨ event ∈ later.log.events := by
  rw [← List.take_append_drop (state.log.events.length + call.adds - incidentCapacity)
    state.log.events] at member
  rw [later_events recorded]
  rcases List.mem_append.mp member with early | late
  · exact .inl early
  · exact .inr (List.mem_append_left _ late)

theorem lt_of_mem_pushedOut {old : NoticedEvent} {n : Nat} (log : IncidentLog)
    (early : old ∈ log.events.take n) (late : event ∈ log.events.drop n) : old.id < event.id := by
  have ordered := log.ordered
  rw [← List.take_append_drop n log.events, List.map_append, List.pairwise_append] at ordered
  exact ordered.2.2 _ (List.mem_map_of_mem early) _ (List.mem_map_of_mem late)

theorem alert_of_later (recorded : DecisionRecorded env call escalation state later added)
    (member : alert ∈ later.alerts) (waits : alert.awaitsHuman env later.store = true) :
    alert ∈ state.alerts := by
  rw [recorded.alerts] at member
  obtain ⟨before, there, same⟩ := List.mem_map.mp member
  split at same
  next =>
    subst same
    simp [Alert.awaitsHuman, Alert.current, Alert.closeFor, AlertStatus.active] at waits
  next =>
    subst same
    exact there

theorem pends_of_later (recorded : DecisionRecorded env call escalation state later added)
    (member : event ∈ later.log.events) (listed : pends env later event = true) :
    event ∈ state.log.events ∧ pends env state event = true := by
  simp only [pends, Bool.and_eq_true, decide_eq_true_eq, Bool.not_eq_true',
    List.any_eq_true] at listed ⊢
  obtain ⟨⟨stage, alert, waiting, waits, named⟩, undecided⟩ := listed
  have split := later_events recorded
  rw [split] at member
  rcases List.mem_append.mp member with kept | new
  · refine ⟨List.mem_of_mem_drop kept, ⟨stage, alert, alert_of_later recorded waiting waits, ?_,
      named⟩, ?_⟩
    · rw [← recorded.store]
      exact waits
    · rw [List.any_eq_false] at undecided ⊢
      intro decider there decides
      simp only [Bool.and_eq_true, decide_eq_true_eq] at decides
      rcases mem_pushedOut_or_later recorded there with early | late
      · have older := lt_of_mem_pushedOut state.log early kept
        omega
      · exact undecided decider late (by simpa using decides)
  · exact absurd stage (recorded.apart event new).2

theorem pending_sublist (recorded : DecisionRecorded env call escalation state later added) :
    (later.log.events.filter (pends env later)).Sublist
      (state.log.events.filter (pends env state)) := by
  have none : added.filter (pends env later) = [] := by
    rw [List.filter_eq_nil_iff]
    intro event new listed
    have stage := (recorded.apart event new).2
    simp [pends, stage] at listed
  have both : later.log.events.filter (pends env later) =
      (later.log.events.filter (pends env state)).filter (pends env later) := by
    rw [List.filter_filter]
    refine List.filter_congr fun event member => ?_
    by_cases listed : pends env later event = true
    · rw [listed, (pends_of_later recorded member listed).2]
      rfl
    · rw [eq_false_of_ne_true listed, Bool.false_and]
  have less : added.filter (fun event => pends env later event && pends env state event) = [] := by
    rw [← List.filter_filter, List.filter_eq_nil_iff]
    intro event member listed
    rw [List.filter_eq_nil_iff] at none
    exact none event (List.mem_of_mem_filter member) listed
  rw [both, List.filter_filter, later_events recorded, List.filter_append, less, List.append_nil,
    ← List.filter_filter]
  exact List.filter_sublist.trans ((List.drop_sublist _ _).filter _)

theorem mem_pendingEscalations (state : IncidentState) :
    event ∈ pendingEscalations env state →
      event ∈ state.log.events ∧ pends env state event = true := by
  intro listed
  exact List.mem_filter.mp (mem_of_mem_keepLast listed)

theorem containsText_middle (before part after : String) :
    containsText part (before ++ part ++ after) = true := by
  unfold containsText
  rw [decide_eq_true_eq, String.toList_append, String.toList_append]
  exact List.infix_append _ _ _

theorem namedBy_of_escalates (escalates : event.Escalates alert) :
    alert.namedBy event = true := by
  obtain ⟨sameNode, description, notice⟩ := escalates
  have colon : ": " = ":" ++ " " := by decide
  have message : event.notice.message =
      "[需人工介入] " ++ (alert.alertType ++ ":") ++ (" " ++ description) := by
    rw [notice]
    unfold Notice.message
    simp only [colon, String.append_assoc]
  unfold Alert.namedBy
  rw [message, containsText_middle, sameNode]
  simp

theorem current_active (current : alert.current env state.store = true) :
    alert.status.active = true := by
  unfold Alert.current at current
  rw [Bool.and_eq_true] at current
  exact current.1

theorem closeFor_ne (current : alert.current env state.store = true) (operator : String) :
    alert.closeFor operator ≠ alert := by
  intro same
  have active := current_active current
  rw [← same] at active
  simp [Alert.closeFor, AlertStatus.active] at active

theorem independent_of_untangled
    (recorded : DecisionRecorded env call escalation state later added)
    (untangled : Untangled env state call escalation issueType) :
    Independent env state later escalation.nodeCode issueType := by
  have closing : ∀ alert ∈ state.alerts, call.decision = .approve →
      closedBy env state.store escalation alert = true →
      alert.current env state.store = true ∧ alert.nodeCode = escalation.nodeCode ∧
        alert.alertType = issueType := by
    intro alert member approve closed
    unfold closedBy at closed
    rw [Bool.and_eq_true] at closed
    refine ⟨closed.1, ?_, untangled.named approve alert member closed.1 closed.2⟩
    have named := closed.2
    simp only [Alert.namedBy, Bool.and_eq_true, decide_eq_true_eq] at named
    exact named.1
  refine ⟨?_, ?_⟩
  · rw [recorded.alerts, List.forall₂_map_right_iff]
    refine List.forall₂_same.mpr fun alert member => ?_
    split
    next h => exact .inr (closing alert member h.1 h.2)
    next => exact .inl rfl
  · intro alert member waits other event listed escalates
    obtain ⟨apart, kept⟩ := untangled.alone alert member waits other event listed escalates
    obtain ⟨there, pending⟩ := mem_pendingEscalations state listed
    have stays : event ∈ later.log.events :=
      (mem_pushedOut_or_later recorded there).resolve_left kept
    have same : alert ∈ later.alerts := by
      rw [recorded.alerts]
      refine List.mem_map.mpr ⟨alert, member, if_neg fun h => ?_⟩
      exact other (closing alert member h.1 h.2).2
    simp only [pends, Bool.and_eq_true, decide_eq_true_eq, Bool.not_eq_true'] at pending
    refine mem_keepLast_of_sublist ((nodup_events state.log).filter _) (pending_sublist recorded)
      listed (List.mem_filter.mpr ⟨stays, ?_⟩)
    simp only [pends, Bool.and_eq_true, decide_eq_true_eq, Bool.not_eq_true', List.any_eq_true]
    refine ⟨⟨pending.1.1, alert, same, ?_, namedBy_of_escalates escalates⟩, ?_⟩
    · rw [recorded.store]
      exact waits
    · rw [List.any_eq_false]
      intro decider among decides
      rw [later_events recorded] at among
      rcases List.mem_append.mp among with old | new
      · exact List.any_eq_false.mp pending.2 decider (List.mem_of_mem_drop old) decides
      · simp only [Bool.and_eq_true, decide_eq_true_eq] at decides
        exact apart (decides.1.2.symm.trans (recorded.apart decider new).1)

theorem untangled_of_independent
    (recorded : DecisionRecorded env call escalation state later added)
    (independent : Independent env state later escalation.nodeCode issueType) :
    Untangled env state call escalation issueType := by
  refine ⟨?_, ?_⟩
  · intro approve alert member current named
    have each := independent.closes
    rw [recorded.alerts, List.forall₂_map_right_iff] at each
    have closed := List.forall₂_same.mp each alert member
    rw [if_pos ⟨approve, by simp [closedBy, current, named]⟩] at closed
    rcases closed with same | own
    · exact absurd same (closeFor_ne current _)
    · exact own.2.2
  · intro alert member waits other event listed escalates
    have still := independent.listed alert member waits other event listed escalates
    obtain ⟨there, pending⟩ := mem_pendingEscalations state listed
    obtain ⟨stays, undecided⟩ := mem_pendingEscalations later still
    simp only [pends, Bool.and_eq_true, decide_eq_true_eq, Bool.not_eq_true'] at pending undecided
    refine ⟨fun same => ?_, fun early => ?_⟩
    · obtain ⟨decider, new, above, decides⟩ := recorded.decided
      have among : decider ∈ later.log.events := by
        rw [later_events recorded]
        exact List.mem_append_right _ new
      have below := state.log.numbered event there
      refine List.any_eq_false.mp undecided.2 decider among ?_
      simp only [Bool.and_eq_true, decide_eq_true_eq]
      exact ⟨⟨by omega, (recorded.apart decider new).1.trans same.symm⟩, decides⟩
    · rw [later_events recorded] at stays
      rcases List.mem_append.mp stays with late | new
      · have older := lt_of_mem_pushedOut state.log early late
        omega
      · exact (recorded.apart event new).2 pending.1.1

theorem independent_refl (state : IncidentState) (nodeCode : String) :
    Independent env state state nodeCode issueType :=
  ⟨List.forall₂_same.mpr fun _ _ => .inl rfl, fun _ _ _ _ _ listed _ => listed⟩

/-- The decision leaves the other incidents alone if it is blocked or they are untangled, and else
does not. -/
theorem escalation_decision_independent_iff
    (found : state.log.events.find? (·.id = call.escalationId) = some escalation)
    (_own : escalation.notice = .escalation issueType description) :
    Independent env state (escalationDecision env call state) escalation.nodeCode issueType ↔
      call.blocked = true ∨ Untangled env state call escalation issueType := by
  rcases @escalationDecision_cases env _ _ _ found with
    ⟨blocked, same⟩ | ⟨passes, added, recorded⟩
  · rw [same, blocked]
    exact iff_of_true (independent_refl state _) (.inl rfl)
  · constructor
    · intro independent
      exact .inr (untangled_of_independent recorded independent)
    · rintro (blocked | untangled)
      · rw [passes] at blocked
        cases blocked
      · exact independent_of_untangled recorded untangled

end Laws

def sampleEscalations : IncidentState :=
  let empty : IncidentState := ⟨.empty, [], .empty⟩
  let first := escalateToHuman sampleControlEnv.store empty 0 "workflow-check-node"
    "OLD_MANUAL_REVIEW" "pytest old pending escalation"
  escalateToHuman sampleControlEnv.store first 0 "workflow-check-node" "SPINDLE_TEMP_HIGH"
    "pytest new issue requiring approval"

def sampleOldEscalation : NoticedEvent where
  id := 1
  nodeCode := "workflow-check-node"
  severity := .high
  notice := .escalation "OLD_MANUAL_REVIEW" "pytest old pending escalation"

def sampleNewEscalation : NoticedEvent where
  id := 2
  nodeCode := "workflow-check-node"
  severity := .high
  notice := .escalation "SPINDLE_TEMP_HIGH" "pytest new issue requiring approval"

def sampleDecision : EscalationCall where
  escalationId := 2
  decision := .approve
  confirmationCode := "CONFIRM"
  role := "system_admin"
  operator := "admin"

theorem sampleDecision_found :
    sampleEscalations.log.events.find? (·.id = sampleDecision.escalationId) =
      some sampleNewEscalation := by
  decide +kernel

/-- The approval of one escalation takes the other escalation of the node off the list, and its
alert stays open. -/
theorem other_escalation_unlisted :
    sampleEscalations.log.events.find? (·.id = sampleDecision.escalationId) =
        some sampleNewEscalation ∧
      pendingEscalations sampleControlEnv.store sampleEscalations =
        [sampleOldEscalation, sampleNewEscalation] ∧
      pendingEscalations sampleControlEnv.store
        (escalationDecision sampleControlEnv.store sampleDecision sampleEscalations) = [] ∧
      ¬ Independent sampleControlEnv.store sampleEscalations
        (escalationDecision sampleControlEnv.store sampleDecision sampleEscalations)
        sampleNewEscalation.nodeCode "SPINDLE_TEMP_HIGH" := by
  have two : pendingEscalations sampleControlEnv.store sampleEscalations =
      [sampleOldEscalation, sampleNewEscalation] := by
    decide +kernel
  have none : pendingEscalations sampleControlEnv.store
      (escalationDecision sampleControlEnv.store sampleDecision sampleEscalations) = [] := by
    decide +kernel
  have waiting : ∃ alert ∈ sampleEscalations.alerts,
      alert.awaitsHuman sampleControlEnv.store sampleEscalations.store = true ∧
        alert.nodeCode = "workflow-check-node" ∧ alert.alertType = "OLD_MANUAL_REVIEW" := by
    decide +kernel
  refine ⟨sampleDecision_found, two, none, fun independent => ?_⟩
  obtain ⟨alert, member, waits, node, type⟩ := waiting
  have other : ¬ (alert.nodeCode = sampleNewEscalation.nodeCode ∧
      alert.alertType = "SPINDLE_TEMP_HIGH") := by
    rw [type]
    simp
  have escalates : sampleOldEscalation.Escalates alert :=
    ⟨node.symm, "pytest old pending escalation", by rw [type]; rfl⟩
  have still := independent.listed alert member waits other sampleOldEscalation
    (by rw [two]; exact List.mem_cons_self) escalates
  rw [none] at still
  cases still

theorem escalation_decision_independent_on_sample :
    Independent sampleControlEnv.store sampleEscalations
        (escalationDecision sampleControlEnv.store sampleDecision sampleEscalations)
        "workflow-check-node" "SPINDLE_TEMP_HIGH" ↔
      sampleDecision.blocked = true ∨
        Untangled sampleControlEnv.store sampleEscalations sampleDecision sampleNewEscalation
          "SPINDLE_TEMP_HIGH" :=
  escalation_decision_independent_iff sampleDecision_found rfl

end MiniOgas
