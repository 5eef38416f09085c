import MiniOgas.HeartbeatRefusal

namespace MiniOgas

open Bounded Procedure

def Alert.openOn (nodeCode alertType : String) (alert : Alert) : Bool :=
  alert.nodeCode = nodeCode && alert.alertType = alertType && alert.status.active

/-- An open alert that the heartbeats of a node have raised. -/
def Alert.reports (nodeCode alertType : String) (alert : Alert) : Prop :=
  alert.openOn nodeCode alertType = true ∧ alert.source = "node-heartbeat"

def Alert.foreign (nodeCode : String) (alert : Alert) : Bool :=
  alert.nodeCode ≠ nodeCode || alert.source ≠ "node-heartbeat"

structure Alert.Raised (nodeCode : String) (incoming : List String) (alert : Alert) : Prop where
  node : alert.nodeCode = nodeCode
  source : alert.source = "node-heartbeat"
  type : alert.alertType ∈ incoming
  opened : alert.status = .opened
  handled : alert.handledBy = none

def incomingTypes (env : StoreEnv) (payload : Fields) : List String :=
  (reportedAlarms payload).map (alarmTypeOf env)

/-- What a heartbeat leaves of the alerts: the oldest are dropped, and each alarm has its alert. -/
structure AlarmsMirrored (nodeCode : String) (incoming : List String)
    (alerts later dropped : List Alert) : Prop where
  listed : ∃ new kept, alerts ++ new = dropped ++ kept ∧
    later = kept.map (recoverAlert nodeCode incoming) ∧ new.length ≤ incoming.length ∧
    ∀ alert ∈ new, alert.Raised nodeCode incoming
  full : dropped ≠ [] → later.length = 120
  bounded : alerts.length ≤ 120 → later.length ≤ 120
  sound : ∀ type, (∃ alert ∈ later, alert.reports nodeCode type) → type ∈ incoming ∨
    ∃ alert ∈ alerts, alert.reports nodeCode type ∧ alert.handledBy = some "human-required"
  complete : (∀ alert ∈ dropped, alert.nodeCode = nodeCode → alert.status.active = false) →
    ∀ type, (∃ alert ∈ later, alert.reports nodeCode type) ↔
      (type ∈ incoming ∧ ((∃ alert ∈ alerts, alert.reports nodeCode type) ∨
        ¬∃ alert ∈ alerts, alert.openOn nodeCode type = true)) ∨
      ∃ alert ∈ alerts, alert.reports nodeCode type ∧ alert.handledBy = some "human-required"
  single : ∀ node type, later.countP (Alert.openOn node type) ≤
    max 1 (alerts.countP (Alert.openOn node type))
  others : alerts.filter (Alert.foreign nodeCode) =
    dropped.filter (Alert.foreign nodeCode) ++ later.filter (Alert.foreign nodeCode)

variable {env : StoreEnv} {store : MemoryStore} {nodeCode type : String} {production : Fields}
  {incoming types : List String} {alerts new dropped kept : List Alert} {alert : Alert}
  {alarm : Fields} {alarms : List Fields}

theorem openOn_iff : alert.openOn nodeCode type = true ↔
    alert.nodeCode = nodeCode ∧ alert.alertType = type ∧ alert.status.active = true := by
  unfold Alert.openOn
  rw [Bool.and_eq_true, Bool.and_eq_true, decide_eq_true_iff, decide_eq_true_iff, and_assoc]

theorem Alert.Raised.mono (raised : alert.Raised nodeCode types)
    (sub : ∀ type ∈ types, type ∈ incoming) : alert.Raised nodeCode incoming :=
  { raised with type := sub _ raised.type }

theorem Alert.Raised.reports (raised : alert.Raised nodeCode incoming) :
    alert.reports nodeCode alert.alertType := by
  refine ⟨openOn_iff.mpr ⟨raised.node, rfl, ?_⟩, raised.source⟩
  rw [raised.opened]
  rfl

structure AlarmsRaised (nodeCode : String) (types : List String)
    (alerts new dropped kept : List Alert) : Prop where
  split : alerts ++ new = dropped ++ kept
  full : dropped ≠ [] → kept.length = 120
  bounded : alerts.length ≤ 120 → kept.length ≤ 120
  few : new.length ≤ types.length
  fresh : ∀ alert ∈ new, alert.Raised nodeCode types
  covered : ∀ type ∈ types, ∃ alert ∈ alerts ++ new, alert.openOn nodeCode type = true
  lacking : ∀ alert ∈ new, (∃ old ∈ alerts, old.openOn nodeCode alert.alertType = true) →
    ∃ old ∈ dropped, old.openOn nodeCode alert.alertType = true
  single : ∀ node type, kept.countP (Alert.openOn node type) ≤
    max 1 (alerts.countP (Alert.openOn node type))

theorem keepLast_split {α : Type} (n : Nat) (xs : List α) :
    ∃ dropped, xs = dropped ++ keepLast n xs ∧ (dropped ≠ [] → (keepLast n xs).length = n) := by
  refine ⟨xs.take (xs.length - n), (List.take_append_drop _ xs).symm, fun some => ?_⟩
  have cut : 0 < xs.length - n := by
    by_contra none
    exact some (by rw [Nat.eq_zero_of_not_pos none, List.take_zero])
  unfold keepLast
  rw [List.length_drop]
  omega

theorem raiseAlarm_cases (env : StoreEnv) (store : MemoryStore) (nodeCode : String)
    (production : Fields) (alerts : List Alert) (alarm : Fields) :
    (∃ alert ∈ alerts, alert.openOn nodeCode (alarmTypeOf env alarm) = true) ∧
        raiseAlarm env store nodeCode production alerts alarm = alerts ∨
      (∀ alert ∈ alerts, alert.openOn nodeCode (alarmTypeOf env alarm) = false) ∧
        ∃ alert : Alert, alert.Raised nodeCode [alarmTypeOf env alarm] ∧
          raiseAlarm env store nodeCode production alerts alarm =
            keepLast 120 (alerts ++ [alert]) := by
  unfold raiseAlarm
  dsimp only
  split
  next known =>
    obtain ⟨alert, member, open_⟩ := List.any_eq_true.mp known
    exact .inl ⟨⟨alert, member, open_⟩, rfl⟩
  next unknown =>
    refine .inr ⟨fun alert member => ?_, ?_⟩
    · by_contra open_
      exact unknown (List.any_eq_true.mpr ⟨alert, member, Bool.of_not_eq_false open_⟩)
    · unfold IncidentState.createAlert
      dsimp only
      refine ⟨_, ?_, rfl⟩
      exact ⟨rfl, rfl, .head _, rfl, rfl⟩

theorem alarmsRaised_nil (nodeCode : String) (alerts : List Alert) :
    AlarmsRaised nodeCode [] alerts [] [] alerts := by
  refine ⟨List.append_nil _, fun some => absurd rfl some, fun few => few, le_rfl, ?_, ?_, ?_,
    ?_⟩
  · nofun
  · nofun
  · nofun
  · intro node type
    exact le_max_right _ _

theorem AlarmsRaised.known (raised : AlarmsRaised nodeCode types alerts new dropped kept)
    (known : ∃ alert ∈ kept, alert.openOn nodeCode type = true) :
    AlarmsRaised nodeCode (types ++ [type]) alerts new dropped kept := by
  have few := raised.few
  refine { raised with few := ?_, fresh := fun alert member => ?_, covered := ?_ }
  · rw [List.length_append]
    omega
  · exact (raised.fresh alert member).mono fun type given => List.mem_append_left _ given
  · intro other given
    rcases Serial.of_mem_concat given with earlier | rfl
    · exact raised.covered other earlier
    · obtain ⟨alert, member, open_⟩ := known
      rw [raised.split]
      exact ⟨alert, List.mem_append_right _ member, open_⟩

theorem AlarmsRaised.add (raised : AlarmsRaised nodeCode types alerts new dropped kept)
    (unknown : ∀ alert ∈ kept, alert.openOn nodeCode type = false)
    (added : alert.Raised nodeCode [type]) :
    ∃ cut, AlarmsRaised nodeCode (types ++ [type]) alerts (new ++ [alert]) (dropped ++ cut)
      (keepLast 120 (kept ++ [alert])) := by
  obtain ⟨cut, split, full⟩ := keepLast_split 120 (kept ++ [alert])
  have own : alert.alertType = type := List.mem_singleton.mp added.type
  have few := raised.few
  refine ⟨cut, ?_, ?_, fun _ => length_keepLast_le 120 _, ?_, ?_, ?_, ?_, ?_⟩
  · rw [← List.append_assoc, raised.split, List.append_assoc, List.append_assoc, ← split]
  · intro some
    by_cases none : cut = []
    · have older : dropped ≠ [] := by
        rintro rfl
        exact some (by rw [none]; rfl)
      have length := raised.full older
      have bound := length_keepLast_le 120 (kept ++ [alert])
      have all := congrArg List.length split
      rw [none, List.nil_append, List.length_append, List.length_singleton] at all
      omega
    · exact full none
  · rw [List.length_append, List.length_append, List.length_singleton, List.length_singleton]
    omega
  · intro other member
    rcases Serial.of_mem_concat member with earlier | rfl
    · exact (raised.fresh other earlier).mono fun type given => List.mem_append_left _ given
    · exact added.mono fun type given => List.mem_append_right _ given
  · intro other given
    rw [← List.append_assoc]
    rcases Serial.of_mem_concat given with earlier | rfl
    · obtain ⟨known, member, open_⟩ := raised.covered other earlier
      exact ⟨known, List.mem_append_left _ member, open_⟩
    · rw [← own]
      exact ⟨alert, List.mem_append_right _ (.head _), added.reports.1⟩
  · intro other member known
    rcases Serial.of_mem_concat member with earlier | rfl
    · obtain ⟨old, there, open_⟩ := raised.lacking other earlier known
      exact ⟨old, List.mem_append_left _ there, open_⟩
    · rw [own] at known ⊢
      obtain ⟨old, there, open_⟩ := known
      have placed : old ∈ dropped ++ kept := raised.split ▸ List.mem_append_left _ there
      rcases List.mem_append.mp placed with gone | still
      · exact ⟨old, List.mem_append_left _ gone, open_⟩
      · rw [unknown old still] at open_
        cases open_
  · intro node other
    have fewer := (keepLast_sublist 120 (kept ++ [alert])).countP_le
      (p := Alert.openOn node other)
    rw [List.countP_append, List.countP_singleton] at fewer
    have before := raised.single node other
    by_cases same : alert.openOn node other = true
    · obtain ⟨at_, kind, -⟩ := openOn_iff.mp same
      have node_ : nodeCode = node := added.node.symm.trans at_
      have type_ : type = other := own.symm.trans kind
      have none : kept.countP (Alert.openOn node other) = 0 := by
        rw [List.countP_eq_zero]
        intro old member open_
        rw [← node_, ← type_, unknown old member] at open_
        cases open_
      rw [if_pos same, none] at fewer
      exact fewer.trans (le_max_left _ _)
    · rw [if_neg same] at fewer
      omega

theorem alarms_raised (env : StoreEnv) (store : MemoryStore) (nodeCode : String)
    (production : Fields) (alerts : List Alert) (alarms : List Fields) :
    ∃ new dropped, AlarmsRaised nodeCode (alarms.map (alarmTypeOf env)) alerts new dropped
      (alarms.foldl (raiseAlarm env store nodeCode production) alerts) := by
  induction alarms using List.reverseRecOn with
  | nil => exact ⟨[], [], alarmsRaised_nil nodeCode alerts⟩
  | append_singleton alarms alarm ih =>
    obtain ⟨new, dropped, raised⟩ := ih
    rw [List.foldl_append, List.foldl_cons, List.foldl_nil, List.map_append, List.map_singleton]
    rcases raiseAlarm_cases env store nodeCode production
      (alarms.foldl (raiseAlarm env store nodeCode production) alerts) alarm with
      ⟨known, same⟩ | ⟨unknown, alert, added, grown⟩
    · rw [same]
      exact ⟨new, dropped, raised.known known⟩
    · rw [grown]
      obtain ⟨cut, raised⟩ := raised.add unknown added
      exact ⟨_, _, raised⟩

theorem recoverAlert_open (open_ : (recoverAlert nodeCode incoming alert).status.active = true) :
    recoverAlert nodeCode incoming alert = alert ∧
      (alert.nodeCode = nodeCode → alert.source = "node-heartbeat" →
        alert.alertType ∈ incoming ∨ alert.handledBy = some "human-required") := by
  unfold recoverAlert at open_ ⊢
  split at open_
  next => cases open_
  next stays =>
    rw [if_neg stays]
    refine ⟨rfl, fun node source => ?_⟩
    by_contra neither
    rw [not_or] at neither
    exact stays ⟨node, source, neither.1, open_, neither.2⟩

theorem recoverAlert_stays (stays : alert.foreign nodeCode = true ∨ alert.alertType ∈ incoming ∨
      alert.handledBy = some "human-required") :
    recoverAlert nodeCode incoming alert = alert := by
  unfold recoverAlert
  rw [if_neg]
  rintro ⟨node, source, missing, -, unmarked⟩
  rcases stays with other | given | marked
  · unfold Alert.foreign at other
    rw [node, source] at other
    simp at other
  · exact missing given
  · exact unmarked marked

theorem recoverAlert_foreign : (recoverAlert nodeCode incoming alert).foreign nodeCode =
    alert.foreign nodeCode := by
  unfold recoverAlert
  split <;> rfl

theorem filter_recovered : (kept.map (recoverAlert nodeCode incoming)).filter
    (Alert.foreign nodeCode) = kept.filter (Alert.foreign nodeCode) := by
  rw [List.filter_map]
  have same : (Alert.foreign nodeCode ∘ recoverAlert nodeCode incoming) =
      Alert.foreign nodeCode := by
    funext alert
    exact recoverAlert_foreign
  rw [same]
  refine (List.map_congr_left fun alert member => ?_).trans (List.map_id _)
  exact recoverAlert_stays (.inl (List.mem_filter.mp member).2)

theorem countP_recovered_le (node type : String) :
    (kept.map (recoverAlert nodeCode incoming)).countP (Alert.openOn node type) ≤
      kept.countP (Alert.openOn node type) := by
  rw [List.countP_map]
  refine List.countP_mono_left fun alert _ open_ => ?_
  have active := (openOn_iff.mp open_).2.2
  have open_ : (recoverAlert nodeCode incoming alert).openOn node type = true := open_
  rwa [(recoverAlert_open active).1] at open_

theorem reports_of_recovered
    (reports : (recoverAlert nodeCode incoming alert).reports nodeCode type) :
    alert.reports nodeCode type ∧
      (type ∈ incoming ∨ alert.handledBy = some "human-required") := by
  have active := (openOn_iff.mp reports.1).2.2
  obtain ⟨same, why⟩ := recoverAlert_open active
  rw [same] at reports
  obtain ⟨node, own, -⟩ := openOn_iff.mp reports.1
  rw [← own]
  exact ⟨own ▸ reports, why node reports.2⟩

theorem AlarmsRaised.mirrored (raised : AlarmsRaised nodeCode incoming alerts new dropped kept) :
    AlarmsMirrored nodeCode incoming alerts (kept.map (recoverAlert nodeCode incoming))
      dropped := by
  have placed : ∀ alert, alert ∈ alerts ∨ alert ∈ new ↔ alert ∈ dropped ∨ alert ∈ kept := by
    intro alert
    rw [← List.mem_append, raised.split, List.mem_append]
  have sound : ∀ type, (∃ alert ∈ kept.map (recoverAlert nodeCode incoming),
      alert.reports nodeCode type) → ∃ alert ∈ kept, alert.reports nodeCode type ∧
        (type ∈ incoming ∨ alert ∈ alerts ∧ alert.handledBy = some "human-required") := by
    rintro type ⟨_, member, reports⟩
    obtain ⟨alert, there, rfl⟩ := List.mem_map.mp member
    obtain ⟨reports, why⟩ := reports_of_recovered reports
    refine ⟨alert, there, reports, why.imp_right fun marked => ⟨?_, marked⟩⟩
    rcases (placed alert).mpr (.inr there) with old | fresh
    · exact old
    · rw [(raised.fresh alert fresh).handled] at marked
      cases marked
  refine ⟨⟨new, kept, raised.split, rfl, raised.few, raised.fresh⟩, ?_, ?_, ?_, ?_, ?_, ?_⟩
  · rw [List.length_map]
    exact raised.full
  · rw [List.length_map]
    exact raised.bounded
  · intro type given
    obtain ⟨alert, -, reports, why⟩ := sound type given
    exact why.imp_right fun ⟨old, marked⟩ => ⟨alert, old, reports, marked⟩
  · intro closed type
    have stays : ∀ alert : Alert, alert ∈ alerts ∨ alert ∈ new →
        alert.openOn nodeCode type = true → alert ∈ kept := by
      intro alert listed open_
      obtain ⟨node, -, active⟩ := openOn_iff.mp open_
      refine ((placed alert).mp listed).resolve_left fun gone => ?_
      rw [closed alert gone node] at active
      cases active
    constructor
    · intro given
      obtain ⟨alert, there, reports, why⟩ := sound type given
      rcases why with given | ⟨old, marked⟩
      · refine .inl ⟨given, ?_⟩
        rcases (placed alert).mpr (.inr there) with old | fresh
        · exact .inl ⟨alert, old, reports⟩
        · refine .inr fun known => ?_
          have own : alert.alertType = type := (openOn_iff.mp reports.1).2.1
          obtain ⟨gone, dropped, open_⟩ := raised.lacking alert fresh (own ▸ known)
          obtain ⟨node, -, active⟩ := openOn_iff.mp open_
          rw [closed gone dropped node] at active
          cases active
      · exact .inr ⟨alert, old, reports, marked⟩
    · have remains : ∀ alert : Alert, alert ∈ alerts ∨ alert ∈ new → alert.reports nodeCode type →
          (type ∈ incoming ∨ alert.handledBy = some "human-required") →
          ∃ alert ∈ kept.map (recoverAlert nodeCode incoming), alert.reports nodeCode type := by
        intro alert listed reports why
        have own : alert.alertType = type := (openOn_iff.mp reports.1).2.1
        have same : recoverAlert nodeCode incoming alert = alert :=
          recoverAlert_stays (.inr (own ▸ why))
        exact ⟨alert, List.mem_map.mpr ⟨alert, stays alert listed reports.1, same⟩, reports⟩
      rintro (⟨given, ⟨alert, old, reports⟩ | unknown⟩ | ⟨alert, old, reports, marked⟩)
      · exact remains alert (.inl old) reports (.inl given)
      · obtain ⟨alert, member, open_⟩ := raised.covered type given
        rcases List.mem_append.mp member with old | fresh
        · exact absurd ⟨alert, old, open_⟩ unknown
        · exact remains alert (.inr fresh) ⟨open_, (raised.fresh alert fresh).source⟩ (.inl given)
      · exact remains alert (.inl old) reports (.inr marked)
  · intro node type
    exact (countP_recovered_le node type).trans (raised.single node type)
  · have none : new.filter (Alert.foreign nodeCode) = [] := by
      rw [List.filter_eq_nil_iff]
      intro alert member other
      unfold Alert.foreign at other
      rw [(raised.fresh alert member).node, (raised.fresh alert member).source] at other
      simp at other
    have parts := congrArg (List.filter (Alert.foreign nodeCode)) raised.split
    rw [List.filter_append, List.filter_append, none, List.append_nil] at parts
    rw [filter_recovered, parts]

inductive HeartbeatAccepted (env : HeartbeatEnv) (now : Timestamp) (payload : Fields)
    (system later : HeartbeatSystem) : Prop
  | durable {answer : HeartbeatReply × FlowReply}
      (done : recordHeartbeatDurably env now payload system = .ok answer later)
  | projected {answer : HeartbeatReply × FlowReply}
      (checked : checkReported env.control.store system.control.store payload = .ok ())
      (done : projectHeartbeat env now payload system = .ok answer later)

section Accepted

variable {env : HeartbeatEnv} {now : Timestamp} {payload : Fields}
  {system later : HeartbeatSystem}

def SameAlerts (system system' : HeartbeatSystem) : Prop := system'.alerts = system.alerts

instance : IsPreorder HeartbeatSystem SameAlerts where
  refl _ := rfl
  trans _ _ _ one two := Eq.trans two one

theorem observeHeartbeat_alerts :
    Procedure.Keeps SameAlerts (observeHeartbeat env now payload) := by
  refine keeps_bind refl fun system => ?_
  refine keeps_bind (keeps_onStore (fun _ _ => rfl) _) fun _ => ?_
  exact keeps_onControl (fun _ _ => rfl) _

theorem projectHeartbeat_alerts {answer : HeartbeatReply × FlowReply}
    (done : projectHeartbeat env now payload system = .ok answer later) :
    ∃ store, later.alerts = alertsAfter env.control.store store payload system.alerts := by
  obtain ⟨reply, recorded, first, done⟩ := of_bind done
  obtain ⟨_, observed, second, done⟩ := of_bind done
  obtain ⟨_, written, third, done⟩ := of_bind done
  cases done
  cases third
  have one : SameAlerts system recorded := by
    have kept := keeps_onStore (R := SameAlerts) (fun _ _ => rfl)
      (recordNodeHeartbeatV2 env.control.store now payload) system
    rwa [after_ok first] at kept
  have two : SameAlerts recorded observed := by
    have kept := @observeHeartbeat_alerts env now payload recorded
    rwa [after_ok second] at kept
  refine ⟨observed.control.store, ?_⟩
  rw [show system.alerts = observed.alerts from (two.trans one).symm]

theorem HeartbeatAccepted.recorded_alerts
    (accepted : HeartbeatAccepted env now payload system later) :
    ∃ store, later.alerts = alertsAfter env.control.store store payload system.alerts := by
  cases accepted with
  | projected checked done => exact projectHeartbeat_alerts done
  | durable done =>
    obtain ⟨_, _, first, done⟩ := of_bind done
    cases first
    obtain ⟨_, checked, second, done⟩ := of_bind done
    obtain ⟨_, persisted, third, done⟩ := of_bind done
    have two : SameAlerts system checked := by
      have kept := keeps_onStore (R := SameAlerts) (fun _ _ => rfl)
        (lift (checkReported env.control.store system.control.store payload)) system
      rwa [after_ok second] at kept
    have three : SameAlerts checked persisted := by
      have kept : Procedure.Keeps SameAlerts (persistHeartbeatShadow env now payload) := by
        refine keeps_transact fun before answer after written => ?_
        split at written
        next => cases written; rfl
        next => cases written
      have kept := kept checked
      rwa [after_ok third] at kept
    obtain ⟨store, same⟩ := projectHeartbeat_alerts done
    refine ⟨store, ?_⟩
    rw [same, show persisted.alerts = system.alerts from three.trans two]

/-- After a heartbeat the open alerts that heartbeats have raised for its node are those of its
alarms, unless an alert of another source stands for one, and those marked for a human; no other
alert changes, and only the oldest of more than 120 are dropped. -/
theorem heartbeat_alarms_mirrored (accepted : HeartbeatAccepted env now payload system later) :
    ∃ dropped, AlarmsMirrored (env.control.store.builtins.text (payload.get "node_code"))
      (incomingTypes env.control.store payload) system.alerts later.alerts dropped := by
  obtain ⟨store, same⟩ := accepted.recorded_alerts
  obtain ⟨new, dropped, raised⟩ := alarms_raised env.control.store store
    (env.control.store.builtins.text (payload.get "node_code")) (payload.get "production").dict
    system.alerts (reportedAlarms payload)
  rw [same]
  exact ⟨dropped, raised.mirrored⟩

end Accepted

def sampleAlarmReport : NodeHeartbeatV2In where
  nodeCode := "milling-workshop-01"
  alarms := [[("type", .str "SPINDLE_TEMP_HIGH")]]

def sampleAlarms : Fields := sampleAlarmReport.recorded "simulation"

def sampleIncidents : IncidentState := ⟨.empty, [], .empty⟩

def sampleEscalatedAlerts : List Alert :=
  (escalateToHuman sampleHeartbeatEnv.control.store sampleIncidents 0 "milling-workshop-01"
    "SPINDLE_TEMP_HIGH" "").alerts

def sampleDiskAlerts (nodeCode : String) (count : Nat) : List Alert :=
  ((List.range count).foldl (fun state _ => state.createAlert sampleHeartbeatEnv.control.store
    nodeCode "disk_pressure" .low "" (some "script")) sampleIncidents).alerts

theorem sampleAlarms_accepted {alerts : List Alert} (returned : returns
    (recordHeartbeatDurably sampleHeartbeatEnv 0 sampleAlarms) { alerts } = true) :
    ∃ later, HeartbeatAccepted sampleHeartbeatEnv 0 sampleAlarms { alerts } later ∧
      ∃ dropped, AlarmsMirrored "milling-workshop-01" ["SPINDLE_TEMP_HIGH"] alerts
        later.alerts dropped := by
  obtain ⟨answer, done⟩ := exists_ok_of_returns returned
  refine ⟨_, .durable done, ?_⟩
  obtain ⟨store, same⟩ := (HeartbeatAccepted.durable done).recorded_alerts
  obtain ⟨new, dropped, raised⟩ := alarms_raised sampleHeartbeatEnv.control.store store
    "milling-workshop-01" (sampleAlarms.get "production").dict alerts (reportedAlarms sampleAlarms)
  rw [same]
  exact ⟨dropped, raised.mirrored⟩

theorem few_not_dropped {later : List Alert}
    (mirrored : AlarmsMirrored nodeCode incoming alerts later dropped)
    (few : alerts.length + incoming.length ≤ 120) : dropped = [] := by
  by_contra some
  have full := mirrored.full some
  obtain ⟨new, kept, split, rfl, less, -⟩ := mirrored.listed
  have lengths := congrArg List.length split
  rw [List.length_append, List.length_append] at lengths
  rw [List.length_map] at full
  have one := List.length_pos_iff.mpr some
  omega

theorem full_list_loses {later : List Alert}
    (mirrored : AlarmsMirrored nodeCode incoming alerts later dropped)
    (full : alerts.length = 120) (others : ∀ alert ∈ alerts, alert.foreign nodeCode = true)
    (given : type ∈ incoming) (unknown : ¬∃ alert ∈ alerts, alert.openOn nodeCode type = true) :
    later.filter (Alert.foreign nodeCode) ≠ alerts.filter (Alert.foreign nodeCode) := by
  intro same
  have parts := mirrored.others
  rw [same, List.self_eq_append_left] at parts
  have none : dropped = [] := by
    obtain ⟨new, kept, split, -⟩ := mirrored.listed
    cases dropped with
    | nil => rfl
    | cons first rest =>
      cases alerts with
      | nil => cases full
      | cons alert alerts =>
        have head : alert = first := (List.cons.inj split).1
        rw [List.filter_cons, if_pos (head ▸ others alert (.head _))] at parts
        cases parts
  subst none
  obtain ⟨alert, member, reports⟩ := (mirrored.complete (by
    intro alert absent
    cases absent) type).mpr (.inl ⟨given, .inr unknown⟩)
  rw [List.filter_eq_self.mpr others] at same
  have bound := mirrored.bounded full.le
  have whole : later.filter (Alert.foreign nodeCode) = later :=
    List.filter_sublist.eq_of_length_le (by rw [same, full]; exact bound)
  have other := List.filter_eq_self.mp whole alert member
  unfold Alert.foreign at other
  rw [(openOn_iff.mp reports.1).1, reports.2] at other
  simp at other

/-- An alert of another source stands for an alarm, two alerts of the same type stay open, and the
oldest alert of another node is dropped. -/
theorem alarms_not_always_mirrored :
    (∃ later, HeartbeatAccepted sampleHeartbeatEnv 0 sampleAlarms
        { alerts := sampleEscalatedAlerts } later ∧
      ¬∃ alert ∈ later.alerts, alert.reports "milling-workshop-01" "SPINDLE_TEMP_HIGH") ∧
    (∃ later, HeartbeatAccepted sampleHeartbeatEnv 0 sampleAlarms
        { alerts := sampleDiskAlerts "milling-workshop-01" 2 } later ∧
      1 < later.alerts.countP (Alert.openOn "milling-workshop-01" "disk_pressure")) ∧
    ∃ later, HeartbeatAccepted sampleHeartbeatEnv 0 sampleAlarms
        { alerts := sampleDiskAlerts "turning-workshop-01" 120 } later ∧
      later.alerts.filter (Alert.foreign "milling-workshop-01") ≠
        (sampleDiskAlerts "turning-workshop-01" 120).filter
          (Alert.foreign "milling-workshop-01") := by
  refine ⟨?_, ?_, ?_⟩
  · obtain ⟨later, accepted, dropped, mirrored⟩ :=
      @sampleAlarms_accepted sampleEscalatedAlerts (by decide +kernel)
    refine ⟨later, accepted, fun reported => ?_⟩
    cases few_not_dropped mirrored (by decide +kernel)
    have sources : ∀ alert ∈ sampleEscalatedAlerts, alert.source ≠ "node-heartbeat" := by
      decide +kernel
    have known : ∃ alert ∈ sampleEscalatedAlerts,
        alert.openOn "milling-workshop-01" "SPINDLE_TEMP_HIGH" = true := by decide +kernel
    have closed : ∀ alert ∈ ([] : List Alert), alert.nodeCode = "milling-workshop-01" →
        alert.status.active = false := by
      intro alert absent
      cases absent
    rcases (mirrored.complete closed _).mp reported with ⟨-, ⟨alert, old, reports⟩ | unknown⟩ |
      ⟨alert, old, reports, -⟩
    · exact sources alert old reports.2
    · exact unknown known
    · exact sources alert old reports.2
  · obtain ⟨later, accepted, dropped, mirrored⟩ :=
      @sampleAlarms_accepted (sampleDiskAlerts "milling-workshop-01" 2) (by decide +kernel)
    refine ⟨later, accepted, ?_⟩
    cases few_not_dropped mirrored (by decide +kernel)
    have two : 1 < ((sampleDiskAlerts "milling-workshop-01" 2).filter
        (Alert.foreign "milling-workshop-01")).countP
          (Alert.openOn "milling-workshop-01" "disk_pressure") := by decide +kernel
    have others := mirrored.others
    rw [List.filter_nil, List.nil_append] at others
    rw [others] at two
    exact two.trans_le (List.filter_sublist.countP_le)
  · obtain ⟨later, accepted, dropped, mirrored⟩ :=
      @sampleAlarms_accepted (sampleDiskAlerts "turning-workshop-01" 120) (by decide +kernel)
    refine ⟨later, accepted, full_list_loses mirrored (by decide +kernel) (by decide +kernel)
      (.head _) (by decide +kernel)⟩

theorem sampleAlarms_mirrored : ∃ later, ∃ dropped,
    AlarmsMirrored "milling-workshop-01" ["SPINDLE_TEMP_HIGH"] sampleEscalatedAlerts
      (HeartbeatSystem.alerts later) dropped := by
  obtain ⟨later, accepted, -⟩ := @sampleAlarms_accepted sampleEscalatedAlerts (by decide +kernel)
  exact ⟨later, heartbeat_alarms_mirrored accepted⟩

end MiniOgas
