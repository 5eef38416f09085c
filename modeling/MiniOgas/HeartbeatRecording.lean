import MiniOgas.TransportContract
import MiniOgas.FlowVerification
import MiniOgas.Escalations
import MiniOgas.RouteLaws
import MiniOgas.PartDeadEnd

namespace MiniOgas

open Bounded Procedure Serial

/-- What `record_node_heartbeat_v2` raises. -/
inductive HeartbeatFault where
  | store (fault : StoreFault)
  | service (fault : ServiceFault)

def HeartbeatFault.isValueError : HeartbeatFault → Bool
  | .store fault => fault.isValueError
  | .service (.control (.valueError _)) => true
  | .service _ => false

structure HeartbeatSystem where
  control : ControlState := .empty
  transport : TransportStore := ⟨.empty, []⟩
  alerts : List Alert := []

/-- What a heartbeat relies on; the texts of `uuid.uuid4` are not empty. -/
structure HeartbeatEnv where
  control : ControlEnv
  facts : FactEnv
  readers : Readers
  natsEnabled : Bool
  shared : facts.store = control.store
  named : ∀ n, control.store.uuid n ≠ ""

abbrev HeartbeatProcedure (α : Type) := Procedure HeartbeatFault HeartbeatSystem α

namespace HeartbeatSystem

def setStore (system : HeartbeatSystem) (store : MemoryStore) : HeartbeatSystem :=
  { system with control := { system.control with store } }

def setControl (system : HeartbeatSystem) (control : ControlState) : HeartbeatSystem :=
  { system with control }

end HeartbeatSystem

def onStore {α : Type} (p : StoreProcedure α) : HeartbeatProcedure α :=
  within (·.control.store) HeartbeatSystem.setStore HeartbeatFault.store p

def onControl {α : Type} (p : ControlProcedure α) : HeartbeatProcedure α :=
  within (·.control) HeartbeatSystem.setControl HeartbeatFault.service p

section Observations

variable (env : StoreEnv)

/-- `int(reported.get(key) or 0)`. -/
def readCount (value : Json) : Except StoreFault Int :=
  let value := value.or (.int 0)
  orFault (env.builtins.integer value) (conversionFault value)

/-- What `part_queue_flow_projection` reads of a production. -/
def readWip (production : Fields) : Except StoreFault Unit := do
  let _ ← readCount env (production.get "wip_input")
  let _ ← readCount env (production.get "wip_output")

/-- What the `system_production` of `_observe_command_effects_locked` reads. -/
def readSystemProduction (store : MemoryStore) : Except StoreFault Unit :=
  (verificationBaseline store).forM fun item => readWip env item.2

end Observations

section Alarms

variable (env : StoreEnv)

def heartbeatAlarmSeverity (value : String) : Severity :=
  let normalized := (strip value).toLower
  if normalized ∈ ["critical", "高危"] then .critical
  else if normalized ∈ ["high", "高"] then .high
  else if normalized ∈ ["low", "低"] then .low
  else .medium

/-- `f"{production.get(key, other)}"`. -/
def reportedText (production : Fields) (key : String) (other : Json) : String :=
  env.builtins.text ((production.lookup key).getD other)

def heartbeatAlarmDescription (nodeCode alertType : String) (production : Fields) : String :=
  let machine := textOr env (production.get "machine_code") nodeCode
  match alertType with
  | "SPINDLE_TEMP_HIGH" =>
    machine ++ " 主轴温度 " ++ reportedText env production "spindle_temp" (.str "未上报") ++
      " C，建议停机检查冷却、轴承与润滑。"
  | "TOOL_WEAR_WARNING" =>
    machine ++ " 刀具/砂轮磨损 " ++ reportedText env production "tool_wear_level" (.str "未上报") ++
      "%，建议降速并安排更换。"
  | "QUALITY_DRIFT" =>
    machine ++ " 良品率漂移，产量 " ++ reportedText env production "finished_quantity" (.int 0) ++
      "，缺陷 " ++ reportedText env production "defect_quantity" (.int 0) ++ "。"
  | "VIBRATION_HIGH" => machine ++ " 振动异常，建议暂停加工并检查夹具、刀具与主轴。"
  | "COOLANT_FLOW_LOW" => machine ++ " 冷却液流量偏低，建议降载并检查冷却泵与液位。"
  | _ => nodeCode ++ " v2 心跳上报报警 " ++ alertType ++ "。"

def alarmTypeOf (alarm : Fields) : String := textOr env (alarm.get "type") "UNKNOWN_ALARM"

def reportedAlarms (payload : Fields) : List Fields :=
  (payload.get "alarms").list.filterMap fun alarm =>
    match alarm with
    | .obj fields => some fields
    | _ => none

def raiseAlarm (store : MemoryStore) (nodeCode : String) (production : Fields)
    (alerts : List Alert) (alarm : Fields) : List Alert :=
  let alertType := alarmTypeOf env alarm
  if alerts.any fun alert =>
      alert.nodeCode = nodeCode && alert.alertType = alertType && alert.status.active then alerts
  else
    (IncidentState.createAlert env ⟨store, alerts, .empty⟩ nodeCode alertType
      (heartbeatAlarmSeverity (textOr env (alarm.get "severity") "medium"))
      (heartbeatAlarmDescription env nodeCode alertType production) none "node-heartbeat").alerts

def recoverAlert (nodeCode : String) (incoming : List String) (alert : Alert) : Alert :=
  if alert.nodeCode = nodeCode ∧ alert.source = "node-heartbeat" ∧ alert.alertType ∉ incoming ∧
      alert.status.active = true ∧ alert.handledBy ≠ some "human-required" then
    { alert with status := .resolved, handledBy := some "node-heartbeat-recovery" }
  else alert

def alertsAfter (store : MemoryStore) (payload : Fields) (alerts : List Alert) : List Alert :=
  let nodeCode := env.builtins.text (payload.get "node_code")
  let alarms := reportedAlarms payload
  let raised := alarms.foldl
    (raiseAlarm env store nodeCode (payload.get "production").dict) alerts
  raised.map (recoverAlert nodeCode (alarms.map (alarmTypeOf env)))

end Alarms

section Heartbeat

variable (env : HeartbeatEnv) (now : Timestamp) (payload : Fields)

/-- The checks of `record_node_heartbeat_v2` before its durable write. -/
def checkReported (env : StoreEnv) (store : MemoryStore) (payload : Fields) :
    Except StoreFault Unit := do
  check (payload.any (·.1 = "node_code")) (.keyError "node_code")
  let randomSeed ← intOrZero env ((payload.get "runtime").dict.get "random_seed")
  checkRun env store (runtimeText env payload "run_id") (runtimeText env payload "scenario_id")
    randomSeed

def receivedPayload : Fields := payload.set "_received_at" (.time now)

/-- `persist_heartbeat_shadow`, when persistence is on. -/
def persistHeartbeatShadow : HeartbeatProcedure Unit :=
  transact fun system =>
    match persistHeartbeatTransport env.facts env.readers now env.natsEnabled
      (receivedPayload now payload) system.transport with
    | .ok (_, transport) => .ok ((), { system with transport })
    | .error fault => .error (.store fault)

def observeHeartbeat : HeartbeatProcedure Unit := do
  let system ← get
  onStore (lift (readSystemProduction env.control.store system.control.store))
  onControl (observeNode env.control now (env.control.store.builtins.text (payload.get "node_code"))
    ((systemProduction env.control.store system.control.store).getD []))

/-- What `record_node_heartbeat_v2` does after its durable write; the checks before it pass
again. -/
def projectHeartbeat : HeartbeatProcedure (HeartbeatReply × FlowReply) := do
  let reply ← onStore (recordNodeHeartbeatV2 env.control.store now payload)
  observeHeartbeat env now payload
  modify fun system => { system with
    alerts := alertsAfter env.control.store system.control.store payload system.alerts }
  return reply

/-- `record_node_heartbeat_v2`. -/
def recordHeartbeatDurably : HeartbeatProcedure (HeartbeatReply × FlowReply) := do
  let system ← get
  onStore (lift (checkReported env.control.store system.control.store payload))
  persistHeartbeatShadow env now payload
  projectHeartbeat env now payload

end Heartbeat

structure SameRecords (system system' : HeartbeatSystem) : Prop where
  facts : system'.transport.facts = system.transport.facts
  outbox : system'.transport.outbox = system.transport.outbox
  nodes : system'.control.store.nodes = system.control.store.nodes
  machines : system'.control.store.machines = system.control.store.machines
  heartbeats : system'.control.store.nodeHeartbeatsV2 = system.control.store.nodeHeartbeatsV2
  parts : system'.control.store.partQueue = system.control.store.partQueue
  commands : system'.control.commands = system.control.commands
  alerts : system'.alerts = system.alerts

/-- A heartbeat that is refused with a `ValueError` changes none of the records. -/
def LeavesNoTrace (env : HeartbeatEnv) (now : Timestamp) (payload : Fields)
    (system : HeartbeatSystem) : Prop :=
  ∀ fault, reply (recordHeartbeatDurably env now payload) system = .error fault →
    fault.isValueError = true →
    SameRecords system (after (recordHeartbeatDurably env now payload) system)

/-- The checks of the durable write let a heartbeat pass. -/
def Persistable (env : HeartbeatEnv) (now : Timestamp) (payload : Fields)
    (system : HeartbeatSystem) : Prop :=
  Storable env.facts (receivedPayload now payload) system.transport.facts ∧
    (env.natsEnabled = true → ∃ occurred, Transportable env.facts.store.builtins env.readers now
      (receivedPayload now payload) occurred)

structure Admitted (env : HeartbeatEnv) (now : Timestamp) (payload : Fields)
    (system : HeartbeatSystem) : Prop where
  reported : checkReported env.control.store system.control.store payload = .ok ()
  persistable : Persistable env now payload system

section Readings

variable (env : StoreEnv)

/-- What `record_node_heartbeat_v2` reads for the machine of a node. -/
def readMachine (production : Fields) : Except StoreFault Unit := do
  let _ ← floatOrZero env (production.get "utilization")
  let _ ← reported (readFloat env) (production.get "tool_wear_level")
  let _ ← reported (readInt env) (production.get "finished_quantity")
  let _ ← reported (readInt env) (production.get "defect_quantity")

/-- `uptime` and `local_db_size_bytes`. -/
def readSizes (payload : Fields) : Except StoreFault Unit := do
  let _ ← intOrZero env ((payload.get "uptime_sec").or (payload.get "uptime_seconds"))
  let _ ← intOrZero env ((payload.get "sync").dict.get "local_db_size_bytes")

/-- What `record_node_heartbeat_v2` reads of its payload after the durable write. -/
def readReport (store : MemoryStore) (payload : Fields) : Except StoreFault Unit := do
  let nodeCode := env.builtins.text (payload.get "node_code")
  let production := (payload.get "production").dict
  let workshopType := textOr env (production.get "workshop_type") (inferWorkshopType nodeCode)
  readSizes env payload
  let _ ← readMetric env nodeCode workshopType (payload.get "metrics").dict production
  let _ ← enrichProduction env production (store.previousProduction nodeCode)
  readMachine env production

def readProjection (now : Timestamp) (store : MemoryStore) (payload : Fields) :
    Except StoreFault Unit := do
  readReport env store payload
  readSystemProduction env (store.heard env now payload)

end Readings

/-- No number that is read after the durable write, of the heartbeat or of the production of a
stored one, is refused with a `ValueError`. -/
def Readable (env : StoreEnv) (now : Timestamp) (store : MemoryStore) (payload : Fields) : Prop :=
  ∀ fault, readProjection env now store payload = .error fault → fault.isValueError = false

section Raises

variable {env : StoreEnv} {now : Timestamp} {store store' : MemoryStore} {nodeCode : String}
  {payload production : Fields} {fault : ControlFault}

theorem settled_reportMachine {workshopType status : String} :
    Procedure.Settled (reportMachine env nodeCode workshopType status production)
      (readMachine env production) := by
  refine settled_modify_bind _ fun _ => settled_modify_bind _ fun _ => ?_
  refine settled_lift_bind _ fun _ => settled_modify_bind _ fun _ => ?_
  refine settled_lift_bind _ fun _ => settled_modify_bind _ fun _ => ?_
  refine settled_lift_bind _ fun _ => settled_modify_bind _ fun _ => ?_
  exact settled_lift_bind _ fun _ _ => rfl

theorem readHeartbeat_checked (checked : checkReported env store payload = .ok ())
    (rest : Except StoreFault Unit) :
    (readHeartbeat env store payload >>= fun _ => rest) =
      readSizes env payload >>= fun _ => rest := by
  replace checked := Serial.of_then checked
  obtain ⟨seed, read, passes⟩ := Serial.of_bind checked
  unfold readHeartbeat readSizes
  rw [read, ok_bind, passes, ok_bind]
  cases intOrZero env ((payload.get "uptime_sec").or (payload.get "uptime_seconds")) with
  | error fault => rfl
  | ok uptime =>
    cases intOrZero env ((payload.get "sync").dict.get "local_db_size_bytes") with
    | error fault => rfl
    | ok size => rfl

theorem outcome_prepareHeartbeat (checked : checkReported env store payload = .ok ()) :
    outcome (prepareHeartbeat env now payload) store = readReport env store payload := by
  obtain ⟨_, named, -⟩ := Serial.of_bind checked
  unfold prepareHeartbeat readReport
  rw [outcome_lift_bind, named, ok_bind, ← readHeartbeat_checked checked]
  refine settled_lift_bind _ (fun report => ?_) store
  refine fun s => settled_lift_bind _ (fun metric => settled_lift_bind _ fun _ => ?_) _
  refine fun s => (outcome_bind_settled fun _ => ?_).trans (settled_reportMachine s)
  exact settled_modify_bind _ fun _ _ => rfl

theorem partsSound_createReadyPart (request : PartRequest) (store : MemoryStore)
    (sound : PartsSound store) : PartsSound (createReadyPart env store now request).2 :=
  (createReadyPart_append request).sound sound

theorem partsSound_claimNextPartForNode (ttlSeconds : Int) (store : MemoryStore)
    (sound : PartsSound store) :
    PartsSound (claimNextPartForNode env store now nodeCode ttlSeconds).2 := by
  obtain ⟨written, write⟩ := @claimNextPartForNode_write env _ now nodeCode sound ttlSeconds
  exact write.sound sound

theorem partsSound_completeClaimedPart (partId claimToken : String) :
    Procedure.Keeps (fun store store' => PartsSound store → PartsSound store')
      (transact fun store => completeClaimedPart store now nodeCode partId claimToken) := by
  refine keeps_transact fun store result store' completed sound => ?_
  obtain ⟨part, completable, finished⟩ := Serial.of_bind completed
  have moved : (result, store') = finishPart store now nodeCode part :=
    (Except.ok.inj finished).symm
  have after := @finishPart_sound _ now _ _ _ _ sound completable
  rwa [← moved] at after

theorem partsSound_advancePartFlow (production : Fields) :
    Procedure.Keeps (fun store store' => PartsSound store → PartsSound store')
      (advancePartFlowFromHeartbeat env now nodeCode production) :=
  keeps_advancePartFlow (fun _ _ sound => { sound with }) partsSound_createReadyPart
    (partsSound_claimNextPartForNode 30) partsSound_completeClaimedPart production

def SameHeartbeats (store store' : MemoryStore) : Prop :=
  store'.nodeHeartbeatsV2 = store.nodeHeartbeatsV2

instance : IsPreorder MemoryStore SameHeartbeats where
  refl _ := rfl
  trans _ _ _ one two := Eq.trans two one

theorem sameHeartbeats_createReadyPart (request : PartRequest) (store : MemoryStore) :
    SameHeartbeats store (createReadyPart env store now request).2 := by
  simp only [SameHeartbeats, createReadyPart, persistPartQueueItem, queuePart]

theorem sameHeartbeats_claimNextPartForNode (ttlSeconds : Int) (store : MemoryStore) :
    SameHeartbeats store (claimNextPartForNode env store now nodeCode ttlSeconds).2 := by
  unfold claimNextPartForNode SameHeartbeats
  dsimp only
  split <;> simp only [persistPartQueueItems]

theorem sameHeartbeats_completeClaimedPart {partId claimToken : String}
    {result : (PartQueueItem × Option PartQueueItem) × MemoryStore}
    (completed : completeClaimedPart store now nodeCode partId claimToken = .ok result) :
    SameHeartbeats store result.2 := by
  obtain ⟨part, -, finished⟩ := Serial.of_bind completed
  rw [← Except.ok.inj finished]
  unfold finishPart SameHeartbeats
  dsimp only
  split <;> simp only [persistPartQueueItems, persistPartQueueItem, queuePart]

theorem sameHeartbeats_advancePartFlow (production : Fields) :
    Procedure.Keeps SameHeartbeats (advancePartFlowFromHeartbeat env now nodeCode production) := by
  refine keeps_advancePartFlow (fun _ _ => rfl) sameHeartbeats_createReadyPart
    (sameHeartbeats_claimNextPartForNode 30) (fun partId claimToken => ?_) production
  exact keeps_transact fun _ _ _ completed => sameHeartbeats_completeClaimedPart completed

theorem completable_claimed (named : ∀ n, env.uuid n ≠ "") (sound : PartsSound store)
    {ttlSeconds : Int} {part : PartQueueItem}
    (h : claimNextPartForNode env store now nodeCode ttlSeconds = (some part, store')) :
    completablePart store' nodeCode part.partId part.claimToken = .ok part := by
  have first : (claimNextPartForNode env store now nodeCode ttlSeconds).1 = some part := by rw [h]
  obtain ⟨there, target, claimed, token, -⟩ := claimNextPartForNode_claimed first
  have later := @partsSound_claimNextPartForNode env now nodeCode ttlSeconds store sound
  rw [h] at there later
  refine completablePart_eq_ok.mpr ⟨?_, target, claimed, by rw [token]; exact named _, rfl⟩
  cases found : store'.partQueue.find? (·.partId = part.partId) with
  | none => simpa using List.find?_eq_none.mp found part there
  | some other =>
    obtain ⟨own, other_there, -⟩ := find_partId found
    rw [later.eq_of_partId other_there there own]

theorem returns_consumeParts (named : ∀ n, env.uuid n ≠ "") (n : Nat)
    (sound : PartsSound store) :
    ∃ completed store', consumeParts env now nodeCode n store = .ok completed store' := by
  induction n generalizing store with
  | zero => exact ⟨0, store, rfl⟩
  | succ n ih =>
    have claims : (modifyGet fun store => claimNextPartForNode env store now nodeCode 30 :
        StoreProcedure (Option PartQueueItem)) store =
        .ok (claimNextPartForNode env store now nodeCode 30).1
          (claimNextPartForNode env store now nodeCode 30).2 := rfl
    have later := @partsSound_claimNextPartForNode env now nodeCode 30 store sound
    unfold consumeParts
    rw [bind_ok claims]
    cases claimed : claimNextPartForNode env store now nodeCode 30 with
    | mk first queued =>
      rw [claimed] at later
      cases first with
      | none => exact ⟨0, queued, rfl⟩
      | some part =>
        have completable := completable_claimed named sound claimed
        have still := @finishPart_sound _ now _ _ _ _ later completable
        have completed : completeClaimedPart queued now nodeCode part.partId part.claimToken =
            .ok (finishPart queued now nodeCode part) :=
          Serial.bind_eq_ok.mpr ⟨part, completable, rfl⟩
        generalize finishPart queued now nodeCode part = finished at completed still
        obtain ⟨count, store', returned⟩ := ih still
        refine ⟨count + 1, store', ?_⟩
        dsimp only at returned ⊢
        rw [bind_ok (transact_ok completed), bind_ok returned]
        rfl

theorem returns_advancePartFlow (named : ∀ n, env.uuid n ≠ "") (sound : PartsSound store)
    (production : Fields) :
    returns (advancePartFlowFromHeartbeat env now nodeCode production) store = true := by
  unfold advancePartFlowFromHeartbeat
  split
  next => rfl
  next finished _ =>
    have later : PartsSound (advanceWatermark env nodeCode finished store).2 :=
      { sound with }
    have advanced : (modifyGet (advanceWatermark env nodeCode finished) :
        StoreProcedure (Option Int)) store =
        .ok (advanceWatermark env nodeCode finished store).1
          (advanceWatermark env nodeCode finished store).2 := rfl
    rw [returns_bind_ok advanced]
    cases (advanceWatermark env nodeCode finished store).1 with
    | none => rfl
    | some previous =>
      dsimp only
      split
      next => rfl
      next =>
        unfold movePartFlow
        split
        next => rfl
        next =>
          split
          next =>
            obtain ⟨completed, store', returned⟩ := @returns_consumeParts env now _ nodeCode named
              (min (finished - previous).toNat flowLimit) later
            rw [returns_bind_ok returned]
            rfl
          next => rfl

theorem recordNodeHeartbeatV2_cases (named : ∀ n, env.uuid n ≠ "") (sound : PartsSound store)
    (checked : checkReported env store payload = .ok ()) :
    (∃ fault store', recordNodeHeartbeatV2 env now payload store = .error fault store' ∧
      readReport env store payload = .error fault) ∨
    ∃ reply store', recordNodeHeartbeatV2 env now payload store = .ok reply store' ∧
      readReport env store payload = .ok () ∧
      store'.nodeHeartbeatsV2 = (store.heard env now payload).nodeHeartbeatsV2 := by
  have raised := @outcome_prepareHeartbeat env now store payload checked
  unfold recordNodeHeartbeatV2
  cases prepared : prepareHeartbeat env now payload store with
  | error fault store' =>
    rw [outcome_of_error prepared] at raised
    exact .inl ⟨fault, store', bind_error prepared, raised.symm⟩
  | ok reply store' =>
    rw [outcome_of_ok prepared] at raised
    have same := @sameParts_prepareHeartbeat env now payload store
    rw [after_ok prepared] at same
    obtain ⟨flow, flowed⟩ := exists_ok_of_returns (@returns_advancePartFlow env now store'
      (env.builtins.text (payload.get "node_code")) named (same.leaves.sound sound)
      (payload.get "production").dict)
    have heard := (@sameHeartbeats_advancePartFlow env now
      (env.builtins.text (payload.get "node_code")) (payload.get "production").dict store').trans
        (prepareHeartbeat_heard prepared)
    refine .inr ⟨(reply, flow), _, ?_, raised.symm, heard⟩
    rw [bind_ok prepared, bind_ok flowed]
    rfl

theorem partsSound_recordNodeHeartbeatV2 (payload : Fields) :
    Procedure.Keeps (fun store store' => PartsSound store → PartsSound store')
      (recordNodeHeartbeatV2 env now payload) := by
  refine keeps_bind (fun store sound => ?_) fun reply => ?_
  · exact (@sameParts_prepareHeartbeat env now payload store).leaves.sound sound
  · exact keeps_bind (partsSound_advancePartFlow _) fun flow _ sound => sound

/-- The step lemma: no call of the store breaks the invariant of the parts. -/
theorem partsSound_perform (call : StoreCall) (sound : PartsSound store) :
    PartsSound (after (call.perform env) store) := by
  obtain ⟨now, operation⟩ := call
  cases operation with
  | recordNodeHeartbeatV2 payload =>
    exact keeps_answer (partsSound_recordNodeHeartbeatV2 payload) store sound
  | createReadyPart request => exact partsSound_createReadyPart request store sound
  | claimNextPartForNode target ttlSeconds =>
    exact partsSound_claimNextPartForNode ttlSeconds store sound
  | releaseExpiredPartClaims => exact releaseExpiredPartClaims_write.sound sound
  | completeClaimedPart target partId claimToken =>
    exact keeps_answer (partsSound_completeClaimedPart partId claimToken) store sound
  | _ => exact (leavesParts_perform ⟨now, _⟩ rfl).sound sound

theorem readSystemProduction_congr (same : store'.nodeHeartbeatsV2 = store.nodeHeartbeatsV2) :
    readSystemProduction env store' = readSystemProduction env store := by
  unfold readSystemProduction verificationBaseline
  rw [same]

theorem pastObservations_fault {evidence : Fields} (h : pastObservations evidence = .error fault) :
    ∃ message, fault = .typeError message := by
  unfold pastObservations at h
  split at h
  next => cases h
  next =>
    split at h
    next => exact ⟨_, (Except.error.inj h).symm⟩
    next => cases h

theorem backlogValues_fault {builtins : Builtins} {items : List Json}
    (h : backlogValues builtins items = .error fault) : ∃ message, fault = .typeError message := by
  induction items with
  | nil => cases h
  | cons item items ih =>
    cases item with
    | obj fields =>
      rcases Serial.bind_eq_error.mp h with rest | ⟨values, -, h⟩
      · exact ih rest
      · split at h
        next => cases h
        next =>
          rcases Serial.bind_eq_error.mp h with unread | ⟨_, -, done⟩
          · unfold orFault at unread
            split at unread
            next => cases unread
            next => exact ⟨_, (Except.error.inj unread).symm⟩
          · cases done
    | _ => exact ⟨_, (Except.error.inj h).symm⟩

theorem observe_fault {verifier : CommandVerifier} {command : NodeCommand}
    {production : List (String × Fields)} {builtins : Builtins}
    (h : verifier.observe builtins now command production = .error fault) :
    ∃ message, fault = .typeError message := by
  unfold CommandVerifier.observe at h
  split at h
  next => cases h
  next =>
    split at h
    next => cases h
    next =>
      rcases Serial.bind_eq_error.mp h with past | ⟨past, -, h⟩
      · exact pastObservations_fault past
      · rcases Serial.bind_eq_error.mp h with values | ⟨backlogs, -, h⟩
        · exact backlogValues_fault values
        · dsimp only at h
          split at h <;> cases h

theorem observeCommandEffects_fault {control : ControlEnv} {commands : List NodeCommand}
    {production : List (String × Fields)}
    (h : (observeCommandEffects control now nodeCode production commands).1 = .error fault) :
    ∃ message, fault = .typeError message := by
  induction commands with
  | nil => cases h
  | cons command rest ih =>
    unfold observeCommandEffects at h
    split at h
    next => exact ih h
    next =>
      split at h
      next raised observed =>
        cases Except.error.inj h
        exact observe_fault observed
      next result updated observed =>
        dsimp only at h
        split at h
        next => exact ih h
        next =>
          cases later : (observeCommandEffects control now nodeCode production rest).1 with
          | error raised =>
            rw [later] at h
            cases Except.error.inj h
            exact ih later
          | ok observed =>
            rw [later] at h
            cases h

theorem observeNode_fault {control : ControlEnv} {state : ControlState}
    {production : List (String × Fields)} {fault : ServiceFault}
    (h : outcome (observeNode control now nodeCode production) state = .error fault) :
    HeartbeatFault.isValueError (.service fault) = false := by
  have got : (get : ControlProcedure ControlState) state = .ok state state := rfl
  unfold observeNode outcome reply at h
  rw [bind_ok got] at h
  cases observed : observeCommandEffects control now nodeCode production state.commands with
  | mk effects commands =>
    rw [observed] at h
    cases effects with
    | ok effects => cases h
    | error raised =>
      obtain ⟨message, rfl⟩ := observeCommandEffects_fault (congrArg Prod.fst observed)
      cases Except.error.inj h
      rfl

end Raises

end MiniOgas
