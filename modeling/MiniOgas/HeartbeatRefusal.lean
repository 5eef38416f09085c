import MiniOgas.HeartbeatRecording

namespace MiniOgas

open Bounded Procedure Serial

section Refusals

variable {env : HeartbeatEnv} {now : Timestamp} {payload : Fields} {system : HeartbeatSystem}
  {α : Type} {R : HeartbeatSystem → HeartbeatSystem → Prop}

theorem keeps_onStore (kept : ∀ system store, R system (system.setStore store))
    (p : StoreProcedure α) :
    Procedure.Keeps R (onStore p) :=
  keeps_within _ _ _ kept p

theorem keeps_onControl (kept : ∀ system control, R system (system.setControl control))
    (p : ControlProcedure α) :
    Procedure.Keeps R (onControl p) :=
  keeps_within _ _ _ kept p

theorem projectHeartbeat_transport :
    Procedure.Keeps (fun system system' => system'.transport = system.transport)
      (projectHeartbeat env now payload) := by
  have : IsPreorder HeartbeatSystem fun one two => two.transport = one.transport :=
    { refl := fun _ => rfl, trans := fun _ _ _ one two => two.trans one }
  refine keeps_bind (keeps_onStore (fun _ _ => rfl) _) fun reply => ?_
  refine keeps_bind ?_ fun _ => keeps_bind (fun _ => rfl) fun _ _ => rfl
  refine keeps_bind (fun _ => rfl) fun system => ?_
  refine keeps_bind (keeps_onStore (fun _ _ => rfl) _) fun _ => ?_
  exact keeps_onControl (fun _ _ => rfl) _

theorem onStore_lift (x : Except StoreFault α) :
    onStore (lift x) = lift (x.mapError HeartbeatFault.store) := by
  cases x <;> rfl

theorem outcome_observeHeartbeat :
    outcome (observeHeartbeat env now payload) system =
      (readSystemProduction env.control.store system.control.store).mapError .store >>= fun _ =>
        (outcome (observeNode env.control now
          (env.control.store.builtins.text (payload.get "node_code"))
          ((systemProduction env.control.store system.control.store).getD []))
          system.control).mapError .service := by
  have got : (get : HeartbeatProcedure HeartbeatSystem) system = .ok system system := rfl
  unfold observeHeartbeat
  rw [outcome_bind_ok got, onStore_lift, outcome_lift_bind]
  cases readSystemProduction env.control.store system.control.store with
  | error fault => rfl
  | ok => exact outcome_within _ _ _ _ system

theorem projectHeartbeat_raises (sound : PartsSound system.control.store)
    (checked : checkReported env.control.store system.control.store payload = .ok ()) :
    (∃ fault, readProjection env.control.store now system.control.store payload = .error fault ∧
      outcome (projectHeartbeat env now payload) system = .error (.store fault)) ∨
    readProjection env.control.store now system.control.store payload = .ok () ∧
      ∀ fault, outcome (projectHeartbeat env now payload) system = .error fault →
        fault.isValueError = false := by
  unfold projectHeartbeat readProjection
  rcases @recordNodeHeartbeatV2_cases _ now _ _ env.named sound checked with
    ⟨fault, store', raised, report⟩ | ⟨reply, store', returned, report, heard⟩
  · refine .inl ⟨fault, by rw [report]; rfl, ?_⟩
    exact outcome_of_error (bind_error (within_error _ _ _ raised))
  · have recorded : onStore (recordNodeHeartbeatV2 env.control.store now payload) system =
        .ok reply (system.setStore store') := within_ok _ _ _ returned
    rw [report, ok_bind, outcome_bind_ok recorded, ← readSystemProduction_congr heard,
      outcome_bind_settled fun _ => settled_modify_bind _ fun _ _ => rfl, outcome_observeHeartbeat]
    change (∃ fault, readSystemProduction env.control.store
      (system.setStore store').control.store = .error fault ∧ _) ∨ _
    cases wip : readSystemProduction env.control.store (system.setStore store').control.store with
    | error fault => exact .inl ⟨fault, rfl, rfl⟩
    | ok =>
      refine .inr ⟨wip, fun fault raised => ?_⟩
      cases observed : outcome (observeNode env.control now
          (env.control.store.builtins.text (payload.get "node_code"))
          ((systemProduction env.control.store (system.setStore store').control.store).getD []))
          (system.setStore store').control with
      | ok =>
        rw [observed] at raised
        cases raised
      | error service =>
        rw [observed] at raised
        rw [← Except.error.inj raised]
        exact observeNode_fault observed

theorem persistHeartbeatShadow_cases :
    (¬ Persistable env now payload system ∧
      ∃ fault, persistHeartbeatShadow env now payload system = .error fault system) ∨
    Persistable env now payload system ∧
      ∃ transport, persistHeartbeatShadow env now payload system =
          .ok () { system with transport } ∧
        transport.facts.lastId = system.transport.facts.lastId + 1 ∧
        transport.facts.receipts = system.transport.facts.receipts := by
  unfold Persistable
  have refused {fault : StoreFault}
      (h : persistHeartbeatTransport env.facts env.readers now env.natsEnabled
        (receivedPayload now payload) system.transport = .error fault) :
      persistHeartbeatShadow env now payload system = .error (.store fault) system := by
    exact transact_error (by rw [h])
  have stored (fact : HeartbeatFact) {transport : TransportStore}
      (h : persistHeartbeatTransport env.facts env.readers now env.natsEnabled
        (receivedPayload now payload) system.transport = .ok (fact, transport)) :
      persistHeartbeatShadow env now payload system = .ok () { system with transport } := by
    exact transact_ok (by rw [h])
  simp only [← buildHeartbeatEnvelope_isSome_iff]
  rcases persistHeartbeat_cases env.facts (receivedPayload now payload) system.transport.facts with
    ⟨unstorable, faults⟩ | ⟨storable, fact, written, rejected⟩
  · obtain ⟨fault, raised⟩ := faults ((if env.natsEnabled then buildHeartbeatEnvelope
      env.facts.store.builtins env.readers now (receivedPayload now payload) else none).isSome ||
        !env.natsEnabled)
    refine .inl ⟨fun passes => unstorable passes.1, .store fault, refused ?_⟩
    unfold persistHeartbeatTransport
    dsimp only
    rw [raised]
    rfl
  · cases nats : env.natsEnabled with
    | false =>
      refine .inr ⟨⟨storable, nofun⟩, ⟨system.transport.facts.writeFact env.facts fact,
        system.transport.outbox⟩, stored fact ?_, rfl, rfl⟩
      unfold persistHeartbeatTransport
      simp only [nats, Bool.false_eq_true, if_false, Option.isSome_none, Bool.not_false,
        Bool.or_true, written, ok_bind]
      rfl
    | true =>
      cases built : buildHeartbeatEnvelope env.facts.store.builtins env.readers now
          (receivedPayload now payload) with
      | none =>
        refine .inl ⟨fun passes => ?_, .store .validationError, refused ?_⟩
        · cases passes.2 rfl
        unfold persistHeartbeatTransport
        simp only [nats, if_true, built, Option.isSome_none, Bool.not_true, Bool.or_false,
          rejected]
        rfl
      | some envelope =>
        refine .inr ⟨⟨storable, fun _ => rfl⟩, ⟨system.transport.facts.writeFact env.facts fact,
          enqueueInTransaction envelope system.transport.outbox⟩, stored fact ?_, rfl, rfl⟩
        unfold persistHeartbeatTransport
        simp only [nats, if_true, built, Option.isSome_some, Bool.true_or, written, ok_bind]
        rfl

theorem recordHeartbeatDurably_cases :
    (¬ Admitted env now payload system ∧
      ∃ fault, recordHeartbeatDurably env now payload system = .error fault system) ∨
    Admitted env now payload system ∧ ∃ transport : TransportStore,
      transport.facts.lastId = system.transport.facts.lastId + 1 ∧
      transport.facts.receipts = system.transport.facts.receipts ∧
      recordHeartbeatDurably env now payload system =
        projectHeartbeat env now payload { system with transport } := by
  have got : (get : HeartbeatProcedure HeartbeatSystem) system = .ok system system := rfl
  unfold recordHeartbeatDurably
  rw [bind_ok got, onStore_lift]
  cases checked : checkReported env.control.store system.control.store payload with
  | error fault =>
    refine .inl ⟨fun admitted => ?_, .store fault, bind_error (lift_error rfl)⟩
    cases checked.symm.trans admitted.reported
  | ok =>
    have passes : (lift ((Except.ok () : Except StoreFault Unit).mapError HeartbeatFault.store) :
        HeartbeatProcedure Unit) system = .ok () system := rfl
    rw [bind_ok passes]
    rcases @persistHeartbeatShadow_cases env now payload system with
      ⟨unpersistable, fault, raised⟩ | ⟨persistable, transport, stored, counted, receipts⟩
    · exact .inl ⟨fun admitted => unpersistable admitted.persistable, fault, bind_error raised⟩
    · exact .inr ⟨⟨checked, persistable⟩, transport, counted, receipts, bind_ok stored⟩

theorem leavesNoTrace_iff (sound : PartsSound system.control.store) :
    LeavesNoTrace env now payload system ↔
      (Admitted env now payload system →
        Readable env.control.store now system.control.store payload) := by
  rcases @recordHeartbeatDurably_cases env now payload system with
    ⟨unadmitted, fault, refused⟩ | ⟨admitted, transport, counted, -, recorded⟩
  · refine iff_of_true (fun _ _ _ => ?_) fun admitted => absurd admitted unadmitted
    rw [after_error refused]
    exact ⟨rfl, rfl, rfl, rfl, rfl, rfl, rfl, rfl⟩
  · have raises := @projectHeartbeat_raises env now payload { system with transport } sound
      admitted.reported
    have written :
        (after (recordHeartbeatDurably env now payload) system).transport = transport := by
      unfold after
      rw [recorded]
      exact @projectHeartbeat_transport env now payload { system with transport }
    have replied : reply (recordHeartbeatDurably env now payload) system =
        reply (projectHeartbeat env now payload) { system with transport } := by
      unfold reply
      rw [recorded]
    constructor
    · intro traceless _ fault read
      rcases raises with ⟨raised, same, outcome⟩ | ⟨fine, -⟩
      · cases Except.error.inj (same.symm.trans read)
        rw [← Bool.not_eq_true]
        intro value
        have refused := replied.trans (outcome_eq_error.mp outcome)
        have still := (traceless (.store fault) refused value).facts
        rw [written] at still
        rw [still] at counted
        omega
      · cases fine.symm.trans read
    · intro condition fault raised value
      rw [replied] at raised
      have outcome := outcome_eq_error.mpr raised
      rcases raises with ⟨unread, read, refused⟩ | ⟨-, fine⟩
      · cases Except.error.inj (refused.symm.trans outcome)
        rw [HeartbeatFault.isValueError, condition admitted unread read] at value
        cases value
      · rw [fine fault outcome] at value
        cases value

inductive HeartbeatOperation where
  | heartbeat (payload : Fields)
  | store (operation : StoreOperation)
  | others (system : HeartbeatSystem)

structure HeartbeatCall where
  now : Timestamp
  operation : HeartbeatOperation

def HeartbeatCall.perform (env : HeartbeatEnv) (call : HeartbeatCall) : HeartbeatProcedure Unit :=
  match call.operation with
  | .heartbeat payload => do
    let _ ← recordHeartbeatDurably env call.now payload
  | .store operation => do
    let _ ← onStore (StoreCall.perform env.control.store ⟨call.now, operation⟩)
  | .others system => modify fun own => system.setStore own.control.store

def heartbeatAuthority (env : HeartbeatEnv) :
    Authority HeartbeatCall HeartbeatSystem (Except HeartbeatFault Unit) Empty :=
  serially (HeartbeatCall.perform env)

/-- The call is no heartbeat, or one that leaves no trace when it is refused. -/
def RefusalTraceless (env : HeartbeatEnv) (system : HeartbeatSystem) (call : HeartbeatCall) :
    Prop :=
  ∀ payload, call.operation = .heartbeat payload → LeavesNoTrace env call.now payload system

/-- The call is no heartbeat, or one that is refused before its durable write, or of which nothing
that is read after it is refused with a `ValueError`. -/
def RefusedInTime (env : HeartbeatEnv) (system : HeartbeatSystem) (call : HeartbeatCall) : Prop :=
  ∀ payload, call.operation = .heartbeat payload → Admitted env call.now payload system →
    Readable env.control.store call.now system.control.store payload

theorem project_store (control : ControlEnv) (observed : List NodeCommand)
    (state : ControlState) :
    (observed.foldl (ControlState.project control) state).store = state.store := by
  induction observed generalizing state with
  | nil => rfl
  | cons command rest ih =>
    rw [List.foldl_cons, ih]
    unfold ControlState.project
    split
    next => rfl
    next verdict _ =>
      unfold updateDispatchControlStatus
      split
      next => cases verdict <;> rfl
      next => rfl

theorem observeNode_store {control : ControlEnv} {nodeCode : String}
    {production : List (String × Fields)} (state : ControlState) :
    (after (observeNode control now nodeCode production) state).store = state.store := by
  have got : (get : ControlProcedure ControlState) state = .ok state state := rfl
  unfold observeNode
  rw [after_bind_ok got]
  cases observeCommandEffects control now nodeCode production state.commands with
  | mk effects commands =>
    cases effects with
    | ok observed => exact project_store control observed { state with commands := commands }
    | error fault => rfl

def KeepsSound (system system' : HeartbeatSystem) : Prop :=
  PartsSound system.control.store → PartsSound system'.control.store

instance : IsPreorder HeartbeatSystem KeepsSound where
  refl _ sound := sound
  trans _ _ _ one two sound := two (one sound)

theorem keepsSound_onStore {p : StoreProcedure α}
    (keeps : ∀ store, PartsSound store → PartsSound (after p store)) :
    Procedure.Keeps KeepsSound (onStore p) := by
  intro system sound
  unfold onStore
  rw [after_within]
  exact keeps _ sound

theorem keepsSound_projectHeartbeat :
    Procedure.Keeps KeepsSound (projectHeartbeat env now payload) := by
  refine keeps_bind (keepsSound_onStore (partsSound_recordNodeHeartbeatV2 payload)) fun reply => ?_
  refine keeps_bind ?_ fun _ =>
    keeps_bind (fun _ sound => sound) fun _ => refl
  refine keeps_bind refl fun system => ?_
  refine keeps_bind (keepsSound_onStore fun store sound => ?_) fun _ => ?_
  · cases readSystemProduction env.control.store system.control.store <;> exact sound
  · intro own sound
    unfold onControl
    rw [after_within]
    change PartsSound (after (observeNode _ _ _ _) own.control).store
    rw [observeNode_store]
    exact sound

theorem keepsSound_recordHeartbeatDurably :
    Procedure.Keeps KeepsSound (recordHeartbeatDurably env now payload) := by
  intro system sound
  rcases @recordHeartbeatDurably_cases env now payload system with
    ⟨-, fault, refused⟩ | ⟨-, transport, -, -, recorded⟩
  · rw [after_error refused]
    exact sound
  · have same : after (recordHeartbeatDurably env now payload) system =
        after (projectHeartbeat env now payload) { system with transport } := by
      unfold after
      rw [recorded]
    rw [same]
    exact keepsSound_projectHeartbeat { system with transport } sound

theorem keepsSound_perform (call : HeartbeatCall) :
    Procedure.Keeps KeepsSound (call.perform env) := by
  obtain ⟨now, operation⟩ := call
  cases operation with
  | heartbeat payload =>
    exact keeps_bind keepsSound_recordHeartbeatDurably fun _ => refl
  | store operation =>
    refine keeps_bind (keepsSound_onStore fun store sound => ?_)
      fun _ => refl
    exact partsSound_perform ⟨now, operation⟩ sound
  | others system => exact fun _ sound => sound

end Refusals

def sampleHeartbeatEnv : HeartbeatEnv where
  control := { sampleControlEnv with
    store := { sampleControlEnv.store with uuid := sampleMillingAgent.env.uuid } }
  facts := { sampleFactEnv with
    store := { sampleControlEnv.store with uuid := sampleMillingAgent.env.uuid }
    retentionPerNode := 0 }
  readers := sampleReaders
  natsEnabled := false
  shared := rfl
  named := sampleMillingAgent.named

/-- The payload that `ingest_agent_heartbeat` hands on, with the class of its source. -/
def NodeHeartbeatV2In.recorded (heartbeat : NodeHeartbeatV2In) (runtimeSource : String) : Fields :=
  heartbeat.dump.set "runtime"
    (.obj ((heartbeat.runtime.getD []).set "runtime_source" (.str runtimeSource)))

def sampleOverloadReport : NodeHeartbeatV2In where
  nodeCode := "milling-workshop-01"
  metrics := some [("cpu_usage", .float 150)]

theorem storable_empty {env : FactEnv} {payload : Fields} {fact : HeartbeatFact}
    (read : readFact env payload = .ok fact) : Storable env payload .empty := by
  refine ⟨fact, read, ?_, ?_⟩
  · unfold checkRunRow
    split <;> rfl
  · unfold checkScenarioRow
    split <;> rfl

end MiniOgas
