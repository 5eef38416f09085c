import MiniOgas.HeartbeatRecording

namespace MiniOgas

open Bounded Procedure

variable {env : StoreEnv} {now : Timestamp} {store store' : MemoryStore}
  {nodeCode other workshopType : String} {reports : String → Prop} {α β : Type} {f : Node → Node}
  {p : StoreProcedure α}

/-- Only nodes that are registered have a heartbeat. -/
def MemoryStore.ReportersKnown (store : MemoryStore) : Prop :=
  ∀ nodeCode, store.nodeHeartbeatsV2.contains nodeCode = true →
    store.nodes.contains nodeCode = true

structure Registers (reports : String → Prop) (store store' : MemoryStore) : Prop where
  nodes : ∀ other, store.nodes.contains other = true → store'.nodes.contains other = true
  heartbeats : ∀ other, store'.nodeHeartbeatsV2.contains other = true →
    store.nodeHeartbeatsV2.contains other = true ∨ reports other

instance : IsPreorder MemoryStore (Registers reports) where
  refl _ := ⟨fun _ h => h, fun _ h => .inl h⟩
  trans _ _ _ one two := by
    refine ⟨fun other h => two.nodes other (one.nodes other h), fun other h => ?_⟩
    rcases two.heartbeats other h with there | own
    · exact one.heartbeats other there
    · exact .inr own

theorem registers_of_same (nodes : SameNodes store store')
    (heartbeats : SameHeartbeats store store') : Registers reports store store' := by
  refine ⟨fun other h => ?_, fun other h => ?_⟩
  · rw [nodes]
    exact h
  · rw [heartbeats] at h
    exact .inl h

theorem Registers.known (registers : Registers reports store store')
    (known : store.ReportersKnown)
    (own : ∀ nodeCode, reports nodeCode → store'.nodes.contains nodeCode = true) :
    store'.ReportersKnown := by
  intro other there
  rcases registers.heartbeats other there with before | new
  · exact registers.nodes other (known other before)
  · exact own other new

theorem contains_updateNode :
    (store.updateNode now nodeCode workshopType f).nodes.contains other = true ↔
      other = nodeCode ∨ store.nodes.contains other = true := by
  unfold MemoryStore.updateNode Dictionary.contains
  rw [Dictionary.get?_modify, Dictionary.get?_setDefault]
  by_cases own : other = nodeCode <;> simp [own]

theorem registers_updateNode {target : String} :
    Registers reports store (store.updateNode now target workshopType f) :=
  ⟨fun _ h => contains_updateNode.mpr (.inr h), fun _ h => .inl h⟩

theorem contains_modify {nodes : Dictionary String Node} :
    (nodes.modify nodeCode f).contains other = nodes.contains other := by
  unfold Dictionary.contains
  rw [Dictionary.get?_modify]
  by_cases own : other = nodeCode <;> simp [own]

theorem registers_setStatus (target : String) (status : NodeStatus) :
    Registers reports store (setStatus target status store) := by
  refine ⟨fun other h => ?_, fun _ h => .inl h⟩
  change Dictionary.contains (Dictionary.modify _ _ _) _ = true
  rw [contains_modify]
  exact h

theorem registers_setHeartbeat (entry : Fields) :
    Registers (· = nodeCode) store (store.setHeartbeat nodeCode entry) := by
  refine ⟨fun _ h => h, fun other h => ?_⟩
  unfold MemoryStore.setHeartbeat Dictionary.contains at h
  rw [Dictionary.get?_set] at h
  split at h
  next own => exact .inr own
  next => exact .inl h

theorem registers_dropHeartbeat (target : String) :
    Registers reports store (dropHeartbeat store target) := by
  refine IsTrans.trans _ { store with nodeHeartbeatsV2 := store.nodeHeartbeatsV2.pop target } _
    ⟨fun _ h => h, fun other h => ?_⟩ (registers_setStatus target .offline)
  unfold Dictionary.contains at h
  rw [Dictionary.get?_pop] at h
  split at h
  next => cases h
  next => exact .inl h

theorem registers_reportMachine (status : String) (production : Fields) :
    Procedure.Keeps (Registers reports)
      (reportMachine env other workshopType status production) := by
  intro store
  obtain ⟨machines, same⟩ :=
    @onlyMachines_reportMachine env other workshopType status production store
  rw [same]
  exact registers_of_same rfl rfl

/-- The heartbeats stay those of registered nodes. -/
def KeepsReporters (store store' : MemoryStore) : Prop :=
  store.ReportersKnown → store'.ReportersKnown

instance : IsPreorder MemoryStore KeepsReporters where
  refl _ known := known
  trans _ _ _ one two known := two (one known)

theorem keepsReporters_of_none (keeps : Procedure.Keeps (Registers fun _ => False) p) :
    Procedure.Keeps KeepsReporters p :=
  fun store known => (keeps store).known known fun _ none => False.elim none

theorem keepsReporters_of_registered (keeps : Procedure.Keeps (Registers (· = nodeCode)) p)
    (own : store.nodes.contains nodeCode = true) :
    KeepsReporters store (after p store) := by
  intro known
  refine (keeps store).known known fun other same => ?_
  exact same ▸ (keeps store).nodes nodeCode own

theorem readHeartbeat_nodeCode {payload : Fields} {report : HeartbeatReport}
    (read : readHeartbeat env store payload = .ok report) :
    report.nodeCode = env.builtins.text (payload.get "node_code") := by
  obtain ⟨_, -, read⟩ := Serial.of_bind read
  obtain ⟨_, -, read⟩ := Serial.of_bind read
  obtain ⟨_, -, read⟩ := Serial.of_bind read
  obtain ⟨_, -, read⟩ := Serial.of_bind read
  rw [← Except.ok.inj read]

theorem keepsReporters_recordNodeHeartbeatV2 (payload : Fields) :
    Procedure.Keeps KeepsReporters (recordNodeHeartbeatV2 env now payload) := by
  have flow : ∀ nodeCode production, Procedure.Keeps KeepsReporters
      (advancePartFlowFromHeartbeat env now nodeCode production) := fun _ production =>
    keepsReporters_of_none fun store => registers_of_same
      (sameNodes_advancePartFlow production store) (sameHeartbeats_advancePartFlow production store)
  refine keeps_bind ?_ fun reply =>
    keeps_bind (flow _ _) fun _ _ known => known
  refine keeps_bind (keeps_lift _) fun _ => ?_
  refine keeps_bind (fun _ known => known) fun before => ?_
  intro store known
  cases read : readHeartbeat env before payload with
  | error fault =>
    exact known
  | ok report =>
    have records : (modifyGet (recordHeartbeat env now report) : StoreProcedure HeartbeatReply)
        store = .ok (recordHeartbeat env now report store).1
          (recordHeartbeat env now report store).2 := rfl
    rw [after_bind_ok (lift_ok rfl), after_bind_ok records]
    have own : (recordHeartbeat env now report store).2.nodes.contains
        (env.builtins.text (payload.get "node_code")) = true :=
      contains_updateNode.mpr (.inl (readHeartbeat_nodeCode read).symm)
    have grown : Registers (fun _ => False) store (recordHeartbeat env now report store).2 :=
      registers_updateNode
    have registered : (recordHeartbeat env now report store).2.ReportersKnown :=
      grown.known known fun _ none => False.elim none
    refine keepsReporters_of_registered ?_ own registered
    refine keeps_bind (keeps_lift _) fun metric => ?_
    refine keeps_bind (keeps_lift _) fun enriched => ?_
    refine keeps_bind (registers_reportMachine _ _) fun _ => ?_
    exact keeps_bind (keeps_modify fun store => registers_setHeartbeat _)
      fun _ => refl

theorem keepsReporters_restoreHeartbeatShadowLocked (payload : Fields) (receivedAt : Json) :
    Procedure.Keeps KeepsReporters
      (restoreHeartbeatShadowLocked env now nodeCode payload receivedAt) := by
  refine keeps_bind (keeps_lift _) fun time store known => ?_
  rw [after_modify_bind]
  refine keepsReporters_of_registered ?_ (contains_updateNode.mpr (.inl rfl)) ?_
  swap
  · exact registers_updateNode.known known fun _ (none : False) => none.elim
  refine keeps_bind (registers_reportMachine _ _) fun _ => ?_
  refine keeps_bind (keeps_modify fun store => registers_setHeartbeat _) fun _ => ?_
  exact keeps_bind (keeps_lift _) fun metric =>
    keeps_modify fun store => registers_of_same rfl rfl

theorem registers_isolateNode (target actor : String) (decision : Option SafetyDecision) :
    Procedure.Keeps (Registers reports) (isolateNode target actor decision) := by
  refine keeps_transact fun store _ store' h => ?_
  replace h := Serial.of_then (Serial.of_then h)
  cases h
  exact registers_setStatus target .isolated

theorem registers_contain (metric : MetricIn) :
    Procedure.Keeps (Registers reports) metric.contain :=
  keeps_bind refl fun _ => registers_isolateNode _ _ _

theorem registers_restoreNode (target actor : String) (decision : Option SafetyDecision) :
    Procedure.Keeps (Registers reports) (restoreNode now target actor decision) := by
  refine keeps_transact fun store _ store' h => ?_
  replace h := Serial.of_then (Serial.of_then h)
  cases h
  refine ⟨fun other there => ?_, fun _ there => .inl there⟩
  rw [contains_modify]
  exact there

theorem keepsReporters_retireNode (target actor : String) (decision : Option SafetyDecision) :
    Procedure.Keeps KeepsReporters (retireNode target actor decision) := by
  refine keeps_transact fun store _ store' h known other there => ?_
  replace h := Serial.of_then (Serial.of_then h)
  cases h
  unfold MemoryStore.retire Dictionary.contains at there ⊢
  rw [Dictionary.get?_pop] at there ⊢
  split at there
  next => cases there
  next different =>
    rw [if_neg different]
    exact known other there

theorem registers_checkHeartbeatTimeout :
    Registers reports store (checkHeartbeatTimeout env now store).2 := by
  refine ⟨fun other there => ?_, fun _ there => .inl there⟩
  change ((Dictionary.mapValues _ _).get? other).isSome = true
  rw [Dictionary.get?_mapValues, Option.isSome_map]
  exact there

theorem keepsReporters_recordMetric (metric : MetricIn) (evaluate : Bool) :
    Procedure.Keeps KeepsReporters (recordMetric env now metric evaluate) := by
  refine keepsReporters_of_none ?_
  refine keeps_bind (keeps_modify fun store => ?_) fun _ => ?_
  · exact IsTrans.trans _ (store.updateNode now metric.nodeCode metric.workshop
      (·.sampled now metric)) _ registers_updateNode (registers_of_same rfl rfl)
  split
  next => exact refl
  next =>
    refine keeps_bind (fun store => ?_) fun _ => ?_
    · change Registers _ store (metric.degrade store)
      unfold MetricIn.degrade
      split
      next => exact registers_setStatus _ _
      next => exact refl store
    · split
      next => exact keeps_bind (registers_contain metric) fun _ => refl
      next => exact refl

theorem keepsReporters_loadHeartbeatShadow (latest : Dictionary String (Fields × Json))
    (replaceEmpty : Bool) :
    Procedure.Keeps KeepsReporters (loadHeartbeatShadow env now latest replaceEmpty) := by
  have dropped : ∀ (nodeCodes : List String) (store : MemoryStore),
      Registers (fun _ => False) store (nodeCodes.foldl dropHeartbeat store) := by
    intro nodeCodes
    induction nodeCodes with
    | nil => exact refl
    | cons first rest ih =>
      exact fun store => IsTrans.trans _ _ _ (registers_dropHeartbeat first) (ih _)
  refine keeps_bind (keepsReporters_of_none fun store => ?_) fun _ => ?_
  · change Registers _ store (if _ then _ else _)
    split
    next => exact dropped _ store
    next => exact refl store
  refine keeps_bind ?_ fun _ _ known => known
  exact keeps_forM fun item _ => keepsReporters_restoreHeartbeatShadowLocked _ _

theorem keepsReporters_perform (call : StoreCall) :
    Procedure.Keeps KeepsReporters (call.perform env) := by
  obtain ⟨now, operation⟩ := call
  cases operation with
  | recordHeartbeat report =>
    exact keeps_answer (keepsReporters_of_none fun store => registers_updateNode)
  | recordNodeHeartbeatV2 payload =>
    exact keeps_answer (keepsReporters_recordNodeHeartbeatV2 payload)
  | recordMetric metric evaluate => exact keeps_answer (keepsReporters_recordMetric metric evaluate)
  | checkHeartbeatTimeout =>
    exact keeps_answer (keepsReporters_of_none fun store => registers_checkHeartbeatTimeout)
  | loadHeartbeatShadow latest replaceEmpty =>
    exact keeps_answer (keepsReporters_loadHeartbeatShadow latest replaceEmpty)
  | isolateNode target actor decision =>
    exact keeps_answer (keepsReporters_of_none (registers_isolateNode target actor decision))
  | restoreNode target actor decision =>
    exact keeps_answer (keepsReporters_of_none (registers_restoreNode target actor decision))
  | retireNode target actor decision =>
    exact keeps_answer (keepsReporters_retireNode target actor decision)
  | createReadyPart request =>
    exact keeps_answer (keepsReporters_of_none fun store => registers_of_same
      (sameNodes_createReadyPart request) (sameHeartbeats_createReadyPart request store))
  | claimNextPartForNode target ttlSeconds =>
    exact keeps_answer (keepsReporters_of_none fun store => registers_of_same
      (sameNodes_claimNextPartForNode ttlSeconds)
      (sameHeartbeats_claimNextPartForNode ttlSeconds store))
  | releaseExpiredPartClaims =>
    exact keeps_answer (keepsReporters_of_none fun store => registers_of_same rfl rfl)
  | completeClaimedPart target partId claimToken =>
    refine keeps_answer (keepsReporters_of_none (keeps_transact fun store _ _ h => ?_))
    exact registers_of_same (sameNodes_completeClaimedPart h) (sameHeartbeats_completeClaimedPart h)

/-- In every run only registered nodes have a heartbeat. -/
theorem reportersKnown_run (known : store.ReportersKnown) (calls : List StoreCall) :
    ((storeAuthority env).run store calls).ReportersKnown := by
  refine Serial.Authority.invariant (fun {before call _ _} kept served => ?_) calls known
  cases served
  exact keepsReporters_perform call before kept

end MiniOgas
