import MiniOgas.StoreAuthority

namespace MiniOgas

open Bounded Procedure

variable {env : StoreEnv} {now : Timestamp} {store : MemoryStore} {nodeCode workshopType : String}
  {α β : Type}

def MemoryStore.statusOf (store : MemoryStore) (nodeCode : String) : Option NodeStatus :=
  (store.nodes.get? nodeCode).map (·.status)

def StaysIsolated (store store' : MemoryStore) : Prop :=
  ∀ nodeCode, store.statusOf nodeCode = some .isolated →
    store'.statusOf nodeCode = some .isolated

instance : IsPreorder MemoryStore StaysIsolated where
  refl _ _ h := h
  trans _ _ _ one two nodeCode h := two nodeCode (one nodeCode h)

def SameNodes (store store' : MemoryStore) : Prop := store'.nodes = store.nodes

instance : IsPreorder MemoryStore SameNodes where
  refl _ := rfl
  trans _ _ _ one two := Eq.trans two one

theorem staysIsolated_of_sameNodes {store store' : MemoryStore} (same : SameNodes store store') :
    StaysIsolated store store' := by
  intro nodeCode h
  rw [MemoryStore.statusOf, same]
  exact h

theorem keeps_staysIsolated {p : StoreProcedure α} (same : Keeps SameNodes p) :
    Keeps StaysIsolated p :=
  fun store => staysIsolated_of_sameNodes (same store)

theorem statusOf_updateNode {f : Node → Node} {other : String} :
    (store.updateNode now nodeCode workshopType f).statusOf other =
      if other = nodeCode then
        some (f ((store.nodes.get? nodeCode).getD (Node.new now nodeCode workshopType))).status
      else store.statusOf other := by
  unfold MemoryStore.statusOf MemoryStore.updateNode
  rw [Dictionary.get?_modify, Dictionary.get?_setDefault]
  split <;> rfl

theorem statusOf_setStatus {status : NodeStatus} {other : String} :
    (setStatus nodeCode status store).statusOf other =
      if other = nodeCode then (store.statusOf nodeCode).map fun _ => status
      else store.statusOf other := by
  unfold MemoryStore.statusOf setStatus
  rw [Dictionary.get?_modify]
  split
  next same =>
    subst same
    rw [Option.map_map, Option.map_map]
    rfl
  next => rfl

theorem staysIsolated_updateNode {f : Node → Node}
    (keeps : ∀ node : Node, node.status = .isolated → (f node).status = .isolated) :
    StaysIsolated store (store.updateNode now nodeCode workshopType f) := by
  intro other h
  rw [statusOf_updateNode]
  split
  next same =>
    subst same
    obtain ⟨node, found, isolated⟩ := Option.map_eq_some_iff.mp h
    rw [found, Option.getD_some, keeps node isolated]
  next => exact h

theorem afterHeartbeat_isolated (reported : String) :
    NodeStatus.isolated.afterHeartbeat reported = .isolated := by
  unfold NodeStatus.afterHeartbeat
  split <;> simp

theorem staysIsolated_recordHeartbeat (report : HeartbeatReport) :
    StaysIsolated store (recordHeartbeat env now report store).2 := by
  refine staysIsolated_updateNode fun node isolated => ?_
  change node.status.afterHeartbeat report.status = .isolated
  rw [isolated, afterHeartbeat_isolated]

theorem staysIsolated_checkHeartbeatTimeout :
    StaysIsolated store (checkHeartbeatTimeout env now store).2 := by
  intro nodeCode h
  obtain ⟨node, found, isolated⟩ := Option.map_eq_some_iff.mp h
  change Option.map _ (Dictionary.get? (Dictionary.mapValues _ _) _) = _
  rw [Dictionary.get?_mapValues, found]
  have inTime : node.timedOut env now store = false := by
    simp [Node.timedOut, isolated]
  simp [inTime, isolated]

theorem statusOf_sampleMetric (metric : MetricIn) :
    (store.sampleMetric now metric).statusOf nodeCode =
      (store.updateNode now metric.nodeCode metric.workshop
        (·.sampled now metric)).statusOf nodeCode := by
  simp only [MemoryStore.statusOf, MemoryStore.sampleMetric]

theorem staysIsolated_sampleMetric (metric : MetricIn) :
    StaysIsolated store (store.sampleMetric now metric) := by
  intro nodeCode h
  rw [statusOf_sampleMetric]
  refine staysIsolated_updateNode (fun node isolated => ?_) nodeCode h
  change node.status.afterMetric metric.cpuUsage = .isolated
  simp [isolated, NodeStatus.afterMetric]

theorem sameNodes_createReadyPart (request : PartRequest) :
    SameNodes store (createReadyPart env store now request).2 := by
  simp only [SameNodes, createReadyPart, persistPartQueueItem, queuePart]

theorem sameNodes_claimNextPartForNode (ttlSeconds : Int) :
    SameNodes store (claimNextPartForNode env store now nodeCode ttlSeconds).2 := by
  unfold claimNextPartForNode SameNodes
  dsimp only
  split <;> simp only [persistPartQueueItems]

theorem sameNodes_finishPart (part : PartQueueItem) :
    SameNodes store (finishPart store now nodeCode part).2 := by
  unfold finishPart SameNodes
  dsimp only
  split <;> simp only [persistPartQueueItems, persistPartQueueItem, queuePart]

theorem sameNodes_completeClaimedPart {partId claimToken : String}
    {result : (PartQueueItem × Option PartQueueItem) × MemoryStore}
    (h : completeClaimedPart store now nodeCode partId claimToken = .ok result) :
    SameNodes store result.2 := by
  obtain ⟨part, -, h⟩ := Serial.of_bind h
  cases h
  exact sameNodes_finishPart part

section Flow

variable {R : MemoryStore → MemoryStore → Prop} [IsPreorder MemoryStore R]

theorem keeps_createReadyParts
    (create : ∀ request store, R store (createReadyPart env store now request).2)
    (request : PartRequest) (n : Nat) (store : MemoryStore) :
    R store (createReadyParts env now request n store) := by
  induction n generalizing store with
  | zero => exact refl store
  | succ n ih => exact IsTrans.trans _ _ _ (create request store) (ih _)

theorem keeps_consumeParts
    (claim : ∀ store, R store (claimNextPartForNode env store now nodeCode 30).2)
    (complete : ∀ partId claimToken, Keeps R
      (transact fun store => completeClaimedPart store now nodeCode partId claimToken))
    (n : Nat) : Keeps R (consumeParts env now nodeCode n) := by
  induction n with
  | zero => exact refl
  | succ n ih =>
    refine keeps_bind claim fun claimed => ?_
    cases claimed with
    | none => exact refl
    | some part =>
      exact keeps_bind (complete _ _) fun _ => keeps_bind ih fun _ => refl

/-- The induction over the parts that a heartbeat moves on, done once for every relation. -/
theorem keeps_advancePartFlow
    (mark : ∀ finished store, R store (advanceWatermark env nodeCode finished store).2)
    (create : ∀ request store, R store (createReadyPart env store now request).2)
    (claim : ∀ store, R store (claimNextPartForNode env store now nodeCode 30).2)
    (complete : ∀ partId claimToken, Keeps R
      (transact fun store => completeClaimedPart store now nodeCode partId claimToken))
    (production : Fields) :
    Keeps R (advancePartFlowFromHeartbeat env now nodeCode production) := by
  unfold advancePartFlowFromHeartbeat
  split
  next => exact refl
  next finished _ =>
    refine keeps_bind (mark finished) fun previous => ?_
    cases previous with
    | none => exact refl
    | some previous =>
      dsimp only
      split
      next => exact refl
      next =>
        unfold movePartFlow
        split
        next =>
          refine keeps_bind (fun store => ?_) fun _ => refl
          exact keeps_createReadyParts create _ _ store
        next =>
          split
          next =>
            exact keeps_bind (keeps_consumeParts claim complete _) fun _ => refl
          next => exact refl

end Flow

theorem sameNodes_advancePartFlow (production : Fields) :
    Keeps SameNodes (advancePartFlowFromHeartbeat env now nodeCode production) := by
  refine keeps_advancePartFlow (fun _ _ => rfl)
    (fun request _ => sameNodes_createReadyPart request)
    (fun _ => sameNodes_claimNextPartForNode 30) (fun partId claimToken => ?_) production
  exact keeps_transact fun _ _ _ h => sameNodes_completeClaimedPart h

def OnlyMachines (store store' : MemoryStore) : Prop :=
  ∃ machines, store' = { store with machines := machines }

instance : IsPreorder MemoryStore OnlyMachines where
  refl store := ⟨store.machines, rfl⟩
  trans := by
    rintro _ _ _ ⟨_, rfl⟩ ⟨machines, rfl⟩
    exact ⟨machines, rfl⟩

theorem onlyMachines_reportMachine (status : String) (production : Fields) :
    Keeps OnlyMachines (reportMachine env nodeCode workshopType status production) := by
  have updates : ∀ machineCode f, Keeps OnlyMachines
      (modify (MemoryStore.updateMachine machineCode f) : StoreProcedure PUnit) :=
    fun machineCode f store => ⟨_, rfl⟩
  refine keeps_bind (fun store => ?_) fun _ => ?_
  · change OnlyMachines store (MemoryStore.registerMachine _ _ _ _)
    unfold MemoryStore.registerMachine
    split
    next => exact refl store
    next => exact ⟨_, rfl⟩
  refine keeps_bind (updates _ _) fun _ => keeps_bind (keeps_lift _) fun _ => ?_
  refine keeps_bind (updates _ _) fun _ => keeps_bind (keeps_lift _) fun _ => ?_
  refine keeps_bind (updates _ _) fun _ => keeps_bind (keeps_lift _) fun _ => ?_
  exact keeps_bind (updates _ _) fun _ => keeps_bind (keeps_lift _) fun _ => updates _ _

theorem sameNodes_reportMachine (status : String) (production : Fields) :
    Keeps SameNodes (reportMachine env nodeCode workshopType status production) := by
  intro store
  obtain ⟨machines, same⟩ := onlyMachines_reportMachine status production store
  rw [SameNodes, same]

variable {env : StoreEnv} {now : Timestamp} {store : MemoryStore} {nodeCode : String}

theorem staysIsolated_recordNodeHeartbeatV2 (payload : Fields) :
    Keeps StaysIsolated (recordNodeHeartbeatV2 env now payload) := by
  refine keeps_bind ?_ fun reply => ?_
  · refine keeps_bind (keeps_lift _) fun _ => keeps_bind refl fun store => ?_
    refine keeps_bind (keeps_lift _) fun report => ?_
    refine keeps_bind (fun store => @staysIsolated_recordHeartbeat env _ _ report) fun reply => ?_
    refine keeps_bind (keeps_lift _) fun metric => keeps_bind (keeps_lift _) fun enriched => ?_
    refine keeps_bind (keeps_staysIsolated (sameNodes_reportMachine _ _)) fun _ => ?_
    exact keeps_bind (fun store => staysIsolated_of_sameNodes rfl) fun _ => refl
  · exact keeps_bind (keeps_staysIsolated (sameNodes_advancePartFlow _)) fun _ => refl

def readsMachine (env : StoreEnv) (production : Fields) : Bool :=
  (floatOrZero env (production.get "utilization")).isOk &&
    ((reported (readFloat env) (production.get "tool_wear_level")).isOk &&
      ((reported (readInt env) (production.get "finished_quantity")).isOk &&
        (reported (readInt env) (production.get "defect_quantity")).isOk))

def restorable (env : StoreEnv) (now : Timestamp) (item : String × (Fields × Json)) : Bool :=
  let production := (item.2.1.get "production").dict
  let workshopType := textOr env (production.get "workshop_type") (inferWorkshopType item.1)
  (heartbeatTime now item.2.2).isOk && (readsMachine env production &&
    (readMetric env item.1 workshopType (item.2.1.get "metrics").dict production).isOk)

/-- The loop of `load_heartbeat_shadow` comes to the status of the node: no heartbeat before
its own makes the loop raise. -/
def reachesNode (env : StoreEnv) (now : Timestamp) (nodeCode : String) :
    List (String × (Fields × Json)) → Bool
  | [] => false
  | item :: items => (item.1 = nodeCode && (heartbeatTime now item.2.2).isOk) ||
      (restorable env now item && reachesNode env now nodeCode items)

theorem decided_reportMachine {workshopType status : String} {production : Fields} :
    Decided (reportMachine env nodeCode workshopType status production)
      (readsMachine env production) := by
  refine decided_modify_bind _ fun _ => decided_modify_bind _ fun _ => ?_
  refine decided_lift_bind _ fun _ => decided_modify_bind _ fun _ => ?_
  refine decided_lift_bind _ fun _ => decided_modify_bind _ fun _ => ?_
  refine decided_lift_bind _ fun _ => decided_modify_bind _ fun _ => ?_
  exact decided_lift_modify _ _

theorem decided_restoreHeartbeatShadowLocked (item : String × (Fields × Json)) :
    Decided (restoreHeartbeatShadowLocked env now item.1 item.2.1 item.2.2)
      (restorable env now item) := by
  refine decided_lift_bind _ fun time => decided_modify_bind _ fun _ => ?_
  refine decided_bind decided_reportMachine fun _ => decided_modify_bind _ fun _ => ?_
  exact decided_lift_modify _ _

theorem restoredStatus_ne_isolated (rawStatus : String) (time : Timestamp) :
    restoredStatus env now rawStatus time ≠ .isolated := by
  unfold restoredStatus
  split
  next => exact NodeStatus.noConfusion
  next => split <;> exact NodeStatus.noConfusion

theorem restore_of_time {payload : Fields} {receivedAt : Json} {time : Timestamp}
    (h : heartbeatTime now receivedAt = .ok time) : ∃ workshopType f,
      (∀ node : Node, (f node : Node).status ≠ .isolated) ∧
      SameNodes (store.updateNode now nodeCode workshopType f)
        (after (restoreHeartbeatShadowLocked env now nodeCode payload receivedAt) store) := by
  unfold restoreHeartbeatShadowLocked
  rw [after_bind_ok (lift_ok h)]
  refine ⟨_, _, ?_, keeps_bind (sameNodes_reportMachine _ _) (fun _ => ?_) _⟩
  · exact fun node => restoredStatus_ne_isolated _ _
  refine keeps_bind (fun store => rfl) fun _ => ?_
  refine keeps_bind (keeps_lift _) fun metric store => ?_
  change SameNodes store { store with metrics := _ }
  simp only [SameNodes]

theorem restore_of_no_time {payload : Fields} {receivedAt : Json} {fault : StoreFault}
    (h : heartbeatTime now receivedAt = .error fault) :
    after (restoreHeartbeatShadowLocked env now nodeCode payload receivedAt) store = store := by
  exact after_bind_error (lift_error h)

end MiniOgas
