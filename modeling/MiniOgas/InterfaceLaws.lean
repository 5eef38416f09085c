import MiniOgas.PartHandOut
import MiniOgas.PartCounts
import MiniOgas.PartFrames

namespace MiniOgas

open Bounded Procedure Serial

variable {env : StoreEnv} {now : Timestamp} {store : MemoryStore} {nodeCode : String}
  {call : StoreCall} {items : List (String × (Fields × Json))} {decision : Option SafetyDecision}

theorem restore_loses {payload : Fields} {receivedAt : Json} {time : Timestamp}
    (h : heartbeatTime now receivedAt = .ok time) :
    (after (restoreHeartbeatShadowLocked env now nodeCode payload receivedAt) store).statusOf
      nodeCode ≠ some .isolated := by
  obtain ⟨workshopType, f, other, same⟩ := @restore_of_time _ _ store _ _ _ _ h
  rw [MemoryStore.statusOf, same]
  change MemoryStore.statusOf (MemoryStore.updateNode _ _ _ _ _) _ ≠ _
  rw [statusOf_updateNode, if_pos rfl]
  exact fun isolated => other _ (Option.some.inj isolated)

theorem restore_frame {payload : Fields} {receivedAt : Json} {other : String} :
    (other ≠ nodeCode →
      (after (restoreHeartbeatShadowLocked env now nodeCode payload receivedAt) store).statusOf
        other = store.statusOf other) ∧
    (store.statusOf other ≠ some .isolated →
      (after (restoreHeartbeatShadowLocked env now nodeCode payload receivedAt) store).statusOf
        other ≠ some .isolated) := by
  cases h : heartbeatTime now receivedAt with
  | error fault =>
    rw [restore_of_no_time h]
    exact ⟨fun _ => rfl, id⟩
  | ok time =>
    have frame : other ≠ nodeCode →
        (after (restoreHeartbeatShadowLocked env now nodeCode payload receivedAt)
          store).statusOf other = store.statusOf other := by
      intro different
      obtain ⟨workshopType, f, -, same⟩ := @restore_of_time _ _ store _ _ _ _ h
      rw [MemoryStore.statusOf, same]
      change MemoryStore.statusOf (MemoryStore.updateNode _ _ _ _ _) _ = _
      rw [statusOf_updateNode, if_neg different]
    refine ⟨frame, fun free => ?_⟩
    by_cases same : other = nodeCode
    · rw [same]
      exact restore_loses h
    · rw [frame same]
      exact free

theorem restores_free (free : store.statusOf nodeCode ≠ some .isolated) :
    (after (items.forM fun item => restoreHeartbeatShadowLocked env now item.1 item.2.1 item.2.2 :
      StoreProcedure PUnit) store).statusOf nodeCode ≠ some .isolated := by
  have keeps : Procedure.Keeps (fun store store' : MemoryStore =>
      store.statusOf nodeCode ≠ some .isolated → store'.statusOf nodeCode ≠ some .isolated)
      (items.forM fun item =>
        restoreHeartbeatShadowLocked env now item.1 item.2.1 item.2.2 : StoreProcedure PUnit) :=
    keeps_forM fun _ _ _ => restore_frame.2
  exact keeps store free

theorem restores_isolated_iff (isolated : store.statusOf nodeCode = some .isolated) :
    (after (items.forM fun item => restoreHeartbeatShadowLocked env now item.1 item.2.1 item.2.2 :
      StoreProcedure PUnit) store).statusOf nodeCode = some .isolated ↔
      reachesNode env now nodeCode items = false := by
  induction items generalizing store with
  | nil => exact iff_of_true isolated rfl
  | cons item items ih =>
    rw [forM_cons, reachesNode]
    have returned := @decided_restoreHeartbeatShadowLocked env now item store
    by_cases own : item.1 = nodeCode ∧ (heartbeatTime now item.2.2).isOk = true
    · obtain ⟨rfl, timed⟩ := own
      obtain ⟨time, h⟩ := exists_ok timed
      have lost : (after (restoreHeartbeatShadowLocked env now item.1 item.2.1 item.2.2)
          store).statusOf item.1 ≠ some .isolated := restore_loses h
      refine iff_of_false ?_ (by simp [timed])
      cases ran : returns (restoreHeartbeatShadowLocked env now item.1 item.2.1 item.2.2) store with
      | true =>
        obtain ⟨_, ok⟩ := exists_ok_of_returns ran
        rw [after_bind_ok ok]
        exact restores_free lost
      | false =>
        obtain ⟨_, raised⟩ := exists_error_of_not_returns ran
        rw [after_bind_error raised]
        exact lost
    · have kept : (after (restoreHeartbeatShadowLocked env now item.1 item.2.1 item.2.2)
          store).statusOf nodeCode = some .isolated := by
        by_cases same : item.1 = nodeCode
        · cases h : heartbeatTime now item.2.2 with
          | ok time => exact absurd ⟨same, by rw [h]; rfl⟩ own
          | error fault =>
            rw [restore_of_no_time h]
            exact isolated
        · rw [restore_frame.1 fun other => same other.symm]
          exact isolated
      have first : (decide (item.1 = nodeCode) && (heartbeatTime now item.2.2).isOk) = false := by
        simpa using own
      rw [first, Bool.false_or]
      cases ran : restorable env now item with
      | true =>
        obtain ⟨_, ok⟩ := exists_ok_of_returns (returned.trans ran)
        rw [after_bind_ok ok, Bool.true_and]
        exact ih kept
      | false =>
        obtain ⟨_, raised⟩ := exists_error_of_not_returns (returned.trans ran)
        rw [after_bind_error raised, Bool.false_and]
        exact iff_of_true kept rfl

theorem statusOf_dropHeartbeats (nodeCodes : List String) :
    (nodeCodes.foldl dropHeartbeat store).statusOf nodeCode =
      if nodeCode ∈ nodeCodes then (store.statusOf nodeCode).map fun _ => .offline
      else store.statusOf nodeCode := by
  induction nodeCodes generalizing store with
  | nil => rfl
  | cons first rest ih =>
    rw [List.foldl_cons, ih]
    have one : (dropHeartbeat store first).statusOf nodeCode =
        if nodeCode = first then (store.statusOf nodeCode).map fun _ => .offline
        else store.statusOf nodeCode := by
      unfold dropHeartbeat
      rw [statusOf_setStatus]
      split
      next same => rw [same]; rfl
      next => rfl
    rw [one]
    by_cases same : nodeCode = first <;> by_cases there : nodeCode ∈ rest <;>
      simp [same, there, Option.map_map, Function.comp_def]

/-- The call is a restore or a retirement of the node that an allowed safety decision about
that action, node and actor covers. -/
def StoreCall.Releases (call : StoreCall) (nodeCode : String) : Prop :=
  match call.operation with
  | .restoreNode target actor decision =>
    target = nodeCode ∧
      (requireSafetyDecision decision "restore_node" target actor).isOk = true
  | .retireNode target actor decision =>
    target = nodeCode ∧
      (requireSafetyDecision decision "retire_node" target actor).isOk = true
  | _ => False

/-- No call but a release changes the status of an isolated node. -/
def KeepsIsolation (env : StoreEnv) (store : MemoryStore) (call : StoreCall) : Prop :=
  ∀ nodeCode, store.statusOf nodeCode = some .isolated → ¬ call.Releases nodeCode →
    ((storeAuthority env).serve store call).statusOf nodeCode = some .isolated

/-- An evaluated sample that meets rule L2 of the node, which is not of the control plane,
and that does not lead to its containment. -/
def MetricIn.Degrades (env : StoreEnv) (metric : MetricIn) (evaluate : Bool) : Prop :=
  evaluate = true ∧ isControlPlaneNode metric.nodeCode metric.workshop = false ∧
    metric.overloaded = true ∧ ¬(metric.hostile = true ∧ env.settings.controlMode ≠ .readOnly)

/-- The call overwrites the status of the node, isolated or not. -/
def StoreCall.Overwrites (env : StoreEnv) (call : StoreCall) (nodeCode : String) : Prop :=
  match call.operation with
  | .recordMetric metric evaluate => metric.nodeCode = nodeCode ∧ metric.Degrades env evaluate
  | .loadHeartbeatShadow latest replaceEmpty =>
    (replaceEmpty = true ∧ latest.items = [] ∧ nodeCode ∈ env.settings.expectedProductionNodes) ∨
      reachesNode env call.now nodeCode latest.items = true
  | _ => False

theorem requireSafetyDecision_ok {decision : SafetyDecision} {actor : String}
    (allowed : decision.allow = true)
    (acts : (if decision.actorId = "" then decision.actorRole else decision.actorId) = actor) :
    requireSafetyDecision (some decision) decision.action decision.targetNode actor =
      .ok decision := by
  refine bind_eq_ok.mpr ⟨decision, orFault_eq_ok.mpr (by simp [allowed]), ?_⟩
  refine bind_eq_ok.mpr ⟨(), check_eq_ok.mpr ⟨rfl, rfl⟩, ?_⟩
  exact bind_eq_ok.mpr ⟨(), check_eq_ok.mpr acts, rfl⟩

theorem after_contain {metric : MetricIn}
    (known : (store.statusOf metric.nodeCode).isSome = true)
    (production : metric.nodeCode ∉ controlPlaneNodes) :
    metric.contain store = .ok () (setStatus metric.nodeCode .isolated store) := by
  rw [MemoryStore.statusOf, Option.isSome_map] at known
  obtain ⟨node, found⟩ := Option.isSome_iff_exists.mp known
  have member : metric.nodeCode ∈ store.nodes.items.map Prod.fst :=
    List.mem_map_of_mem (Dictionary.get?_eq_some_iff.mp found)
  have allowed := SafetyGovernor.containment_allowed member production
  change isolateNode metric.nodeCode "safety_automation" (some (SafetyGovernor.reviewControlAction
    (SafetyGovernor.containment metric.nodeCode (store.nodes.items.map Prod.fst)))) store = _
  rw [allowed]
  refine transact_ok (bind_eq_ok.mpr ⟨_, requireSafetyDecision_ok rfl rfl, ?_⟩)
  exact bind_eq_ok.mpr ⟨node, orFault_eq_ok.mpr found, rfl⟩

theorem statusOf_degrade (metric : MetricIn) : (metric.degrade store).statusOf nodeCode =
    if metric.overloaded = true ∧ nodeCode = metric.nodeCode then
      (store.statusOf nodeCode).map fun _ => .degraded
    else store.statusOf nodeCode := by
  unfold MetricIn.degrade
  by_cases same : nodeCode = metric.nodeCode
  · cases metric.overloaded <;> simp [same, statusOf_setStatus]
  · cases metric.overloaded <;> simp [same, statusOf_setStatus]

theorem sampleMetric_registers (metric : MetricIn) :
    ((store.sampleMetric now metric).statusOf metric.nodeCode).isSome = true := by
  rw [statusOf_sampleMetric, statusOf_updateNode, if_pos rfl]
  rfl

theorem recordMetric_isolated_iff {metric : MetricIn} {evaluate : Bool}
    (isolated : store.statusOf nodeCode = some .isolated) :
    (after (recordMetric env now metric evaluate) store).statusOf nodeCode = some .isolated ↔
      ¬(metric.nodeCode = nodeCode ∧ metric.Degrades env evaluate) := by
  have sampled := @staysIsolated_sampleMetric now _ metric nodeCode isolated
  have registered := @sampleMetric_registers now store metric
  unfold recordMetric
  rw [after_modify_bind]
  generalize store.sampleMetric now metric = store at sampled registered
  split
  next skips =>
    refine iff_of_true sampled ?_
    rintro ⟨-, evaluates, production, -⟩
    simp [evaluates, production] at skips
  next evaluates =>
    simp only [Bool.or_eq_true, Bool.not_eq_true', not_or, Bool.not_eq_true,
      Bool.not_eq_false] at evaluates
    rw [after_modify_bind]
    have degraded : (metric.degrade store).statusOf nodeCode = _ := statusOf_degrade metric
    have known : ((metric.degrade store).statusOf metric.nodeCode).isSome = true := by
      rw [statusOf_degrade]
      split <;> simpa using registered
    generalize metric.degrade store = store at degraded known
    split
    next contained =>
      simp only [Bool.and_eq_true, decide_eq_true_eq] at contained
      have production : metric.nodeCode ∉ controlPlaneNodes := by
        intro member
        have controls : isControlPlaneNode metric.nodeCode metric.workshop = true := by
          have listed : controlPlaneNodes.contains metric.nodeCode = true := by simpa using member
          exact Bool.or_eq_true_iff.mpr (.inl listed)
        rw [evaluates.1] at controls
        cases controls
      rw [after_bind_ok (after_contain known production)]
      refine iff_of_true ?_ fun degrades => degrades.2.2.2.2 contained
      change (setStatus _ _ _).statusOf _ = _
      rw [statusOf_setStatus]
      split
      next => exact Option.map_eq_some_iff.mpr ⟨_, (Option.some_get known).symm, rfl⟩
      next other => rw [degraded, if_neg fun own => other own.2, sampled]
    next spared =>
      have spared : ¬(metric.hostile = true ∧ env.settings.controlMode ≠ .readOnly) := by
        simpa using spared
      change store.statusOf nodeCode = _ ↔ _
      rw [degraded]
      split
      next own =>
        refine iff_of_false (by simp) fun safe => safe ⟨own.2.symm, ?_⟩
        exact ⟨evaluates.2, evaluates.1, own.1, spared⟩
      next other =>
        refine iff_of_true sampled fun degrades => ?_
        exact other ⟨degrades.2.2.2.1, degrades.1.symm⟩

theorem staysIsolated_isolateNode (target actor : String) (decision : Option SafetyDecision) :
    Procedure.Keeps StaysIsolated (isolateNode target actor decision) := by
  refine keeps_transact fun store _ store' h nodeCode isolated => ?_
  replace h := of_then (of_then h)
  cases h
  rw [statusOf_setStatus]
  split
  next same => rw [← same, isolated]; rfl
  next => exact isolated

theorem guarded_isolated {operation target actor : String} {change : MemoryStore → MemoryStore}
    (apart : ∀ store : MemoryStore, nodeCode ≠ target →
      (change store).statusOf nodeCode = store.statusOf nodeCode)
    (isolated : store.statusOf nodeCode = some .isolated)
    (held : ¬(target = nodeCode ∧
      (requireSafetyDecision decision operation target actor).isOk = true)) :
    (after (transact fun store : MemoryStore => do
      let _ ← requireSafetyDecision decision operation target actor
      let _ ← orFault (store.nodes.get? target) (.keyError target)
      return ((), change store)) store).statusOf nodeCode = some .isolated := by
  refine keeps_transact (R := fun store store' : MemoryStore =>
    store.statusOf nodeCode = some .isolated → store'.statusOf nodeCode = some .isolated)
    (fun store _ store' h isolated => ?_) store isolated
  obtain ⟨_, allowed, h⟩ := of_bind h
  replace h := of_then h
  cases h
  rw [apart store fun same => held ⟨same.symm, by rw [allowed]; rfl⟩]
  exact isolated

theorem statusOf_restored {target : String} (store : MemoryStore) (different : nodeCode ≠ target) :
    ({ store with nodes := store.nodes.modify target (·.restore now) }).statusOf nodeCode =
      store.statusOf nodeCode := by
  unfold MemoryStore.statusOf
  rw [Dictionary.get?_modify, if_neg different]

theorem statusOf_retired {target : String} (store : MemoryStore) (different : nodeCode ≠ target) :
    (store.retire target).statusOf nodeCode = store.statusOf nodeCode := by
  unfold MemoryStore.statusOf MemoryStore.retire
  rw [Dictionary.get?_pop, if_neg different]

theorem loadHeartbeatShadow_isolated_iff {latest : Dictionary String (Fields × Json)}
    {replaceEmpty : Bool} (isolated : store.statusOf nodeCode = some .isolated) :
    (after (loadHeartbeatShadow env now latest replaceEmpty) store).statusOf nodeCode =
        some .isolated ↔
      ¬((replaceEmpty = true ∧ latest.items = [] ∧
        nodeCode ∈ env.settings.expectedProductionNodes) ∨
        reachesNode env now nodeCode latest.items = true) := by
  unfold loadHeartbeatShadow
  rw [after_modify_bind, after_bind_pure]
  by_cases dropped : replaceEmpty = true ∧ latest.items = []
  · rw [if_pos (by simp [dropped]), dropped.2]
    change (List.foldl dropHeartbeat store _).statusOf nodeCode = _ ↔ _
    rw [statusOf_dropHeartbeats, isolated]
    by_cases expected : nodeCode ∈ env.settings.expectedProductionNodes <;>
      simp [dropped.1, expected, reachesNode]
  · rw [if_neg (by simpa using dropped), restores_isolated_iff isolated]
    have kept : ¬(replaceEmpty = true ∧ latest.items = [] ∧
        nodeCode ∈ env.settings.expectedProductionNodes) :=
      fun drops => dropped ⟨drops.1, drops.2.1⟩
    simp [kept]

theorem serve_isolated_iff (isolated : store.statusOf nodeCode = some .isolated)
    (held : ¬ call.Releases nodeCode) :
    ((storeAuthority env).serve store call).statusOf nodeCode = some .isolated ↔
      ¬ call.Overwrites env nodeCode := by
  change (after (call.perform env) store).statusOf nodeCode = _ ↔ _
  obtain ⟨now, operation⟩ := call
  have stays {p : StoreProcedure StoreReply} (keeps : Procedure.Keeps StaysIsolated p) :
      (after p store).statusOf nodeCode = some .isolated ↔ ¬False :=
    iff_of_true (keeps store nodeCode isolated) id
  have bound {α : Type} {p : StoreProcedure α} {f : α → StoreReply}
      (keeps : Procedure.Keeps SameNodes p) :
      Procedure.Keeps StaysIsolated (p >>= fun a => pure (f a)) :=
    keeps_staysIsolated (keeps_answer keeps)
  cases operation with
  | recordHeartbeat report =>
    exact stays (keeps_answer fun store => @staysIsolated_recordHeartbeat env _ _ report)
  | recordNodeHeartbeatV2 payload =>
    exact stays (keeps_answer (staysIsolated_recordNodeHeartbeatV2 payload))
  | recordMetric metric evaluate =>
    change (after (_ >>= _) store).statusOf nodeCode = _ ↔ _
    rw [after_bind_pure]
    exact recordMetric_isolated_iff isolated
  | checkHeartbeatTimeout =>
    exact stays (keeps_answer fun store => staysIsolated_checkHeartbeatTimeout)
  | loadHeartbeatShadow latest replaceEmpty =>
    change (after (_ >>= _) store).statusOf nodeCode = _ ↔ _
    rw [after_bind_pure]
    exact loadHeartbeatShadow_isolated_iff isolated
  | isolateNode target actor decision =>
    exact stays (keeps_answer (staysIsolated_isolateNode target actor decision))
  | restoreNode target actor decision =>
    change (after (_ >>= _) store).statusOf nodeCode = _ ↔ _
    rw [after_bind_pure]
    exact iff_of_true (guarded_isolated statusOf_restored isolated held) id
  | retireNode target actor decision =>
    change (after (_ >>= _) store).statusOf nodeCode = _ ↔ _
    rw [after_bind_pure]
    exact iff_of_true (guarded_isolated statusOf_retired isolated held) id
  | createReadyPart request => exact stays (bound fun store => sameNodes_createReadyPart request)
  | claimNextPartForNode target ttlSeconds =>
    exact stays (bound fun store => sameNodes_claimNextPartForNode ttlSeconds)
  | releaseExpiredPartClaims => exact stays (bound fun store => rfl)
  | completeClaimedPart target partId claimToken =>
    refine stays (bound (keeps_transact fun store _ _ h => ?_))
    exact sameNodes_completeClaimedPart h

/-- In every run no isolated node loses its status before it is released, if and only if no
call of the run overwrites the status of an isolated node. -/
theorem keepsIsolation_along_iff (env : StoreEnv) (store : MemoryStore)
    (calls : List StoreCall) :
    (storeAuthority env).Along (KeepsIsolation env) store calls ↔
      (storeAuthority env).Along (fun store call => ∀ nodeCode,
        store.statusOf nodeCode = some .isolated → ¬ call.Overwrites env nodeCode) store calls := by
  constructor
  · refine Authority.along_mono fun store call keeps nodeCode isolated overwrites => ?_
    have held : ¬ call.Releases nodeCode := by
      obtain ⟨now, operation⟩ := call
      intro releases
      cases operation <;> first | exact releases | exact overwrites
    exact (serve_isolated_iff isolated held).mp (keeps nodeCode isolated held) overwrites
  · refine Authority.along_mono fun store call spares nodeCode isolated held => ?_
    exact (serve_isolated_iff isolated held).mpr (spares nodeCode isolated)

def sampleMilling : String := "milling-workshop-01"

def sampleIsolation : List StoreCall :=
  [⟨0, .recordHeartbeat
      { nodeCode := sampleMilling, agentVersion := "0.1.0", uptimeSeconds := 1,
        localDbSizeBytes := 0 }⟩,
    ⟨1, .isolateNode sampleMilling "admin" (some
      { allow := true, reasonCode := "allowed", message := "", action := "isolate_node",
        targetNode := sampleMilling, actorRole := "system_admin", actorId := "admin" })⟩]

def sampleOverload : StoreCall :=
  ⟨2, .recordMetric
    { nodeCode := sampleMilling
      workshopType := none
      cpuUsage := ⟨95, by decide +kernel⟩
      memoryUsage := ⟨40, by decide +kernel⟩
      diskUsage := ⟨40, by decide +kernel⟩
      networkIn := 1000
      networkOut := 1000
      dbLatencyMs := 10
      apiLatencyMs := 920
      finishedQuantity := 0
      defectQuantity := 0 } true⟩

/-- An overloaded sample makes an isolated node `degraded`. -/
theorem record_metric_overwrites_isolated : ¬ ∀ (env : StoreEnv) (store : MemoryStore)
    (calls : List StoreCall), (storeAuthority env).Along (KeepsIsolation env) store calls := by
  intro h
  have keeps := (Authority.along_append.mp
    (h sampleStoreEnv .empty (sampleIsolation ++ [sampleOverload]))).2.1
  have isolated : ((storeAuthority sampleStoreEnv).run .empty sampleIsolation).statusOf
      sampleMilling = some .isolated := by
    decide +kernel
  have lost := keeps sampleMilling isolated id
  revert lost
  decide +kernel

variable {store' : MemoryStore} {settings : InterfaceSettings} {interface : WorkshopInterface}
  {call : InterfaceCall}

theorem handsPart_perform_iff (call : StoreCall) :
    HandsPart nodeCode store (after (call.perform env) store) ↔
      MovesPart env store call nodeCode := by
  obtain ⟨now, operation⟩ := call
  cases operation with
  | recordNodeHeartbeatV2 payload =>
    change HandsPart _ _ (after (_ >>= _) _) ↔ _
    rw [after_bind_pure]
    exact recordNodeHeartbeatV2_hands payload
  | createReadyPart request =>
    refine iff_of_false ?_ id
    exact (@createReadyParts_moves env now store nodeCode nodeCode request 1).2
  | claimNextPartForNode target ttlSeconds =>
    exact (@claimNextPartForNode_moves env now store nodeCode target ttlSeconds).2.1
  | releaseExpiredPartClaims =>
    refine iff_of_false ?_ id
    rw [handsPart_of_append rfl]
    rintro ⟨row, member, -, busy⟩
    exact busy (releasedParts_ready row member)
  | completeClaimedPart target partId claimToken =>
    change HandsPart _ _ (after (_ >>= _) _) ↔ _
    rw [after_bind_pure]
    exact (@completeClaimedPart_moves now store nodeCode target partId claimToken).2
  | _ => exact iff_of_false (handsPart_of_same (leavesParts_perform ⟨now, _⟩ rfl).rows) id

theorem nodeDispatchForNode_ne_nil {tasks : List DispatchTask} :
    nodeDispatchForNode tasks nodeCode ≠ [] ↔
      ∃ task ∈ tasks, task.assignedNode = nodeCode ∧ task.live = true := by
  unfold nodeDispatchForNode
  split
  next none =>
    refine iff_of_false (fun h => h rfl) ?_
    rintro ⟨task, member, own, live⟩
    have missed := List.find?_eq_none.mp none task member
    rw [Bool.and_eq_true, decide_eq_true_eq] at missed
    exact missed ⟨own, live⟩
  next task found =>
    have meets := List.find?_some found
    rw [Bool.and_eq_true, decide_eq_true_eq] at meets
    exact iff_of_true (List.cons_ne_nil _ _) ⟨task, List.mem_of_find?_eq_some found, meets⟩

theorem claimCommands_ne_nil {agentId : String} :
    (interface.claimCommands settings now nodeCode agentId).1 ≠ [] ↔
      ∃ command ∈ interface.commands, command.nodeCode = nodeCode ∧
        command.status.claimable = true := by
  have given : (interface.claimCommands settings now nodeCode agentId).1 ≠ [] ↔
      ∃ command ∈ (expireStaleClaims interface.commands now
        settings.commandClaimTimeoutSeconds).2, command.nodeCode = nodeCode ∧
          command.status.claimable = true := by
    unfold WorkshopInterface.claimCommands claimForNode pendingForNode
    simp
  rw [given]
  constructor
  · rintro ⟨command, member, own, claimable⟩
    obtain ⟨old, there, rfl⟩ := List.mem_map.mp member
    split at own
    next stale =>
      rw [if_pos stale] at claimable
      cases claimable
    next fresh =>
      rw [if_neg fresh] at claimable
      exact ⟨old, there, own, claimable⟩
  · rintro ⟨command, member, own, claimable⟩
    have fresh : command.staleClaim now settings.commandClaimTimeoutSeconds = false := by
      have waits : command.status = .pending ∨ command.status = .queued := by
        simpa [CommandStatus.claimable] using claimable
      unfold NodeCommand.staleClaim
      rcases waits with h | h <;> rw [h] <;> rfl
    refine ⟨command, List.mem_map.mpr ⟨command, member, ?_⟩, own, claimable⟩
    rw [if_neg (by rw [fresh]; exact Bool.false_ne_true)]

theorem handsOut_iff :
    HandsOut settings interface call nodeCode ↔
      WorkWaits settings.env interface call nodeCode := by
  cases call with
  | store call => exact handsPart_perform_iff call
  | command call => exact Iff.rfl
  | rebuildDispatch tasks => exact Iff.rfl
  | nodeDispatchForNode target =>
    refine and_congr_right fun same => ?_
    rw [same]
    exact nodeDispatchForNode_ne_nil
  | claimPendingCommandsForNode now target agentId =>
    refine and_congr_right fun same => ?_
    rw [same]
    exact claimCommands_ne_nil

/-- A run gives a node no work from its isolation to its restore, if and only if no call in
between asks for work of the node that is there. -/
theorem isolation_cuts_iff (settings : InterfaceSettings) (calls : List InterfaceCall) :
    (interfaceAuthority settings).Along (fun interface call => ∀ nodeCode ∈ interface.cutOff,
        ¬ HandsOut settings interface call nodeCode) .empty calls ↔
      (interfaceAuthority settings).Along (fun interface call => ∀ nodeCode ∈ interface.cutOff,
        ¬ WorkWaits settings.env interface call nodeCode) .empty calls := by
  constructor
  · refine Authority.along_mono fun interface call none nodeCode cut waits => ?_
    exact none nodeCode cut (handsOut_iff.mpr waits)
  · refine Authority.along_mono fun interface call none nodeCode cut given => ?_
    exact none nodeCode cut (handsOut_iff.mp given)

def sampleInterface : InterfaceSettings where
  env := sampleStoreEnv
  verifier := .standard
  commandClaimTimeoutSeconds := 60

def isolatedWithPart : List InterfaceCall :=
  [.store ⟨0, .recordNodeHeartbeatV2 (sampleHeartbeat "A3" 0).2⟩,
    .store ⟨1, .recordNodeHeartbeatV2 (sampleHeartbeat "A3" 1).2⟩] ++ sampleIsolation.map .store

instance (nodeCode : String) (store store' : MemoryStore) :
    Decidable (HandsPart nodeCode store store') :=
  inferInstanceAs (Decidable (∃ row ∈ store.newRows store',
    row.targetNode = nodeCode ∧ row.status ≠ .ready))

/-- An isolated node claims the part. -/
theorem isolated_node_claims : ¬ ∀ (settings : InterfaceSettings) (calls : List InterfaceCall),
    (interfaceAuthority settings).Along (fun interface call => ∀ nodeCode ∈ interface.cutOff,
      ¬ HandsOut settings interface call nodeCode) .empty calls := by
  intro h
  have along := (Authority.along_append.mp (h sampleInterface
    (isolatedWithPart ++ [.store ⟨2, .claimNextPartForNode sampleMilling 30⟩]))).2.1
  refine along sampleMilling (by decide +kernel) ?_
  change HandsPart _ _ _
  decide +kernel

end MiniOgas
