import MiniOgas.HeartbeatFlow

namespace MiniOgas

open Procedure Serial

variable {env : StoreEnv} {now : Timestamp} {store store' : MemoryStore}
  {α β : Type}

structure LeavesParts (store store' : MemoryStore) : Prop where
  rows : store'.partRows = store.partRows
  seq : store'.partSeq = store.partSeq
  queue : List.Sublist store'.partQueue store.partQueue

instance : IsPreorder MemoryStore LeavesParts where
  refl _ := ⟨rfl, rfl, List.Sublist.refl _⟩
  trans _ _ _ one two :=
    ⟨two.rows.trans one.rows, two.seq.trans one.seq, two.queue.trans one.queue⟩

theorem SameParts.leaves (same : SameParts store store') : LeavesParts store store' :=
  ⟨same.rows, same.seq, by rw [same.queue]⟩

theorem leavesParts_setStatus (target : String) (status : NodeStatus) :
    LeavesParts store (setStatus target status store) :=
  ⟨rfl, rfl, List.Sublist.refl _⟩

theorem leavesParts_isolateNode (target actor : String) (decision : Option SafetyDecision) :
    Procedure.Keeps LeavesParts (isolateNode target actor decision) := by
  refine keeps_transact fun store _ store' h => ?_
  replace h := of_then (of_then h)
  cases h
  exact leavesParts_setStatus target .isolated

theorem leavesParts_restoreNode (target actor : String) (decision : Option SafetyDecision) :
    Procedure.Keeps LeavesParts (restoreNode now target actor decision) := by
  refine keeps_transact fun store _ store' h => ?_
  replace h := of_then (of_then h)
  cases h
  exact ⟨rfl, rfl, List.Sublist.refl _⟩

theorem leavesParts_retireNode (target actor : String) (decision : Option SafetyDecision) :
    Procedure.Keeps LeavesParts (retireNode target actor decision) := by
  refine keeps_transact fun store _ store' h => ?_
  replace h := of_then (of_then h)
  cases h
  exact ⟨rfl, rfl, List.filter_sublist⟩

theorem leavesParts_recordMetric (metric : MetricIn) (evaluate : Bool) :
    Procedure.Keeps LeavesParts (recordMetric env now metric evaluate) := by
  refine keeps_bind (fun store => ⟨rfl, rfl, List.Sublist.refl _⟩) fun _ => ?_
  split
  next => exact refl
  next =>
    refine keeps_bind (fun store => ?_) fun _ => ?_
    · change LeavesParts store (metric.degrade store)
      unfold MetricIn.degrade
      split
      next => exact leavesParts_setStatus _ _
      next => exact refl store
    · split
      next =>
        refine keeps_bind ?_ fun _ => refl
        exact keeps_bind refl fun store => leavesParts_isolateNode _ _ _
      next => exact refl

theorem leavesParts_restoreHeartbeatShadowLocked (target : String) (payload : Fields)
    (receivedAt : Json) : Procedure.Keeps LeavesParts
      (restoreHeartbeatShadowLocked env now target payload receivedAt) := by
  refine keeps_bind (keeps_lift _) fun time => ?_
  refine keeps_bind (keeps_modify fun store => ⟨rfl, rfl, List.Sublist.refl _⟩) fun _ => ?_
  refine keeps_bind (fun store => ?_) fun _ =>
    keeps_bind (keeps_modify fun store => ⟨rfl, rfl, List.Sublist.refl _⟩) fun _ => ?_
  · obtain ⟨machines, same⟩ := onlyMachines_reportMachine _ _ store
    rw [same]
    exact ⟨rfl, rfl, List.Sublist.refl _⟩
  · refine keeps_bind (keeps_lift _) fun metric store => ?_
    change LeavesParts store { store with metrics := _ }
    exact ⟨rfl, rfl, List.Sublist.refl _⟩

theorem leavesParts_loadHeartbeatShadow (latest : Dictionary String (Fields × Json))
    (replaceEmpty : Bool) :
    Procedure.Keeps LeavesParts (loadHeartbeatShadow env now latest replaceEmpty) := by
  have dropped : ∀ (nodes : List String) (store : MemoryStore),
      LeavesParts store (nodes.foldl dropHeartbeat store) := by
    intro nodes
    induction nodes with
    | nil => exact refl
    | cons target nodes ih =>
      intro store
      have first : LeavesParts store (dropHeartbeat store target) :=
        ⟨rfl, rfl, List.Sublist.refl _⟩
      exact IsTrans.trans _ _ _ first (ih _)
  refine keeps_bind (fun store => ?_) fun _ => keeps_bind ?_ fun _ => refl
  · change LeavesParts store (if _ then _ else _)
    split
    next => exact dropped _ store
    next => exact refl store
  · exact keeps_forM fun item _ =>
      leavesParts_restoreHeartbeatShadowLocked _ _ _

def StoreOperation.onNodes : StoreOperation → Bool
  | .recordNodeHeartbeatV2 _ | .createReadyPart _ | .claimNextPartForNode _ _
  | .releaseExpiredPartClaims | .completeClaimedPart _ _ _ => false
  | _ => true

/-- The frame of the calls about nodes: they leave the rows of the parts alone. -/
theorem leavesParts_perform (call : StoreCall) (onNodes : call.operation.onNodes = true) :
    LeavesParts store (after (call.perform env) store) := by
  obtain ⟨now, operation⟩ := call
  cases operation with
  | recordHeartbeat report | checkHeartbeatTimeout => exact ⟨rfl, rfl, List.Sublist.refl _⟩
  | recordMetric metric evaluate =>
    exact keeps_answer (leavesParts_recordMetric metric evaluate) store
  | loadHeartbeatShadow latest replaceEmpty =>
    exact keeps_answer (leavesParts_loadHeartbeatShadow latest replaceEmpty) store
  | isolateNode target actor decision =>
    exact keeps_answer (leavesParts_isolateNode target actor decision) store
  | restoreNode target actor decision =>
    exact keeps_answer (leavesParts_restoreNode target actor decision) store
  | retireNode target actor decision =>
    exact keeps_answer (leavesParts_retireNode target actor decision) store
  | _ => cases onNodes

end MiniOgas
