import MiniOgas.NodeIsolation
import MiniOgas.PartEffects

namespace MiniOgas

open Procedure Serial

variable {env : StoreEnv} {now : Timestamp} {store store' : MemoryStore} {nodeCode : String}
  {payload : Fields}

structure SameParts (store store' : MemoryStore) : Prop where
  queue : store'.partQueue = store.partQueue
  seq : store'.partSeq = store.partSeq
  watermark : store'.partCompletionWatermark = store.partCompletionWatermark
  rows : store'.partRows = store.partRows

instance : IsPreorder MemoryStore SameParts where
  refl _ := ⟨rfl, rfl, rfl, rfl⟩
  trans _ _ _ one two := ⟨two.queue.trans one.queue, two.seq.trans one.seq,
    two.watermark.trans one.watermark, two.rows.trans one.rows⟩

theorem sameParts_prepareHeartbeat (payload : Fields) :
    Keeps SameParts (prepareHeartbeat env now payload) := by
  refine keeps_bind (keeps_lift _) fun _ => keeps_bind refl fun store => ?_
  refine keeps_bind (keeps_lift _) fun report => ?_
  refine keeps_bind (fun store => ⟨rfl, rfl, rfl, rfl⟩) fun reply => ?_
  refine keeps_bind (keeps_lift _) fun metric => keeps_bind (keeps_lift _) fun enriched => ?_
  refine keeps_bind (fun store => ?_) fun _ => ?_
  swap
  · exact keeps_bind (fun store => ⟨rfl, rfl, rfl, rfl⟩) fun _ => refl
  obtain ⟨machines, same⟩ := onlyMachines_reportMachine _ _ store
  rw [same]
  exact ⟨rfl, rfl, rfl, rfl⟩

def acceptsHeartbeat (env : StoreEnv) (store : MemoryStore) (payload : Fields) : Bool :=
  let nodeCode := env.builtins.text (payload.get "node_code")
  let production := (payload.get "production").dict
  let workshopType := textOr env (production.get "workshop_type") (inferWorkshopType nodeCode)
  (check (payload.any (·.1 = "node_code")) (StoreFault.keyError "node_code")).isOk &&
    ((readHeartbeat env store payload).isOk &&
      ((readMetric env nodeCode workshopType (payload.get "metrics").dict production).isOk &&
        ((enrichProduction env production (store.previousProduction nodeCode)).isOk &&
          readsMachine env production)))

theorem returns_prepareHeartbeat (payload : Fields) :
    returns (prepareHeartbeat env now payload) store = acceptsHeartbeat env store payload := by
  refine returns_lift_bind _ fun _ _ => returns_lift_bind _ fun report _ => ?_
  refine decided_lift_bind _ (fun metric => decided_lift_bind _ fun _ => ?_) _
  exact decided_congr (decided_bind decided_reportMachine fun _ =>
    decided_modify_bind _ fun _ _ => rfl) (Bool.and_true _)

theorem currentRunId_prepareHeartbeat {reply : HeartbeatReply}
    (h : prepareHeartbeat env now payload store = .ok reply store') :
    currentRunIdForNode env store' (env.builtins.text (payload.get "node_code")) =
      runtimeText env payload "run_id" := by
  iterate 7 obtain ⟨_, _, -, h⟩ := of_bind h
  obtain ⟨_, _, put, h⟩ := of_bind h
  cases put
  cases h
  change runtimeText env ((Dictionary.get? (Dictionary.set _ _ _) _).getD []) "run_id" = _
  rw [Dictionary.get?_set, if_pos rfl, Option.getD_some]
  unfold runtimeText heartbeatEntry
  simp only [Fields.get_set]
  rfl

theorem recordNodeHeartbeatV2_refused (refused : acceptsHeartbeat env store payload = false) :
    SameParts store (after (recordNodeHeartbeatV2 env now payload) store) := by
  have prepared := @sameParts_prepareHeartbeat env now payload store
  obtain ⟨fault, raised⟩ :=
    exists_error_of_not_returns ((@returns_prepareHeartbeat _ now _ payload).trans refused)
  unfold recordNodeHeartbeatV2
  rwa [after_bind_error raised]

theorem recordNodeHeartbeatV2_accepted (accepted : acceptsHeartbeat env store payload = true) :
    ∃ prepared, SameParts store prepared ∧
      currentRunIdForNode env prepared (env.builtins.text (payload.get "node_code")) =
        runtimeText env payload "run_id" ∧
      after (recordNodeHeartbeatV2 env now payload) store =
        after (advancePartFlowFromHeartbeat env now (env.builtins.text (payload.get "node_code"))
          (payload.get "production").dict) prepared := by
  have same := @sameParts_prepareHeartbeat env now payload store
  obtain ⟨reply, returned⟩ :=
    exists_ok_of_returns ((@returns_prepareHeartbeat _ now _ payload).trans accepted)
  refine ⟨_, same, currentRunId_prepareHeartbeat returned, ?_⟩
  unfold recordNodeHeartbeatV2
  rw [after_bind_ok returned, after_bind_pure]

theorem finished_of_accepts (accepted : acceptsHeartbeat env store payload = true) :
    ∃ finished, intOrZero env ((payload.get "production").dict.get "finished_quantity") =
      .ok finished := by
  unfold acceptsHeartbeat at accepted
  simp only [Bool.and_eq_true] at accepted
  obtain ⟨metric, h⟩ := exists_ok accepted.2.2.1
  iterate 7 obtain ⟨_, -, h⟩ := of_bind h
  obtain ⟨finished, read, -⟩ := of_bind h
  exact ⟨finished, read⟩

def MemoryStore.watermark (store : MemoryStore) (nodeCode runId : String) : Option Int :=
  store.partCompletionWatermark.get? (nodeCode, runId)

theorem advancePartFlow_turning {production : Fields} {finished : Int}
    (read : intOrZero env (production.get "finished_quantity") = .ok finished) :
    ∃ marked, marked.partQueue = store.partQueue ∧ marked.partRows = store.partRows ∧
      marked.partSeq = store.partSeq ∧ marked.partCompletionWatermark =
        store.partCompletionWatermark.set
          ("turning-workshop-01", currentRunIdForNode env store "turning-workshop-01") finished ∧
      after (advancePartFlowFromHeartbeat env now "turning-workshop-01" production) store =
        match store.watermark "turning-workshop-01"
            (currentRunIdForNode env store "turning-workshop-01") with
        | none => marked
        | some previous => createReadyParts env now (turningRequest env production)
            (min (finished - previous).toNat flowLimit) marked := by
  refine ⟨(advanceWatermark env "turning-workshop-01" finished store).2, rfl, rfl, rfl, rfl, ?_⟩
  unfold advancePartFlowFromHeartbeat
  rw [read]
  change after (match store.watermark _ _ with | none => _ | some previous => _)
    (advanceWatermark env "turning-workshop-01" finished store).2 = _
  cases store.watermark "turning-workshop-01"
      (currentRunIdForNode env store "turning-workshop-01") with
  | none => rfl
  | some previous =>
    dsimp only
    split
    next low =>
      have none : (finished - previous).toNat = 0 := by omega
      rw [none]
      rfl
    next =>
      unfold movePartFlow
      rfl

/-- The created parts are numbered on from the sequence, as the request describes them. -/
theorem createReadyParts_rows (request : PartRequest) (n : Nat) : ∃ created,
    (createReadyParts env now request n store).partRows = store.partRows ++ created ∧
    (createReadyParts env now request n store).partSeq = store.partSeq + n ∧
    (createReadyParts env now request n store).partCompletionWatermark =
      store.partCompletionWatermark ∧
    created.map (·.partId) = (List.range' (store.partSeq + 1) n).map partIdText ∧
    ∀ part ∈ created, part.parentPartId = request.parentPartId ∧
      part.currentOperation = request.currentStep ∧ part.productCode = request.product := by
  induction n generalizing store with
  | zero => exact ⟨[], (List.append_nil _).symm, rfl, rfl, rfl, nofun⟩
  | succ n ih =>
    have append := @createReadyPart_append env store now request
    obtain ⟨created, rows, seq, watermark, ids, each⟩ :=
      @ih ((createReadyPart env store now request).2)
    refine ⟨(createReadyPart env store now request).1 :: created, ?_, ?_, ?_, ?_, ?_⟩
    · rw [createReadyParts, rows, append.rows, List.append_assoc]
      rfl
    · rw [createReadyParts, seq, append.seq]
      omega
    · exact watermark.trans (by simp only [createReadyPart, persistPartQueueItem, queuePart])
    · rw [List.map_cons, ids, List.range'_succ, List.map_cons, append.seq, append.partId]
    · intro part h
      rcases List.mem_cons.mp h with rfl | h
      · exact ⟨rfl, rfl, rfl⟩
      · exact each part h

end MiniOgas
