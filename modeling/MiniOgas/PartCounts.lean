import MiniOgas.HeartbeatFlow

namespace MiniOgas

open Procedure Serial

variable {env : StoreEnv} {now : Timestamp} {store store' : MemoryStore} {payload : Fields}
  {run : String}

def turningNode : String := "turning-workshop-01"

/-- The `finished_quantity` that a heartbeat reports. -/
def finishedQuantity (env : StoreEnv) (payload : Fields) : Int :=
  (intOrZero env ((payload.get "production").dict.get "finished_quantity")).toOption.getD 0

def cappedIncreases : List Int → Nat
  | previous :: count :: counts =>
    min (count - previous).toNat flowLimit + cappedIncreases (count :: counts)
  | _ => 0

def heartbeatCalls (heartbeats : List (Timestamp × Fields)) : List StoreCall :=
  heartbeats.map fun heartbeat => ⟨heartbeat.1, .recordNodeHeartbeatV2 heartbeat.2⟩

structure CreatedParts (store store' : MemoryStore) (created : List PartQueueItem) : Prop where
  rows : store'.partRows = store.partRows ++ created
  ids : created.map (·.partId) =
    (List.range' (store.partSeq + 1) created.length).map partIdText
  seq : store'.partSeq = store.partSeq + created.length

theorem createdParts_nil (store : MemoryStore) : CreatedParts store store [] :=
  ⟨(List.append_nil _).symm, rfl, rfl⟩

theorem createdParts_append {middle : MemoryStore} {first second : List PartQueueItem}
    (one : CreatedParts store middle first) (two : CreatedParts middle store' second) :
    CreatedParts store store' (first ++ second) where
  rows := by rw [two.rows, one.rows, List.append_assoc]
  ids := by
    rw [List.map_append, one.ids, two.ids, one.seq, List.length_append, ← List.range'_append_1,
      List.map_append]
    congr 3
    omega
  seq := by rw [two.seq, one.seq, List.length_append, Nat.add_assoc]

def reportedCounts (env : StoreEnv) : MemoryStore → List (Timestamp × Fields) → List Int
  | _, [] => []
  | store, heartbeat :: heartbeats =>
    let next := after (recordNodeHeartbeatV2 env heartbeat.1 heartbeat.2) store
    if returns (recordNodeHeartbeatV2 env heartbeat.1 heartbeat.2) store then
      finishedQuantity env heartbeat.2 :: reportedCounts env next heartbeats
    else reportedCounts env next heartbeats

structure TurningRun (env : StoreEnv) (run : String) (store : MemoryStore)
    (heartbeats : List (Timestamp × Fields)) : Prop where
  turning : ∀ heartbeat ∈ heartbeats,
    env.builtins.text (heartbeat.2.get "node_code") = turningNode
  ofRun : ∀ heartbeat ∈ heartbeats, runtimeText env heartbeat.2 "run_id" = run
  unmarked : store.watermark turningNode run = none
  nondecreasing : (reportedCounts env store heartbeats).IsChain (· ≤ ·)

theorem cappedIncreases_append (mark : Option Int) (count : Int) (counts : List Int) :
    cappedIncreases (mark.toList ++ count :: counts) =
      cappedIncreases (mark.toList ++ [count]) + cappedIncreases (count :: counts) := by
  cases mark with
  | none => exact (Nat.zero_add _).symm
  | some previous => rfl

theorem cappedIncreases_telescope (count : Int) (counts : List Int)
    (nondecreasing : (count :: counts).IsChain (· ≤ ·)) :
    (cappedIncreases (count :: counts) : Int) ≤ (count :: counts).getLastD 0 - count ∧
      ((cappedIncreases (count :: counts) : Int) = (count :: counts).getLastD 0 - count ↔
        (count :: counts).IsChain fun previous next => next ≤ previous + (flowLimit : Int)) := by
  induction counts generalizing count with
  | nil => simp [cappedIncreases]
  | cons next counts ih =>
    obtain ⟨up, later⟩ := List.isChain_cons_cons.mp nondecreasing
    obtain ⟨bound, equal⟩ := ih next later
    have last : (count :: next :: counts).getLastD 0 = (next :: counts).getLastD 0 := rfl
    have step : cappedIncreases (count :: next :: counts) =
        min (next - count).toNat 20 + cappedIncreases (next :: counts) := rfl
    have limit : (flowLimit : Int) = 20 := rfl
    rw [List.isChain_cons_cons, ← equal, last, step, limit]
    constructor <;> omega

theorem returns_bind_ok {α β : Type} {p : StoreProcedure α} {f : α → StoreProcedure β} {a : α}
    (h : p store = .ok a store') : returns (p >>= f) store = returns (f a) store' := by
  unfold returns
  rw [bind_ok h]

theorem returns_advancePartFlow_turning (production : Fields) :
    returns (advancePartFlowFromHeartbeat env now turningNode production) store = true := by
  unfold advancePartFlowFromHeartbeat
  cases intOrZero env (production.get "finished_quantity") with
  | error fault => rfl
  | ok finished =>
    have moved : (modifyGet (advanceWatermark env turningNode finished) :
        StoreProcedure (Option Int)) store =
        .ok (advanceWatermark env turningNode finished store).1
          (advanceWatermark env turningNode finished store).2 := rfl
    refine (returns_bind_ok moved).trans ?_
    split
    next => rfl
    next previous _ =>
      split
      next => rfl
      next =>
        unfold movePartFlow turningNode
        rfl

theorem returns_recordNodeHeartbeatV2
    (turning : env.builtins.text (payload.get "node_code") = turningNode) :
    returns (recordNodeHeartbeatV2 env now payload) store =
      acceptsHeartbeat env store payload := by
  rw [← @returns_prepareHeartbeat _ now _ payload]
  unfold recordNodeHeartbeatV2
  rw [turning]
  cases prepared : prepareHeartbeat env now payload store with
  | error fault store' => simp only [returns, prepared, bind_error prepared]
  | ok reply store' =>
    obtain ⟨flow, flowed⟩ := exists_ok_of_returns
      (@returns_advancePartFlow_turning env now store'
        (payload.get "production").dict)
    simp only [returns, prepared, bind_ok prepared, bind_ok flowed]
    rfl

theorem createdParts_heartbeat
    (turning : env.builtins.text (payload.get "node_code") = turningNode)
    (ofRun : runtimeText env payload "run_id" = run)
    (accepted : acceptsHeartbeat env store payload = true) :
    ∃ created, CreatedParts store (after (recordNodeHeartbeatV2 env now payload) store) created ∧
      created.length = cappedIncreases
        ((store.watermark turningNode run).toList ++ [finishedQuantity env payload]) ∧
      (after (recordNodeHeartbeatV2 env now payload) store).watermark turningNode run =
        some (finishedQuantity env payload) := by
  obtain ⟨prepared, same, ranFor, flowed⟩ :=
    @recordNodeHeartbeatV2_accepted _ now _ _ accepted
  obtain ⟨finished, read⟩ := finished_of_accepts accepted
  have counted : finishedQuantity env payload = finished := by
    unfold finishedQuantity
    rw [read]
    rfl
  rw [turning, ofRun] at ranFor
  obtain ⟨marked, queue, rows, seq, watermark, moved⟩ :=
    @advancePartFlow_turning _ now prepared _ _ read
  rw [turning] at flowed
  unfold turningNode at *
  rw [ranFor] at moved watermark
  rw [flowed, moved, counted]
  have before : prepared.watermark "turning-workshop-01" run =
      store.watermark "turning-workshop-01" run := by
    unfold MemoryStore.watermark
    rw [same.watermark]
  have set : marked.watermark "turning-workshop-01" run = some finished := by
    unfold MemoryStore.watermark
    rw [watermark, Dictionary.get?_set, if_pos rfl]
  rw [before]
  cases store.watermark "turning-workshop-01" run with
  | none =>
    refine ⟨[], ⟨?_, rfl, ?_⟩, rfl, set⟩
    · rw [rows, same.rows, List.append_nil]
    · rw [seq, same.seq]
      rfl
  | some previous =>
    obtain ⟨created, newRows, newSeq, sameMark, ids, -⟩ :=
      @createReadyParts_rows env now marked
        (turningRequest env (payload.get "production").dict)
        (min (finished - previous).toNat flowLimit)
    have length : created.length = min (finished - previous).toNat flowLimit := by
      simpa using congrArg List.length ids
    refine ⟨created, ⟨?_, ?_, ?_⟩, length, ?_⟩
    · rw [newRows, rows, same.rows]
    · rw [ids, length, seq, same.seq]
    · rw [newSeq, length, seq, same.seq]
    · unfold MemoryStore.watermark at set ⊢
      rw [sameMark, set]

theorem createdParts_run {heartbeats : List (Timestamp × Fields)}
    (turning : ∀ heartbeat ∈ heartbeats,
      env.builtins.text (heartbeat.2.get "node_code") = turningNode)
    (ofRun : ∀ heartbeat ∈ heartbeats, runtimeText env heartbeat.2 "run_id" = run) :
    ∃ created, CreatedParts store
        ((storeAuthority env).run store (heartbeatCalls heartbeats)) created ∧
      created.length = cappedIncreases ((store.watermark turningNode run).toList ++
        reportedCounts env store heartbeats) := by
  induction heartbeats generalizing store with
  | nil =>
    refine ⟨[], createdParts_nil store, ?_⟩
    cases store.watermark turningNode run <;> rfl
  | cons heartbeat heartbeats ih =>
    have first := turning heartbeat List.mem_cons_self
    have its := ofRun heartbeat List.mem_cons_self
    obtain ⟨later, laterCreated, laterCount⟩ :=
      @ih (after (recordNodeHeartbeatV2 env heartbeat.1 heartbeat.2) store)
        (fun other h => turning other (List.mem_cons_of_mem _ h))
        (fun other h => ofRun other (List.mem_cons_of_mem _ h))
    have served : (storeAuthority env).serve store ⟨heartbeat.1,
        .recordNodeHeartbeatV2 heartbeat.2⟩ =
        after (recordNodeHeartbeatV2 env heartbeat.1 heartbeat.2) store :=
      after_bind_pure _ _
    unfold reportedCounts
    rw [returns_recordNodeHeartbeatV2 first]
    cases accepted : acceptsHeartbeat env store heartbeat.2 with
    | false =>
      have same := @recordNodeHeartbeatV2_refused _ heartbeat.1 _ _ accepted
      refine ⟨later, ⟨?_, ?_, ?_⟩, ?_⟩
      · rw [← same.rows, ← laterCreated.rows, ← served]
        rfl
      · rw [laterCreated.ids, same.seq]
      · rw [← same.seq, ← laterCreated.seq, ← served]
        rfl
      · unfold MemoryStore.watermark at laterCount ⊢
        rw [laterCount, same.watermark, if_neg Bool.false_ne_true]
    | true =>
      obtain ⟨created, one, count, mark⟩ :=
        @createdParts_heartbeat _ heartbeat.1 _ _ _ first its accepted
      refine ⟨created ++ later, createdParts_append one ?_, ?_⟩
      · rw [← served] at laterCreated ⊢
        exact laterCreated
      · rw [List.length_append, count, laterCount, mark, if_pos rfl,
          cappedIncreases_append _ _ (reportedCounts _ _ _)]
        rfl

/-- Over a run of heartbeats of the turning node the parts that it creates are its increases,
each up to twenty, and so its whole increase just when no increase is above twenty. -/
theorem createdParts_turningRun {heartbeats : List (Timestamp × Fields)}
    (turningRun : TurningRun env run store heartbeats) :
    ∃ created, CreatedParts store
        ((storeAuthority env).run store (heartbeatCalls heartbeats)) created ∧
      created.length = cappedIncreases (reportedCounts env store heartbeats) ∧
      ((created.length : Int) = (reportedCounts env store heartbeats).getLastD 0 -
          (reportedCounts env store heartbeats).headD 0 ↔
        (reportedCounts env store heartbeats).IsChain
          fun previous next => next ≤ previous + 20) := by
  obtain ⟨created, parts, count⟩ :=
    @createdParts_run _ store _ _ turningRun.turning turningRun.ofRun
  rw [turningRun.unmarked, Option.toList_none, List.nil_append] at count
  refine ⟨created, parts, count, ?_⟩
  rw [count]
  have nondecreasing := turningRun.nondecreasing
  cases counts : reportedCounts env store heartbeats with
  | nil => simp [cappedIncreases]
  | cons first later =>
    rw [counts] at nondecreasing
    exact (cappedIncreases_telescope first later nondecreasing).2

def sampleHeartbeat (product : String) (finished : Int) : Timestamp × Fields :=
  (finished, [("node_code", .str turningNode),
    ("runtime", .obj [("run_id", .str "RUN-1"), ("scenario_id", .str "S-1")]),
    ("production", .obj [("active_order", .str "WO-1"), ("product_code", .str product),
      ("finished_quantity", .int finished)])])

def sampleJump : List (Timestamp × Fields) := [sampleHeartbeat "A3" 0, sampleHeartbeat "A3" 21]

theorem reportedCounts_jump : reportedCounts sampleStoreEnv .empty sampleJump = [0, 21] := by
  decide +kernel

theorem turningRun_jump : TurningRun sampleStoreEnv "RUN-1" .empty sampleJump where
  turning := by decide
  ofRun := by decide
  unmarked := rfl
  nondecreasing := by
    decide

theorem createdParts_turningRun_jump : ∃ created,
    CreatedParts .empty ((storeAuthority sampleStoreEnv).run .empty
      (heartbeatCalls sampleJump)) created ∧ created.length = 20 := by
  obtain ⟨created, parts, count, -⟩ := createdParts_turningRun turningRun_jump
  rw [reportedCounts_jump] at count
  exact ⟨created, parts, count⟩

/-- A jump by twenty-one loses a part. -/
theorem jump_loses_part : ¬∀ (env : StoreEnv) (run : String) (store : MemoryStore)
    (heartbeats : List (Timestamp × Fields)), TurningRun env run store heartbeats →
      ∃ created, CreatedParts store
        ((storeAuthority env).run store (heartbeatCalls heartbeats)) created ∧
      (created.length : Int) = (reportedCounts env store heartbeats).getLastD 0 -
        (reportedCounts env store heartbeats).headD 0 := by
  intro h
  obtain ⟨created, parts, whole⟩ := h _ _ _ _ turningRun_jump
  have seq : ((storeAuthority sampleStoreEnv).run .empty
      (heartbeatCalls sampleJump)).partSeq = 20 := by
    decide +kernel
  have none : MemoryStore.empty.partSeq = 0 := rfl
  have length := parts.seq
  rw [reportedCounts_jump] at whole
  rw [seq, none, Nat.zero_add] at length
  rw [← length] at whole
  exact absurd whole (by decide)

end MiniOgas
