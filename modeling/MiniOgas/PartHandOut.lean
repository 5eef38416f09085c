import MiniOgas.WorkshopInterface

namespace MiniOgas

open Bounded Procedure Serial

variable {env : StoreEnv} {now : Timestamp} {store store' : MemoryStore}
  {nodeCode target run : String} {payload : Fields} {rows queue : List PartQueueItem}
  {part : PartQueueItem}

theorem handsPart_of_append (append : store'.partRows = store.partRows ++ rows) :
    HandsPart nodeCode store store' ↔
      ∃ row ∈ rows, row.targetNode = nodeCode ∧ row.status ≠ .ready := by
  unfold HandsPart MemoryStore.newRows
  rw [append, List.drop_left]

theorem handsPart_of_same (same : store'.partRows = store.partRows) :
    ¬ HandsPart nodeCode store store' := by
  rw [handsPart_of_append (by rw [same, List.append_nil])]
  rintro ⟨row, none, -⟩
  exact absurd none List.not_mem_nil

/-- Rows are appended, and those of parts that are not ready are of one node. -/
def MovesOnly (nodeCode : String) (store store' : MemoryStore) : Prop :=
  ∃ rows, store'.partRows = store.partRows ++ rows ∧
    ∀ row ∈ rows, row.status ≠ .ready → row.targetNode = nodeCode

instance : IsPreorder MemoryStore (MovesOnly nodeCode) where
  refl _ := ⟨[], (List.append_nil _).symm, List.forall_mem_nil _⟩
  trans := by
    rintro _ _ _ ⟨rows, append, own⟩ ⟨more, append', own'⟩
    refine ⟨rows ++ more, by rw [append', append, List.append_assoc], fun row member => ?_⟩
    rcases List.mem_append.mp member with h | h
    · exact own row h
    · exact own' row h

theorem MovesOnly.eq_of_handsPart (moves : MovesOnly target store store')
    (hands : HandsPart nodeCode store store') : target = nodeCode := by
  obtain ⟨rows, append, own⟩ := moves
  obtain ⟨row, member, same, busy⟩ := (handsPart_of_append append).mp hands
  rw [← same, own row member busy]

theorem HandsPart.trans {third : MemoryStore} (hands : HandsPart nodeCode store store')
    (one : MovesOnly target store store') (two : MovesOnly target store' third) :
    HandsPart nodeCode store third := by
  obtain ⟨rows, append, -⟩ := one
  obtain ⟨more, append', -⟩ := two
  obtain ⟨row, member, own⟩ := (handsPart_of_append append).mp hands
  have both : third.partRows = store.partRows ++ (rows ++ more) := by
    rw [append', append, List.append_assoc]
  exact (handsPart_of_append both).mpr ⟨row, List.mem_append_left _ member, own⟩

theorem releasedParts_ready : ∀ row ∈ releasedParts now run queue, row.status = .ready := by
  intro row member
  obtain ⟨old, -, rfl⟩ := List.mem_map.mp member
  rfl

theorem claimable_releasedQueue :
    (∃ part ∈ releasedQueue now run queue, part.claimable run nodeCode = true) ↔
      PartWaits queue now run nodeCode := by
  unfold releasedQueue PartWaits PartQueueItem.claimable
  constructor
  · rintro ⟨part, member, claimable⟩
    obtain ⟨old, there, rfl⟩ := List.mem_map.mp member
    refine ⟨old, there, ?_⟩
    split at claimable
    next expired =>
      simp only [Bool.and_eq_true, decide_eq_true_eq] at claimable
      exact ⟨claimable.1.1, .inr expired⟩
    next =>
      simp only [Bool.and_eq_true, decide_eq_true_eq] at claimable
      exact ⟨claimable.1.1, .inl ⟨claimable.1.2, claimable.2⟩⟩
  · rintro ⟨part, member, own, waits⟩
    refine ⟨_, List.mem_map_of_mem member, ?_⟩
    simp only [Bool.and_eq_true, decide_eq_true_eq]
    split
    next expired =>
      unfold PartQueueItem.claimExpired at expired
      simp only [Bool.and_eq_true] at expired
      exact ⟨⟨own, rfl⟩, expired.1.2⟩
    next fresh =>
      rcases waits with ready | expired
      · exact ⟨⟨own, ready.1⟩, ready.2⟩
      · exact absurd expired fresh

theorem claimNextPartForNode_moves (ttlSeconds : Int) :
    MovesOnly target store (claimNextPartForNode env store now target ttlSeconds).2 ∧
      (HandsPart nodeCode store (claimNextPartForNode env store now target ttlSeconds).2 ↔
        target = nodeCode ∧
          PartWaits store.partQueue now (currentRunIdForSystem env store) nodeCode) ∧
      ((claimNextPartForNode env store now target ttlSeconds).1.isSome = true ↔
        PartWaits store.partQueue now (currentRunIdForSystem env store) target) := by
  unfold claimNextPartForNode
  dsimp only
  split
  next none =>
    have waits : ¬ PartWaits store.partQueue now (currentRunIdForSystem env store) target := by
      rw [← claimable_releasedQueue]
      rintro ⟨part, member, claimable⟩
      exact List.find?_eq_none.mp none part member claimable
    refine ⟨⟨_, rfl, fun row member busy => absurd (releasedParts_ready row member) busy⟩, ?_,
      iff_of_false Bool.false_ne_true waits⟩
    rw [handsPart_of_append rfl]
    constructor
    · rintro ⟨row, member, -, busy⟩
      exact absurd (releasedParts_ready row member) busy
    · rintro ⟨rfl, there⟩
      exact absurd there waits
  next part found =>
    have claimable := List.find?_some found
    have own : part.targetNode = target := by
      simp only [PartQueueItem.claimable, Bool.and_eq_true, decide_eq_true_eq] at claimable
      exact claimable.1.1
    have moves : ∀ row ∈ claimRows (releasedParts now (currentRunIdForSystem env store)
        store.partQueue) (part.claim now target (env.uuid store.uuids) (claimTtl ttlSeconds)),
        row.status ≠ .ready → row.targetNode = target := by
      intro row member busy
      rcases of_mem_concat member with h | rfl
      · obtain ⟨released, there, rfl⟩ := List.mem_map.mp h
        split at busy
        next same =>
          rw [if_pos same]
          exact own
        next => exact absurd (releasedParts_ready released there) busy
      · exact own
    have waits : PartWaits store.partQueue now (currentRunIdForSystem env store) target :=
      claimable_releasedQueue.mp ⟨part, List.mem_of_find?_eq_some found, claimable⟩
    refine ⟨⟨_, rfl, moves⟩, ?_, iff_of_true rfl waits⟩
    rw [handsPart_of_append rfl]
    constructor
    · rintro ⟨row, member, same, busy⟩
      have here := (moves row member busy).symm.trans same
      rw [← here]
      exact ⟨rfl, waits⟩
    · rintro ⟨rfl, -⟩
      exact ⟨_, List.mem_append_right _ List.mem_cons_self, own, PartStatus.noConfusion⟩

theorem finishPart_moves (claimed : part.targetNode = target) :
    MovesOnly target store (finishPart store now target part).2 ∧
      HandsPart target store (finishPart store now target part).2 := by
  rcases finishPart_cases store now target part with ⟨-, finished⟩ |
    ⟨step, next, -, store', finished, append⟩
  · rw [finished]
    have rows : (completedStore store now part).partRows =
        store.partRows ++ [part.complete now] := rfl
    refine ⟨⟨_, rows, fun row member _ => ?_⟩, ?_⟩
    · rw [List.mem_singleton.mp member]
      exact claimed
    · exact (handsPart_of_append rows).mpr
        ⟨_, List.mem_cons_self, claimed, PartStatus.noConfusion⟩
  · rw [finished]
    have rows : store'.partRows = store.partRows ++ ([part.complete now] ++
        [(part.complete now).downstream now (store.partSeq + 1) target step next]) := by
      rw [append.rows, ← List.append_assoc]
      rfl
    refine ⟨⟨_, rows, fun row member busy => ?_⟩, ?_⟩
    · rcases of_mem_concat member with h | rfl
      · rw [List.mem_singleton.mp h]
        exact claimed
      · exact absurd append.ready busy
    · exact (handsPart_of_append rows).mpr
        ⟨_, List.mem_append_left _ List.mem_cons_self, claimed, PartStatus.noConfusion⟩

theorem completeClaimedPart_moves (target partId claimToken : String) :
    MovesOnly target store (after (transact fun store =>
        completeClaimedPart store now target partId claimToken) store) ∧
      (HandsPart nodeCode store (after (transact fun store =>
          completeClaimedPart store now target partId claimToken) store) ↔
        target = nodeCode ∧ ∃ part, store.partQueue.find? (·.partId = partId) = some part ∧
          part.targetNode = nodeCode ∧ part.status = .claimed ∧ claimToken ≠ "" ∧
          part.claimToken = claimToken) := by
  cases h : completablePart store target partId claimToken with
  | error fault =>
    have raised : completeClaimedPart store now target partId claimToken = .error fault :=
      bind_eq_error.mpr (.inl h)
    rw [after_error (transact_error raised)]
    refine ⟨refl store, iff_of_false (handsPart_of_same rfl) ?_⟩
    rintro ⟨rfl, part, found, meets⟩
    rw [completablePart_eq_ok.mpr ⟨found, meets⟩] at h
    cases h
  | ok part =>
    have completed : completeClaimedPart store now target partId claimToken =
        .ok (finishPart store now target part) := bind_eq_ok.mpr ⟨part, h, rfl⟩
    obtain ⟨found, own, meets⟩ := completablePart_eq_ok.mp h
    obtain ⟨moves, hands⟩ := @finishPart_moves now store target part own
    rw [after_ok (transact_ok completed)]
    refine ⟨moves, ?_⟩
    constructor
    · intro given
      cases moves.eq_of_handsPart given
      exact ⟨rfl, part, found, own, meets⟩
    · rintro ⟨rfl, -⟩
      exact hands

variable {env : StoreEnv} {now : Timestamp} {store store' prepared : MemoryStore}
  {nodeCode target run : String} {payload production : Fields} {α β : Type}
  {f : α → StoreProcedure β}

theorem movesOnly_consumeParts (n : Nat) :
    Procedure.Keeps (MovesOnly target) (consumeParts env now target n) :=
  keeps_consumeParts (fun store => (@claimNextPartForNode_moves env now store target target 30).1)
    (fun partId claimToken store =>
      (@completeClaimedPart_moves now store target target partId claimToken).1) n

theorem hands_bind_iff {p : StoreProcedure α} {a : α} {Q : Prop}
    (returned : p store = .ok a store') (moves : MovesOnly target store store')
    (hands : HandsPart nodeCode store store' ↔ Q)
    (rest : ∀ a, Procedure.Keeps (MovesOnly target) (f a))
    (own : target = nodeCode → HandsPart nodeCode store (after (f a) store') → Q) :
    HandsPart nodeCode store (after (p >>= f) store) ↔ Q := by
  rw [after_bind_ok returned]
  constructor
  · intro given
    exact own ((IsTrans.trans _ _ _ moves (rest _ _)).eq_of_handsPart given) given
  · intro there
    exact (hands.mpr there).trans moves (rest _ _)

theorem consumeParts_hands (n : Nat) :
    HandsPart nodeCode store (after (consumeParts env now target (n + 1)) store) ↔
      target = nodeCode ∧
        PartWaits store.partQueue now (currentRunIdForSystem env store) nodeCode := by
  obtain ⟨moves, hands, waits⟩ := @claimNextPartForNode_moves env now store nodeCode target 30
  have first : (modifyGet fun store => claimNextPartForNode env store now target 30 :
      StoreProcedure (Option PartQueueItem)) store =
      .ok (claimNextPartForNode env store now target 30).1
        (claimNextPartForNode env store now target 30).2 := rfl
  refine hands_bind_iff first moves hands (fun claimed => ?_) fun own given => ?_
  · cases claimed with
    | none => exact refl
    | some part =>
      refine keeps_bind (fun store => ?_) fun _ =>
        keeps_bind (movesOnly_consumeParts n) fun _ => refl
      exact (@completeClaimedPart_moves now store target target part.partId part.claimToken).1
  · cases claimed : (claimNextPartForNode env store now target 30).1 with
    | none =>
      rw [claimed] at given
      exact hands.mp given
    | some part =>
      rw [← own]
      exact ⟨rfl, waits.mp (by rw [claimed]; rfl)⟩

theorem createReadyParts_moves (request : PartRequest) (n : Nat) :
    MovesOnly target store (createReadyParts env now request n store) ∧
      ¬ HandsPart nodeCode store (createReadyParts env now request n store) := by
  have ready : ∃ rows, (createReadyParts env now request n store).partRows =
      store.partRows ++ rows ∧ ∀ row ∈ rows, row.status = .ready := by
    induction n generalizing store with
    | zero => exact ⟨[], (List.append_nil _).symm, List.forall_mem_nil _⟩
    | succ n ih =>
      obtain ⟨rows, append, ready⟩ := @ih (createReadyPart env store now request).2
      have one := @createReadyPart_append env store now request
      refine ⟨(createReadyPart env store now request).1 :: rows, ?_, fun row member => ?_⟩
      · unfold createReadyParts
        rw [append, one.rows, List.append_assoc]
        rfl
      · rcases List.mem_cons.mp member with rfl | h
        · exact one.ready
        · exact ready row h
  obtain ⟨rows, append, ready⟩ := ready
  refine ⟨⟨rows, append, fun row member busy => absurd (ready row member) busy⟩, ?_⟩
  rw [handsPart_of_append append]
  rintro ⟨row, member, -, busy⟩
  exact busy (ready row member)

theorem movePartFlow_hands (n : Nat) :
    HandsPart nodeCode store (after (movePartFlow env now target production (n + 1)) store) ↔
      (target = nodeCode ∧
        (nodeCode = "milling-workshop-01" ∨ nodeCode = "grinding-workshop-01")) ∧
        PartWaits store.partQueue now (currentRunIdForSystem env store) nodeCode := by
  unfold movePartFlow
  split
  next turning =>
    refine iff_of_false (@createReadyParts_moves env now store nodeCode nodeCode _ _).2 ?_
    rintro ⟨⟨rfl, consumes⟩, -⟩
    rw [turning] at consumes
    revert consumes
    decide
  next =>
    split
    next consumes =>
      rw [after_bind_pure, consumeParts_hands]
      constructor
      · rintro ⟨rfl, waits⟩
        exact ⟨⟨rfl, consumes⟩, waits⟩
      · rintro ⟨⟨same, -⟩, waits⟩
        exact ⟨same, waits⟩
    next other =>
      refine iff_of_false (handsPart_of_same rfl) ?_
      rintro ⟨⟨rfl, consumes⟩, -⟩
      exact other consumes

theorem advancePartFlow_hands {finished : Int}
    (read : intOrZero env (production.get "finished_quantity") = .ok finished) :
    HandsPart nodeCode store
        (after (advancePartFlowFromHeartbeat env now target production) store) ↔
      (target = nodeCode ∧
        (nodeCode = "milling-workshop-01" ∨ nodeCode = "grinding-workshop-01")) ∧
        (∃ previous, store.watermark target (currentRunIdForNode env store target) =
          some previous ∧ previous < finished) ∧
        PartWaits store.partQueue now (currentRunIdForSystem env store) nodeCode := by
  unfold advancePartFlowFromHeartbeat
  rw [read]
  have moved : (modifyGet (advanceWatermark env target finished) :
      StoreProcedure (Option Int)) store =
      .ok (store.watermark target (currentRunIdForNode env store target))
        (advanceWatermark env target finished store).2 := rfl
  rw [after_bind_ok moved]
  cases store.watermark target (currentRunIdForNode env store target) with
  | none =>
    refine iff_of_false (handsPart_of_same rfl) ?_
    rintro ⟨-, ⟨previous, some, -⟩, -⟩
    cases some
  | some previous =>
    dsimp only
    split
    next still =>
      refine iff_of_false (handsPart_of_same rfl) ?_
      rintro ⟨-, ⟨_, same, more⟩, -⟩
      cases same
      omega
    next more =>
      obtain ⟨n, delta⟩ : ∃ n, min (finished - previous).toNat flowLimit = n + 1 := by
        unfold flowLimit
        exact ⟨min (finished - previous).toNat 20 - 1, by omega⟩
      rw [delta]
      have hands := @movePartFlow_hands env now (advanceWatermark env target finished store).2
        nodeCode target production n
      constructor
      · intro given
        obtain ⟨own, waits⟩ := hands.mp given
        exact ⟨own, ⟨previous, rfl, by omega⟩, waits⟩
      · rintro ⟨own, -, waits⟩
        exact hands.mpr ⟨own, waits⟩

theorem state_of_lift {x : Except StoreFault α} {a : α}
    (h : (lift x : StoreProcedure α) store = .ok a store') : store' = store := by
  cases x with
  | ok => cases h; rfl
  | error => cases h

theorem prepareHeartbeat_heard {reply : HeartbeatReply}
    (h : prepareHeartbeat env now payload store = .ok reply prepared) :
    prepared.nodeHeartbeatsV2 = (store.heard env now payload).nodeHeartbeatsV2 := by
  obtain ⟨_, _, checked, h⟩ := of_bind h
  cases state_of_lift checked
  obtain ⟨_, _, got, h⟩ := of_bind h
  cases got
  obtain ⟨report, _, read, h⟩ := of_bind h
  cases state_of_lift read
  obtain ⟨_, heartbeat, recorded, h⟩ := of_bind h
  obtain ⟨metric, _, read, h⟩ := of_bind h
  cases state_of_lift read
  obtain ⟨enriched, _, read, h⟩ := of_bind h
  cases state_of_lift read
  obtain ⟨_, machines, moved, h⟩ := of_bind h
  have only : OnlyMachines heartbeat machines := by
    rw [← after_ok moved]
    exact onlyMachines_reportMachine _ _ heartbeat
  obtain ⟨reports, rfl⟩ := only
  obtain ⟨_, _, heard, h⟩ := of_bind h
  cases recorded
  cases h
  obtain ⟨enriches, -⟩ := lift_eq_ok.mp read
  simp only [MemoryStore.heard, enriches]
  rfl

theorem currentRunIdForSystem_congr (same : store'.nodeHeartbeatsV2 = store.nodeHeartbeatsV2) :
    currentRunIdForSystem env store' = currentRunIdForSystem env store := by
  unfold currentRunIdForSystem
  rw [same]

/-- A heartbeat hands a part to its own node, which has finished more and has one waiting. -/
theorem recordNodeHeartbeatV2_hands (payload : Fields) :
    HandsPart nodeCode store (after (recordNodeHeartbeatV2 env now payload) store) ↔
      env.builtins.text (payload.get "node_code") = nodeCode ∧
        RaisesCounter env store payload nodeCode ∧ PartWaits store.partQueue now
          (currentRunIdForSystem env (store.heard env now payload)) nodeCode := by
  cases accepted : acceptsHeartbeat env store payload with
  | false =>
    have same := (@recordNodeHeartbeatV2_refused env now store payload accepted).rows
    refine iff_of_false (handsPart_of_same same) ?_
    rintro ⟨-, ⟨raises, -⟩, -⟩
    rw [accepted] at raises
    cases raises
  | true =>
    obtain ⟨reply, returned⟩ := exists_ok_of_returns
      ((@returns_prepareHeartbeat env now store payload).trans accepted)
    have same := @sameParts_prepareHeartbeat env now payload store
    have heard := prepareHeartbeat_heard returned
    have ranFor := currentRunId_prepareHeartbeat returned
    obtain ⟨finished, read⟩ := finished_of_accepts accepted
    generalize after (prepareHeartbeat env now payload) store = prepared at *
    have flowed : after (recordNodeHeartbeatV2 env now payload) store =
        after (advancePartFlowFromHeartbeat env now (env.builtins.text (payload.get "node_code"))
          (payload.get "production").dict) prepared := by
      unfold recordNodeHeartbeatV2
      rw [after_bind_ok returned, after_bind_pure]
    have hands := @advancePartFlow_hands env now prepared nodeCode
      (env.builtins.text (payload.get "node_code")) _ _ read
    have rows : HandsPart nodeCode store
        (after (recordNodeHeartbeatV2 env now payload) store) ↔ HandsPart nodeCode prepared
          (after (recordNodeHeartbeatV2 env now payload) store) := by
      unfold HandsPart MemoryStore.newRows
      rw [same.rows]
    have mark : ∀ target run, prepared.watermark target run = store.watermark target run := by
      intro target run
      unfold MemoryStore.watermark
      rw [same.watermark]
    rw [rows, flowed, hands, ranFor, mark, same.queue, currentRunIdForSystem_congr heard]
    constructor
    · rintro ⟨⟨rfl, consumes⟩, ⟨previous, marked, more⟩, waits⟩
      exact ⟨rfl, ⟨accepted, consumes, previous, finished, marked, read, more⟩, waits⟩
    · rintro ⟨rfl, ⟨-, consumes, previous, counted, marked, read', more⟩, waits⟩
      cases read.symm.trans read'
      exact ⟨⟨rfl, consumes⟩, ⟨previous, marked, more⟩, waits⟩

end MiniOgas
