import MiniOgas.PartHandOut
import MiniOgas.PartCompletion
import MiniOgas.PartFrames
import MiniOgas.PartRoutes

namespace MiniOgas

open Bounded Procedure Serial

variable {env : StoreEnv} {now : Timestamp} {store store' : MemoryStore}
  {nodeCode partId claimToken : String} {payload production : Fields}
  {part : PartQueueItem} {written : List PartQueueItem}

structure PartsRouted (store : MemoryStore) : Prop where
  sound : PartsSound store
  routed : RowsRouted store.partRows
  ended : ∀ row ∈ store.partRows, row.status = .completed → PartEnded store.partRows row

theorem partsRouted_empty : PartsRouted .empty where
  sound := partsSound_empty
  routed := ⟨List.forall_mem_nil _, List.forall_mem_nil _,
    List.forall_mem_nil _⟩
  ended _ h := absurd h List.not_mem_nil

theorem LeavesParts.sound (leaves : LeavesParts store store') (sound : PartsSound store) :
    PartsSound store' where
  numbered := by
    rw [leaves.rows, leaves.seq]
    exact sound.numbered
  distinct := sound.distinct.sublist (leaves.queue.map _)
  bounded := leaves.queue.length_le.trans sound.bounded
  agrees := by
    rw [leaves.rows]
    exact sound.agrees.subset leaves.queue.subset
  settled := by
    rw [leaves.rows]
    intro row there completed part queued
    exact sound.settled row there completed part (leaves.queue.subset queued)

theorem LeavesParts.routed (leaves : LeavesParts store store') (routed : PartsRouted store) :
    PartsRouted store' := by
  refine ⟨leaves.sound routed.sound, ?_, ?_⟩
  · rw [leaves.rows]
    exact routed.routed
  · rw [leaves.rows]
    exact routed.ended

theorem QueueWrite.known (write : QueueWrite store store' written) (sound : PartsSound store) :
    ∀ row ∈ written, ∃ old ∈ store.partRows, row.identity = old.identity := by
  intro row member
  obtain ⟨old, there, move⟩ := exists_left_of_forall₂ write.moves (write.kept row member)
  exact ⟨old, sound.agrees.mem there, move.identity⟩

theorem QueueWrite.routed (write : QueueWrite store store' written)
    (going : ∀ row ∈ written, row.status ≠ .completed) (routed : PartsRouted store) :
    PartsRouted store' := by
  refine ⟨write.sound routed.sound, ?_, ?_⟩
  · rw [write.rows]
    exact routed.routed.move (write.known routed.sound)
  · rw [write.rows]
    exact partEnded_append routed.ended fun row member completed =>
      absurd completed (going row member)

theorem PartAppend.routed (append : PartAppend store store' part)
    (placed : Placed store.partRows part.identity) (routed : PartsRouted store) :
    PartsRouted store' := by
  have named : part.partId ≠ "" := by
    rw [append.partId]
    exact partIdText_ne_empty _
  have fresh : ∀ row ∈ store.partRows, row.partId ≠ part.partId := by
    rw [append.partId]
    exact fun row there => routed.sound.fresh there
  refine ⟨append.sound routed.sound, ?_, ?_⟩
  · rw [append.rows]
    exact routed.routed.create named fresh placed
  · rw [append.rows]
    refine partEnded_append routed.ended fun row own completed => ?_
    rw [List.mem_singleton.mp own, append.ready] at completed
    cases completed

theorem releaseExpiredPartClaims_routed (routed : PartsRouted store) :
    PartsRouted (releaseExpiredPartClaims env store now).2 := by
  refine releaseExpiredPartClaims_write.routed (fun row member => ?_) routed
  rw [releasedParts_ready row member]
  exact PartStatus.noConfusion

theorem claimNextPartForNode_going {ttlSeconds : Int}
    (rows : (claimNextPartForNode env store now nodeCode ttlSeconds).2.partRows =
      store.partRows ++ written) : ∀ row ∈ written, row.status ≠ .completed := by
  unfold claimNextPartForNode at rows
  dsimp only at rows
  split at rows
  next =>
    cases List.append_cancel_left rows
    intro row member
    rw [releasedParts_ready row member]
    exact PartStatus.noConfusion
  next part found =>
    cases List.append_cancel_left rows
    intro row member
    rcases of_mem_concat member with h | rfl
    · obtain ⟨released, there, rfl⟩ := List.mem_map.mp h
      split
      next => exact PartStatus.noConfusion
      next =>
        rw [releasedParts_ready released there]
        exact PartStatus.noConfusion
    · exact PartStatus.noConfusion

theorem claimNextPartForNode_routed (ttlSeconds : Int) (routed : PartsRouted store) :
    PartsRouted (claimNextPartForNode env store now nodeCode ttlSeconds).2 := by
  obtain ⟨written, write⟩ := @claimNextPartForNode_write env _ now nodeCode routed.sound ttlSeconds
  exact write.routed (claimNextPartForNode_going write.rows) routed

theorem finishPart_routed (routed : PartsRouted store)
    (h : completablePart store nodeCode partId claimToken = .ok part) :
    PartsRouted (finishPart store now nodeCode part).2 := by
  obtain ⟨found, node, claimed, -⟩ := completablePart_eq_ok.mp h
  obtain ⟨-, there, found⟩ := find_partId found
  have write := @completedStore_write _ now _ found claimed
  have middle := write.sound routed.sound
  have moved := routed.routed.move (write.known routed.sound)
  have placed : Placed store.partRows (part.complete now).identity :=
    routed.routed.placed part (routed.sound.agrees.mem there)
  rcases finishPart_cases store now nodeCode part with ⟨last, finished⟩ |
    ⟨step, target, next, store', finished, append⟩
  · rw [finished]
    refine ⟨middle, moved, partEnded_append routed.ended fun row own _ => ?_⟩
    rw [List.mem_singleton.mp own]
    rcases placed.next node with ⟨-, ends⟩ | ⟨more, -⟩
    · exact .inr ends
    · rw [last] at more
      cases more
  · rw [finished]
    rcases placed.next node with ⟨none, -⟩ | ⟨more, milled, route⟩
    · rw [none] at next
      cases next
    · cases next.symm.trans more
      have rows : store'.partRows = store.partRows ++ [part.complete now,
          (part.complete now).downstream now (store.partSeq + 1) nodeCode "grinding"
            "grinding-workshop-01"] := by
        rw [append.rows]
        exact List.append_assoc _ _ _
      refine ⟨append.sound middle, ?_, ?_⟩
      · rw [append.rows]
        refine moved.create ?_ (fun row member => ?_) (.inr ⟨⟨part.complete now,
          List.mem_append_right _ List.mem_cons_self, rfl, milled⟩, rfl, rfl, rfl, route⟩)
        · rw [append.partId]
          exact partIdText_ne_empty _
        · rw [append.partId]
          exact middle.fresh member
      · rw [rows]
        refine partEnded_append routed.ended fun row own completed => ?_
        rcases List.mem_cons.mp own with rfl | child
        · exact .inl ⟨_, List.mem_append_right _ (List.mem_cons_of_mem _ List.mem_cons_self), rfl⟩
        · rw [List.mem_singleton.mp child] at completed
          cases completed

theorem completeClaimedPart_routed (routed : PartsRouted store) :
    PartsRouted (after (transact fun store =>
      completeClaimedPart store now nodeCode partId claimToken) store) := by
  cases h : completablePart store nodeCode partId claimToken with
  | error fault =>
    have raised : completeClaimedPart store now nodeCode partId claimToken = .error fault :=
      bind_eq_error.mpr (.inl h)
    rw [after_error (transact_error raised)]
    exact routed
  | ok part =>
    have completed : completeClaimedPart store now nodeCode partId claimToken =
        .ok (finishPart store now nodeCode part) := bind_eq_ok.mpr ⟨part, h, rfl⟩
    rw [after_ok (transact_ok completed)]
    exact finishPart_routed routed h

/-- The product of the parts that a heartbeat of the turning node creates goes on to milling. -/
def GoesToMilling (env : StoreEnv) (production : Fields) : Prop :=
  (routeAfterTurning (turningRequest env production).product).head? = some "milling"

theorem createReadyParts_routed (goes : GoesToMilling env production) (n : Nat)
    (routed : PartsRouted store) :
    PartsRouted (createReadyParts env now (turningRequest env production) n store) := by
  induction n generalizing store with
  | zero => exact routed
  | succ n ih =>
    refine ih ((createReadyPart_append _).routed (.inl ?_) routed)
    exact ⟨rfl, rfl, rfl, rfl, goes⟩

theorem consumeParts_routed (n : Nat) : Procedure.Keeps
    (fun store store' => PartsRouted store → PartsRouted store')
    (consumeParts env now nodeCode n) := by
  refine keeps_consumeParts (fun _ routed => claimNextPartForNode_routed 30 routed) ?_ n
  exact fun _ _ _ routed => completeClaimedPart_routed routed

theorem movePartFlow_routed (goes : nodeCode = turningNode → GoesToMilling env production)
    (n : Nat) (routed : PartsRouted store) :
    PartsRouted (after (movePartFlow env now nodeCode production n) store) := by
  unfold movePartFlow
  split
  next turning =>
    exact createReadyParts_routed (goes turning) n routed
  next =>
    split
    next =>
      rw [after_bind_pure]
      exact consumeParts_routed n store routed
    next => exact routed

/-- The counter that the heartbeat of a node reports is above its watermark. -/
def RisesAbove (env : StoreEnv) (store : MemoryStore) (nodeCode run : String)
    (production : Fields) : Prop :=
  ∃ previous finished, store.watermark nodeCode run = some previous ∧
    intOrZero env (production.get "finished_quantity") = .ok finished ∧ previous < finished

theorem advancePartFlow_routed
    (goes : RisesAbove env store nodeCode (currentRunIdForNode env store nodeCode) production →
      nodeCode = turningNode → GoesToMilling env production) (routed : PartsRouted store) :
    PartsRouted (after (advancePartFlowFromHeartbeat env now nodeCode production) store) := by
  unfold advancePartFlowFromHeartbeat
  cases read : intOrZero env (production.get "finished_quantity") with
  | error fault => exact routed
  | ok finished =>
    have moved : (modifyGet (advanceWatermark env nodeCode finished) :
        StoreProcedure (Option Int)) store =
        .ok (store.watermark nodeCode (currentRunIdForNode env store nodeCode))
          (advanceWatermark env nodeCode finished store).2 := rfl
    have leaves : LeavesParts store (advanceWatermark env nodeCode finished store).2 :=
      ⟨rfl, rfl, List.Sublist.refl _⟩
    have marked := leaves.routed routed
    rw [after_bind_ok moved]
    cases mark : store.watermark nodeCode (currentRunIdForNode env store nodeCode) with
    | none => exact marked
    | some previous =>
      dsimp only
      split
      next => exact marked
      next more =>
        have rises : previous < finished := by omega
        exact movePartFlow_routed (goes ⟨previous, finished, mark, read, rises⟩) _ marked

def TurnsParts (env : StoreEnv) (store : MemoryStore) (payload : Fields) : Prop :=
  acceptsHeartbeat env store payload = true ∧
    env.builtins.text (payload.get "node_code") = turningNode ∧
    RisesAbove env store turningNode (runtimeText env payload "run_id")
      (payload.get "production").dict

theorem recordNodeHeartbeatV2_routed
    (goes : TurnsParts env store payload → GoesToMilling env (payload.get "production").dict)
    (routed : PartsRouted store) :
    PartsRouted (after (recordNodeHeartbeatV2 env now payload) store) := by
  cases accepted : acceptsHeartbeat env store payload with
  | false => exact (recordNodeHeartbeatV2_refused accepted).leaves.routed routed
  | true =>
    obtain ⟨prepared, same, ranFor, flowed⟩ := @recordNodeHeartbeatV2_accepted _ now _ _ accepted
    rw [flowed]
    refine advancePartFlow_routed (fun rises turning => goes ⟨accepted, turning, ?_⟩)
      (same.leaves.routed routed)
    rw [ranFor, turning] at rises
    obtain ⟨previous, finished, marked, read, more⟩ := rises
    unfold MemoryStore.watermark at marked
    rw [same.watermark] at marked
    exact ⟨previous, finished, marked, read, more⟩

def StoreOperation.createsPart : StoreOperation → Bool
  | .createReadyPart _ => true
  | _ => false

/-- The calls that the store gets: nothing but the part flow calls `create_ready_part`. -/
abbrev FlowCall := { call : StoreCall // call.operation.createsPart = false }

def FlowCall.perform (env : StoreEnv) (call : FlowCall) : StoreProcedure StoreReply :=
  call.1.perform env

def flowAuthority (env : StoreEnv) :
    Authority FlowCall MemoryStore (Except StoreFault StoreReply) Empty :=
  serially (FlowCall.perform env)

/-- The parts that the call creates, if it creates some, go on to milling. -/
def TurnsToMilling (env : StoreEnv) (store : MemoryStore) (call : FlowCall) : Prop :=
  ∀ payload, call.1.operation = .recordNodeHeartbeatV2 payload → TurnsParts env store payload →
    GoesToMilling env (payload.get "production").dict

theorem partsRouted_perform (call : FlowCall) (goes : TurnsToMilling env store call)
    (routed : PartsRouted store) : PartsRouted (after (call.perform env) store) := by
  obtain ⟨⟨now, operation⟩, served⟩ := call
  cases operation with
  | recordNodeHeartbeatV2 payload =>
    change PartsRouted (after (_ >>= _) _)
    rw [after_bind_pure]
    exact recordNodeHeartbeatV2_routed (goes payload rfl) routed
  | createReadyPart request => cases served
  | claimNextPartForNode target ttlSeconds => exact claimNextPartForNode_routed ttlSeconds routed
  | releaseExpiredPartClaims => exact releaseExpiredPartClaims_routed routed
  | completeClaimedPart target partId claimToken =>
    change PartsRouted (after (_ >>= _) _)
    rw [after_bind_pure]
    exact completeClaimedPart_routed routed
  | _ => exact (leavesParts_perform ⟨now, _⟩ rfl).routed routed

def RowsGrow (store store' : MemoryStore) : Prop := store.partRows <+: store'.partRows

instance : IsPreorder MemoryStore RowsGrow where
  refl _ := List.prefix_refl _
  trans _ _ _ one two := List.IsPrefix.trans one two

theorem LeavesParts.grows (leaves : LeavesParts store store') : RowsGrow store store' := by
  unfold RowsGrow
  rw [leaves.rows]

theorem MovesOnly.grows (moves : MovesOnly nodeCode store store') : RowsGrow store store' := by
  obtain ⟨rows, append, -⟩ := moves
  exact ⟨rows, append.symm⟩

theorem advancePartFlow_grows (production : Fields) :
    Procedure.Keeps RowsGrow (advancePartFlowFromHeartbeat env now nodeCode production) :=
  keeps_advancePartFlow (fun _ _ => refl _)
    (fun request _ => ⟨_, (createReadyPart_append request).rows.symm⟩)
    (fun store => (@claimNextPartForNode_moves env now store "" nodeCode 30).1.grows)
    (fun partId claimToken store =>
      (@completeClaimedPart_moves now store "" nodeCode partId claimToken).1.grows) production

theorem recordNodeHeartbeatV2_grows :
    RowsGrow store (after (recordNodeHeartbeatV2 env now payload) store) := by
  refine keeps_bind (fun store => ?_) (fun _ => keeps_answer (advancePartFlow_grows _)) store
  exact (sameParts_prepareHeartbeat payload store).leaves.grows

theorem perform_grows (call : StoreCall) : RowsGrow store (after (call.perform env) store) := by
  obtain ⟨now, operation⟩ := call
  cases operation with
  | recordNodeHeartbeatV2 payload =>
    exact keeps_answer (fun _ => recordNodeHeartbeatV2_grows) store
  | createReadyPart request => exact ⟨_, (createReadyPart_append request).rows.symm⟩
  | claimNextPartForNode target ttlSeconds =>
    exact (@claimNextPartForNode_moves env now store "" target ttlSeconds).1.grows
  | releaseExpiredPartClaims => exact ⟨_, releaseExpiredPartClaims_write.rows.symm⟩
  | completeClaimedPart target partId claimToken =>
    exact keeps_answer (fun store =>
      (@completeClaimedPart_moves now store "" target partId claimToken).1.grows) store
  | _ => exact (leavesParts_perform ⟨now, _⟩ rfl).grows

theorem run_grows (calls : List FlowCall) :
    RowsGrow store ((flowAuthority env).run store calls) := by
  induction calls generalizing store with
  | nil => exact refl store
  | cons call calls ih => exact (perform_grows call.1).trans ih

theorem exists_turned (turns : TurnsParts env store payload) :
    ∃ part ∈ (after (recordNodeHeartbeatV2 env now payload) store).partRows,
      part.parentPartId = "" ∧ part.currentOperation = "milling" ∧
      part.productCode = (turningRequest env (payload.get "production").dict).product := by
  obtain ⟨accepted, turning, previous, finished, mark, read, rises⟩ := turns
  obtain ⟨prepared, same, ranFor, flowed⟩ := @recordNodeHeartbeatV2_accepted _ now _ _ accepted
  rw [turning] at ranFor flowed
  obtain ⟨marked, -, -, -, -, moved⟩ := @advancePartFlow_turning _ now prepared _ _ read
  have before : prepared.watermark "turning-workshop-01"
      (currentRunIdForNode env prepared "turning-workshop-01") = some previous := by
    unfold turningNode at ranFor mark
    rw [ranFor, ← mark]
    unfold MemoryStore.watermark
    rw [same.watermark]
  unfold turningNode at flowed
  rw [before] at moved
  rw [flowed, moved]
  obtain ⟨created, rows, -, -, ids, each⟩ := @createReadyParts_rows env now marked
    (turningRequest env (payload.get "production").dict)
    (min (finished - previous).toNat flowLimit)
  have length : created.length = min (finished - previous).toNat flowLimit := by
    simpa using congrArg List.length ids
  have several : 0 < created.length := by
    rw [length]
    unfold flowLimit
    omega
  obtain ⟨part, member⟩ := List.exists_mem_of_length_pos several
  obtain ⟨oldest, operation, product⟩ := each part member
  rw [rows]
  exact ⟨part, List.mem_append_right _ member, oldest, operation, product⟩

theorem goesToMilling_of_follow {rows : List PartQueueItem} (turns : TurnsParts env store payload)
    (grows : (after (recordNodeHeartbeatV2 env now payload) store).partRows <+: rows)
    (follow : FollowRoutes rows) : GoesToMilling env (payload.get "production").dict := by
  obtain ⟨part, written, oldest, operation, product⟩ := @exists_turned _ now _ _ turns
  have along := follow.along part _ (.first (grows.subset written) oldest)
  rw [operation, product] at along
  obtain ⟨later, route⟩ := along
  unfold GoesToMilling
  rw [← route]
  rfl

theorem along_of_follow {calls : List FlowCall} (routed : PartsRouted store)
    (follow : FollowRoutes ((flowAuthority env).run store calls).partRows) :
    (flowAuthority env).Along (TurnsToMilling env) store calls := by
  induction calls generalizing store with
  | nil => trivial
  | cons call calls ih =>
    have goes : TurnsToMilling env store call := by
      obtain ⟨⟨now, operation⟩, served⟩ := call
      rintro payload rfl turns
      refine @goesToMilling_of_follow _ now _ _ _ turns ?_ follow
      have grows := @run_grows env
        (after (FlowCall.perform env ⟨⟨now, .recordNodeHeartbeatV2 payload⟩, served⟩) store) calls
      have heard : after (FlowCall.perform env ⟨⟨now, .recordNodeHeartbeatV2 payload⟩, served⟩)
          store = after (recordNodeHeartbeatV2 env now payload) store :=
        after_bind_pure _ _
      rw [← heard]
      exact grows
    exact ⟨goes, ih (partsRouted_perform call goes routed) follow⟩

/-- In a run of the part flow the parts follow the routes of their products, if and only if
turning creates parts only of products that go on to milling. -/
theorem followRoutes_iff (env : StoreEnv) (calls : List FlowCall) :
    FollowRoutes ((flowAuthority env).run .empty calls).partRows ↔
      (flowAuthority env).Along (TurnsToMilling env) .empty calls := by
  constructor
  · exact along_of_follow partsRouted_empty
  · intro along
    have routed : PartsRouted ((flowAuthority env).run .empty calls) := by
      refine Authority.invariant_along (I := PartsRouted) ?_ partsRouted_empty along
      intro store call reply store' routed goes h
      cases h
      exact partsRouted_perform call goes routed
    exact routed.routed.follow routed.ended

def sampleTurning (product : String) : List FlowCall :=
  [⟨⟨0, .recordNodeHeartbeatV2 (sampleHeartbeat product 0).2⟩, rfl⟩,
    ⟨⟨1, .recordNodeHeartbeatV2 (sampleHeartbeat product 1).2⟩, rfl⟩]

/-- A part that is to be ground next is queued for milling. -/
theorem ground_part_milled : ¬∀ (env : StoreEnv) (calls : List FlowCall),
    FollowRoutes ((flowAuthority env).run .empty calls).partRows := by
  intro h
  have follow := h sampleStoreEnv (sampleTurning "P1")
  have created : ((flowAuthority sampleStoreEnv).run .empty (sampleTurning "P1")).partRows.map
      (fun part => (part.parentPartId, part.currentOperation, part.productCode)) =
      [("", "milling", "P1")] := by
    decide +kernel
  obtain ⟨part, rows, same⟩ := List.map_eq_singleton_iff.mp created
  rw [rows] at follow
  simp only [Prod.mk.injEq] at same
  have along := follow.along part _ (.first List.mem_cons_self same.1)
  rw [same.2.1, same.2.2] at along
  revert along
  decide

end MiniOgas
