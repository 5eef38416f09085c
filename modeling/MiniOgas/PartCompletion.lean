import MiniOgas.PartEffects
import MiniOgas.StoreAuthority

namespace MiniOgas

open Bounded Procedure RowLog Serial

variable {env : StoreEnv} {store store' : MemoryStore} {now : Timestamp}
  {nodeCode partId claimToken : String} {part oldest : PartQueueItem}

inductive PartOperation where
  | createReadyPart (request : PartRequest)
  | claimNextPartForNode (nodeCode : String) (ttlSeconds : Int)
  | releaseExpiredPartClaims
  | completeClaimedPart (nodeCode partId claimToken : String)
  | heartbeats (heartbeats : Dictionary String Fields)

structure PartCall where
  now : Timestamp
  operation : PartOperation

def PartCall.perform (env : StoreEnv) (call : PartCall) : StoreProcedure StoreReply :=
  match call.operation with
  | .createReadyPart request => StoreCall.perform env ⟨call.now, .createReadyPart request⟩
  | .claimNextPartForNode nodeCode ttlSeconds =>
    StoreCall.perform env ⟨call.now, .claimNextPartForNode nodeCode ttlSeconds⟩
  | .releaseExpiredPartClaims => StoreCall.perform env ⟨call.now, .releaseExpiredPartClaims⟩
  | .completeClaimedPart nodeCode partId claimToken =>
    StoreCall.perform env ⟨call.now, .completeClaimedPart nodeCode partId claimToken⟩
  | .heartbeats heartbeats => do
    modify fun store => { store with nodeHeartbeatsV2 := heartbeats }
    return .done

def partAuthority (env : StoreEnv) :
    Authority PartCall MemoryStore (Except StoreFault StoreReply) Empty :=
  serially (PartCall.perform env)

def StoreReply.addedPart : StoreReply → Option PartQueueItem
  | .created part => some part
  | .completed _ downstream => downstream
  | _ => none

/-- What a call may do to the parts, given what it returns or raises and what it leaves. -/
structure PartLaw (env : StoreEnv) (store : MemoryStore) (call : PartCall)
    (result : Except StoreFault StoreReply) (store' : MemoryStore) : Prop where
  /-- A part is claimed only while it is ready, or when its claim has expired. -/
  exclusive : ∀ part, result = .ok (.claimed (some part)) → ∃ old ∈ store.partQueue,
    old.partId = part.partId ∧ (old.status = .ready ∨
      old.claimExpired call.now (currentRunIdForSystem env store) = true)
  /-- A part is completed with the token that its last row, a claim, has. -/
  currentToken : ∀ nodeCode partId claimToken,
    call.operation = .completeClaimedPart nodeCode partId claimToken →
    ∀ part downstream, result = .ok (.completed part downstream) → part.partId = partId ∧
      ∃ row, latest (·.partId) store.partRows partId = some row ∧ row.status = .claimed ∧
        row.claimToken = claimToken ∧ claimToken ≠ ""
  /-- No part is completed again. -/
  once : ∀ part downstream, result = .ok (.completed part downstream) →
    ∀ row ∈ store.partRows, row.partId = part.partId → row.status ≠ .completed
  /-- A completion adds the part that it returns as downstream, and no other. -/
  oneDownstream : ∀ part downstream, result = .ok (.completed part downstream) →
    store'.partRows = store.partRows ++ part :: downstream.toList ∧
      ∀ next ∈ downstream, next.parentPartId = part.partId
  /-- A part that is added has an id that no part had. -/
  freshId : ∀ reply, result = .ok reply → ∀ part ∈ reply.addedPart,
    ∀ row ∈ store.partRows, row.partId ≠ part.partId
  /-- A part leaves the queue only after its completion. -/
  kept : ∀ part ∈ store.partQueue, part.status ≠ .completed →
    (∃ kept ∈ store'.partQueue, kept.partId = part.partId) ∨
    ∃ done downstream, result = .ok (.completed done downstream) ∧ done.partId = part.partId

def KeepsPartLaw (env : StoreEnv) (store : MemoryStore) (call : PartCall) : Prop :=
  PartLaw env store call (reply (call.perform env) store) (after (call.perform env) store)

/-- The call appends a part to a full queue whose oldest part is not completed, nor the one
that the call completes. -/
def CrowdsPartOut (store : MemoryStore) (call : PartCall) : Prop :=
  ∃ oldest, store.partQueue.length = partCapacity ∧ store.partQueue.head? = some oldest ∧
    oldest.status ≠ .completed ∧
    match call.operation with
    | .createReadyPart _ => True
    | .completeClaimedPart nodeCode partId claimToken => oldest.partId ≠ partId ∧
      ∃ part, completablePart store nodeCode partId claimToken = .ok part ∧
        (nextPartQueueStep part nodeCode).isSome = true
    | _ => False

theorem PartsSound.nodup (sound : PartsSound store) : store.partQueue.Nodup :=
  List.Nodup.of_map _ sound.distinct

theorem PartAppend.mem_iff (append : PartAppend store store' part) (sound : PartsSound store)
    {old : PartQueueItem} (h : old ∈ store.partQueue) : old ∈ store'.partQueue ↔
      (store.partQueue.length = partCapacity → store.partQueue.head? ≠ some old) := by
  have fresh : part ∉ store.partQueue := by
    intro member
    exact sound.fresh (sound.agrees.mem member) append.partId
  have distinct : (store.partQueue ++ [part]).Nodup :=
    List.Nodup.append sound.nodup (List.nodup_singleton _) (by simpa using fresh)
  rw [append.queue, mem_keepLast_append_iff sound.bounded distinct]
  have head : (store.partQueue ++ [part]).head? = store.partQueue.head? := by
    cases hq : store.partQueue with
    | nil => rw [hq] at h; cases h
    | cons first rest => rfl
  rw [head]
  exact and_iff_right (List.mem_append_left _ h)

theorem PartAppend.mem_of_partId (append : PartAppend store store' part)
    (sound : PartsSound store) {old kept : PartQueueItem} (h : old ∈ store.partQueue)
    (there : kept ∈ store'.partQueue) (same : kept.partId = old.partId) :
    old ∈ store'.partQueue := by
  have member := there
  rw [append.queue] at member
  rcases of_mem_keepLast_append member with earlier | rfl
  · exact sound.eq_of_partId earlier h same ▸ there
  · rw [append.partId] at same
    exact absurd same.symm (sound.fresh (sound.agrees.mem h))

theorem QueueWrite.kept_id {written : List PartQueueItem}
    (write : QueueWrite store store' written) (h : part ∈ store.partQueue) :
    ∃ kept ∈ store'.partQueue, kept.partId = part.partId := by
  obtain ⟨kept, there, move⟩ := exists_right_of_forall₂ write.moves h
  exact ⟨kept, there, move.partId⟩

theorem createReadyPart_law (sound : PartsSound store) (request : PartRequest) :
    KeepsPartLaw env store ⟨now, .createReadyPart request⟩ ↔
      ¬ CrowdsPartOut store ⟨now, .createReadyPart request⟩ := by
  have append := @createReadyPart_append env store now request
  constructor
  · rintro law ⟨oldest, full, first, live, -⟩
    have member : oldest ∈ store.partQueue := List.mem_of_mem_head? first
    rcases law.kept oldest member live with ⟨kept, there, same⟩ | ⟨_, _, replied, _⟩
    · exact (append.mem_iff sound member).mp
        (append.mem_of_partId sound member there same) full first
    · cases replied
  · intro room
    refine ⟨?_, ?_, ?_, ?_, ?_, ?_⟩
    · intro part replied
      cases replied
    · nofun
    · intro part downstream replied
      cases replied
    · intro part downstream replied
      cases replied
    · intro reply replied part added row there
      cases replied
      cases added
      exact append.partId ▸ sound.fresh there
    · intro part h live
      refine .inl ⟨part, (append.mem_iff sound h).mpr fun full first => ?_, rfl⟩
      exact room ⟨part, full, first, live, trivial⟩

theorem releaseExpiredPartClaims_law :
    KeepsPartLaw env store ⟨now, .releaseExpiredPartClaims⟩ ↔
      ¬ CrowdsPartOut store ⟨now, .releaseExpiredPartClaims⟩ := by
  refine iff_of_true ⟨?_, ?_, ?_, ?_, ?_, ?_⟩ ?_
  · nofun
  · nofun
  · intro part downstream replied
    cases replied
  · intro part downstream replied
    cases replied
  · intro reply replied part added
    cases replied
    cases added
  · intro part h _
    exact .inl ((@releaseExpiredPartClaims_write env _ now).kept_id h)
  · rintro ⟨_, _, _, _, impossible⟩
    exact impossible

theorem claimNextPartForNode_claims {ttlSeconds : Int}
    (h : (claimNextPartForNode env store now nodeCode ttlSeconds).1 = some part) :
    ∃ old ∈ store.partQueue, old.partId = part.partId ∧ (old.status = .ready ∨
      old.claimExpired now (currentRunIdForSystem env store) = true) := by
  unfold claimNextPartForNode at h
  dsimp only at h
  split at h
  next => cases h
  next ready found =>
    cases h
    have claimable := status_of_claimable (by simpa using List.find?_some found)
    obtain ⟨old, there, same⟩ := List.mem_map.mp (List.mem_of_find?_eq_some found)
    split at same
    next expired =>
      subst same
      exact ⟨old, there, rfl, .inr expired⟩
    next =>
      subst same
      exact ⟨old, there, rfl, .inl claimable⟩

theorem claimNextPartForNode_law (sound : PartsSound store) (ttlSeconds : Int) :
    KeepsPartLaw env store ⟨now, .claimNextPartForNode nodeCode ttlSeconds⟩ ↔
      ¬ CrowdsPartOut store ⟨now, .claimNextPartForNode nodeCode ttlSeconds⟩ := by
  refine iff_of_true ⟨?_, ?_, ?_, ?_, ?_, ?_⟩ ?_
  · intro part replied
    exact claimNextPartForNode_claims (StoreReply.claimed.inj (Except.ok.inj replied))
  · intro _ _ _ other
    cases other
  · intro part downstream replied
    cases replied
  · intro part downstream replied
    cases replied
  · intro reply replied part added
    cases replied
    cases added
  · intro part h _
    obtain ⟨written, write⟩ := @claimNextPartForNode_write env _ now nodeCode sound ttlSeconds
    exact .inl (write.kept_id h)
  · rintro ⟨_, _, _, _, impossible⟩
    exact impossible

theorem heartbeats_law (heartbeats : Dictionary String Fields) :
    KeepsPartLaw env store ⟨now, .heartbeats heartbeats⟩ ↔
      ¬ CrowdsPartOut store ⟨now, .heartbeats heartbeats⟩ := by
  refine iff_of_true ⟨?_, ?_, ?_, ?_, ?_, ?_⟩ ?_
  · nofun
  · nofun
  · intro part downstream replied
    cases replied
  · intro part downstream replied
    cases replied
  · intro reply replied part added
    cases replied
    cases added
  · intro part h _
    exact .inl ⟨part, h, rfl⟩
  · rintro ⟨_, _, _, _, impossible⟩
    exact impossible

section PartCompletion

open Bounded Procedure RowLog Serial

variable {env : StoreEnv} {store store' : MemoryStore} {now : Timestamp}
  {nodeCode partId claimToken : String} {part oldest : PartQueueItem}

theorem find_partId (h : store.partQueue.find? (·.partId = partId) = some part) :
    part.partId = partId ∧ part ∈ store.partQueue ∧
      store.partQueue.find? (·.partId = part.partId) = some part := by
  have same : part.partId = partId := by simpa using List.find?_some h
  exact ⟨same, List.mem_of_find?_eq_some h, by rw [same]; exact h⟩

theorem completedStore_head (other : oldest.partId ≠ part.partId) :
    (completedStore store now part).partQueue.head? = some oldest ↔
      store.partQueue.head? = some oldest := by
  change (modifyFirst _ _ store.partQueue).head? = _ ↔ _
  cases store.partQueue with
  | nil => rfl
  | cons first rest =>
    rw [modifyFirst]
    split
    next own =>
      have own : first.partId = part.partId := by simpa using own
      simp only [List.head?_cons, Option.some.injEq]
      refine iff_of_false ?_ ?_
      · rintro rfl
        exact other own
      · rintro rfl
        exact other own
    next => rfl

theorem completedStore_mem (found : store.partQueue.find? (·.partId = part.partId) = some part)
    (h : oldest ∈ store.partQueue) (other : oldest.partId ≠ part.partId) :
    oldest ∈ (completedStore store now part).partQueue :=
  mem_modifyFirst_of_ne found h fun same => other (by rw [same])

theorem completeClaimedPart_served
    (h : completablePart store nodeCode partId claimToken = .ok part) :
    PartCall.perform env ⟨now, .completeClaimedPart nodeCode partId claimToken⟩ store =
      .ok (.completed (finishPart store now nodeCode part).1.1
        (finishPart store now nodeCode part).1.2) (finishPart store now nodeCode part).2 := by
  have completed : completeClaimedPart store now nodeCode partId claimToken =
      .ok (finishPart store now nodeCode part) := bind_eq_ok.mpr ⟨part, h, rfl⟩
  change (transact _ >>= _) store = _
  rw [bind_ok (transact_ok completed)]
  rfl

theorem completeClaimedPart_refused {fault : StoreFault}
    (h : completablePart store nodeCode partId claimToken = .error fault) :
    PartCall.perform env ⟨now, .completeClaimedPart nodeCode partId claimToken⟩ store =
      .error fault store := by
  have raised : completeClaimedPart store now nodeCode partId claimToken = .error fault :=
    bind_eq_error.mpr (.inl h)
  change (transact _ >>= _) store = _
  rw [bind_error (transact_error raised)]

theorem completable_row (sound : PartsSound store)
    (h : completablePart store nodeCode partId claimToken = .ok part) :
    part.partId = partId ∧ latest (·.partId) store.partRows partId = some part ∧
      part.status = .claimed ∧ part.claimToken = claimToken ∧ claimToken ≠ "" := by
  obtain ⟨found, -, claimed, token, same⟩ := completablePart_eq_ok.mp h
  obtain ⟨own, there, -⟩ := find_partId found
  exact ⟨own, own ▸ sound.agrees part there, claimed, same, token⟩

theorem completable_once (sound : PartsSound store)
    (h : completablePart store nodeCode partId claimToken = .ok part) :
    ∀ row ∈ store.partRows, row.partId = part.partId → row.status ≠ .completed := by
  intro row there same completed
  obtain ⟨found, -, claimed, -⟩ := completablePart_eq_ok.mp h
  have done := sound.settled row there completed part (find_partId found).2.1 same.symm
  rw [claimed] at done
  cases done

theorem completedStore_sound (sound : PartsSound store)
    (h : completablePart store nodeCode partId claimToken = .ok part) :
    PartsSound (completedStore store now part) := by
  obtain ⟨found, -, claimed, -⟩ := completablePart_eq_ok.mp h
  exact (completedStore_write (find_partId found).2.2 claimed).sound sound

theorem completion_kept_iff (sound : PartsSound store)
    (h : completablePart store nodeCode partId claimToken = .ok part) {step target : String}
    {downstream : PartQueueItem}
    (append : PartAppend (completedStore store now part) store' downstream)
    (next : nextPartQueueStep part nodeCode = some (step, target)) :
    (∀ old ∈ store.partQueue, old.status ≠ .completed → old.partId ≠ part.partId →
      ∃ kept ∈ store'.partQueue, kept.partId = old.partId) ↔
      ¬ CrowdsPartOut store ⟨now, .completeClaimedPart nodeCode partId claimToken⟩ := by
  obtain ⟨found, -, claimed, -⟩ := completablePart_eq_ok.mp h
  obtain ⟨own, -, found⟩ := find_partId found
  have middle := @completedStore_sound _ now _ _ _ _ sound h
  have length : (completedStore store now part).partQueue.length = store.partQueue.length :=
    (completedStore_write found claimed).moves.length_eq.symm
  constructor
  · rintro kept ⟨oldest, full, first, live, other, -⟩
    have member : oldest ∈ store.partQueue := List.mem_of_mem_head? first
    have other : oldest.partId ≠ part.partId := own ▸ other
    obtain ⟨row, there, same⟩ := kept oldest member live other
    have still := @completedStore_mem _ now _ _ found member other
    refine (append.mem_iff middle still).mp (append.mem_of_partId middle still there same)
      (length.trans full) ?_
    exact (completedStore_head other).mpr first
  · intro room old there live other
    have still := @completedStore_mem _ now _ _ found there other
    refine ⟨old, (append.mem_iff middle still).mpr fun full first => ?_, rfl⟩
    refine room ⟨old, length.symm.trans full, (completedStore_head other).mp first, live, ?_⟩
    exact ⟨own ▸ other, part, h, by rw [next]; rfl⟩

theorem completeClaimedPart_law (sound : PartsSound store) (nodeCode partId claimToken : String) :
    KeepsPartLaw env store ⟨now, .completeClaimedPart nodeCode partId claimToken⟩ ↔
      ¬ CrowdsPartOut store ⟨now, .completeClaimedPart nodeCode partId claimToken⟩ := by
  unfold KeepsPartLaw
  cases h : completablePart store nodeCode partId claimToken with
  | error fault =>
    have refused := @completeClaimedPart_refused env _ now _ _ _ _ h
    rw [after_error refused, Procedure.reply, refused]
    refine iff_of_true ⟨?_, ?_, ?_, ?_, ?_, ?_⟩ ?_
    · intro part replied
      cases replied
    · intro _ _ _ _ part downstream replied
      cases replied
    · intro part downstream replied
      cases replied
    · intro part downstream replied
      cases replied
    · intro reply replied
      cases replied
    · intro part there _
      exact .inl ⟨part, there, rfl⟩
    · rintro ⟨_, _, _, _, _, part, completable, _⟩
      rw [h] at completable
      cases completable
  | ok part =>
    have served := @completeClaimedPart_served env _ now _ _ _ _ h
    rw [after_ok served, Procedure.reply, served]
    obtain ⟨own, row, claimed, token, nonempty⟩ := completable_row sound h
    have once := completable_once sound h
    rcases finishPart_cases store now nodeCode part with ⟨last, finished⟩ |
      ⟨step, target, next, store', finished, append⟩
    · rw [finished]
      refine iff_of_true ⟨?_, ?_, ?_, ?_, ?_, ?_⟩ ?_
      · intro part replied
        cases replied
      · intro _ _ _ operation done downstream replied
        cases operation
        cases replied
        exact ⟨own, part, row, claimed, token, nonempty⟩
      · intro done downstream replied
        cases replied
        exact once
      · intro done downstream replied
        cases replied
        refine ⟨rfl, fun next added => ?_⟩
        cases added
      · intro reply replied added none
        cases replied
        cases none
      · intro old there live
        by_cases same : old.partId = part.partId
        · exact .inr ⟨_, _, rfl, same.symm⟩
        · obtain ⟨found, -⟩ := completablePart_eq_ok.mp h
          exact .inl ⟨old, completedStore_mem (find_partId found).2.2 there same, rfl⟩
      · rintro ⟨_, _, _, _, _, other, completable, next⟩
        cases h.symm.trans completable
        have none : nextPartQueueStep part nodeCode = none := last
        rw [none] at next
        cases next
    · rw [finished, ← completion_kept_iff sound h append next]
      have rows : store'.partRows = store.partRows ++ [part.complete now,
          (part.complete now).downstream now (store.partSeq + 1) nodeCode step target] := by
        rw [append.rows]
        exact List.append_assoc _ _ _
      constructor
      · intro law old there live other
        rcases law.kept old there live with kept | ⟨done, downstream, replied, same⟩
        · exact kept
        · cases replied
          exact absurd same.symm other
      · intro kept
        refine ⟨?_, ?_, ?_, ?_, ?_, ?_⟩
        · intro part replied
          cases replied
        · intro _ _ _ operation done downstream replied
          cases operation
          cases replied
          exact ⟨own, part, row, claimed, token, nonempty⟩
        · intro done downstream replied
          cases replied
          exact once
        · intro done downstream replied
          cases replied
          refine ⟨rows, fun next added => ?_⟩
          cases added
          rfl
        · intro reply replied added some row there
          cases replied
          cases some
          exact sound.fresh there
        · intro old there live
          by_cases same : old.partId = part.partId
          · exact .inr ⟨_, _, rfl, same.symm⟩
          · exact .inl (kept old there live same)

end PartCompletion

open Bounded Procedure RowLog Serial

variable {env : StoreEnv} {store store' : MemoryStore} {now : Timestamp}
  {nodeCode partId claimToken : String} {part oldest : PartQueueItem}

theorem keepsPartLaw_iff (sound : PartsSound store) (call : PartCall) :
    KeepsPartLaw env store call ↔ ¬ CrowdsPartOut store call := by
  obtain ⟨now, operation⟩ := call
  cases operation with
  | createReadyPart request => exact createReadyPart_law sound request
  | claimNextPartForNode nodeCode ttlSeconds => exact claimNextPartForNode_law sound ttlSeconds
  | releaseExpiredPartClaims => exact releaseExpiredPartClaims_law
  | completeClaimedPart nodeCode partId claimToken =>
    exact completeClaimedPart_law sound nodeCode partId claimToken
  | heartbeats heartbeats => exact heartbeats_law heartbeats

theorem finishPart_sound (sound : PartsSound store)
    (h : completablePart store nodeCode partId claimToken = .ok part) :
    PartsSound (finishPart store now nodeCode part).2 := by
  have middle := @completedStore_sound _ now _ _ _ _ sound h
  rcases finishPart_cases store now nodeCode part with ⟨-, finished⟩ |
    ⟨step, target, -, store', finished, append⟩
  · rw [finished]
    exact middle
  · rw [finished]
    exact append.sound middle

theorem partsSound_serve (sound : PartsSound store) (call : PartCall) :
    PartsSound ((partAuthority env).serve store call) := by
  obtain ⟨now, operation⟩ := call
  cases operation with
  | createReadyPart request => exact (createReadyPart_append request).sound sound
  | claimNextPartForNode nodeCode ttlSeconds =>
    obtain ⟨written, write⟩ := @claimNextPartForNode_write env _ now nodeCode sound ttlSeconds
    exact write.sound sound
  | releaseExpiredPartClaims => exact releaseExpiredPartClaims_write.sound sound
  | completeClaimedPart nodeCode partId claimToken =>
    cases h : completablePart store nodeCode partId claimToken with
    | error fault =>
      change PartsSound (after _ store)
      rw [after_error (completeClaimedPart_refused h)]
      exact sound
    | ok part =>
      change PartsSound (after _ store)
      rw [after_ok (completeClaimedPart_served h)]
      exact finishPart_sound sound h
  | heartbeats heartbeats =>
    exact { sound with }

theorem partsSound_step {call : PartCall} {reply : Except StoreFault StoreReply}
    (sound : PartsSound store) (h : (partAuthority env).attempt call store = .ok (reply, store')) :
    PartsSound store' := by
  cases h
  exact partsSound_serve sound call

theorem partsSound_run (env : StoreEnv) (calls : List PartCall) :
    PartsSound ((partAuthority env).run .empty calls) :=
  Authority.invariant (I := PartsSound) partsSound_step calls partsSound_empty

/-- In every run of the part queue the law of the parts holds, if and only if no call crowds a
part out that is ready or claimed. -/
theorem keepsPartLaw_along_iff (env : StoreEnv) (calls : List PartCall) :
    (partAuthority env).Along (KeepsPartLaw env) .empty calls ↔
      (partAuthority env).Along (fun store call => ¬ CrowdsPartOut store call) .empty calls := by
  constructor
  · intro along
    refine Authority.along_invariant (I := PartsSound) ?_ ?_ partsSound_empty along
    · exact fun sound _ h => partsSound_step sound h
    · exact fun sound law => (keepsPartLaw_iff sound _).mp law
  · intro along
    refine Authority.along_invariant (I := PartsSound) ?_ ?_ partsSound_empty along
    · exact fun sound _ h => partsSound_step sound h
    · exact fun sound room => (keepsPartLaw_iff sound _).mpr room

theorem run_creates (env : StoreEnv) (now : Timestamp) (request : PartRequest) {n : Nat}
    (room : n ≤ partCapacity) :
    ((partAuthority env).run .empty
      (List.replicate n ⟨now, .createReadyPart request⟩)).partQueue.length = n ∧
    ∀ part ∈ ((partAuthority env).run .empty
      (List.replicate n ⟨now, .createReadyPart request⟩)).partQueue, part.status = .ready := by
  induction n with
  | zero => exact ⟨rfl, nofun⟩
  | succ n ih =>
    obtain ⟨length, ready⟩ := ih (by omega)
    rw [List.replicate_succ', Authority.run_append]
    generalize (partAuthority env).run .empty
      (List.replicate n ⟨now, .createReadyPart request⟩) = store at length ready
    have append := @createReadyPart_append env store now request
    have queue : ((partAuthority env).run store [⟨now, .createReadyPart request⟩]).partQueue =
        store.partQueue ++ [(createReadyPart env store now request).1] := by
      refine append.queue.trans (keepLast_of_length_le ?_)
      rw [List.length_append, List.length_singleton, length]
      exact room
    rw [queue]
    refine ⟨by rw [List.length_append, List.length_singleton, length], fun part h => ?_⟩
    rcases of_mem_concat h with h | rfl
    · exact ready part h
    · exact append.ready

/-- The 501st part that is created without a claim pushes the first one out of the queue. -/
theorem create_ready_part_drops_ready : ¬ ∀ (env : StoreEnv) (calls : List PartCall),
    (partAuthority env).Along (KeepsPartLaw env) .empty calls := by
  intro h
  have law := (Authority.along_append.mp (h sampleStoreEnv
    (List.replicate partCapacity ⟨0, .createReadyPart { orderId := "WO-1" }⟩ ++
      [⟨0, .createReadyPart { orderId := "WO-1" }⟩]))).2.1
  obtain ⟨length, ready⟩ := run_creates sampleStoreEnv 0 { orderId := "WO-1" } le_rfl
  have sound := partsSound_run sampleStoreEnv
    (List.replicate partCapacity ⟨0, .createReadyPart { orderId := "WO-1" }⟩)
  generalize (partAuthority sampleStoreEnv).run .empty
    (List.replicate partCapacity ⟨0, .createReadyPart { orderId := "WO-1" }⟩) = store
    at law length ready sound
  refine (keepsPartLaw_iff sound _).mp law ?_
  obtain ⟨oldest, rest, queue⟩ := List.exists_cons_of_length_pos
    (show 0 < store.partQueue.length by rw [length]; decide)
  refine ⟨oldest, length, by rw [queue]; rfl, ?_, trivial⟩
  rw [ready oldest (by rw [queue]; exact List.mem_cons_self)]
  exact PartStatus.noConfusion

end MiniOgas
