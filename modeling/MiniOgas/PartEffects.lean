import MiniOgas.PartOperations
import MiniOgas.RowLog

namespace MiniOgas

open Bounded RowLog

variable {env : StoreEnv} {store store' : MemoryStore} {now : Timestamp} {nodeCode : String}
  {part old new : PartQueueItem} {written : List PartQueueItem}

theorem partIdText_injective : Function.Injective partIdText := by
  intro m n same
  have digits : (Nat.toDigits 10 m).leftpad 5 '0' = (Nat.toDigits 10 n).leftpad 5 '0' := by
    have texts := congrArg String.toList same
    unfold partIdText fiveDigits at texts
    rw [String.toList_append, String.toList_append, List.append_cancel_left_eq,
      String.toList_ofList, String.toList_ofList] at texts
    exact texts
  have value : ∀ k, Nat.ofDigitChars 10 ((Nat.toDigits 10 k).leftpad 5 '0') 0 = k := by
    intro k
    unfold List.leftpad
    rw [Nat.ofDigitChars_append, Nat.ofDigitChars_replicate_zero, Nat.mul_zero,
      Nat.ofDigitChars_ten_toDigits]
  rw [← value m, ← value n, digits]

theorem partIdText_ne_empty (n : Nat) : partIdText n ≠ "" := by
  intro same
  have texts := congrArg String.toList same
  unfold partIdText at texts
  rw [String.toList_append] at texts
  cases texts

structure PartIdentity where
  partId : String
  parentPartId : String
  productCode : String
  currentStep : String
  currentOperation : String
  targetNode : String

def PartQueueItem.identity (part : PartQueueItem) : PartIdentity where
  partId := part.partId
  parentPartId := part.parentPartId
  productCode := part.productCode
  currentStep := part.currentStep
  currentOperation := part.currentOperation
  targetNode := part.targetNode

def PartMove (old new : PartQueueItem) : Prop :=
  new = old ∨ (new.identity = old.identity ∧ old.status ≠ .completed)

theorem PartMove.identity (move : PartMove old new) : new.identity = old.identity := by
  rcases move with rfl | ⟨same, -⟩
  · rfl
  · exact same

theorem PartMove.partId (move : PartMove old new) : new.partId = old.partId :=
  congrArg PartIdentity.partId move.identity

theorem partMove_refl (part : PartQueueItem) : PartMove part part := .inl rfl

theorem partMove_trans (first second third : PartQueueItem) (one : PartMove first second)
    (two : PartMove second third) : PartMove first third := by
  rcases one with rfl | ⟨same, live⟩
  · exact two
  · exact .inr ⟨two.identity.trans same, live⟩

structure QueueWrite (store store' : MemoryStore) (written : List PartQueueItem) : Prop where
  rows : store'.partRows = store.partRows ++ written
  seq : store'.partSeq = store.partSeq
  moves : List.Forall₂ PartMove store.partQueue store'.partQueue
  kept : ∀ row ∈ written, row ∈ store'.partQueue
  changed : ∀ part ∈ store'.partQueue, part ∈ written ∨ part ∈ store.partQueue

structure PartAppend (store store' : MemoryStore) (part : PartQueueItem) : Prop where
  rows : store'.partRows = store.partRows ++ [part]
  seq : store'.partSeq = store.partSeq + 1
  queue : store'.partQueue = keepLast partCapacity (store.partQueue ++ [part])
  partId : part.partId = partIdText (store.partSeq + 1)
  ready : part.status = .ready

structure PartsSound (store : MemoryStore) : Prop where
  numbered : ∀ row ∈ store.partRows, ∃ n < store.partSeq, row.partId = partIdText (n + 1)
  distinct : (store.partQueue.map (·.partId)).Nodup
  bounded : store.partQueue.length ≤ partCapacity
  agrees : Agrees (·.partId) store.partRows store.partQueue
  settled : ∀ row ∈ store.partRows, row.status = .completed →
    ∀ part ∈ store.partQueue, part.partId = row.partId → part.status = .completed

theorem partsSound_empty : PartsSound .empty where
  numbered _ h := nomatch h
  distinct := List.nodup_nil
  bounded := Nat.zero_le _
  agrees _ h := nomatch h
  settled _ h := nomatch h

theorem PartsSound.eq_of_partId (sound : PartsSound store) {first second : PartQueueItem}
    (one : first ∈ store.partQueue) (two : second ∈ store.partQueue)
    (same : first.partId = second.partId) : first = second :=
  List.inj_on_of_nodup_map sound.distinct one two same

theorem PartsSound.fresh (sound : PartsSound store) {row : PartQueueItem}
    (h : row ∈ store.partRows) : row.partId ≠ partIdText (store.partSeq + 1) := by
  obtain ⟨n, lt, same⟩ := sound.numbered row h
  rw [same]
  intro eq
  have := partIdText_injective eq
  omega

theorem QueueWrite.partIds (write : QueueWrite store store' written) :
    store'.partQueue.map (·.partId) = store.partQueue.map (·.partId) :=
  map_eq_of_forall₂ (fun _ _ move => move.partId) write.moves

theorem QueueWrite.sound (write : QueueWrite store store' written) (sound : PartsSound store) :
    PartsSound store' := by
  have distinct : (store'.partQueue.map (·.partId)).Nodup := by
    rw [write.partIds]
    exact sound.distinct
  have before : ∀ part ∈ store'.partQueue, ∃ old ∈ store.partQueue, PartMove old part :=
    fun part h => exists_left_of_forall₂ write.moves h
  refine ⟨?_, distinct, ?_, ?_, ?_⟩
  · rw [write.rows, write.seq]
    intro row h
    rcases List.mem_append.mp h with h | h
    · exact sound.numbered row h
    · obtain ⟨old, there, move⟩ := before row (write.kept row h)
      rw [move.partId]
      exact sound.numbered old (sound.agrees.mem there)
  · rw [← write.moves.length_eq]
    exact sound.bounded
  · rw [write.rows]
    exact sound.agrees.write distinct write.kept write.changed
  · rw [write.rows]
    intro row h completed part there same
    rcases List.mem_append.mp h with h | h
    · obtain ⟨old, hold, move⟩ := before part there
      have done := sound.settled row h completed old hold (move.partId.symm.trans same)
      rcases move with rfl | ⟨-, live⟩
      · exact done
      · exact absurd done live
    · have own : part = row :=
        List.inj_on_of_nodup_map distinct there (write.kept row h) same
      rw [own]
      exact completed

theorem PartAppend.sound (append : PartAppend store store' part) (sound : PartsSound store) :
    PartsSound store' := by
  have fresh : ∀ old ∈ store.partQueue, old.partId ≠ part.partId := by
    intro old h
    rw [append.partId]
    exact sound.fresh (sound.agrees.mem h)
  have distinct : (store'.partQueue.map (·.partId)).Nodup := by
    rw [append.queue]
    refine List.Nodup.sublist ((keepLast_sublist _ _).map _) ?_
    rw [List.map_append, List.map_singleton]
    exact List.Nodup.append sound.distinct (List.nodup_singleton _) (by simpa using fresh)
  have inside : ∀ other ∈ store'.partQueue, other ∈ store.partQueue ∨ other = part := by
    intro other h
    rw [append.queue] at h
    exact of_mem_keepLast_append h
  refine ⟨?_, distinct, ?_, ?_, ?_⟩
  · rw [append.rows, append.seq]
    intro row h
    rcases Serial.of_mem_concat h with h | rfl
    · obtain ⟨n, lt, same⟩ := sound.numbered row h
      exact ⟨n, by omega, same⟩
    · exact ⟨store.partSeq, by omega, append.partId⟩
  · rw [append.queue]
    exact length_keepLast_le _ _
  · rw [append.rows]
    refine sound.agrees.write distinct ?_ ?_
    · intro row h
      rw [List.mem_singleton.mp h, append.queue]
      exact mem_keepLast_append 499 _ _
    · intro other h
      rcases inside other h with h | rfl
      · exact .inr h
      · exact .inl (List.mem_singleton_self _)
  · rw [append.rows]
    intro row h completed other there same
    rcases Serial.of_mem_concat h with earlier | rfl
    · rcases inside other there with there | rfl
      · exact sound.settled row earlier completed other there same
      · exact absurd (append.partId ▸ same).symm (sound.fresh earlier)
    · rw [append.ready] at completed
      cases completed

variable {env : StoreEnv} {store store' : MemoryStore} {now : Timestamp} {nodeCode : String}
  {part : PartQueueItem} {run : String} {queue : List PartQueueItem}

theorem createReadyPart_append (request : PartRequest) :
    PartAppend store (createReadyPart env store now request).2
      (createReadyPart env store now request).1 := by
  refine ⟨?_, ?_, ?_, rfl, rfl⟩ <;>
    simp only [createReadyPart, persistPartQueueItem, queuePart]

theorem release_move (h : part.claimExpired now run = true) : PartMove part (part.release now) := by
  refine .inr ⟨rfl, ?_⟩
  simp only [PartQueueItem.claimExpired, Bool.and_eq_true, decide_eq_true_eq] at h
  rw [h.1.1]
  exact PartStatus.noConfusion

theorem releasedQueue_moves : List.Forall₂ PartMove queue (releasedQueue now run queue) := by
  refine forall₂_map_right fun part _ => ?_
  split
  next expired => exact release_move expired
  next => exact partMove_refl part

theorem releasedParts_subset : ∀ part ∈ releasedParts now run queue,
    part ∈ releasedQueue now run queue := by
  intro part h
  obtain ⟨old, there, rfl⟩ := List.mem_map.mp h
  obtain ⟨there, expired⟩ := List.mem_filter.mp there
  exact List.mem_map.mpr ⟨old, there, if_pos expired⟩

theorem releasedQueue_changed : ∀ part ∈ releasedQueue now run queue,
    part ∈ releasedParts now run queue ∨ part ∈ queue := by
  intro part h
  obtain ⟨old, there, rfl⟩ := List.mem_map.mp h
  split
  next expired => exact .inl (List.mem_map_of_mem (List.mem_filter.mpr ⟨there, expired⟩))
  next => exact .inr there

theorem releaseExpiredPartClaims_write : QueueWrite store (releaseExpiredPartClaims env store now).2
    (releasedParts now (currentRunIdForSystem env store) store.partQueue) where
  rows := rfl
  seq := rfl
  moves := releasedQueue_moves
  kept := releasedParts_subset
  changed := releasedQueue_changed

theorem claim_move {token : String} {ttl : Int} (h : part.status = .ready) :
    PartMove part (part.claim now nodeCode token ttl) := by
  refine .inr ⟨rfl, ?_⟩
  rw [h]
  exact PartStatus.noConfusion

theorem status_of_claimable (h : part.claimable run nodeCode = true) : part.status = .ready := by
  simp only [PartQueueItem.claimable, Bool.and_eq_true, decide_eq_true_eq] at h
  exact h.1.2

theorem claim_moves {token : String} {ttl : Int} :
    List.Forall₂ PartMove queue (modifyFirst (·.claimable run nodeCode)
      (PartQueueItem.claim now nodeCode token ttl) (releasedQueue now run queue)) := by
  refine forall₂_trans partMove_trans releasedQueue_moves (forall₂_modifyFirst partMove_refl ?_)
  intro part found
  exact claim_move (status_of_claimable (by simpa using List.find?_some found))

theorem claimNextPartForNode_write (sound : PartsSound store) (ttlSeconds : Int) :
    ∃ written, QueueWrite store (claimNextPartForNode env store now nodeCode ttlSeconds).2
      written := by
  unfold claimNextPartForNode
  dsimp only
  split
  next => exact ⟨_, @releaseExpiredPartClaims_write env _ _⟩
  next part found =>
    have moves := @claim_moves now nodeCode (currentRunIdForSystem env store) store.partQueue
      (env.uuid store.uuids) (claimTtl ttlSeconds)
    have distinct := sound.distinct
    rw [← map_eq_of_forall₂ (fun _ _ move => move.partId) moves] at distinct
    refine ⟨_, ⟨rfl, rfl, moves, ?_, ?_⟩⟩
    · intro row h
      rcases Serial.of_mem_concat h with h | rfl
      · obtain ⟨released, there, rfl⟩ := List.mem_map.mp h
        split
        next => exact mem_modifyFirst found
        next other =>
          refine mem_modifyFirst_of_ne found (releasedParts_subset released there) fun same => ?_
          exact other (by rw [same]; rfl)
      · exact mem_modifyFirst found
    · intro other h
      rcases mem_modifyFirst_cases found h with rfl | before
      · exact .inl (List.mem_append_right _ (List.mem_singleton_self _))
      · rcases releasedQueue_changed other before with released | old
        · refine .inl ?_
          by_cases same : other.partId = part.partId
          · have own := List.inj_on_of_nodup_map distinct h (mem_modifyFirst found) same
            rw [own]
            exact List.mem_append_right _ (List.mem_singleton_self _)
          · exact List.mem_append_left _ (List.mem_map.mpr ⟨other, released, if_neg same⟩)
        · exact .inr old

/-- The store after `complete_claimed_part` has completed a part, before it goes on. -/
def completedStore (store : MemoryStore) (now : Timestamp) (part : PartQueueItem) :
    MemoryStore :=
  { store with
    partQueue := modifyFirst (·.partId = part.partId) (·.complete now) store.partQueue
    partRows := store.partRows ++ [part.complete now] }

theorem completedStore_write (found : store.partQueue.find? (·.partId = part.partId) = some part)
    (claimed : part.status = .claimed) :
    QueueWrite store (completedStore store now part) [part.complete now] where
  rows := rfl
  seq := rfl
  moves := by
    refine forall₂_modifyFirst partMove_refl fun first first_found => ?_
    rw [found] at first_found
    cases first_found
    exact .inr ⟨rfl, by rw [claimed]; exact PartStatus.noConfusion⟩
  kept row h := by
    rw [List.mem_singleton.mp h]
    exact mem_modifyFirst found
  changed other h := by
    rcases mem_modifyFirst_cases found h with rfl | old
    · exact .inl (List.mem_singleton_self _)
    · exact .inr old

theorem completablePart_eq_ok {partId claimToken : String} :
    completablePart store nodeCode partId claimToken = .ok part ↔
      store.partQueue.find? (·.partId = partId) = some part ∧ part.targetNode = nodeCode ∧
        part.status = .claimed ∧ claimToken ≠ "" ∧ part.claimToken = claimToken := by
  unfold completablePart
  simp only [Serial.bind_eq_ok, Serial.orFault_eq_ok, Serial.check_eq_ok]
  constructor
  · rintro ⟨other, found, _, own, _, claimed, _, token, h⟩
    cases h
    exact ⟨found, own, claimed, token⟩
  · rintro ⟨found, own, claimed, token⟩
    exact ⟨part, found, (), own, (), claimed, (), token, rfl⟩

/-- A finished part has left its route, or its next step is appended to the queue. -/
theorem finishPart_cases (store : MemoryStore) (now : Timestamp) (nodeCode : String)
    (part : PartQueueItem) :
    (nextPartQueueStep (part.complete now) nodeCode = none ∧
      finishPart store now nodeCode part =
        ((part.complete now, none), completedStore store now part)) ∨
    ∃ step target, nextPartQueueStep (part.complete now) nodeCode = some (step, target) ∧
      ∃ store', finishPart store now nodeCode part = ((part.complete now,
        some ((part.complete now).downstream now (store.partSeq + 1) nodeCode step target)),
          store') ∧
        PartAppend (completedStore store now part) store'
          ((part.complete now).downstream now (store.partSeq + 1) nodeCode step target) := by
  unfold finishPart
  dsimp only
  cases h : nextPartQueueStep (part.complete now) nodeCode with
  | none => exact .inl ⟨rfl, rfl⟩
  | some next =>
    refine .inr ⟨next.1, next.2, rfl, _, rfl, ?_⟩
    refine ⟨?_, ?_, ?_, rfl, rfl⟩ <;>
      simp [persistPartQueueItems, queuePart, completedStore]

end MiniOgas
