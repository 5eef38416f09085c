import MiniOgas.AgentOutbox
import MiniOgas.HeartbeatRefusal

namespace MiniOgas

open Procedure Relational Serial

inductive RequestFate where
  | lostRequest
  | answered
  | lostResponse
deriving DecidableEq

/-- A heartbeat that is sent; `recorded` is the payload that the route hands on, if it lets the
heartbeat pass, and `kept` says whether the agent gets to write the heartbeat down. -/
structure LiveSend where
  payload : Fields
  timestamp : Timestamp
  recorded : Option Fields
  now : Timestamp
  delivery : RequestFate
  kept : Bool := true
  requestId : String := ""
  failure : SendResult := ⟨false, "", 0, "", none⟩

structure RecordSync where
  now : Timestamp
  delivery : RequestFate
  requestId : String := ""

inductive ArchiveEvent where
  | send (live : LiveSend)
  | sync (sync : RecordSync)
  | others (centre : HeartbeatSystem)

/-- What the two sides rely on; `int` leaves an integer as it is. -/
structure ArchiveEnv extends HeartbeatEnv where
  ints : ∀ n, facts.store.builtins.int (.int n) = some n

/-- A row that was put into `heartbeat_shadow`: the number of the heartbeat in the database of the
agent, if it has one, and whether the row is of a record. -/
structure ArchivedRow where
  localId : Option Nat
  replayed : Bool

/-- The database of the agent, the centre, and the rows that the agent's requests have put into
`heartbeat_shadow`, also those that the retention has deleted. -/
structure HeartbeatArchive where
  db : LocalDatabase := .empty
  centre : HeartbeatSystem := {}
  archive : List ArchivedRow := []

section Archive

variable (env : ArchiveEnv) (nodeCode : String)

def LiveSend.serve (live : LiveSend) (centre : HeartbeatSystem) : Bool × HeartbeatSystem :=
  match live.recorded with
  | none => (false, centre)
  | some payload =>
    let record := recordHeartbeatDurably env.toHeartbeatEnv live.now payload
    ((outcome record centre).isOk, after record centre)

/-- What `publish_heartbeat` returns. -/
def LiveSend.result (live : LiveSend) (accepted : Bool) : SendResult :=
  if accepted = true ∧ live.delivery = .answered then ⟨true, live.requestId, 200, "", none⟩
  else { live.failure with synced := false }

/-- `store_heartbeat`, unless the agent goes down before. -/
def LiveSend.store (live : LiveSend) (accepted : Bool) (db : LocalDatabase) : LocalDatabase :=
  if live.kept then storeHeartbeat db live.payload live.timestamp (live.result accepted) else db

/-- The row that a heartbeat has put into `heartbeat_shadow`, if it has. -/
def LiveSend.archived (live : LiveSend) (db : LocalDatabase) (centre centre' : HeartbeatSystem) :
    List ArchivedRow :=
  if centre'.transport.facts.lastId = centre.transport.facts.lastId then []
  else [⟨if live.kept then some db.heartbeats.nextId else none, false⟩]

def HeartbeatArchive.send (archive : HeartbeatArchive) (live : LiveSend) : HeartbeatArchive :=
  if live.delivery = .lostRequest then { archive with db := live.store false archive.db }
  else
    let served := live.serve env archive.centre
    { db := live.store served.1 archive.db
      centre := served.2
      archive := archive.archive ++ live.archived archive.db archive.centre served.2 }

/-- A record as `sync_pending_records` sends it. -/
def syncRecord (record : Nat × HeartbeatRow) : Fields :=
  [("local_id", .int record.1), ("payload", .obj record.2.payload),
    ("created_at", .time record.2.createdAt), ("original_request_id", .str record.2.requestId)]

def recordReceipt (facts : FactStore) (record : Nat × HeartbeatRow) : Option RecordReceipt :=
  facts.receipts.find? fun receipt =>
    receipt.nodeCode = nodeCode &&
      receipt.runId = runtimeText env.facts.store record.2.payload "run_id" &&
      receipt.localId = record.1

def newRecords (facts : FactStore) (records : List (Nat × HeartbeatRow)) :
    List (Nat × HeartbeatRow) :=
  records.filter fun record => (recordReceipt env nodeCode facts record).isNone

def SendResult.ofSync (sync : RecordSync) : SendResult :=
  if sync.delivery = .answered then ⟨true, sync.requestId, 200, "", none⟩
  else ⟨false, sync.requestId, 0, "timed out", none⟩

/-- `sync_pending_records` and `record_node_records`. -/
def HeartbeatArchive.sync (archive : HeartbeatArchive) (sync : RecordSync) : HeartbeatArchive :=
  let records := pendingRecords archive.db syncLimit
  let facts := archive.centre.transport.facts
  if records.isEmpty ∨ sync.delivery = .lostRequest then archive
  else
    match persistSyncedNodeRecords env.facts sync.now nodeCode (records.map syncRecord) facts with
    | .error _ => archive
    | .ok (_, facts') =>
      { db := syncPendingRecords archive.db fun _ => .ofSync sync
        centre := { archive.centre with transport := { archive.centre.transport with
          facts := facts' } }
        archive := archive.archive ++
          (newRecords env nodeCode facts records).map fun record => ⟨some record.1, true⟩ }

def HeartbeatArchive.others (archive : HeartbeatArchive) (centre : HeartbeatSystem) :
    HeartbeatArchive :=
  let receipts := archive.centre.transport.facts.receipts.filter (·.nodeCode = nodeCode) ++
    centre.transport.facts.receipts.filter (·.nodeCode ≠ nodeCode)
  { archive with centre := { centre with transport := { centre.transport with
    facts := { centre.transport.facts with receipts } } } }

def ArchiveEvent.apply (event : ArchiveEvent) (archive : HeartbeatArchive) : HeartbeatArchive :=
  match event with
  | .send live => archive.send env live
  | .sync call => archive.sync env nodeCode call
  | .others centre => archive.others nodeCode centre

def archiveAuthority : Authority ArchiveEvent HeartbeatArchive Unit Unit :=
  ⟨fun event archive => .ok ((), event.apply env nodeCode archive)⟩

def HeartbeatArchive.rowsOf (archive : HeartbeatArchive) (localId : Nat) : Nat :=
  archive.archive.countP fun row => row.localId = some localId

structure ArchivedOnce (archive : HeartbeatArchive) : Prop where
  synced : ∀ localId row, archive.db.heartbeats.find? localId = some row → row.synced = true →
    archive.rowsOf localId = 1
  once : ∀ localId, archive.rowsOf localId ≤ 1

def KeepsArchivedOnce (archive : HeartbeatArchive) (event : ArchiveEvent) : Prop :=
  ArchivedOnce (event.apply env nodeCode archive)

def OwnRecords (records : List (Nat × HeartbeatRow)) : Prop :=
  ∀ record ∈ records,
    textOr env.facts.store (record.2.payload.get "node_code") nodeCode = nodeCode

/-- No record reaches the centre whose heartbeat has reached it before. -/
def NotReplayedLive (archive : HeartbeatArchive) (event : ArchiveEvent) : Prop :=
  match event with
  | .sync call =>
    call.delivery ≠ .lostRequest →
      OwnRecords env nodeCode (pendingRecords archive.db syncLimit) →
      ∀ record ∈ pendingRecords archive.db syncLimit,
        (⟨some record.1, false⟩ : ArchivedRow) ∉ archive.archive
  | .send _ | .others _ => True

end Archive

section Laws

variable {env : ArchiveEnv} {nodeCode : String} {facts facts' : FactStore}
  {record : Nat × HeartbeatRow} {records : List (Nat × HeartbeatRow)} {now : Timestamp}
  {receipt : RecordReceipt} {db : LocalDatabase}

theorem intOrZero_int (n : Int) : intOrZero env.facts.store (.int n) = .ok n := by
  have same : (Json.int n).or (.int 0) = .int n := by
    unfold Json.or Json.truthy
    by_cases zero : n = 0 <;> simp [zero]
  unfold intOrZero readInt
  rw [same, env.ints]
  rfl

theorem mapM_syncRecord :
    ((records.map syncRecord).mapM fun record => do
      let localId ← intOrZero env.facts.store (record.get "local_id")
      return (localId, record)) =
      .ok (records.map fun record => ((record.1 : Int), syncRecord record)) := by
  induction records with
  | nil => rfl
  | cons record records ih =>
    have id : (syncRecord record).get "local_id" = .int record.1 := rfl
    rw [List.map_cons, List.mapM_cons, id, intOrZero_int, ih]
    rfl

theorem sortedRecords_syncRecord (ascending : (records.map Prod.fst).Pairwise (· < ·)) :
    sortedRecords env.facts (records.map syncRecord) =
      .ok (records.map fun record => ((record.1 : Int), syncRecord record)) := by
  unfold sortedRecords
  rw [mapM_syncRecord, ok_bind]
  refine congrArg Except.ok (List.Pairwise.insertionSort_eq ?_)
  rw [List.pairwise_map] at ascending ⊢
  exact ascending.imp fun before => Int.ofNat_le.mpr (Nat.le_of_lt before)

def receiptOf (env : ArchiveEnv) (nodeCode : String) (now : Timestamp)
    (record : Nat × HeartbeatRow) : RecordReceipt :=
  ⟨nodeCode, runtimeText env.facts.store record.2.payload "run_id", record.1,
    env.facts.digest record.2.payload, env.facts.stored record.2.createdAt, now⟩

theorem recordPayload_syncRecord (localId : Int) :
    recordPayload env.facts localId (syncRecord record) = .ok record.2.payload := rfl

theorem archiveRecord_foreign
    (foreign : textOr env.facts.store (record.2.payload.get "node_code") nodeCode ≠ nodeCode) :
    ∃ fault, archiveRecord env.facts now nodeCode facts record.1 (syncRecord record) =
      .error fault := by
  unfold archiveRecord
  rw [recordPayload_syncRecord, ok_bind, check, if_neg foreign]
  exact ⟨_, rfl⟩

theorem archiveRecord_known
    (own : textOr env.facts.store (record.2.payload.get "node_code") nodeCode = nodeCode)
    (known : recordReceipt env nodeCode facts record = some receipt)
    (same : receipt.payloadHash = env.facts.digest record.2.payload) :
    archiveRecord env.facts now nodeCode facts record.1 (syncRecord record) =
      .ok (false, facts) := by
  unfold archiveRecord
  rw [recordPayload_syncRecord, ok_bind, check, if_pos own, ok_bind]
  unfold recordReceipt at known
  dsimp only
  rw [known]
  simp only [check, if_pos same, ok_bind]
  rfl

theorem archiveRecord_new
    (own : textOr env.facts.store (record.2.payload.get "node_code") nodeCode = nodeCode)
    (new : recordReceipt env nodeCode facts record = none) :
    ∃ facts', archiveRecord env.facts now nodeCode facts record.1 (syncRecord record) =
        .ok (true, facts') ∧ facts'.lastId = facts.lastId + 1 ∧
      facts'.receipts = facts.receipts ++ [receiptOf env nodeCode now record] := by
  unfold archiveRecord
  rw [recordPayload_syncRecord, ok_bind, check, if_pos own, ok_bind]
  unfold recordReceipt at new
  dsimp only
  rw [new]
  exact ⟨_, rfl, rfl, rfl⟩

theorem recordReceipt_append {other : Nat × HeartbeatRow} (apart : other.1 ≠ record.1)
    (added : facts'.receipts = facts.receipts ++ [receiptOf env nodeCode now other]) :
    recordReceipt env nodeCode facts' record = recordReceipt env nodeCode facts record := by
  have different : (receiptOf env nodeCode now other).localId ≠ record.1 := by
    unfold receiptOf
    simpa using apart
  unfold recordReceipt
  rw [added, List.find?_append]
  simp [different]

def archiveRound (env : ArchiveEnv) (nodeCode : String) (now : Timestamp)
    (round : (Nat × Nat) × FactStore) (record : Int × Fields) :
    Except StoreFault ((Nat × Nat) × FactStore) := do
  let result ← archiveRecord env.facts now nodeCode round.2 record.1 record.2
  return (if result.1 then (round.1.1 + 1, round.1.2) else (round.1.1, round.1.2 + 1), result.2)

def numberedRecords (records : List (Nat × HeartbeatRow)) : List (Int × Fields) :=
  records.map fun record => ((record.1 : Int), syncRecord record)

theorem archiveRecords (own : OwnRecords env nodeCode records)
    (matching : ∀ record ∈ records, ∀ receipt,
      recordReceipt env nodeCode facts record = some receipt →
      receipt.payloadHash = env.facts.digest record.2.payload)
    (distinct : (records.map Prod.fst).Nodup) (counts : Nat × Nat) :
    ∃ counts' facts', (numberedRecords records).foldlM (archiveRound env nodeCode now)
        (counts, facts) = .ok (counts', facts') ∧
      facts'.lastId = facts.lastId + (newRecords env nodeCode facts records).length ∧
      facts'.receipts = facts.receipts ++
        (newRecords env nodeCode facts records).map (receiptOf env nodeCode now) := by
  induction records generalizing facts counts with
  | nil => exact ⟨counts, facts, rfl, rfl, (List.append_nil _).symm⟩
  | cons record records ih =>
    obtain ⟨ownHead, own⟩ := List.forall_mem_cons.mp own
    obtain ⟨matchingHead, matching⟩ := List.forall_mem_cons.mp matching
    obtain ⟨apart, distinct⟩ := List.nodup_cons.mp distinct
    unfold numberedRecords at ih ⊢
    rw [List.map_cons, List.foldlM_cons, archiveRound]
    cases known : recordReceipt env nodeCode facts record with
    | some receipt =>
      rw [archiveRecord_known ownHead known (matchingHead receipt known), ok_bind]
      obtain ⟨counts', facts', looped, counted, receipts⟩ :=
        ih own matching distinct (counts.1, counts.2 + 1)
      have none : newRecords env nodeCode facts (record :: records) =
          newRecords env nodeCode facts records := by
        unfold newRecords
        rw [List.filter_cons, known]
        rfl
      rw [none]
      exact ⟨counts', facts', looped, counted, receipts⟩
    | none =>
      obtain ⟨added, archived, counted, receipts⟩ :=
        @archiveRecord_new env nodeCode facts record now ownHead known
      have others : ∀ other ∈ records, recordReceipt env nodeCode added other =
          recordReceipt env nodeCode facts other := fun other member =>
        recordReceipt_append (fun same => apart (same ▸ List.mem_map_of_mem member)) receipts
      have rest : newRecords env nodeCode added records = newRecords env nodeCode facts records :=
        List.filter_congr fun other member => by rw [others other member]
      have one : newRecords env nodeCode facts (record :: records) =
          record :: newRecords env nodeCode facts records := by
        unfold newRecords
        rw [List.filter_cons, known]
        rfl
      rw [archived, ok_bind]
      obtain ⟨counts', facts', looped, counted', receipts'⟩ := @ih added own
        (fun other member receipt found =>
          matching other member receipt (others other member ▸ found)) distinct
        (counts.1 + 1, counts.2)
      rw [one]
      refine ⟨counts', facts', looped, ?_, ?_⟩
      · rw [counted', counted, rest, List.length_cons]
        omega
      · rw [receipts', receipts, rest, List.map_cons, List.append_assoc, List.singleton_append]

theorem ownRecords_of_archived {round : (Nat × Nat) × FactStore}
    {result : (Nat × Nat) × FactStore}
    (looped : (numberedRecords records).foldlM (archiveRound env nodeCode now) round =
      .ok result) : OwnRecords env nodeCode records := by
  induction records generalizing round with
  | nil => exact List.forall_mem_nil _
  | cons record records ih =>
    unfold numberedRecords at ih looped
    obtain ⟨next, archives, looped⟩ := of_bind looped
    obtain ⟨archived, archives, -⟩ := of_bind archives
    refine List.forall_mem_cons.mpr ⟨?_, ih looped⟩
    by_contra foreign
    obtain ⟨fault, refused⟩ :=
      @archiveRecord_foreign env nodeCode round.2 record now foreign
    rw [refused] at archives
    cases archives

theorem pendingRecords_ascending (db : LocalDatabase) (limit : Nat) :
    ((pendingRecords db limit).map Prod.fst).Pairwise (· < ·) := by
  have ids : db.heartbeats.entries.map Prod.fst =
      (List.range' 0 db.heartbeats.rows.length).map (· + 1) := by
    rw [← List.zipIdx_map_snd, List.map_map, Table.entries, List.map_map]
    rfl
  refine List.Pairwise.sublist (((List.take_sublist _ _).trans List.filter_sublist).map _) ?_
  rw [ids, List.pairwise_map]
  have positions : (List.range' 0 db.heartbeats.rows.length).Pairwise (· < ·) :=
    List.pairwise_lt_range'
  exact positions.imp fun before => Nat.succ_lt_succ before

theorem mem_pendingRecords {limit : Nat} (member : record ∈ pendingRecords db limit) :
    db.heartbeats.find? record.1 = some record.2 ∧ record.2.synced = false := by
  obtain ⟨found, waits⟩ := Table.mem_select.mp (List.mem_of_mem_take member)
  exact ⟨found, by simpa using waits⟩

theorem persistSynced_eq (db : LocalDatabase) :
    persistSyncedNodeRecords env.facts now nodeCode
        ((pendingRecords db syncLimit).map syncRecord) facts = do
      let looped ← (numberedRecords (pendingRecords db syncLimit)).foldlM
        (archiveRound env nodeCode now) ((0, 0), facts)
      let heartbeats := retainNode ShadowRow.laterReceived nodeCode env.facts.retentionPerNode
        looped.2.heartbeats
      return (looped.1, { looped.2 with heartbeats }) := by
  unfold persistSyncedNodeRecords
  rw [sortedRecords_syncRecord (pendingRecords_ascending db syncLimit), ok_bind]
  rfl

variable {archive archive' : HeartbeatArchive} {call : RecordSync} {live : LiveSend}
  {event : ArchiveEvent} {localId : Nat} {centre : HeartbeatSystem} {row : HeartbeatRow}

/-- What is known of the receipts of the agent and of its rows. -/
structure ArchiveSound (env : ArchiveEnv) (nodeCode : String) (archive : HeartbeatArchive) :
    Prop where
  numbered : ∀ row ∈ archive.archive, ∀ localId, row.localId = some localId →
    localId < archive.db.heartbeats.nextId
  synced : ∀ localId row, archive.db.heartbeats.find? localId = some row → row.synced = true →
    ∃ replayed, ⟨some localId, replayed⟩ ∈ archive.archive
  receipts : ∀ receipt ∈ archive.centre.transport.facts.receipts, receipt.nodeCode = nodeCode →
    ∃ localId row, archive.db.heartbeats.find? localId = some row ∧ receipt.localId = localId ∧
      receipt.payloadHash = env.facts.digest row.payload ∧
      ⟨some localId, true⟩ ∈ archive.archive
  replayed : ∀ localId row, ⟨some localId, true⟩ ∈ archive.archive →
    archive.db.heartbeats.find? localId = some row →
    (recordReceipt env nodeCode archive.centre.transport.facts (localId, row)).isSome

theorem ArchiveSound.known (sound : ArchiveSound env nodeCode archive)
    (found : archive.db.heartbeats.find? record.1 = some record.2)
    (known : recordReceipt env nodeCode archive.centre.transport.facts record = some receipt) :
    receipt.payloadHash = env.facts.digest record.2.payload ∧
      ⟨some record.1, true⟩ ∈ archive.archive := by
  have member := List.mem_of_find?_eq_some known
  have matches' := List.find?_some known
  simp only [Bool.and_eq_true, decide_eq_true_eq] at matches'
  obtain ⟨⟨ofNode, -⟩, ofRecord⟩ := matches'
  obtain ⟨localId, row, stored, same, hash, archived⟩ := sound.receipts receipt member ofNode
  have number : localId = record.1 := by
    omega
  subst number
  cases stored.symm.trans found
  exact ⟨hash, archived⟩

theorem sync_refused (refused : pendingRecords archive.db syncLimit = [] ∨
      call.delivery = .lostRequest ∨
      ¬ OwnRecords env nodeCode (pendingRecords archive.db syncLimit)) :
    archive.sync env nodeCode call = archive := by
  unfold HeartbeatArchive.sync
  dsimp only
  split
  next => rfl
  next reaches =>
    have foreign : ¬ OwnRecords env nodeCode (pendingRecords archive.db syncLimit) := by
      rcases refused with none | lost | foreign
      · exact absurd (.inl (List.isEmpty_iff.mpr none)) reaches
      · exact absurd (.inr lost) reaches
      · exact foreign
    rw [persistSynced_eq]
    cases looped : (numberedRecords (pendingRecords archive.db syncLimit)).foldlM
        (archiveRound env nodeCode call.now) ((0, 0), archive.centre.transport.facts) with
    | error fault => rfl
    | ok result => exact absurd (ownRecords_of_archived looped) foreign

theorem sync_taken (sound : ArchiveSound env nodeCode archive)
    (some : pendingRecords archive.db syncLimit ≠ []) (reaches : call.delivery ≠ .lostRequest)
    (own : OwnRecords env nodeCode (pendingRecords archive.db syncLimit)) :
    ∃ centre, archive.sync env nodeCode call =
        { db := syncPendingRecords archive.db fun _ => .ofSync call
          centre
          archive := archive.archive ++ (newRecords env nodeCode archive.centre.transport.facts
            (pendingRecords archive.db syncLimit)).map fun record => ⟨.some record.1, true⟩ } ∧
      centre.transport.facts.lastId = archive.centre.transport.facts.lastId +
        (newRecords env nodeCode archive.centre.transport.facts
          (pendingRecords archive.db syncLimit)).length ∧
      centre.transport.facts.receipts = archive.centre.transport.facts.receipts ++
        (newRecords env nodeCode archive.centre.transport.facts
          (pendingRecords archive.db syncLimit)).map (receiptOf env nodeCode call.now) := by
  have matching : ∀ record ∈ pendingRecords archive.db syncLimit, ∀ receipt,
      recordReceipt env nodeCode archive.centre.transport.facts record = .some receipt →
      receipt.payloadHash = env.facts.digest record.2.payload := fun record member receipt known =>
    (sound.known (mem_pendingRecords member).1 known).1
  have distinct : ((pendingRecords archive.db syncLimit).map Prod.fst).Nodup :=
    (pendingRecords_ascending archive.db syncLimit).imp Nat.ne_of_lt
  obtain ⟨counts, facts, looped, counted, receipts⟩ :=
    @archiveRecords env nodeCode archive.centre.transport.facts _ call.now own matching distinct
      (0, 0)
  unfold HeartbeatArchive.sync
  rw [if_neg (by simp [some, reaches]), persistSynced_eq, looped, ok_bind]
  exact ⟨_, rfl, counted, receipts⟩

theorem syncPendingRecords_found {send : List (Nat × HeartbeatRow) → SendResult}
    (found : (syncPendingRecords db send).heartbeats.find? localId = some row) :
    ∃ old, db.heartbeats.find? localId = some old ∧ row.payload = old.payload ∧
      (row.synced = true → old.synced = true ∨
        (localId, old) ∈ pendingRecords db syncLimit) := by
  unfold syncPendingRecords at found
  dsimp only at found
  split at found
  next => exact ⟨row, found, rfl, .inl⟩
  next =>
    split at found
    next =>
      unfold markRecordsSynced at found
      rw [← Table.mem_entries, Table.entries_map] at found
      obtain ⟨⟨id, old⟩, member, same⟩ := List.mem_map.mp found
      obtain ⟨rfl, rfl⟩ := Prod.mk.inj same
      have there := Table.mem_entries.mp member
      refine ⟨old, there, by dsimp only; split <;> rfl, fun marked => ?_⟩
      split at marked
      next listed =>
        obtain ⟨⟨other, row⟩, taken, rfl⟩ := List.mem_map.mp listed
        have same := (mem_pendingRecords taken).1.symm.trans there
        cases same
        exact .inr taken
      next => exact .inl marked
    next => exact ⟨row, found, rfl, .inl⟩

theorem syncPendingRecords_keeps {send : List (Nat × HeartbeatRow) → SendResult}
    {old : HeartbeatRow} (there : db.heartbeats.find? localId = some old) :
    ∃ row, (syncPendingRecords db send).heartbeats.find? localId = some row ∧
      row.payload = old.payload := by
  unfold syncPendingRecords
  dsimp only
  split
  next => exact ⟨old, there, rfl⟩
  next =>
    split
    next =>
      unfold markRecordsSynced
      simp only [← Table.mem_entries, Table.entries_map]
      refine ⟨_, List.mem_map.mpr ⟨_, Table.mem_entries.mpr there, rfl⟩, ?_⟩
      split <;> rfl
    next => exact ⟨old, there, rfl⟩

theorem nextId_syncPendingRecords {send : List (Nat × HeartbeatRow) → SendResult} :
    (syncPendingRecords db send).heartbeats.nextId = db.heartbeats.nextId := by
  unfold syncPendingRecords markRecordsSynced Table.nextId Table.entries
  dsimp only
  split
  next => rfl
  next => split <;> simp

theorem mem_newRecords (member : record ∈ newRecords env nodeCode facts records) :
    record ∈ records ∧ recordReceipt env nodeCode facts record = none := by
  obtain ⟨there, new⟩ := List.mem_filter.mp member
  exact ⟨there, Option.isNone_iff_eq_none.mp new⟩

theorem recordReceipt_isSome_append {receipts : List RecordReceipt}
    (added : facts'.receipts = facts.receipts ++ receipts)
    (known : (recordReceipt env nodeCode facts record).isSome) :
    (recordReceipt env nodeCode facts' record).isSome := by
  unfold recordReceipt at known ⊢
  rw [added, List.find?_append]
  simp [known]

theorem ArchiveSound.sync (sound : ArchiveSound env nodeCode archive) (call : RecordSync) :
    ArchiveSound env nodeCode (archive.sync env nodeCode call) := by
  by_cases refused : pendingRecords archive.db syncLimit = [] ∨ call.delivery = .lostRequest ∨
      ¬ OwnRecords env nodeCode (pendingRecords archive.db syncLimit)
  · rw [sync_refused refused]
    exact sound
  · simp only [not_or, not_not] at refused
    obtain ⟨some, reaches, own⟩ := refused
    obtain ⟨centre, served, -, receipts⟩ := sync_taken sound some reaches own
    rw [served]
    have archivedRecord : ∀ record ∈ pendingRecords archive.db syncLimit,
        (⟨.some record.1, true⟩ : ArchivedRow) ∈ archive.archive ++
          (newRecords env nodeCode archive.centre.transport.facts
            (pendingRecords archive.db syncLimit)).map fun record => ⟨.some record.1, true⟩ := by
      intro record member
      cases known : recordReceipt env nodeCode archive.centre.transport.facts record with
      | some receipt =>
        exact List.mem_append_left _ (sound.known (mem_pendingRecords member).1 known).2
      | none =>
        refine List.mem_append_right _ (List.mem_map.mpr ⟨record, ?_, rfl⟩)
        exact List.mem_filter.mpr ⟨member, by rw [known]; rfl⟩
    constructor
    · intro row member localId ofRecord
      rw [nextId_syncPendingRecords]
      rcases List.mem_append.mp member with old | new
      · exact sound.numbered row old localId ofRecord
      · obtain ⟨record, fresh, rfl⟩ := List.mem_map.mp new
        cases ofRecord
        exact Table.lt_nextId_of_find? (mem_pendingRecords (mem_newRecords fresh).1).1
    · intro localId row found marked
      obtain ⟨old, there, -, state⟩ := syncPendingRecords_found found
      rcases state marked with before | taken
      · obtain ⟨replayed, member⟩ := sound.synced localId old there before
        exact ⟨replayed, List.mem_append_left _ member⟩
      · exact ⟨true, archivedRecord _ taken⟩
    · intro receipt member ofNode
      rw [receipts] at member
      rcases List.mem_append.mp member with old | new
      · obtain ⟨localId, row, there, number, hash, archived⟩ := sound.receipts receipt old ofNode
        obtain ⟨row', found, same⟩ := syncPendingRecords_keeps there
        exact ⟨localId, row', found, number, same ▸ hash, List.mem_append_left _ archived⟩
      · obtain ⟨record, fresh, rfl⟩ := List.mem_map.mp new
        obtain ⟨taken, -⟩ := mem_newRecords fresh
        obtain ⟨row', found, same⟩ := syncPendingRecords_keeps (mem_pendingRecords taken).1
        refine ⟨record.1, row', found, rfl, ?_, archivedRecord record taken⟩
        rw [same]
        rfl
    · intro localId row member found
      obtain ⟨old, there, payload, -⟩ := syncPendingRecords_found found
      have same : recordReceipt env nodeCode centre.transport.facts (localId, row) =
          recordReceipt env nodeCode centre.transport.facts (localId, old) := by
        unfold recordReceipt
        rw [payload]
      rw [same]
      rcases List.mem_append.mp member with before | new
      · exact recordReceipt_isSome_append receipts (sound.replayed localId old before there)
      · obtain ⟨record, fresh, ofRecord⟩ := List.mem_map.mp new
        cases ofRecord
        cases (mem_pendingRecords (mem_newRecords fresh).1).1.symm.trans there
        unfold recordReceipt
        rw [List.find?_isSome]
        refine ⟨receiptOf env nodeCode call.now record, ?_, by simp [receiptOf]⟩
        rw [receipts]
        exact List.mem_append_right _ (List.mem_map_of_mem fresh)

theorem serve_receipts (centre : HeartbeatSystem) :
    (live.serve env centre).2.transport.facts.receipts = centre.transport.facts.receipts ∧
      ((live.serve env centre).1 = true →
        (live.serve env centre).2.transport.facts.lastId = centre.transport.facts.lastId + 1) := by
  unfold LiveSend.serve
  cases live.recorded with
  | none => exact ⟨rfl, nofun⟩
  | some payload =>
    dsimp only
    rcases @recordHeartbeatDurably_cases env.toHeartbeatEnv live.now payload centre with
      ⟨-, fault, refused⟩ | ⟨-, transport, counted, receipts, recorded⟩
    · rw [after_error refused, outcome_of_error refused]
      exact ⟨rfl, nofun⟩
    · have same : after (recordHeartbeatDurably env.toHeartbeatEnv live.now payload) centre =
          after (projectHeartbeat env.toHeartbeatEnv live.now payload)
            { centre with transport } := by
        unfold after
        rw [recorded]
      have kept : (after (projectHeartbeat env.toHeartbeatEnv live.now payload)
          { centre with transport }).transport = transport :=
        projectHeartbeat_transport { centre with transport }
      rw [same, kept]
      exact ⟨receipts, fun _ => counted⟩

theorem send_cases (live : LiveSend) (archive : HeartbeatArchive) :
    ∃ accepted centre rows, archive.send env live =
        { db := live.store accepted archive.db, centre, archive := archive.archive ++ rows } ∧
      centre.transport.facts.receipts = archive.centre.transport.facts.receipts ∧
      (rows = [] ∧ (live.result accepted).synced = false ∨
        rows = [⟨if live.kept then some archive.db.heartbeats.nextId else none, false⟩]) := by
  unfold HeartbeatArchive.send
  split
  next lost =>
    simp [LiveSend.result]
  next =>
    refine ⟨_, _, _, rfl, (serve_receipts archive.centre).1, ?_⟩
    unfold LiveSend.archived
    split
    next same =>
      refine .inl ⟨rfl, ?_⟩
      unfold LiveSend.result
      split
      next taken =>
        have counted := (serve_receipts archive.centre).2 taken.1
        omega
      next => rfl
    next => exact .inr rfl

theorem store_keeps {accepted : Bool}
    (there : db.heartbeats.find? localId = some row) :
    (live.store accepted db).heartbeats.find? localId = some row := by
  unfold LiveSend.store storeHeartbeat
  split
  next => exact Table.find?_insert_of_find? _ there
  next => exact there

theorem store_found {accepted : Bool}
    (found : (live.store accepted db).heartbeats.find? localId = some row) :
    db.heartbeats.find? localId = some row ∨
      live.kept = true ∧ localId = db.heartbeats.nextId ∧
        row.synced = (live.result accepted).synced := by
  unfold LiveSend.store storeHeartbeat at found
  split at found
  next kept =>
    rcases Table.of_find?_insert found with ⟨fresh, rfl⟩ | found
    · exact .inr ⟨kept, fresh, rfl⟩
    · exact .inl found
  next => exact .inl found

theorem nextId_store (accepted : Bool) (db : LocalDatabase) :
    (live.store accepted db).heartbeats.nextId =
      if live.kept then db.heartbeats.nextId + 1 else db.heartbeats.nextId := by
  unfold LiveSend.store storeHeartbeat
  split
  next => rw [Table.nextId_insert]
  next => rfl

theorem ArchiveSound.send (sound : ArchiveSound env nodeCode archive) (live : LiveSend) :
    ArchiveSound env nodeCode (archive.send env live) := by
  obtain ⟨accepted, centre, rows, sent, receipts, added⟩ := @send_cases env live archive
  have fresh : ∀ row ∈ rows, row = ⟨if live.kept then some archive.db.heartbeats.nextId else none,
      false⟩ := by
    rcases added with ⟨rfl, -⟩ | rfl
    · exact nofun
    · exact fun row member => List.mem_singleton.mp member
  have unseen : ∀ replayed, (⟨some archive.db.heartbeats.nextId, replayed⟩ : ArchivedRow) ∉
      archive.archive := by
    intro replayed member
    exact Nat.lt_irrefl _ (sound.numbered _ member _ rfl)
  rw [sent]
  constructor
  · intro row member localId ofRecord
    rw [nextId_store]
    rcases List.mem_append.mp member with old | new
    · have before := sound.numbered row old localId ofRecord
      split <;> omega
    · rw [fresh row new] at ofRecord
      split
      next kept =>
        rw [if_pos kept] at ofRecord
        cases ofRecord
        exact Nat.lt_succ_self _
      next dropped =>
        rw [if_neg dropped] at ofRecord
        cases ofRecord
  · intro localId row found marked
    rcases store_found found with old | ⟨kept, rfl, state⟩
    · obtain ⟨replayed, member⟩ := sound.synced localId row old marked
      exact ⟨replayed, List.mem_append_left _ member⟩
    · rcases added with ⟨-, pending⟩ | rfl
      · rw [state, pending] at marked
        cases marked
      · refine ⟨false, List.mem_append_right _ ?_⟩
        rw [if_pos kept]
        exact List.mem_singleton_self _
  · intro receipt member ofNode
    rw [receipts] at member
    obtain ⟨localId, row, there, number, hash, archived⟩ := sound.receipts receipt member ofNode
    exact ⟨localId, row, store_keeps there, number, hash, List.mem_append_left _ archived⟩
  · intro localId row member found
    have old : (⟨some localId, true⟩ : ArchivedRow) ∈ archive.archive := by
      rcases List.mem_append.mp member with old | new
      · exact old
      · cases congrArg ArchivedRow.replayed (fresh _ new)
    have known : (recordReceipt env nodeCode archive.centre.transport.facts
        (localId, row)).isSome := by
      rcases store_found found with there | ⟨-, rfl, -⟩
      · exact sound.replayed localId row old there
      · exact absurd old (unseen true)
    exact recordReceipt_isSome_append (receipts.trans (List.append_nil _).symm) known

theorem recordReceipt_others :
    recordReceipt env nodeCode
        (archive.others nodeCode centre).centre.transport.facts record =
      recordReceipt env nodeCode archive.centre.transport.facts record := by
  unfold recordReceipt HeartbeatArchive.others
  rw [List.find?_append, List.find?_filter]
  refine (congrArg₂ Option.or ?_ (List.find?_eq_none.mpr ?_)).trans (Option.or_none ..)
  · refine congrArg (fun p => List.find? p _) (funext fun receipt => ?_)
    by_cases ofNode : receipt.nodeCode = nodeCode <;> simp [ofNode]
  · intro receipt member ofRecord
    have foreign := of_decide_eq_true (List.mem_filter.mp member).2
    simp only [Bool.and_eq_true, decide_eq_true_eq] at ofRecord
    exact foreign ofRecord.1.1

theorem ArchiveSound.others (sound : ArchiveSound env nodeCode archive)
    (centre : HeartbeatSystem) : ArchiveSound env nodeCode (archive.others nodeCode centre) := by
  constructor
  · exact sound.numbered
  · exact sound.synced
  · intro receipt member ofNode
    rcases List.mem_append.mp member with own | other
    · exact sound.receipts receipt (List.mem_of_mem_filter own) ofNode
    · exact absurd ofNode (of_decide_eq_true (List.mem_filter.mp other).2)
  · intro localId row member found
    rw [recordReceipt_others]
    exact sound.replayed localId row member found

theorem ArchiveSound.apply (sound : ArchiveSound env nodeCode archive) (event : ArchiveEvent) :
    ArchiveSound env nodeCode (event.apply env nodeCode archive) := by
  cases event with
  | send live => exact sound.send live
  | sync call => exact sound.sync call
  | others centre => exact sound.others centre

theorem rowsOf_append {rows : List ArchivedRow} :
    (HeartbeatArchive.mk db centre (archive.archive ++ rows)).rowsOf localId =
      archive.rowsOf localId + rows.countP fun row => row.localId = some localId :=
  List.countP_append

theorem rowsOf_pos {replayed : Bool}
    (member : (⟨some localId, replayed⟩ : ArchivedRow) ∈ archive.archive) :
    0 < archive.rowsOf localId :=
  List.countP_pos_iff.mpr ⟨_, member, by simp⟩

theorem rowsOf_eq_zero
    (none : ∀ replayed, (⟨some localId, replayed⟩ : ArchivedRow) ∉ archive.archive) :
    archive.rowsOf localId = 0 := by
  refine List.countP_eq_zero.mpr fun row member ofRecord => ?_
  obtain ⟨number, replayed⟩ := row
  cases of_decide_eq_true ofRecord
  exact none replayed member

theorem ArchivedOnce.send (once : ArchivedOnce archive) (sound : ArchiveSound env nodeCode archive)
    (live : LiveSend) : ArchivedOnce (archive.send env live) := by
  obtain ⟨accepted, centre, rows, sent, -, added⟩ := @send_cases env live archive
  have unseen : archive.rowsOf archive.db.heartbeats.nextId = 0 :=
    rowsOf_eq_zero fun replayed member => Nat.lt_irrefl _ (sound.numbered _ member _ rfl)
  have others : ∀ localId, localId ≠ archive.db.heartbeats.nextId →
      (rows.countP fun row => row.localId = some localId) = 0 := by
    intro localId apart
    rcases added with ⟨rfl, -⟩ | rfl
    · rfl
    · refine List.countP_eq_zero.mpr fun row member ofRecord => apart ?_
      rw [List.mem_singleton.mp member] at ofRecord
      have number := of_decide_eq_true ofRecord
      split at number
      next => exact (Option.some.inj number).symm
      next => cases number
  have atMost : (rows.countP fun row => row.localId = some archive.db.heartbeats.nextId) ≤ 1 := by
    have short : rows.length ≤ 1 := by
      rcases added with ⟨rfl, -⟩ | rfl <;> simp
    exact List.countP_le_length.trans short
  rw [sent]
  constructor
  · intro localId row found marked
    rw [rowsOf_append]
    rcases store_found found with old | ⟨kept, rfl, state⟩
    · have earlier := Table.lt_nextId_of_find? old
      rw [others localId (Nat.ne_of_lt earlier), once.synced localId row old marked]
    · rcases added with ⟨-, pending⟩ | rfl
      · rw [state, pending] at marked
        cases marked
      · rw [unseen]
        simp [kept]
  · intro localId
    rw [rowsOf_append]
    by_cases new : localId = archive.db.heartbeats.nextId
    · rw [new, unseen, Nat.zero_add]
      exact atMost
    · rw [others localId new]
      exact once.once localId

theorem countP_newRecords (db : LocalDatabase) (localId : Nat) :
    (((newRecords env nodeCode facts (pendingRecords db syncLimit)).map fun record =>
        (⟨some record.1, true⟩ : ArchivedRow)).countP fun row => row.localId = some localId) =
      if localId ∈ (newRecords env nodeCode facts (pendingRecords db syncLimit)).map Prod.fst
      then 1 else 0 := by
  have distinct : ((newRecords env nodeCode facts (pendingRecords db syncLimit)).map
      Prod.fst).Nodup :=
    ((pendingRecords_ascending db syncLimit).imp Nat.ne_of_lt).sublist
      (List.filter_sublist.map _)
  have counts : (((newRecords env nodeCode facts (pendingRecords db syncLimit)).map fun record =>
      (⟨some record.1, true⟩ : ArchivedRow)).countP fun row => row.localId = some localId) =
      ((newRecords env nodeCode facts (pendingRecords db syncLimit)).map Prod.fst).count
        localId := by
    rw [List.count, List.countP_map, List.countP_map]
    refine List.countP_congr fun record _ => ?_
    simp
  rw [counts, distinct.count]

theorem archivedOnce_sync_iff (once : ArchivedOnce archive)
    (sound : ArchiveSound env nodeCode archive) (call : RecordSync) :
    ArchivedOnce (archive.sync env nodeCode call) ↔
      NotReplayedLive env nodeCode archive (.sync call) := by
  by_cases refused : pendingRecords archive.db syncLimit = [] ∨ call.delivery = .lostRequest ∨
      ¬ OwnRecords env nodeCode (pendingRecords archive.db syncLimit)
  · rw [sync_refused refused]
    refine ⟨fun _ reaches own record member => ?_, fun _ => once⟩
    rcases refused with none | lost | foreign
    · rw [none] at member
      exact absurd member List.not_mem_nil
    · exact absurd lost reaches
    · exact absurd own foreign
  simp only [not_or, not_not] at refused
  obtain ⟨some, reaches, own⟩ := refused
  obtain ⟨centre, served, -, -⟩ := sync_taken sound some reaches own
  rw [served]
  constructor
  · intro after _ _ record member live
    have new : recordReceipt env nodeCode archive.centre.transport.facts record = none := by
      by_contra known
      obtain ⟨receipt, known⟩ := Option.ne_none_iff_exists'.mp known
      have replayed := (sound.known (mem_pendingRecords member).1 known).2
      obtain ⟨i, first⟩ := List.mem_iff_getElem?.mp live
      obtain ⟨j, second⟩ := List.mem_iff_getElem?.mp replayed
      have same := countP_le_one_iff.mp (once.once record.1) i j _ _ first second (by simp)
        (by simp)
      subst same
      cases first.symm.trans second
    have added : record.1 ∈ (newRecords env nodeCode archive.centre.transport.facts
        (pendingRecords archive.db syncLimit)).map Prod.fst :=
      List.mem_map_of_mem (List.mem_filter.mpr ⟨member, by rw [new]; rfl⟩)
    have two := after.once record.1
    rw [rowsOf_append, countP_newRecords, if_pos added] at two
    have one := rowsOf_pos live
    omega
  · intro fresh
    have unseen : ∀ record ∈ newRecords env nodeCode archive.centre.transport.facts
        (pendingRecords archive.db syncLimit), archive.rowsOf record.1 = 0 := by
      intro record member
      obtain ⟨taken, new⟩ := mem_newRecords member
      refine rowsOf_eq_zero fun replayed there => ?_
      cases replayed with
      | false => exact fresh reaches own record taken there
      | true =>
        have known := sound.replayed record.1 record.2 there (mem_pendingRecords taken).1
        rw [new] at known
        cases known
    have total : ∀ localId, (HeartbeatArchive.mk (syncPendingRecords archive.db fun _ =>
        .ofSync call) centre (archive.archive ++ (newRecords env nodeCode
          archive.centre.transport.facts (pendingRecords archive.db syncLimit)).map fun record =>
            ⟨.some record.1, true⟩)).rowsOf localId =
        if localId ∈ (newRecords env nodeCode archive.centre.transport.facts
          (pendingRecords archive.db syncLimit)).map Prod.fst then 1
        else archive.rowsOf localId := by
      intro localId
      rw [rowsOf_append, countP_newRecords]
      split
      next added =>
        obtain ⟨record, member, rfl⟩ := List.mem_map.mp added
        rw [unseen record member]
      next => rfl
    constructor
    · intro localId row found marked
      rw [total]
      split
      next => rfl
      next absent =>
        obtain ⟨old, there, -, state⟩ := syncPendingRecords_found found
        rcases state marked with before | taken
        · exact once.synced localId old there before
        · cases known : recordReceipt env nodeCode archive.centre.transport.facts
              (localId, old) with
          | none =>
            refine absurd (List.mem_map_of_mem (f := Prod.fst) (List.mem_filter.mpr ⟨taken, ?_⟩))
              absent
            rw [known]
            rfl
          | some receipt =>
            have positive : 0 < archive.rowsOf localId := rowsOf_pos (sound.known there known).2
            have atMost := once.once localId
            omega
    · intro localId
      rw [total]
      split
      next => exact Nat.le_refl 1
      next => exact once.once localId

/-- Every heartbeat is archived once along a run, if and only if no heartbeat that has reached the
centre reaches it again as a record. -/
theorem archivedOnce_along_iff (events : List ArchiveEvent) :
    (archiveAuthority env nodeCode).Along (KeepsArchivedOnce env nodeCode) {} events ↔
      (archiveAuthority env nodeCode).Along (NotReplayedLive env nodeCode) {} events := by
  refine @Authority.along_iff _ _ _ _ _
    (fun archive => ArchiveSound env nodeCode archive ∧ ArchivedOnce archive) _ _ ?_ ?_ _ _ ?_
  · rintro archive event reply archive' ⟨sound, -⟩ keeps done
    cases done
    exact ⟨sound.apply event, keeps⟩
  · rintro archive event ⟨sound, once⟩
    cases event with
    | send live => exact iff_of_true (once.send sound live) trivial
    | sync call => exact archivedOnce_sync_iff once sound call
    | others centre => exact iff_of_true ⟨once.synced, once.once⟩ trivial
  · have nothing : ∀ localId, (Table.empty : Table HeartbeatRow).find? localId = none :=
      Table.find?_empty
    refine ⟨⟨nofun, ?_, nofun, nofun⟩, ?_, fun _ => Nat.zero_le 1⟩
    · intro localId row found
      cases (nothing localId).symm.trans found
    · intro localId row found
      cases (nothing localId).symm.trans found

end Laws

def sampleArchiveEnv : ArchiveEnv := { sampleHeartbeatEnv with ints := fun _ => rfl }

def sampleLostAnswer : List ArchiveEvent :=
  let heartbeat : NodeHeartbeatV2In := { nodeCode := "milling-workshop-01" }
  let recorded := some (heartbeat.recorded "simulation")
  [.send { payload := heartbeat.dump, timestamp := 1, recorded, now := 1
           delivery := .lostResponse },
    .sync { now := 2, delivery := .answered }]

/-- A heartbeat whose answer is lost is archived twice. -/
theorem lost_answer_archives_twice : ¬ ∀ (env : ArchiveEnv) (nodeCode : String)
    (events : List ArchiveEvent),
    ArchivedOnce ((archiveAuthority env nodeCode).run {} events) := by
  intro h
  have twice : ((archiveAuthority sampleArchiveEnv "milling-workshop-01").run {}
      sampleLostAnswer).rowsOf 1 = 2 := by decide +kernel
  have once := (h sampleArchiveEnv "milling-workshop-01" sampleLostAnswer).once 1
  omega

end MiniOgas
