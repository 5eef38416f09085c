import MiniOgas.TelemetryLink
import MiniOgas.TelemetryQuality

namespace MiniOgas

open Relational Serial

variable {settings : HistorianSettings} {builtins : Builtins} {nodeCode actor : String}
  {payload : TelemetryBatch} {wire : TelemetryWire} {db db' : LocalDatabase}
  {result : SendResult} {items : List (Nat × TelemetryBatch)}

def lastSequence (nodeCode : String) (db : LocalDatabase) : Nat :=
  (initializeTelemetrySequenceState nodeCode db).1

theorem reserveTelemetrySequence_eq (nodeCode : String) (db : LocalDatabase) :
    (reserveTelemetrySequence nodeCode db).1 = lastSequence nodeCode db + 1 ∧
      (reserveTelemetrySequence nodeCode db).2.telemetryBatches = db.telemetryBatches ∧
      (reserveTelemetrySequence nodeCode db).2.telemetrySequenceState.get? nodeCode =
        some (lastSequence nodeCode db + 1) := by
  refine ⟨rfl, ?_, setSequence_get? _⟩
  have same : (initializeTelemetrySequenceState nodeCode db).2.telemetryBatches =
      db.telemetryBatches := by
    unfold initializeTelemetrySequenceState
    split <;> rfl
  exact same

def newTelemetryRow (builtins : Builtins) (payload : TelemetryBatch) (result : SendResult) :
    TelemetryRow where
  batchId := payload.batchId
  payload := payload
  synced := result.syncState builtins
  createdAt := payload.edgeReceivedAt
  requestId := result.requestId
  sendError := result.error
  httpStatus := result.httpStatus

theorem storeTelemetryBatch_entries
    (absent : ∀ row ∈ db.telemetryBatches.rows, row.batchId ≠ payload.batchId) :
    ∃ keep : Nat × TelemetryRow → Bool, (∀ entry, entry.2.synced = .pending → keep entry = true) ∧
      (storeTelemetryBatch builtins db payload result).telemetryBatches.entries =
        (db.telemetryBatches.entries ++ [(db.telemetryBatches.seq + 1,
          newTelemetryRow builtins payload result)]).filter keep := by
  have missing : db.telemetryBatches.any (·.batchId = payload.batchId) = false := by
    unfold SerialTable.any
    rw [List.any_eq_false]
    intro entry member same
    exact absent entry.2 (List.mem_map_of_mem member) (of_decide_eq_true same)
  have inserted : upsertTelemetryBatch builtins (db.raiseSequence payload) payload result =
      db.telemetryBatches.insert (newTelemetryRow builtins payload result) := by
    exact if_neg (by rw [Bool.not_eq_true]; exact missing)
  refine ⟨fun entry => !(entry.2.synced ≠ .pending && !(settledIds
    { db.raiseSequence payload with
      telemetryBatches := upsertTelemetryBatch builtins (db.raiseSequence payload) payload
        result }).contains entry.1), ?_, ?_⟩
  · intro entry pending
    simp [pending]
  · unfold storeTelemetryBatch
    dsimp only
    rw [inserted]
    rfl

theorem storeTelemetryBatch_new
    (absent : ∀ row ∈ db.telemetryBatches.rows, row.batchId ≠ payload.batchId) :
    (∀ row ∈ (storeTelemetryBatch builtins db payload result).telemetryBatches.rows,
      row ∈ db.telemetryBatches.rows ∨ row.batchId = payload.batchId ∧ row.payload = payload) ∧
    (∀ item ∈ pendingBatches db,
      item ∈ pendingBatches (storeTelemetryBatch builtins db payload result)) ∧
    (result.syncState builtins = .pending →
      ∃ id, (id, payload) ∈ pendingBatches (storeTelemetryBatch builtins db payload result)) := by
  obtain ⟨keep, pending, entries⟩ := @storeTelemetryBatch_entries builtins payload db result absent
  refine ⟨?_, ?_, ?_⟩
  · intro row member
    unfold SerialTable.rows at member
    rw [entries] at member
    obtain ⟨entry, there, rfl⟩ := List.mem_map.mp member
    rcases List.mem_append.mp (List.mem_of_mem_filter there) with h | h
    · exact .inl (List.mem_map_of_mem h)
    · rw [List.mem_singleton.mp h]
      exact .inr ⟨rfl, rfl⟩
  · intro item there
    obtain ⟨row, member, same, waits⟩ := mem_pendingBatches.mp there
    refine mem_pendingBatches.mpr ⟨row, ?_, same, waits⟩
    rw [entries]
    exact List.mem_filter.mpr ⟨List.mem_append_left _ member, pending _ waits⟩
  · intro waits
    refine ⟨db.telemetryBatches.seq + 1, mem_pendingBatches.mpr
      ⟨newTelemetryRow builtins payload result, ?_, rfl, waits⟩⟩
    rw [entries]
    exact List.mem_filter.mpr ⟨List.mem_append_right _ List.mem_cons_self, pending _ waits⟩

theorem pending_storeTelemetryBatch {item : Nat × TelemetryBatch}
    (absent : ∀ row ∈ db.telemetryBatches.rows, row.batchId ≠ payload.batchId)
    (waiting : item ∈ pendingBatches (storeTelemetryBatch builtins db payload result)) :
    item.2 = payload ∨ item ∈ pendingBatches db := by
  obtain ⟨keep, -, entries⟩ := @storeTelemetryBatch_entries builtins payload db result absent
  obtain ⟨row, member, same, waits⟩ := mem_pendingBatches.mp waiting
  rw [entries] at member
  rcases List.mem_append.mp (List.mem_of_mem_filter member) with h | h
  · exact .inr (mem_pendingBatches.mpr ⟨row, h, same, waits⟩)
  · have new := (Prod.mk.inj (List.mem_singleton.mp h)).2
    rw [new] at same
    exact .inl same.symm

structure SameQueue (db db' : LocalDatabase) : Prop where
  sequence : db'.telemetrySequenceState = db.telemetrySequenceState
  rows : ∀ row' ∈ db'.telemetryBatches.rows, ∃ row ∈ db.telemetryBatches.rows,
    row'.batchId = row.batchId ∧ row'.payload = row.payload

theorem SameQueue.refl (db : LocalDatabase) : SameQueue db db :=
  ⟨rfl, fun row member => ⟨row, member, rfl, rfl⟩⟩

theorem SameQueue.trans {mid : LocalDatabase} (one : SameQueue db mid)
    (two : SameQueue mid db') : SameQueue db db' := by
  refine ⟨two.sequence.trans one.sequence, fun row member => ?_⟩
  obtain ⟨first, there, id, same⟩ := two.rows row member
  obtain ⟨old, here, id', same'⟩ := one.rows first there
  exact ⟨old, here, id.trans id', same.trans same'⟩

theorem answerTelemetryBatch_same (id : Nat) :
    SameQueue db (answerTelemetryBatch builtins db id result) := by
  refine ⟨rfl, fun row member => ?_⟩
  obtain ⟨entry, there, rfl⟩ := List.mem_map.mp member
  obtain ⟨old, here, rfl⟩ := List.mem_map.mp there
  refine ⟨old.2, List.mem_map_of_mem here, ?_⟩
  split <;> exact ⟨rfl, rfl⟩

theorem sendTelemetryBatch_givenUp :
    ∀ other ∈ wire.givenUp, other ∈ (sendTelemetryBatch settings builtins actor payload
      wire).2.givenUp := by
  intro other member
  unfold sendTelemetryBatch
  dsimp only
  split
  next => exact List.mem_append_left _ member
  next => exact member

theorem syncBatches_committed (committed : ∀ item ∈ items, Arrived wire.store item.2) :
    SameQueue db (syncBatches builtins (sendTelemetryBatch settings builtins actor) items db
      wire).1 ∧
    (syncBatches builtins (sendTelemetryBatch settings builtins actor) items db wire).2.store =
      wire.store ∧
    ∀ other ∈ wire.givenUp, other ∈ (syncBatches builtins
      (sendTelemetryBatch settings builtins actor) items db wire).2.givenUp := by
  induction items generalizing db wire with
  | nil => exact ⟨SameQueue.refl db, rfl, fun _ h => h⟩
  | cons item items ih =>
    have same : (sendTelemetryBatch settings builtins actor item.2 wire).2.store = wire.store :=
      deliver_committed (committed item List.mem_cons_self)
    have queue := @answerTelemetryBatch_same builtins db
      (sendTelemetryBatch settings builtins actor item.2 wire).1 item.1
    have givenUp := @sendTelemetryBatch_givenUp settings builtins actor item.2 wire
    unfold syncBatches
    dsimp only
    split
    next => exact ⟨queue, same, givenUp⟩
    next =>
      have rest := @ih (sendTelemetryBatch settings builtins actor item.2 wire).2
        (answerTelemetryBatch builtins db item.1
          (sendTelemetryBatch settings builtins actor item.2 wire).1)
        (by rw [same]; exact fun other h => committed other (List.mem_cons_of_mem _ h))
      exact ⟨queue.trans rest.1, rest.2.1.trans same,
        fun other h => rest.2.2 other (givenUp other h)⟩

variable {now : Timestamp} {store store' : TelemetryStore} {response : TelemetryResponse}
  {all : List StoredSample} {link : TelemetryLink} {sample : TelemetrySample}
  {definition : SignalDefinition} {last : Nat}

theorem classifyAge_not_outOfOrder (detail : QualityDetail) :
    (classifyAge sample definition now detail).reason ≠ .outOfOrder := by
  unfold classifyAge
  dsimp only
  split
  next => exact QualityReason.noConfusion
  split
  next => exact QualityReason.noConfusion
  next => exact QualityReason.noConfusion

theorem classify_not_outOfOrder {maximum : Option Nat} {classification : Classification}
    (h : classify settings payload sample definition maximum now = .ok classification)
    (top : ∀ n, maximum = some n → n ≤ sample.sequenceNo) :
    classification.reason ≠ .outOfOrder := by
  unfold classify at h
  split at h
  next late =>
    cases maximum with
    | none => cases late
    | some n =>
      have below := top n rfl
      have above : sample.sequenceNo < n := of_decide_eq_true late
      omega
  split at h
  next => cases Except.ok.inj h; exact QualityReason.noConfusion
  split at h
  next => cases Except.ok.inj h; exact QualityReason.noConfusion
  split at h
  next => cases Except.ok.inj h; exact QualityReason.noConfusion
  split at h
  next => cases Except.ok.inj h; exact QualityReason.noConfusion
  split at h
  next =>
    obtain ⟨numeric, -, h⟩ := of_bind h
    split at h
    next => cases Except.ok.inj h; exact QualityReason.noConfusion
    split at h
    next => cases Except.ok.inj h; exact QualityReason.noConfusion
    next => exact Except.ok.inj h ▸ classifyAge_not_outOfOrder _
  next => exact Except.ok.inj h ▸ classifyAge_not_outOfOrder _

theorem BatchIngested.noneOutOfOrder
    (new : BatchIngested settings payload now store response store' all)
    (numbers : ∀ receipt ∈ store.receipts.rows, receipt.sourceId = payload.sourceId →
      receipt.sequenceNo ≤ last)
    (own : ∀ sample ∈ payload.samples, sample.sequenceNo = last + 1)
    (none : NoneOutOfOrder nodeCode store) : NoneOutOfOrder nodeCode store' := by
  intro event member source
  rw [new.events] at member
  rcases List.mem_append.mp member with old | h
  · exact none event old source
  · obtain ⟨stored, there, rfl⟩ := List.mem_map.mp h
    obtain ⟨opened, receipts, -, ingests⟩ := new.ingests
    obtain ⟨front, back, rfl⟩ := List.append_of_mem (List.mem_of_mem_filter there)
    obtain ⟨definition, -, classified, -⟩ := (ingests.stores rfl).values
    refine classify_not_outOfOrder classified fun n maximum => ?_
    rw [maximumSequence_recordAll] at maximum
    have listed := ingests.sublist.subset
    have mine : stored.sample.sequenceNo = last + 1 :=
      own _ (listed (List.mem_map_of_mem (List.mem_append_right _ List.mem_cons_self)))
    rw [mine]
    rcases List.mem_append.mp (List.max?_mem maximum) with h | h
    · obtain ⟨receipt, member, rfl⟩ := List.mem_map.mp h
      obtain ⟨member, same⟩ := List.mem_filter.mp member
      rw [receipts] at member
      rw [Bool.and_eq_true, decide_eq_true_eq] at same
      exact Nat.le_succ_of_le (numbers receipt member same.1)
    · obtain ⟨earlier, member, rfl⟩ := List.mem_map.mp h
      obtain ⟨first, before, rfl⟩ := List.mem_map.mp (List.mem_of_mem_filter member)
      exact Nat.le_of_eq (own _ (listed (List.mem_map_of_mem (List.mem_append_left _ before))))

/-- A new batch reaches the centre only when every batch that waits has been committed there. -/
def NothingWaits (link : TelemetryLink) (event : LinkEvent) : Prop :=
  match event with
  | .round _ _ deliveries => (deliveries.headD .lost).reaches = true →
      ∀ item ∈ pendingBatches link.db, Arrived link.store item.2
  | .centre _ => True

/-- The batches that the agent has generated have been committed, have been given up or wait, and
what the centre has of them is in order. -/
structure LinkSound (nodeCode : String) (link : TelemetryLink) : Prop where
  centre : CentreSound link.store
  numbers : ∀ receipt ∈ link.store.receipts.rows, receipt.sourceId = nodeCode →
    receipt.sequenceNo ≤ lastSequence nodeCode link.db
  generated : ∀ payload ∈ link.generated, ∃ (runId : String) (reading : TelemetryReading)
    (n : Nat), payload = telemetryBatchPayload runId nodeCode reading n ∧
      n ≤ lastSequence nodeCode link.db
  rows : ∀ row ∈ link.db.telemetryBatches.rows,
    row.batchId = row.payload.batchId ∧ row.payload ∈ link.generated
  fate : ∀ payload ∈ link.generated, payload ∈ link.givenUp ∨ Arrived link.store payload ∨
    ∃ id, (id, payload) ∈ pendingBatches link.db
  noneOutOfOrder : NoneOutOfOrder nodeCode link.store
  inOrder : AcceptedInOrder nodeCode link

theorem LinkSound.start (signals : Dictionary String SignalDefinition) (equipment : List String) :
    LinkSound nodeCode { db := .empty, store := .registered signals equipment } where
  centre := ⟨(nofun), (fun _ _ found => by cases found)⟩
  numbers receipt none := absurd none List.not_mem_nil
  generated payload none := absurd none List.not_mem_nil
  rows row none := absurd none List.not_mem_nil
  fate payload none := absurd none List.not_mem_nil
  noneOutOfOrder event none := absurd none List.not_mem_nil
  inOrder payload none := absurd none List.not_mem_nil

structure BatchSent (nodeCode : String) (link : TelemetryLink) (payload : TelemetryBatch)
    (synced : Bool) (store : TelemetryStore) : Prop where
  centre : CentreSound store
  committed : ∀ other, Arrived link.store other → Arrived store other
  ids : ∀ sampleId ∈ link.store.receipts.rows.map (·.sampleId),
    sampleId ∈ store.receipts.rows.map (·.sampleId)
  numbers : ∀ receipt ∈ store.receipts.rows, receipt.sourceId = nodeCode →
    receipt.sequenceNo ≤ lastSequence nodeCode link.db + 1
  noneOutOfOrder : NoneOutOfOrder nodeCode store
  inOrder : AcceptedInOrder nodeCode { link with store := store }
  known : synced = true → Arrived store payload ∧
    ∀ item ∈ pendingBatches link.db, Arrived store item.2

theorem LinkSound.settled (sound : LinkSound nodeCode link)
    (waits : ∀ item ∈ pendingBatches link.db, Arrived link.store item.2)
    (member : payload ∈ link.generated) (live : payload ∉ link.givenUp) :
    Arrived link.store payload := by
  rcases sound.fate payload member with lost | there | ⟨id, pending⟩
  · exact absurd lost live
  · exact there
  · exact waits _ pending

theorem LinkSound.sent (sound : LinkSound nodeCode link) (delivery : Delivery)
    (source : payload.sourceId = nodeCode)
    (number : ∀ sample ∈ payload.samples, sample.sequenceNo = lastSequence nodeCode link.db + 1)
    (waits : delivery.reaches = true → ∀ item ∈ pendingBatches link.db,
      Arrived link.store item.2) :
    BatchSent nodeCode link payload (deliver settings actor payload delivery link.store).1.synced
      (deliver settings actor payload delivery link.store).2 := by
  cases reaches : delivery.reaches with
  | false =>
    have synced : (deliver settings actor payload delivery link.store).1.synced = false := by
      cases delivery with
      | lost => rfl
      | refused => rfl
      | answered => cases reaches
      | unanswered => cases reaches
    rw [deliver_lost reaches, synced]
    exact { sound with
      committed := fun _ h => h, ids := fun _ h => h
      numbers := fun receipt member own => Nat.le_succ_of_le (sound.numbers receipt member own)
      known := fun none => by cases none }
  | true =>
    have waits := waits reaches
    cases @deliver_effect settings actor payload link.store delivery with
    | same none known =>
      rw [none]
      exact { sound with
        committed := fun _ h => h, ids := fun _ h => h
        numbers := fun receipt member own => Nat.le_succ_of_le (sound.numbers receipt member own)
        known := fun synced => ⟨known synced, waits⟩ }
    | new now response all ingested =>
      have keeps := ingested.committed_of
      have old : ∀ sampleId ∈ link.store.receipts.rows.map (·.sampleId), sampleId ∈
          (deliver settings actor payload delivery link.store).2.receipts.rows.map
            (·.sampleId) := by
        intro sampleId member
        rw [ingested.receipts, List.map_append]
        exact List.mem_append_left _ member
      exact {
        centre := ingested.centreSound sound.centre
        committed := keeps.2
        ids := old
        numbers := fun receipt member own => by
          rw [ingested.receipts] at member
          rcases List.mem_append.mp member with h | h
          · exact Nat.le_succ_of_le (sound.numbers receipt h own)
          · obtain ⟨stored, there, rfl⟩ := List.mem_map.mp h
            obtain ⟨opened, -, -, ingests⟩ := ingested.ingests
            exact Nat.le_of_eq (number _ (ingests.sublist.subset (List.mem_map_of_mem there)))
        noneOutOfOrder := ingested.noneOutOfOrder
          (fun receipt member own => sound.numbers receipt member (own.trans source)) number
          sound.noneOutOfOrder
        inOrder := fun other member live sample inside _ _ _ _ _ => by
          obtain ⟨row, found, hash⟩ := sound.settled waits member live
          refine old _ (sound.centre.receipted _ row found sample ?_)
          rw [hash]
          exact inside
        known := fun _ => ⟨keeps.1, fun item member => keeps.2 _ (waits item member)⟩ }

theorem LinkSound.absent (sound : LinkSound nodeCode link) {runId : String}
    {reading : TelemetryReading} {n : Nat} (next : n = lastSequence nodeCode link.db + 1) :
    ∀ row ∈ link.db.telemetryBatches.rows,
      row.batchId ≠ (telemetryBatchPayload runId nodeCode reading n).batchId := by
  intro row member own
  obtain ⟨id, there⟩ := sound.rows row member
  obtain ⟨other, earlier, m, built, below⟩ := sound.generated _ there
  have number : m = n := by
    rw [id, built] at own
    exact @batchId_number nodeCode other runId m n own
  omega

theorem LinkSound.stored (sound : LinkSound nodeCode link) {runId : String}
    {reading : TelemetryReading} {result : SendResult} {db db' : LocalDatabase}
    {givenUp : List TelemetryBatch} {n : Nat} (next : n = lastSequence nodeCode link.db + 1)
    (same : payload = telemetryBatchPayload runId nodeCode reading n)
    (queue : db.telemetryBatches = link.db.telemetryBatches)
    (row : db.telemetrySequenceState.get? nodeCode = some n)
    (sent : BatchSent nodeCode link payload result.synced store)
    (left : SameQueue (storeTelemetryBatch builtins db payload result) db')
    (more : ∀ other ∈ link.givenUp, other ∈ givenUp)
    (lost : result.syncState builtins = .rejected → payload ∈ givenUp)
    (quiet : result.synced = false → db' = storeTelemetryBatch builtins db payload result) :
    LinkSound nodeCode ⟨db', store, link.generated ++ [payload], givenUp⟩ := by
  have last : lastSequence nodeCode db' = n := by
    have kept := @storeTelemetryBatch_get? builtins db payload n result (by rw [same]; exact row)
    rw [same, telemetryBatchPayload_sequence, Nat.max_self] at kept
    unfold lastSequence
    rw [initializeTelemetrySequenceState_of_some (by rw [left.sequence, same]; exact kept)]
  have absent : ∀ row ∈ db.telemetryBatches.rows, row.batchId ≠ payload.batchId := by
    rw [queue, same]
    exact sound.absent next
  obtain ⟨rows, pending, waits⟩ := @storeTelemetryBatch_new builtins payload db result absent
  exact {
    centre := sent.centre
    numbers := fun receipt member own => by
      rw [last, next]
      exact sent.numbers receipt member own
    generated := fun other member => by
      rw [last]
      rcases of_mem_concat member with h | rfl
      · obtain ⟨run, earlier, m, built, below⟩ := sound.generated other h
        exact ⟨run, earlier, m, built, by omega⟩
      · exact ⟨runId, reading, n, (rfl).trans same, Nat.le_refl n⟩
    rows := fun row member => by
      obtain ⟨stored, there, id, built⟩ := left.rows row member
      rw [id, built]
      rcases rows stored there with old | ⟨own, new⟩
      · rw [queue] at old
        exact ⟨(sound.rows stored old).1, List.mem_append_left _ (sound.rows stored old).2⟩
      · rw [own, new]
        exact ⟨rfl, List.mem_append_right _ List.mem_cons_self⟩
    fate := fun other member => by
      rcases of_mem_concat member with h | rfl
      · rcases sound.fate other h with given | there | ⟨id, waiting⟩
        · exact .inl (more other given)
        · exact .inr (.inl (sent.committed other there))
        · cases synced : result.synced with
          | true => exact .inr (.inl ((sent.known synced).2 _ waiting))
          | false =>
            rw [quiet synced]
            refine .inr (.inr ⟨id, pending _ ?_⟩)
            unfold pendingBatches
            rw [queue]
            exact waiting
      · cases synced : result.synced with
        | true => exact .inr (.inl (sent.known synced).1)
        | false =>
          rw [quiet synced]
          cases state : result.syncState builtins with
          | pending => exact .inr (.inr (waits state))
          | rejected => exact .inl (lost state)
          | synced =>
            unfold SendResult.syncState at state
            rw [synced, if_neg Bool.false_ne_true] at state
            split at state <;> cases state
    noneOutOfOrder := sent.noneOutOfOrder
    inOrder := fun other member live sample inside receipt there own signal below => by
      rcases of_mem_concat member with h | rfl
      · exact sent.inOrder other h (fun given => live (more other given)) sample inside receipt
          there own signal below
      · have top := sent.numbers receipt there own
        rw [same] at inside
        rw [telemetryBatchPayload_sequenceNo inside] at below
        omega }

theorem LinkSound.round (sound : LinkSound nodeCode link) (runId : String)
    (reading : TelemetryReading) (deliveries : List Delivery)
    (waits : NothingWaits link (.round runId reading deliveries)) :
    LinkSound nodeCode (link.round settings builtins nodeCode actor runId reading deliveries) := by
  obtain ⟨next, queue, row⟩ := reserveTelemetrySequence_eq nodeCode link.db
  unfold TelemetryLink.round
  dsimp only
  generalize (reserveTelemetrySequence nodeCode link.db).1 = n at next ⊢
  generalize (reserveTelemetrySequence nodeCode link.db).2 = db at queue row ⊢
  rw [← next] at row
  generalize built : telemetryBatchPayload runId nodeCode reading n = payload
  have number : ∀ sample ∈ payload.samples,
      sample.sequenceNo = lastSequence nodeCode link.db + 1 := by
    intro sample member
    rw [← built] at member
    rw [telemetryBatchPayload_sequenceNo member, next]
  have sent := @LinkSound.sent settings nodeCode actor payload link sound (deliveries.headD .lost)
    (by rw [← built]; rfl) number waits
  have more : ∀ other ∈ link.givenUp, other ∈ (sendTelemetryBatch settings builtins actor payload
      ⟨link.store, deliveries, link.givenUp⟩).2.givenUp :=
    @sendTelemetryBatch_givenUp settings builtins actor payload
      ⟨link.store, deliveries, link.givenUp⟩
  have lost : (sendTelemetryBatch settings builtins actor payload
      ⟨link.store, deliveries, link.givenUp⟩).1.syncState builtins = .rejected →
      payload ∈ (sendTelemetryBatch settings builtins actor payload
        ⟨link.store, deliveries, link.givenUp⟩).2.givenUp := by
    intro rejected
    unfold sendTelemetryBatch at rejected ⊢
    dsimp only at rejected ⊢
    rw [if_pos rejected]
    exact List.mem_append_right _ List.mem_cons_self
  cases synced : (sendTelemetryBatch settings builtins actor payload
      ⟨link.store, deliveries, link.givenUp⟩).1.synced with
  | false =>
    exact sound.stored next built.symm queue row sent (SameQueue.refl _) more lost fun _ => rfl
  | true =>
    rw [if_pos rfl]
    unfold syncPendingTelemetryBatches
    rw [pendingTelemetryBatches_eq]
    have known := sent.known synced
    have absent : ∀ row ∈ db.telemetryBatches.rows, row.batchId ≠ payload.batchId := by
      rw [queue, ← built]
      exact sound.absent next
    have there : ∀ item ∈ pendingBatches (storeTelemetryBatch builtins db payload
        (sendTelemetryBatch settings builtins actor payload
          ⟨link.store, deliveries, link.givenUp⟩).1), Arrived (sendTelemetryBatch settings
            builtins actor payload ⟨link.store, deliveries, link.givenUp⟩).2.store item.2 := by
      intro item waiting
      rcases pending_storeTelemetryBatch absent waiting with new | old
      · rw [new]
        exact known.1
      · unfold pendingBatches at old
        rw [queue] at old
        exact known.2 item old
    obtain ⟨left, same, kept⟩ := @syncBatches_committed settings builtins actor _ _ _
      fun item member => there item (List.mem_of_mem_take member)
    refine sound.stored next built.symm queue row ?_ left (fun other h => kept other (more other h))
      (fun rejected => kept payload (lost rejected)) fun none => ?_
    · rw [same]
      exact sent
    · rw [synced] at none
      cases none

theorem LinkSound.centre_call {call : TelemetryCall} (sound : LinkSound nodeCode link)
    (foreign : call.foreign nodeCode = true)
    (effect : TelemetryEffect settings link.store call store) :
    LinkSound nodeCode { link with store := store } := by
  obtain ⟨centre, keeps⟩ := effect.keeps sound.centre foreign
  exact {
    centre := centre
    numbers := fun receipt member own =>
      sound.numbers receipt (keeps.own receipt member own) own
    generated := sound.generated
    rows := sound.rows
    fate := fun other member => by
      rcases sound.fate other member with given | there | waiting
      · exact .inl given
      · exact .inr (.inl (keeps.committed other there))
      · exact .inr (.inr waiting)
    noneOutOfOrder := keeps.events sound.noneOutOfOrder
    inOrder := fun other member live sample inside receipt there own signal below =>
      keeps.ids _ (sound.inOrder other member live sample inside receipt
        (keeps.own receipt there own) own signal below) }

theorem LinkSound.step {event : LinkEvent} {link' : TelemetryLink} {reply : Unit}
    (sound : LinkSound nodeCode link) (waits : NothingWaits link event)
    (h : (telemetryLinkAuthority settings builtins nodeCode actor).attempt event link =
      .ok (reply, link')) : LinkSound nodeCode link' := by
  cases event with
  | round runId reading deliveries =>
    cases h
    exact sound.round runId reading deliveries waits
  | centre call =>
    obtain ⟨_, foreign, h⟩ := of_bind h
    obtain ⟨⟨_, store⟩, attempt, h⟩ := of_bind h
    cases h
    exact sound.centre_call (check_eq_ok.mp foreign) (dataPlatform_effect attempt)

/-- The samples of a single agent are accepted in order, in a run whose new batches reach the
centre only when nothing waits that the centre has not committed. -/
theorem telemetry_in_order (settings : HistorianSettings) (builtins : Builtins)
    (nodeCode actor : String) (signals : Dictionary String SignalDefinition)
    (equipment : List String) (events : List LinkEvent) :
    let agent := telemetryLinkAuthority settings builtins nodeCode actor
    let start : TelemetryLink := { db := .empty, store := .registered signals equipment }
    agent.Along NothingWaits start events →
      NoneOutOfOrder nodeCode (agent.run start events).store ∧
        AcceptedInOrder nodeCode (agent.run start events) := by
  intro agent start along
  have sound : LinkSound nodeCode (agent.run start events) :=
    Authority.invariant_along (fun sound waits h => LinkSound.step sound waits h)
      (LinkSound.start signals equipment) along
  exact ⟨sound.noneOutOfOrder, sound.inOrder⟩

def nodeSignal (unit : String) (maximum : Int) : SignalDefinition where
  valueType := .number
  unit := unit
  minimum := some (numericValue 0)
  maximum := some (numericValue maximum)
  freshnessThresholdMs := 20000
  allowedSources := [.simulated]
  mappingVersion := 1

def nodeSignals : Dictionary String SignalDefinition :=
  ((((Dictionary.empty.set "SPINDLE-TEMPERATURE" (nodeSignal "Cel" 120)).set "TOOL-WEAR-LEVEL"
    (nodeSignal "%" 100)).set "UTILIZATION" (nodeSignal "1" 1)).set "DEFECT-RATE"
      (nodeSignal "1" 1)).set "ACTUAL-RATE" (nodeSignal "parts/min" 1000)

def sampleReading (time : Timestamp) : TelemetryReading where
  machineCode := "LATHE-01"
  timestamp := time
  simulationTime := none
  spindleTemp := 40
  toolWearLevel := 10
  utilization := 1 / 2
  defectRate := 0
  actualRate := 30

def sampleAgent : Authority LinkEvent TelemetryLink Unit TelemetryFault :=
  telemetryLinkAuthority sampleHistorian sampleBuiltins "N1" "edge"

def overtakenBatch : List LinkEvent :=
  [.round "R" (sampleReading 0) [.lost],
    .round "R" (sampleReading (5 * second)) [.answered (5 * second), .answered (5 * second)]]

theorem late_batch_outOfOrder : ¬ NoneOutOfOrder "N1" (sampleAgent.run
    { db := .empty, store := .registered nodeSignals ["LATHE-01"] } overtakenBatch).store := by
  intro none
  have classified : ((sampleAgent.run
      { db := .empty, store := .registered nodeSignals ["LATHE-01"] }
      overtakenBatch).store.qualityEvents.rows.any fun event =>
        event.sourceId = "N1" && event.reason = .outOfOrder) = true := by
    decide +kernel
  obtain ⟨event, member, late⟩ := List.any_eq_true.mp classified
  rw [Bool.and_eq_true, decide_eq_true_eq, decide_eq_true_eq] at late
  exact none event member late.1 late.2

instance (store : TelemetryStore) (payload : TelemetryBatch) : Decidable (Arrived store payload) :=
  match h : store.batches.get? payload.batchId with
  | some row => decidable_of_iff (row.payloadHash = payload.identity) (by simp [Arrived, h])
  | none => .isFalse (by simp [Arrived, h])

instance (link : TelemetryLink) : (event : LinkEvent) → Decidable (NothingWaits link event)
  | .round _ _ deliveries => inferInstanceAs (Decidable ((deliveries.headD .lost).reaches = true →
      ∀ item ∈ pendingBatches link.db, Arrived link.store item.2))
  | .centre _ => inferInstanceAs (Decidable True)

/-- The answer to the first batch is lost, and it is sent again after the second one. -/
theorem telemetry_in_order_sample :
    let agent := telemetryLinkAuthority sampleHistorian sampleBuiltins "N1" "edge"
    let final := agent.run { db := .empty, store := .registered nodeSignals ["LATHE-01"] }
      [.round "R" (sampleReading 0) [.unanswered 0],
        .round "R" (sampleReading (5 * second)) [.answered (5 * second), .answered (5 * second)]]
    NoneOutOfOrder "N1" final.store ∧ AcceptedInOrder "N1" final :=
  telemetry_in_order sampleHistorian sampleBuiltins "N1" "edge" nodeSignals ["LATHE-01"]
    [.round "R" (sampleReading 0) [.unanswered 0],
      .round "R" (sampleReading (5 * second)) [.answered (5 * second), .answered (5 * second)]]
    (by decide +kernel)

end MiniOgas
