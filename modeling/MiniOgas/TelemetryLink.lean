import MiniOgas.AgentSequence
import MiniOgas.TelemetryLaws

namespace MiniOgas

open Relational Serial

/-- What becomes of a request to the centre: `refused` is an answer that is not of the centre's
`ingest_batch`, and `unanswered` a call whose answer is lost. -/
inductive Delivery where
  | lost
  | refused (httpStatus : Nat) (error : String)
  | answered (now : Timestamp)
  | unanswered (now : Timestamp)

def Delivery.reaches : Delivery → Bool
  | .answered _ | .unanswered _ => true
  | .lost | .refused _ _ => false

/-- The fields of `problem_response` that the agent reads. -/
def problemResponse (code : String) (detail : Fields) : Fields :=
  [("code", .str code), ("detail", .obj detail)]

def refusal (httpStatus : Nat) (code : String) (detail : Fields) : SendResult where
  synced := false
  httpStatus := httpStatus
  error := code
  problem := some (problemResponse code detail)

def TelemetryFault.result : TelemetryFault → SendResult
  | .dataPlatform error =>
    refusal error.statusCode error.code (("message", .str error.message) :: error.context)
  | .valueError _ => refusal 400 "INVALID_ARGUMENT" []
  | .overflowError => refusal 500 "INTERNAL_ERROR" []

def unanswered : SendResult where
  synced := false
  httpStatus := 0
  error := "timed out"

structure TelemetryWire where
  store : TelemetryStore
  deliveries : List Delivery
  givenUp : List TelemetryBatch

section Wire

variable (settings : HistorianSettings) (builtins : Builtins) (actor : String)

/-- `POST /telemetry/batches`. -/
def postBatch (payload : TelemetryBatch) (now : Timestamp) (store : TelemetryStore) :
    SendResult × TelemetryStore :=
  if payload.Valid then
    match ingestBatch settings payload actor now store with
    | .ok ((_, replayed), store) =>
      ({ synced := true, httpStatus := if replayed then 200 else 201 }, store)
    | .error fault => (fault.result, store)
  else (refusal 422 "VALIDATION_ERROR" [], store)

def deliver (payload : TelemetryBatch) (delivery : Delivery) (store : TelemetryStore) :
    SendResult × TelemetryStore :=
  match delivery with
  | .lost => (unanswered, store)
  | .refused httpStatus error =>
    ({ synced := false, httpStatus := httpStatus, error := error }, store)
  | .answered now => postBatch settings actor payload now store
  | .unanswered now => (unanswered, (postBatch settings actor payload now store).2)

def sendTelemetryBatch (payload : TelemetryBatch) (wire : TelemetryWire) :
    SendResult × TelemetryWire :=
  let (result, store) := deliver settings actor payload (wire.deliveries.headD .lost) wire.store
  let givenUp :=
    if result.syncState builtins = .rejected then wire.givenUp ++ [payload] else wire.givenUp
  (result, ⟨store, wire.deliveries.tail, givenUp⟩)

end Wire

structure TelemetryLink where
  db : LocalDatabase
  store : TelemetryStore
  generated : List TelemetryBatch := []
  givenUp : List TelemetryBatch := []

inductive LinkEvent where
  | round (runId : String) (reading : TelemetryReading) (deliveries : List Delivery)
  | centre (call : TelemetryCall)

section Link

variable (settings : HistorianSettings) (builtins : Builtins) (nodeCode actor : String)

def TelemetryLink.round (link : TelemetryLink) (runId : String) (reading : TelemetryReading)
    (deliveries : List Delivery) : TelemetryLink :=
  let (sequence, db) := reserveTelemetrySequence nodeCode link.db
  let payload := telemetryBatchPayload runId nodeCode reading sequence
  let send := sendTelemetryBatch settings builtins actor
  let (result, wire) := send payload ⟨link.store, deliveries, link.givenUp⟩
  let db := storeTelemetryBatch builtins db payload result
  let (db, wire) :=
    if result.synced then syncPendingTelemetryBatches builtins db send wire else (db, wire)
  ⟨db, wire.store, link.generated ++ [payload], wire.givenUp⟩

def TelemetryCall.foreign (nodeCode : String) : TelemetryCall → Bool
  | .ingest payload _ _ => payload.1.sourceId ≠ nodeCode
  | _ => true

def TelemetryLink.attempt (event : LinkEvent) (link : TelemetryLink) :
    Except TelemetryFault (Unit × TelemetryLink) :=
  match event with
  | .round runId reading deliveries =>
    .ok ((), link.round settings builtins nodeCode actor runId reading deliveries)
  | .centre call => do
    check (call.foreign nodeCode) (.valueError "a batch of the node")
    let (_, store) ← (dataPlatform settings).attempt call link.store
    return ((), { link with store := store })

def telemetryLinkAuthority : Authority LinkEvent TelemetryLink Unit TelemetryFault :=
  ⟨TelemetryLink.attempt settings builtins nodeCode actor⟩

end Link

def Arrived (store : TelemetryStore) (payload : TelemetryBatch) : Prop :=
  ∃ row, store.batches.get? payload.batchId = some row ∧ row.payloadHash = payload.identity

/-- No sample of the node was classified out of order. -/
def NoneOutOfOrder (nodeCode : String) (store : TelemetryStore) : Prop :=
  ∀ event ∈ store.qualityEvents.rows, event.sourceId = nodeCode → event.reason ≠ .outOfOrder

/-- When a sample has been accepted, so have all samples of its signal with lower numbers that
the agent has generated and has not given up. -/
def AcceptedInOrder (nodeCode : String) (link : TelemetryLink) : Prop :=
  ∀ payload ∈ link.generated, payload ∉ link.givenUp → ∀ sample ∈ payload.samples,
    ∀ receipt ∈ link.store.receipts.rows, receipt.sourceId = nodeCode →
      receipt.signalCode = sample.signalCode → sample.sequenceNo < receipt.sequenceNo →
        sample.sampleId ∈ link.store.receipts.rows.map (·.sampleId)

variable {settings : HistorianSettings} {nodeCode actor : String}
  {payload other : TelemetryBatch} {now : Timestamp} {store store' : TelemetryStore}
  {response : TelemetryResponse} {all : List StoredSample} {samples : List TelemetrySample}
  {delivery : Delivery}

/-- Every sample of every batch has its receipt. -/
def BatchesReceipted (store : TelemetryStore) : Prop :=
  ∀ batchId row, store.batches.get? batchId = some row → ∀ sample ∈ row.payloadHash.samples,
    sample.sampleId ∈ store.receipts.rows.map (·.sampleId)

structure CentreSound (store : TelemetryStore) : Prop where
  answered : BatchesAnswered store
  receipted : BatchesReceipted store

structure Keeps (nodeCode : String) (store store' : TelemetryStore) : Prop where
  committed : ∀ payload, Arrived store payload → Arrived store' payload
  ids : ∀ sampleId ∈ store.receipts.rows.map (·.sampleId),
    sampleId ∈ store'.receipts.rows.map (·.sampleId)
  own : ∀ receipt ∈ store'.receipts.rows, receipt.sourceId = nodeCode →
    receipt ∈ store.receipts.rows
  events : NoneOutOfOrder nodeCode store → NoneOutOfOrder nodeCode store'

theorem Keeps.refl (nodeCode : String) (store : TelemetryStore) : Keeps nodeCode store store :=
  ⟨fun _ h => h, fun _ h => h, fun _ h _ => h, fun h => h⟩

theorem Ingests.receipted (ingests : Ingests settings payload now store samples all store') :
    (∀ receipt ∈ store.receipts.rows, receipt ∈ store'.receipts.rows) ∧
      ∀ sample ∈ samples, sample.sampleId ∈ store'.receipts.rows.map (·.sampleId) := by
  induction ingests with
  | nil => exact ⟨fun _ h => h, fun sample none => absurd none List.not_mem_nil⟩
  | repeated receipt found same rest ih =>
    refine ⟨ih.1, fun sample member => ?_⟩
    rcases List.mem_cons.mp member with rfl | h
    · have there := List.mem_of_find?_eq_some found
      have id : receipt.sampleId = sample.sampleId := by simpa using List.find?_some found
      exact List.mem_map.mpr ⟨receipt, ih.1 receipt there, id⟩
    · exact ih.2 sample h
  | stored stored first rest ih =>
    refine ⟨fun receipt member => ih.1 receipt (List.mem_append_left _ member), ?_⟩
    intro sample member
    rcases List.mem_cons.mp member with rfl | h
    · exact List.mem_map.mpr ⟨_, ih.1 _ (List.mem_append_right _ List.mem_cons_self), rfl⟩
    · exact ih.2 sample h

theorem BatchIngested.committed_of (new : BatchIngested settings payload now store response store'
    all) : Arrived store' payload ∧ ∀ other, Arrived store other → Arrived store' other := by
  obtain ⟨row, hash, -, -, rows⟩ := new.row
  refine ⟨⟨row, by rw [rows, if_pos rfl], hash⟩, ?_⟩
  rintro other ⟨before, found, same⟩
  refine ⟨before, ?_, same⟩
  rw [rows, if_neg ?_, found]
  intro own
  rw [own, new.absent] at found
  cases found

theorem BatchIngested.centreSound (sound : CentreSound store)
    (new : BatchIngested settings payload now store response store' all) : CentreSound store' := by
  obtain ⟨opened, receipts, -, ingests⟩ := new.ingests
  have own := ingests.receipted.2
  rw [recordAll_receipts, receipts, ← new.receipts] at own
  refine ⟨new.answered sound.answered, new.forall_batches (fun row hash _ _ => ?_) ?_⟩
  · rw [hash]
    exact own
  · intro batchId other found sample member
    rw [new.receipts, List.map_append]
    exact List.mem_append_left _ (sound.receipted batchId other found sample member)

theorem BatchIngested.keeps (foreign : payload.sourceId ≠ nodeCode)
    (new : BatchIngested settings payload now store response store' all) :
    Keeps nodeCode store store' where
  committed := new.committed_of.2
  ids sampleId member := by
    rw [new.receipts, List.map_append]
    exact List.mem_append_left _ member
  own receipt member source := by
    rw [new.receipts] at member
    rcases List.mem_append.mp member with old | h
    · exact old
    · obtain ⟨stored, -, rfl⟩ := List.mem_map.mp h
      exact absurd source foreign
  events none event member source := by
    rw [new.events] at member
    rcases List.mem_append.mp member with old | h
    · exact none event old source
    · obtain ⟨stored, -, rfl⟩ := List.mem_map.mp h
      exact absurd source foreign

theorem Keeps.congr (batches : store'.batches = store.batches)
    (receipts : store'.receipts = store.receipts)
    (events : store'.qualityEvents = store.qualityEvents) : Keeps nodeCode store store' where
  committed payload h := by
    unfold Arrived at h ⊢
    rw [batches]
    exact h
  ids sampleId member := by
    rw [receipts]
    exact member
  own receipt member _ := by
    rw [receipts] at member
    exact member
  events h := by
    unfold NoneOutOfOrder at h ⊢
    rw [events]
    exact h

theorem CentreSound.congr (sound : CentreSound store) (batches : store'.batches = store.batches)
    (receipts : store'.receipts = store.receipts) : CentreSound store' := by
  constructor
  · unfold BatchesAnswered
    rw [batches]
    exact sound.answered
  · unfold BatchesReceipted
    rw [batches, receipts]
    exact sound.receipted

theorem TelemetryEffect.keeps {call : TelemetryCall} (sound : CentreSound store)
    (effect : TelemetryEffect settings store call store') (foreign : call.foreign nodeCode = true) :
    CentreSound store' ∧ Keeps nodeCode store store' := by
  cases effect with
  | replayed payload actor now response again =>
    rw [again.same]
    exact ⟨sound, Keeps.refl _ _⟩
  | ingested payload actor now response all new =>
    have source : payload.1.sourceId ≠ nodeCode := by simpa [TelemetryCall.foreign] using foreign
    exact ⟨new.centreSound sound, new.keeps source⟩
  | retained reason actor now reply effect =>
    cases effect with
    | completed coverage passed covered after | failed fault raised uncovered after =>
      exact ⟨sound.congr after.batches after.receipts,
        Keeps.congr after.batches after.receipts after.qualityEvents⟩
  | registered signals equipment =>
    exact ⟨sound.congr rfl rfl, Keeps.congr rfl rfl rfl⟩

inductive DeliveryEffect (settings : HistorianSettings) (payload : TelemetryBatch)
    (store : TelemetryStore) (synced : Bool) (store' : TelemetryStore) : Prop
  | same (none : store' = store) (known : synced = true → Arrived store payload)
  | new (now : Timestamp) (response : TelemetryResponse) (all : List StoredSample)
      (ingested : BatchIngested settings payload now store response store' all)

theorem TelemetryFault.result_synced (fault : TelemetryFault) : fault.result.synced = false := by
  cases fault <;> rfl

theorem postBatch_effect : DeliveryEffect settings payload store
    (postBatch settings actor payload now store).1.synced
    (postBatch settings actor payload now store).2 := by
  unfold postBatch
  split
  next =>
    split
    next response replayed after ingest =>
      rcases ingestBatch_cases ingest with ⟨-, again⟩ | ⟨-, all, new⟩
      · obtain ⟨row, before, found, hash, -⟩ := again.committed
        exact .same again.same fun _ => ⟨row, found, hash⟩
      · exact .new now response all new
    next fault raised =>
      refine .same rfl fun synced => ?_
      rw [fault.result_synced] at synced
      cases synced
  next => exact .same rfl nofun

theorem deliver_effect : DeliveryEffect settings payload store
    (deliver settings actor payload delivery store).1.synced
    (deliver settings actor payload delivery store).2 := by
  unfold deliver
  split
  next => exact .same rfl nofun
  next => exact .same rfl nofun
  next => exact postBatch_effect
  next now =>
    cases @postBatch_effect settings actor payload now store with
    | same none known => exact .same none nofun
    | new now response all ingested => exact .new now response all ingested

theorem deliver_lost (lost : delivery.reaches = false) :
    (deliver settings actor payload delivery store).2 = store := by
  cases delivery with
  | lost => rfl
  | refused => rfl
  | answered => cases lost
  | unanswered => cases lost

/-- A batch that has arrived changes nothing when it is delivered again. -/
theorem deliver_committed (committed : Arrived store payload) :
    (deliver settings actor payload delivery store).2 = store := by
  cases @deliver_effect settings actor payload store delivery with
  | same none => exact none
  | new now response all ingested =>
    obtain ⟨row, found, -⟩ := committed
    rw [ingested.absent] at found
    cases found

end MiniOgas
