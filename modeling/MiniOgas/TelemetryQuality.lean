import MiniOgas.TelemetryLaws

namespace MiniOgas

open Relational Serial

variable {settings : HistorianSettings} {payload : TelemetryBatch} {now : Timestamp}
  {definition : SignalDefinition} {sample : TelemetrySample} {samples : List TelemetrySample}
  {stored : StoredSample} {all : List StoredSample} {store store' : TelemetryStore}
  {loop : IngestLoop} {actor : String} {maximum : Option Nat}

structure ReadyBatch (store : TelemetryStore) (payload : TelemetryBatch) : Prop where
  registered : payload.equipmentCode ∈ store.equipment
  batch : store.batches.get? payload.batchId = none
  signals : ∀ sample ∈ payload.samples, (store.activeSignal sample.signalCode).isSome = true
  samples : ∀ sample ∈ payload.samples, store.receiptOf sample.sampleId = none
  sequences : ∀ sample ∈ payload.samples,
    store.sequenceOwner payload.sourceId sample.signalCode sample.sequenceNo = none

/-- A batch whose values the numeric columns take: `float` takes each value of a numeric signal,
and the numbers and the times are not too large. -/
structure StorableBatch (settings : HistorianSettings) (store : TelemetryStore)
    (payload : TelemetryBatch) : Prop where
  times : payload.samples.all (·.inUtc) = true
  edge : inUtc payload.edgeReceivedAt = true
  columns : ∀ sample ∈ payload.samples,
    fitsColumn sample.sequenceNo = true ∧ fitsColumn sample.mappingVersion = true
  values : ∀ sample ∈ payload.samples, ∀ definition,
    store.activeSignal sample.signalCode = some definition → definition.valueType.numeric = true →
      (settings.toFloat sample.value).isOk = true

theorem splitValue_ok (value : SignalValue) (valueType : SignalType) :
    (∃ columns, splitValue settings value valueType = .ok columns) ↔
      (valueType.numeric = true → (settings.toFloat value).isOk = true) := by
  cases valueType with
  | number | integer =>
    cases converted : settings.toFloat value with
    | ok numeric | error fault =>
      simp [splitValue, converted, Except.map, SignalType.numeric, Except.isOk,
        Except.toBool]
  | boolean | text => simp [splitValue, SignalType.numeric]

theorem classify_ok (converts : definition.valueType.numeric = true →
    (settings.toFloat sample.value).isOk = true) :
    ∃ classification, classify settings payload sample definition maximum now =
      .ok classification := by
  unfold classify
  split
  next => exact ⟨_, rfl⟩
  split
  next => exact ⟨_, rfl⟩
  split
  next => exact ⟨_, rfl⟩
  split
  next => exact ⟨_, rfl⟩
  split
  next => exact ⟨_, rfl⟩
  split
  next numeric =>
    obtain ⟨value, converted⟩ := exists_ok (converts numeric)
    rw [converted, ok_bind]
    split
    next => exact ⟨_, rfl⟩
    split
    next => exact ⟨_, rfl⟩
    next => exact ⟨_, rfl⟩
  next => exact ⟨_, rfl⟩

structure StorableSample (settings : HistorianSettings) (payload : TelemetryBatch)
    (store : TelemetryStore) (sample : TelemetrySample) : Prop where
  signal : ∃ definition, store.activeSignal sample.signalCode = some definition ∧
    (definition.valueType.numeric = true → (settings.toFloat sample.value).isOk = true)
  fits : fitsColumn sample.sequenceNo = true ∧
    (fitsColumn sample.mappingVersion && inUtc payload.edgeReceivedAt) = true

structure FreshSample (store : TelemetryStore) (sourceId : String) (sample : TelemetrySample) :
    Prop where
  receipt : store.receiptOf sample.sampleId = none
  owner : store.sequenceOwner sourceId sample.signalCode sample.sequenceNo = none

theorem StoresSample.storable (stores : StoresSample settings payload now store stored) :
    StorableSample settings payload store stored.sample := by
  obtain ⟨definition, active, -, split⟩ := stores.values
  exact ⟨⟨definition, active, (splitValue_ok _ _).mp ⟨_, split⟩⟩, stores.fits⟩

theorem storeSample_ok {classification : Classification} {numericValue : Option NumericValue}
    {textValue : Option String} (fresh : FreshSample loop.store payload.sourceId sample)
    (classified : classify settings payload sample definition
      (loop.store.maximumSequence payload.sourceId sample.signalCode) now = .ok classification)
    (split : splitValue settings sample.value definition.valueType = .ok (numericValue, textValue))
    (fits : fitsColumn sample.sequenceNo = true ∧
      (fitsColumn sample.mappingVersion && inUtc payload.edgeReceivedAt) = true) :
    storeSample settings payload now definition sample loop =
      .ok (loop.record payload now ⟨sample, classification, numericValue, textValue⟩) := by
  have sequence : check (fitsColumn sample.sequenceNo = true) TelemetryFault.overflowError =
      .ok () := check_eq_ok.mpr fits.1
  have mapping : check ((fitsColumn sample.mappingVersion && inUtc payload.edgeReceivedAt) = true)
      TelemetryFault.overflowError = .ok () := check_eq_ok.mpr fits.2
  have owner : check (loop.store.sequenceOwner payload.sourceId sample.signalCode
      sample.sequenceNo = none) (sequenceIdentityConflict sample.signalCode sample.sequenceNo) =
      .ok () := check_eq_ok.mpr fresh.owner
  unfold storeSample
  dsimp only
  rw [sequence, ok_bind, owner, ok_bind, classified, ok_bind, split, ok_bind]
  rw [mapping, ok_bind]

theorem ingestSample_ok (fresh : FreshSample loop.store payload.sourceId sample)
    (storable : StorableSample settings payload loop.store sample) :
    ∃ stored, stored.sample = sample ∧
      ingestSample settings payload now loop sample = .ok (loop.record payload now stored) := by
  obtain ⟨definition, active, converts⟩ := storable.signal
  obtain ⟨classification, classified⟩ := @classify_ok settings payload now definition sample
    (loop.store.maximumSequence payload.sourceId sample.signalCode) converts
  obtain ⟨⟨numericValue, textValue⟩, split⟩ := (splitValue_ok _ _).mpr converts
  refine ⟨⟨sample, classification, numericValue, textValue⟩, rfl, ?_⟩
  have found : orFault (loop.store.activeSignal sample.signalCode)
      (signalNotRegistered sample.signalCode) = .ok definition := orFault_eq_ok.mpr active
  unfold ingestSample
  rw [found, ok_bind, fresh.receipt]
  exact storeSample_ok fresh classified split storable.fits

theorem FreshSample.record (fresh : FreshSample store payload.sourceId sample)
    (other : sample.sampleId ≠ stored.sample.sampleId)
    (apart : (sample.signalCode, sample.sequenceNo) ≠
      (stored.sample.signalCode, stored.sample.sequenceNo)) :
    FreshSample (store.record payload now stored) payload.sourceId sample where
  receipt := (receiptOf_record other).trans fresh.receipt
  owner := by
    rw [sequenceOwner_eq_none]
    rw [record_receipts, List.map_append, List.mem_append, not_or]
    refine ⟨sequenceOwner_eq_none.mp fresh.owner, fun member => apart ?_⟩
    have same := List.mem_singleton.mp member
    exact (Prod.mk.inj same).2

theorem ingestSamples_ok (ids : (samples.map (·.sampleId)).Nodup)
    (sequences : (samples.map fun sample => (sample.signalCode, sample.sequenceNo)).Nodup)
    (fresh : ∀ sample ∈ samples, FreshSample loop.store payload.sourceId sample)
    (storable : ∀ sample ∈ samples, StorableSample settings payload loop.store sample) :
    ∃ loop', samples.foldlM (ingestSample settings payload now) loop = .ok loop' := by
  induction samples generalizing loop with
  | nil => exact ⟨loop, rfl⟩
  | cons sample samples ih =>
    rw [List.map_cons, List.nodup_cons] at ids sequences
    obtain ⟨stored, rfl, round⟩ := @ingestSample_ok settings payload now sample loop
      (fresh _ List.mem_cons_self) (storable _ List.mem_cons_self)
    rw [List.foldlM_cons, round, ok_bind]
    refine ih ids.2 sequences.2 (fun other member => ?_) fun other member => ?_
    · refine (fresh other (List.mem_cons_of_mem _ member)).record ?_ ?_
      · exact fun same => ids.1 (same ▸ List.mem_map_of_mem member)
      · exact fun same => sequences.1 (same ▸ List.mem_map_of_mem
          (f := fun sample : TelemetrySample => (sample.signalCode, sample.sequenceNo)) member)
    · exact ⟨(storable other (List.mem_cons_of_mem _ member)).signal,
        (storable other (List.mem_cons_of_mem _ member)).fits⟩

theorem Ingests.samples_eq (ingests : Ingests settings payload now store samples all store')
    (ids : (samples.map (·.sampleId)).Nodup)
    (fresh : ∀ sample ∈ samples, store.receiptOf sample.sampleId = none) :
    all.map (·.sample) = samples := by
  induction ingests with
  | nil => rfl
  | repeated receipt found same rest ih =>
    rw [fresh _ List.mem_cons_self] at found
    cases found
  | stored stored first rest ih =>
    rw [List.map_cons, List.nodup_cons] at ids
    refine congrArg _ (ih ids.2 fun sample member => ?_)
    have other : sample.sampleId ≠ stored.sample.sampleId :=
      fun same => ids.1 (same ▸ List.mem_map_of_mem member)
    exact (receiptOf_record other).trans (fresh sample (List.mem_cons_of_mem _ member))

theorem Ingests.stores (ingests : Ingests settings payload now store samples all store')
    {front back : List StoredSample} (split : all = front ++ stored :: back) :
    StoresSample settings payload now (store.recordAll payload now front) stored := by
  induction ingests generalizing front with
  | nil =>
    cases front with
    | nil => cases split
    | cons _ _ => cases split
  | repeated _ _ _ _ ih => exact ih split
  | stored first stores rest ih =>
    cases front with
    | nil =>
      cases split
      exact stores
    | cons head front =>
      rw [List.cons_append, List.cons.injEq] at split
      rw [← split.1]
      exact ih split.2

def TelemetryStore.maximumWith (store : TelemetryStore) (sourceId : String)
    (earlier : List TelemetrySample) (signalCode : String) : Option Nat :=
  ((store.receipts.rows.filter fun receipt =>
      receipt.sourceId = sourceId && receipt.signalCode = signalCode).map (·.sequenceNo) ++
    (earlier.filter (·.signalCode = signalCode)).map (·.sequenceNo)).max?

theorem maximumSequence_recordAll (signalCode : String) :
    (store.recordAll payload now all).maximumSequence payload.sourceId signalCode =
      store.maximumWith payload.sourceId (all.map (·.sample)) signalCode := by
  unfold TelemetryStore.maximumSequence TelemetryStore.maximumWith
  rw [recordAll_receipts, List.filter_append, List.map_append]
  rw [List.filter_map, List.filter_map, List.map_map, List.map_map]
  simp [Function.comp_def, StoredSample.receipt]

/-- Every sample of a batch is stored as `_classify` judges it. -/
def RecordedAsClassified (settings : HistorianSettings) (payload : TelemetryBatch)
    (now : Timestamp) (before after : TelemetryStore) : Prop :=
  ∀ earlier sample later, payload.samples = earlier ++ sample :: later →
    ∃ row ∈ (insertedSince before.measurements after.measurements).map Prod.snd,
      row.sampleId = sample.sampleId ∧ ∃ definition classification,
        before.activeSignal sample.signalCode = some definition ∧
        classify settings payload sample definition
          (before.maximumWith payload.sourceId earlier sample.signalCode) now =
            .ok classification ∧
        row.quality = classification.quality ∧ row.reason = classification.reason

theorem ReadyBatch.fresh (ready : ReadyBatch store payload) :
    ∀ sample ∈ payload.samples, FreshSample store payload.sourceId sample :=
  fun sample member => ⟨ready.samples sample member, ready.sequences sample member⟩

theorem ReadyBatch.recorded {response : TelemetryResponse} (ready : ReadyBatch store payload)
    (valid : payload.Valid)
    (new : BatchIngested settings payload now store response store' all) :
    RecordedAsClassified settings payload now store store' := by
  intro earlier sample later split
  obtain ⟨opened, receipts, signals, ingests⟩ := new.ingests
  have unreceipted : ∀ sample ∈ payload.samples, opened.receiptOf sample.sampleId = none := by
    unfold TelemetryStore.receiptOf
    rw [receipts]
    exact ready.samples
  have same := ingests.samples_eq valid.sampleIds unreceipted
  rw [split] at same
  obtain ⟨front, rest, rfl, rfl, tail⟩ := List.map_eq_append_iff.mp same
  obtain ⟨stored, back, rfl, rfl, -⟩ := List.map_eq_cons_iff.mp tail
  have stores := ingests.stores rfl
  obtain ⟨definition, active, classified, -⟩ := stores.values
  rw [maximumSequence_recordAll] at classified
  refine ⟨stored.measurement payload now, ?_, rfl, definition, stored.classification, ?_, ?_, rfl,
    rfl⟩
  · rw [new.inserted]
    exact List.mem_map_of_mem (List.mem_append_right _ List.mem_cons_self)
  · unfold TelemetryStore.activeSignal at active ⊢
    rw [(recordAll_frame payload now opened front).1, signals] at active
    exact active
  · unfold TelemetryStore.maximumWith at classified ⊢
    rw [receipts] at classified
    exact classified

theorem ReadyBatch.ok_of_storable (ready : ReadyBatch store payload) (valid : payload.Valid)
    (storable : StorableBatch settings store payload) :
    ∃ response store', ingestBatch settings payload actor now store =
      .ok ((response, false), store') := by
  have each : ∀ sample ∈ payload.samples, StorableSample settings payload store sample := by
    intro sample member
    obtain ⟨definition, active⟩ := Option.isSome_iff_exists.mp (ready.signals sample member)
    have columns := storable.columns sample member
    exact ⟨⟨definition, active, storable.values sample member definition active⟩, columns.1,
      by rw [columns.2, storable.edge]; rfl⟩
  obtain ⟨loop, round⟩ := @ingestSamples_ok settings payload now payload.samples
    { store := { store with
      batches := store.batches.set payload.batchId (batchRow payload actor now) } }
    valid.sampleIds valid.sequences
    (fun sample member => ⟨(ready.fresh sample member).receipt, (ready.fresh sample member).owner⟩)
    (fun sample member => ⟨(each sample member).signal, (each sample member).fits⟩)
  unfold ingestBatch
  rw [ready.batch]
  unfold ingestNew
  simp only [check, storable.times, ready.registered, if_true, ok_bind, round]
  exact ⟨_, _, rfl⟩

theorem ReadyBatch.storable_of_ok {response : TelemetryResponse × Bool}
    (ready : ReadyBatch store payload) (valid : payload.Valid)
    (h : ingestBatch settings payload actor now store = .ok (response, store')) :
    StorableBatch settings store payload := by
  rcases ingestBatch_cases h with ⟨-, again⟩ | ⟨-, all, new⟩
  · obtain ⟨row, _, found, -⟩ := again.committed
    rw [ready.batch] at found
    cases found
  · obtain ⟨opened, receipts, signals, ingests⟩ := new.ingests
    have unreceipted : ∀ sample ∈ payload.samples, opened.receiptOf sample.sampleId = none := by
      unfold TelemetryStore.receiptOf
      rw [receipts]
      exact ready.samples
    have same := ingests.samples_eq valid.sampleIds unreceipted
    have each : ∀ sample ∈ payload.samples, StorableSample settings payload store sample := by
      intro sample member
      rw [← same] at member
      obtain ⟨stored, there, rfl⟩ := List.mem_map.mp member
      obtain ⟨front, back, rfl⟩ := List.append_of_mem there
      have storable := (ingests.stores rfl).storable
      refine ⟨?_, storable.fits⟩
      have signal := storable.signal
      unfold TelemetryStore.activeSignal at signal ⊢
      rw [(recordAll_frame payload now opened front).1, signals] at signal
      exact signal
    obtain ⟨first, rest⟩ := List.exists_mem_of_ne_nil _ valid.nonempty
    have edge := (each first rest).fits.2
    rw [Bool.and_eq_true] at edge
    exact {
      times := new.times
      edge := edge.2
      columns := fun sample member => by
        have fits := (each sample member).fits
        rw [Bool.and_eq_true] at fits
        exact ⟨fits.1, fits.2.1⟩
      values := fun sample member definition active numeric => by
        obtain ⟨other, there, converts⟩ := (each sample member).signal
        rw [active] at there
        cases there
        exact converts numeric }

def sampleHistorian : HistorianSettings where
  parseFloat _ := none
  str _ := ""
  mean values := values.head?
  rawRetentionDays := 7
  aggregateRetentionDays := 90

def temperature : SignalDefinition where
  valueType := .number
  unit := "Cel"
  minimum := some (numericValue 0)
  maximum := some (numericValue 120)
  freshnessThresholdMs := 20000
  allowedSources := [.simulated]
  mappingVersion := 1

def sampleTelemetryStore : TelemetryStore :=
  .registered (Dictionary.empty.set "TEMP" temperature) ["LATHE-01"]

def temperatureSample (sequenceNo : Nat) (value : SignalValue) (time : Timestamp) :
    TelemetrySample where
  sampleId := s!"S{sequenceNo}"
  signalCode := "TEMP"
  value := value
  unit := "Cel"
  mappingVersion := 1
  sequenceNo := sequenceNo
  sourceTimestamp := time

def temperatureBatch (batchId : String) (samples : List TelemetrySample) : TelemetryBatch where
  batchId := batchId
  source := .simulated
  sourceId := "N1"
  equipmentCode := "LATHE-01"
  edgeReceivedAt := 0
  samples := samples

theorem temperatureBatch_ready {batchId : String} {samples : List TelemetrySample}
    (signals : ∀ sample ∈ samples, sample.signalCode = "TEMP") :
    ReadyBatch sampleTelemetryStore (temperatureBatch batchId samples) where
  registered := List.mem_singleton_self "LATHE-01"
  batch := rfl
  signals sample member := by
    rw [signals sample member]
    rfl
  samples sample member := rfl
  sequences sample member := rfl

end MiniOgas
