import MiniOgas.IngestEffect

namespace MiniOgas

section RetentionEffect

open Relational Serial

variable {settings : HistorianSettings} {now : Timestamp} {store store' : TelemetryStore}
  {runId : Nat} {rawCutoff aggregateCutoff : Timestamp}

structure SameTelemetry (store store' : TelemetryStore) : Prop where
  signals : store'.signals = store.signals
  equipment : store'.equipment = store.equipment
  batches : store'.batches = store.batches
  receipts : store'.receipts = store.receipts
  measurements : store'.measurements = store.measurements
  qualityEvents : store'.qualityEvents = store.qualityEvents
  aggregates : store'.aggregates = store.aggregates

theorem SameTelemetry.refl (store : TelemetryStore) : SameTelemetry store store :=
  ⟨rfl, rfl, rfl, rfl, rfl, rfl, rfl⟩

theorem updateRun_same (f : RetentionRun → RetentionRun) :
    SameTelemetry store (store.updateRun runId f) := by
  unfold TelemetryStore.updateRun
  split
  next => exact ⟨rfl, rfl, rfl, rfl, rfl, rfl, rfl⟩
  next => exact SameTelemetry.refl store

def TelemetryStore.aggregated (settings : HistorianSettings) (now : Timestamp)
    (store : TelemetryStore) : TelemetryStore :=
  { store with
    aggregates := writeAggregates settings now (store.expired (settings.rawCutoff now))
      store.aggregates }

def TelemetryStore.cleared (rawCutoff aggregateCutoff : Timestamp) (store : TelemetryStore) :
    TelemetryStore :=
  { store with
    measurements := store.measurements.delete fun entry => entry.2.sourceTimestamp < rawCutoff
    aggregates := store.purged aggregateCutoff }

theorem deleteExpired_same : SameTelemetry (store.cleared rawCutoff aggregateCutoff)
    (deleteExpired now store rawCutoff aggregateCutoff runId) :=
  updateRun_same _

inductive RetentionEffect (settings : HistorianSettings) (now : Timestamp)
    (store store' : TelemetryStore) (reply : RetentionReply) : Prop
  | completed (coverage : CoverageReport)
      (passed : reply.coverage = .ok coverage)
      (covered : retentionCoverage (settings.rawCutoff now) (store.aggregated settings now) =
        .ok coverage)
      (after : SameTelemetry ((store.aggregated settings now).cleared (settings.rawCutoff now)
        (settings.aggregateCutoff now)) store')
  | failed (fault : TelemetryFault)
      (raised : reply.coverage = .error fault)
      (uncovered : retentionCoverage (settings.rawCutoff now) (store.aggregated settings now) =
        .error fault)
      (after : SameTelemetry (store.aggregated settings now) store')

theorem SameTelemetry.trans {a b c : TelemetryStore} (one : SameTelemetry a b)
    (two : SameTelemetry b c) : SameTelemetry a c :=
  ⟨two.signals.trans one.signals, two.equipment.trans one.equipment,
    two.batches.trans one.batches, two.receipts.trans one.receipts,
    two.measurements.trans one.measurements, two.qualityEvents.trans one.qualityEvents,
    two.aggregates.trans one.aggregates⟩

theorem retentionCoverage_congr {a b : TelemetryStore} (same : SameTelemetry a b) :
    retentionCoverage rawCutoff b = retentionCoverage rawCutoff a := by
  unfold retentionCoverage TelemetryStore.mismatches TelemetryStore.observedCount
    TelemetryStore.expired
  rw [same.measurements, same.aggregates]

theorem cleared_same {a b : TelemetryStore} (same : SameTelemetry a b) :
    SameTelemetry (a.cleared rawCutoff aggregateCutoff)
      (b.cleared rawCutoff aggregateCutoff) where
  signals := same.signals
  equipment := same.equipment
  batches := same.batches
  receipts := same.receipts
  measurements := congrArg (·.delete fun entry => decide (entry.2.sourceTimestamp < rawCutoff))
    same.measurements
  qualityEvents := same.qualityEvents
  aggregates := by
    unfold TelemetryStore.cleared TelemetryStore.purged
    rw [same.aggregates]

theorem runRetention_effect (store : TelemetryStore) (reason actor : String) :
    RetentionEffect settings now store (runRetention settings now store reason actor).2
      (runRetention settings now store reason actor).1 := by
  have started : SameTelemetry (store.aggregated settings now)
      (aggregateHourly settings { toTimestamp := some (settings.rawCutoff now) } now
        (startRetentionRun settings now store reason actor).2).2 := by
    exact ⟨rfl, rfl, rfl, rfl, rfl, rfl, rfl⟩
  have coverage := @retentionCoverage_congr (settings.rawCutoff now) _ _ started
  unfold runRetention
  dsimp only
  split
  next report passed =>
    exact .completed report rfl passed ((cleared_same started).trans deleteExpired_same)
  next fault raised =>
    exact .failed fault rfl raised (started.trans (updateRun_same _))

end RetentionEffect

open Relational Serial

variable {settings : HistorianSettings} {now : Timestamp} {store : TelemetryStore}
  {rawCutoff : Timestamp} {rows : List Measurement} {key other : AggregateKey}
  {aggregate : HourlyAggregate}

theorem get?_foldl_set {κ ν : Type} [DecidableEq κ] (f : κ → ν) (keys : List κ)
    (dict : Dictionary κ ν) (other : κ) :
    (keys.foldl (fun dict key => dict.set key (f key)) dict).get? other =
      if other ∈ keys then some (f other) else dict.get? other := by
  induction keys generalizing dict with
  | nil => rfl
  | cons key keys ih =>
    rw [List.foldl_cons, ih, Dictionary.get?_set]
    by_cases later : other ∈ keys
    · rw [if_pos later, if_pos (List.mem_cons_of_mem _ later)]
    · rw [if_neg later]
      by_cases same : other = key
      · rw [if_pos same, if_pos (by rw [same]; exact List.mem_cons_self), same]
      · rw [if_neg same, if_neg (by simp [same, later])]

theorem mem_windows : key ∈ windows rows ↔ ∃ row ∈ rows, row.window = key := by
  unfold windows
  rw [List.mem_eraseDups, List.mem_map]

theorem get?_aggregated : (store.aggregated settings now).aggregates.get? key =
    if key ∈ windows (store.expired (settings.rawCutoff now)) then
      some (hourlyAggregate settings now
        (inWindow (store.expired (settings.rawCutoff now)) key) key)
    else store.aggregates.get? key :=
  get?_foldl_set _ _ _ _

theorem oneHour_pos : 0 < oneHour := by decide

theorem hourOf_le (t : Timestamp) : hourOf t ≤ t :=
  Int.sub_le_self t (Int.emod_nonneg t (Int.ne_of_gt oneHour_pos))

theorem windowStart_lt {row : Measurement} (expired : row ∈ store.expired rawCutoff) :
    row.window.windowStart < rawCutoff := by
  have before : row.sourceTimestamp < rawCutoff := by
    simpa using (List.mem_filter.mp expired).2
  exact lt_of_le_of_lt (hourOf_le _) before

theorem aggregated_covered :
    ∃ coverage, retentionCoverage (settings.rawCutoff now) (store.aggregated settings now) =
      .ok coverage := by
  have same : (store.aggregated settings now).expired (settings.rawCutoff now) =
      store.expired (settings.rawCutoff now) := rfl
  have none : (store.aggregated settings now).mismatches (settings.rawCutoff now) = [] := by
    unfold TelemetryStore.mismatches
    rw [same, List.filterMap_eq_nil_iff]
    intro key member
    obtain ⟨row, expired, rfl⟩ := mem_windows.mp member
    have observed : (store.aggregated settings now).observedCount (settings.rawCutoff now)
        row.window =
          some (inWindow (store.expired (settings.rawCutoff now)) row.window).length := by
      unfold TelemetryStore.observedCount
      rw [if_pos (windowStart_lt expired), get?_aggregated, if_pos member]
      rfl
    rw [if_pos observed]
  unfold retentionCoverage
  rw [none]
  exact ⟨_, rfl⟩

theorem runRetention_completes (store : TelemetryStore) (reason actor : String) :
    (runRetention settings now store reason actor).1.coverage.isOk = true ∧
      SameTelemetry ((store.aggregated settings now).cleared (settings.rawCutoff now)
        (settings.aggregateCutoff now)) (runRetention settings now store reason actor).2 := by
  cases @runRetention_effect settings now store reason actor with
  | completed coverage passed covered after =>
    rw [passed]
    exact ⟨rfl, after⟩
  | failed fault raised uncovered after =>
    obtain ⟨coverage, covered⟩ := @aggregated_covered settings now store
    rw [uncovered] at covered
    cases covered

structure AggregateOf (rows : List Measurement) (aggregate : HourlyAggregate) : Prop where
  sampleCount : aggregate.sampleCount = rows.length
  goodCount : aggregate.goodCount = countQuality rows .good
  uncertainCount : aggregate.uncertainCount = countQuality rows .uncertain
  badCount : aggregate.badCount = countQuality rows .bad
  minimum : aggregate.minimum = (rows.filterMap (·.numericValue)).min?
  maximum : aggregate.maximum = (rows.filterMap (·.numericValue)).max?

variable {payload : TelemetryBatch} {samples : List TelemetrySample} {stored : StoredSample}
  {all : List StoredSample} {store' : TelemetryStore} {response : TelemetryResponse}
  {history history' : Historian} {reply : TelemetryReply} {call : TelemetryCall}
  {sourceId signalCode : String} {sequenceNo : Nat}

inductive TelemetryEffect (settings : HistorianSettings) (store : TelemetryStore) :
    TelemetryCall → TelemetryStore → Prop
  | replayed (payload : TelemetryBatchIn) (actor : String) (now : Timestamp)
      (response : TelemetryResponse) {store' : TelemetryStore}
      (replayed : BatchReplayed payload.1 store response store') :
      TelemetryEffect settings store (.ingest payload actor now) store'
  | ingested (payload : TelemetryBatchIn) (actor : String) (now : Timestamp)
      (response : TelemetryResponse) (all : List StoredSample) {store' : TelemetryStore}
      (ingested : BatchIngested settings payload.1 now store response store' all) :
      TelemetryEffect settings store (.ingest payload actor now) store'
  | retained (reason actor : String) (now : Timestamp) (reply : RetentionReply)
      {store' : TelemetryStore} (retained : RetentionEffect settings now store store' reply) :
      TelemetryEffect settings store (.retention reason actor now) store'
  | registered (signals : Dictionary String SignalDefinition) (equipment : List String) :
      TelemetryEffect settings store (.register signals equipment)
        { store with signals := signals, equipment := equipment }

theorem dataPlatform_effect (h : (dataPlatform settings).attempt call store = .ok (reply, store')) :
    TelemetryEffect settings store call store' := by
  cases call with
  | ingest payload actor now =>
    obtain ⟨⟨⟨response, replayed⟩, after⟩, ingest, h⟩ := of_bind h
    cases h
    rcases ingestBatch_cases ingest with ⟨-, again⟩ | ⟨-, all, new⟩
    · exact .replayed payload actor now response again
    · exact .ingested payload actor now response all new
  | retention reason actor now =>
    cases h
    exact .retained reason actor now _ (runRetention_effect store reason actor)
  | register signals equipment =>
    cases h
    exact .registered signals equipment

theorem historian_effect (h : (historian settings).attempt call history = .ok (reply, history')) :
    TelemetryEffect settings history.store call history'.store ∧
      history'.ingested = history.ingested ++
        insertedSince history.store.measurements history'.store.measurements := by
  obtain ⟨⟨reply, store⟩, attempt, h⟩ := of_bind h
  cases h
  exact ⟨dataPlatform_effect attempt, rfl⟩

structure ReceiptsDistinct (store : TelemetryStore) : Prop where
  sampleIds : (store.receipts.rows.map (·.sampleId)).Nodup
  sequences : (store.receipts.rows.map (·.sequenceKey)).Nodup

theorem receiptOf_eq_none {sampleId : String} : store.receiptOf sampleId = none ↔
    sampleId ∉ store.receipts.rows.map (·.sampleId) := by
  unfold TelemetryStore.receiptOf
  rw [List.find?_eq_none, List.mem_map]
  constructor
  · rintro absent ⟨receipt, member, same⟩
    exact absent receipt member (by simpa using same)
  · intro absent receipt member same
    exact absent ⟨receipt, member, by simpa using same⟩

theorem Receipt.owns_iff {receipt : Receipt} :
    receipt.owns sourceId signalCode sequenceNo = true ↔
      receipt.sequenceKey = (sourceId, signalCode, sequenceNo) := by
  simp [Receipt.owns, Receipt.sequenceKey, and_assoc]

theorem sequenceOwner_eq_none :
    store.sequenceOwner sourceId signalCode sequenceNo = none ↔
      (sourceId, signalCode, sequenceNo) ∉ store.receipts.rows.map (·.sequenceKey) := by
  unfold TelemetryStore.sequenceOwner
  rw [List.find?_eq_none, List.mem_map]
  constructor
  · rintro absent ⟨receipt, member, same⟩
    exact absent receipt member (Receipt.owns_iff.mpr same)
  · intro absent receipt member same
    exact absent ⟨receipt, member, Receipt.owns_iff.mp same⟩

theorem record_receipts : (store.record payload now stored).receipts.rows =
    store.receipts.rows ++ [stored.receipt payload] := rfl

theorem ReceiptsDistinct.record (distinct : ReceiptsDistinct store)
    (stores : StoresSample settings payload now store stored) :
    ReceiptsDistinct (store.record payload now stored) := by
  have id := receiptOf_eq_none.mp stores.fresh
  have sequence := sequenceOwner_eq_none.mp stores.unowned
  constructor
  · rw [record_receipts, List.map_append]
    exact List.Nodup.append distinct.sampleIds (List.nodup_singleton _)
      (List.disjoint_singleton.mpr id)
  · rw [record_receipts, List.map_append]
    exact List.Nodup.append distinct.sequences (List.nodup_singleton _)
      (List.disjoint_singleton.mpr sequence)

theorem ReceiptsDistinct.ingests (distinct : ReceiptsDistinct store)
    (ingests : Ingests settings payload now store samples all store') :
    ReceiptsDistinct store' := by
  induction ingests with
  | nil => exact distinct
  | repeated _ _ _ _ ih => exact ih distinct
  | stored _ first _ ih => exact ih (distinct.record first)

theorem ReceiptsDistinct.congr (distinct : ReceiptsDistinct store)
    (same : store'.receipts.rows = store.receipts.rows) : ReceiptsDistinct store' :=
  ⟨same ▸ distinct.sampleIds, same ▸ distinct.sequences⟩

/-- Every batch has its response, and its times could be converted. -/
def BatchesAnswered (store : TelemetryStore) : Prop :=
  ∀ batchId row, store.batches.get? batchId = some row →
    row.response.isSome = true ∧ row.payloadHash.samples.all (·.inUtc) = true

theorem BatchIngested.distinct
    (new : BatchIngested settings payload now store response store' all)
    (distinct : ReceiptsDistinct store) : ReceiptsDistinct store' := by
  obtain ⟨opened, receipts, -, ingests⟩ := new.ingests
  have before : ReceiptsDistinct opened := distinct.congr (congrArg _ receipts)
  refine (before.ingests ingests).congr ?_
  rw [new.receipts, recordAll_receipts, receipts]

theorem BatchIngested.answered
    (new : BatchIngested settings payload now store response store' all)
    (answered : BatchesAnswered store) : BatchesAnswered store' := by
  refine new.forall_batches (fun row hash answer _ => ?_) answered
  rw [answer, hash]
  exact ⟨rfl, new.times⟩

structure StoredOnce (history : Historian) : Prop where
  distinct : ReceiptsDistinct history.store
  sampleIds : history.ingested.map (·.2.sampleId) =
    history.store.receipts.rows.map (·.sampleId)
  sequences : history.ingested.map (·.2.sequenceKey) =
    history.store.receipts.rows.map (·.sequenceKey)
  answered : BatchesAnswered history.store

theorem StoredOnce.start (signals : Dictionary String SignalDefinition)
    (equipment : List String) : StoredOnce (.start signals equipment) where
  distinct := ⟨List.nodup_nil, List.nodup_nil⟩
  sampleIds := rfl
  sequences := rfl
  answered batchId row found := by cases found

theorem StoredOnce.kept (once : StoredOnce history)
    (measurements : history'.store.measurements.entries ⊆ history.store.measurements.entries)
    (ingested : history'.ingested = history.ingested ++
      insertedSince history.store.measurements history'.store.measurements)
    (receipts : history'.store.receipts = history.store.receipts)
    (batches : history'.store.batches = history.store.batches) : StoredOnce history' := by
  rw [insertedSince_subset measurements, List.append_nil] at ingested
  exact {
    distinct := once.distinct.congr (congrArg _ receipts)
    sampleIds := by rw [ingested, receipts, once.sampleIds]
    sequences := by rw [ingested, receipts, once.sequences]
    answered := by
      unfold BatchesAnswered
      rw [batches]
      exact once.answered }

theorem RetentionEffect.frame {reply : RetentionReply}
    (effect : RetentionEffect settings now store store' reply) :
    store'.measurements.entries ⊆ store.measurements.entries ∧
      store'.receipts = store.receipts ∧ store'.batches = store.batches := by
  cases effect with
  | completed coverage passed covered after =>
    refine ⟨?_, after.receipts, after.batches⟩
    rw [after.measurements]
    exact fun entry member => List.mem_of_mem_filter member
  | failed fault raised uncovered after =>
    refine ⟨?_, after.receipts, after.batches⟩
    rw [after.measurements]
    exact List.Subset.refl _

theorem StoredOnce.ingested (once : StoredOnce history)
    (new : BatchIngested settings payload now history.store response history'.store all)
    (inserted : history'.ingested = history.ingested ++
      insertedSince history.store.measurements history'.store.measurements) :
    StoredOnce history' := by
  exact {
    distinct := new.distinct once.distinct
    sampleIds := by
      have own : (insertedSince history.store.measurements history'.store.measurements).map
          (·.2.sampleId) = all.map (·.sample.sampleId) := by
        have rows := congrArg (List.map (·.sampleId)) new.inserted
        rw [List.map_map, List.map_map] at rows
        exact rows
      rw [inserted, List.map_append, once.sampleIds, own, new.receipts, List.map_append,
        List.map_map]
      rfl
    sequences := by
      have own : (insertedSince history.store.measurements history'.store.measurements).map
          (·.2.sequenceKey) = all.map fun stored =>
            (payload.sourceId, stored.sample.signalCode, stored.sample.sequenceNo) := by
        have rows := congrArg (List.map (·.sequenceKey)) new.inserted
        rw [List.map_map, List.map_map] at rows
        exact rows
      rw [inserted, List.map_append, once.sequences, own, new.receipts, List.map_append,
        List.map_map]
      rfl
    answered := new.answered once.answered }

theorem StoredOnce.step (once : StoredOnce history)
    (h : (historian settings).attempt call history = .ok (reply, history')) :
    StoredOnce history' := by
  obtain ⟨effect, ingested⟩ := historian_effect h
  generalize same : history'.store = after at effect
  cases effect with
  | replayed payload actor now response again =>
    have left := again.same
    subst left
    refine once.kept ?_ ingested ?_ ?_
    · rw [same]
      exact List.Subset.refl _
    · rw [same]
    · rw [same]
  | ingested payload actor now response all new =>
    subst same
    exact once.ingested new ingested
  | retained reason actor now reply effect =>
    subst same
    obtain ⟨measurements, receipts, batches⟩ := effect.frame
    exact once.kept measurements ingested receipts batches
  | registered signals equipment =>
    refine once.kept ?_ ingested ?_ ?_
    · rw [same]
      exact List.Subset.refl _
    · rw [same]
    · rw [same]

theorem StoredOnce.run (signals : Dictionary String SignalDefinition) (equipment : List String)
    (calls : List TelemetryCall) :
    StoredOnce ((historian settings).run (.start signals equipment) calls) :=
  Authority.invariant (fun once h => once.step h) calls (.start signals equipment)

variable {sample : TelemetrySample} {actor : String}

/-- A sample whose identifier or whose sequence number is that of other measured values. -/
def SampleConflict (store : TelemetryStore) (sourceId : String) (sample : TelemetrySample) :
    Prop :=
  (∃ receipt, store.receiptOf sample.sampleId = some receipt ∧
    receipt.payloadHash ≠ sample.identity) ∨
  store.receiptOf sample.sampleId = none ∧
    ∃ receipt, store.sequenceOwner sourceId sample.signalCode sample.sequenceNo = some receipt

/-- A batch whose identifier is that of another one, or a new batch with such a sample. -/
def IdentityConflict (store : TelemetryStore) (payload : TelemetryBatch) : Prop :=
  (∃ row, store.batches.get? payload.batchId = some row ∧ row.payloadHash ≠ payload.identity) ∨
  store.batches.get? payload.batchId = none ∧
    ∃ sample ∈ payload.samples, SampleConflict store payload.sourceId sample

theorem receiptOf_record {sampleId : String} (other : sampleId ≠ stored.sample.sampleId) :
    (store.record payload now stored).receiptOf sampleId = store.receiptOf sampleId := by
  have skip : [stored.receipt payload].find? (fun receipt => receipt.sampleId = sampleId) =
      none := by
    simpa [StoredSample.receipt] using fun same => other same.symm
  unfold TelemetryStore.receiptOf
  rw [record_receipts, List.find?_append, skip, Option.or_none]

theorem sequenceOwner_record {sourceId signalCode : String}
    {receipt : Receipt}
    (owned : store.sequenceOwner sourceId signalCode sequenceNo = some receipt) :
    (store.record payload now stored).sequenceOwner sourceId signalCode sequenceNo =
      some receipt := by
  unfold TelemetryStore.sequenceOwner at owned ⊢
  rw [record_receipts, List.find?_append, owned, Option.some_or]

theorem SampleConflict.record (conflict : SampleConflict store payload.sourceId sample)
    (other : sample.sampleId ≠ stored.sample.sampleId) :
    SampleConflict (store.record payload now stored) payload.sourceId sample := by
  rcases conflict with ⟨receipt, found, different⟩ | ⟨fresh, receipt, owned⟩
  · exact .inl ⟨receipt, (receiptOf_record other).trans found, different⟩
  · exact .inr ⟨(receiptOf_record other).trans fresh, receipt, sequenceOwner_record owned⟩

theorem Ingests.no_conflict (ingests : Ingests settings payload now store samples all store')
    (distinct : (samples.map (·.sampleId)).Nodup) :
    ∀ sample ∈ samples, ¬ SampleConflict store payload.sourceId sample := by
  induction ingests with
  | nil => exact fun sample none => absurd none List.not_mem_nil
  | repeated receipt found same rest ih =>
    rw [List.map_cons, List.nodup_cons] at distinct
    intro sample member
    rcases List.mem_cons.mp member with rfl | h
    · rintro (⟨other, there, different⟩ | ⟨fresh, -⟩)
      · rw [found] at there
        cases there
        exact different same
      · rw [found] at fresh
        cases fresh
    · exact ih distinct.2 sample h
  | @stored store _ _ _ stored first rest ih =>
    rw [List.map_cons, List.nodup_cons] at distinct
    intro sample member conflict
    rcases List.mem_cons.mp member with rfl | h
    · rcases conflict with ⟨other, there, -⟩ | ⟨-, receipt, owned⟩
      · rw [first.fresh] at there
        cases there
      · rw [first.unowned] at owned
        cases owned
    · have other : sample.sampleId ≠ stored.sample.sampleId :=
        fun same => distinct.1 (same ▸ List.mem_map_of_mem h)
      exact ih distinct.2 sample h (conflict.record other)

theorem SampleConflict.congr {sourceId : String} (same : store'.receipts = store.receipts)
    (conflict : SampleConflict store sourceId sample) :
    SampleConflict store' sourceId sample := by
  unfold SampleConflict TelemetryStore.receiptOf TelemetryStore.sequenceOwner at conflict ⊢
  rw [same]
  exact conflict

theorem ingestBatch_conflict (valid : payload.Valid) (conflict : IdentityConflict store payload) :
    ∃ fault, ingestBatch settings payload actor now store = .error fault := by
  cases h : ingestBatch settings payload actor now store with
  | error fault => exact ⟨fault, rfl⟩
  | ok result =>
    exfalso
    rcases ingestBatch_cases h with ⟨-, again⟩ | ⟨-, all, new⟩
    · obtain ⟨row, before, found, hash, -⟩ := again.committed
      rcases conflict with ⟨other, there, different⟩ | ⟨absent, -⟩
      · rw [found] at there
        cases there
        exact different hash
      · rw [found] at absent
        cases absent
    · rcases conflict with ⟨other, there, -⟩ | ⟨-, sample, member, conflict⟩
      · rw [new.absent] at there
        cases there
      · obtain ⟨opened, receipts, -, ingests⟩ := new.ingests
        exact ingests.no_conflict valid.sampleIds sample member (conflict.congr receipts)

theorem ingestBatch_replay (answered : BatchesAnswered store) {row : BatchRow}
    (found : store.batches.get? payload.batchId = some row)
    (same : row.payloadHash = payload.identity) : ∃ response, row.response = some response ∧
      ingestBatch settings payload actor now store =
        .ok (({ response with idempotentReplay := true }, true), store) := by
  obtain ⟨answer, times⟩ := answered _ _ found
  obtain ⟨response, stored⟩ := Option.isSome_iff_exists.mp answer
  have converted : payload.samples.all (·.inUtc) = true := by
    rw [same] at times
    exact times
  refine ⟨response, stored, ?_⟩
  unfold ingestBatch
  rw [found]
  simp only [check, converted, same, stored, if_true, orFault, ok_bind]

structure CountsBatch (payload : TelemetryBatch) (before : TelemetryStore)
    (response : TelemetryResponse) (after : TelemetryStore) : Prop where
  counts : response.counts.good + response.counts.uncertain + response.counts.bad +
    response.counts.duplicate = payload.samples.length
  committed : ∃ row, after.batches.get? payload.batchId = some row ∧
    row.payloadHash = payload.identity ∧ row.response = some response
  events : ∃ events, after.qualityEvents.rows = before.qualityEvents.rows ++ events ∧
    events.map (fun event => (event.sampleId, event.sourceId, event.signalCode, event.quality,
      event.reason)) =
    (((insertedSince before.measurements after.measurements).map Prod.snd).filter
      (·.quality ≠ .good)).map fun row =>
        (row.sampleId, row.sourceId, row.signalCode, row.quality, row.reason)

theorem BatchIngested.countsBatch {response : TelemetryResponse}
    (new : BatchIngested settings payload now store response store' all) :
    CountsBatch payload store response store' where
  counts := new.total
  committed := by
    obtain ⟨row, hash, answer, -, rows⟩ := new.row
    exact ⟨row, by rw [rows, if_pos rfl], hash, answer⟩
  events := by
    refine ⟨_, new.events, ?_⟩
    rw [new.inserted, List.filter_map, List.map_map, List.map_map]
    rfl

/-- Telemetry is stored exactly once: over any run no sample and no sequence number is inserted
twice, a batch that has been committed is answered again without a change, a conflict changes
nothing, and a new batch counts each of its samples. -/
theorem telemetry_stored_once (settings : HistorianSettings)
    (signals : Dictionary String SignalDefinition) (equipment : List String)
    (calls : List TelemetryCall) (payload : TelemetryBatchIn) (actor : String)
    (now : Timestamp) :
    let history := (historian settings).run (.start signals equipment) calls
    let call := TelemetryCall.ingest payload actor now
    (history.ingested.map (·.2.sampleId)).Nodup ∧
      (history.ingested.map (·.2.sequenceKey)).Nodup ∧
      (∀ row, history.store.batches.get? payload.1.batchId = some row →
        row.payloadHash = payload.1.identity → ∃ response, row.response = some response ∧
          ingestBatch settings payload.1 actor now history.store =
            .ok (({ response with idempotentReplay := true }, true), history.store)) ∧
      (IdentityConflict history.store payload.1 →
        ((historian settings).serve history call).store = history.store) ∧
      ∀ response after, history.store.batches.get? payload.1.batchId = none →
        ingestBatch settings payload.1 actor now history.store = .ok (response, after) →
          response.2 = false ∧ CountsBatch payload.1 history.store response.1 after := by
  intro history call
  have once : StoredOnce history := .run signals equipment calls
  refine ⟨?_, ?_, ?_, ?_, ?_⟩
  · rw [once.sampleIds]
    exact once.distinct.sampleIds
  · rw [once.sequences]
    exact once.distinct.sequences
  · intro row found same
    exact ingestBatch_replay once.answered found same
  · intro conflict
    obtain ⟨fault, raised⟩ : ∃ fault, ingestBatch settings payload.1 actor now history.store =
        .error fault := ingestBatch_conflict payload.2 conflict
    have refused : (historian settings).attempt call history = .error fault := by
      simp only [historian, dataPlatform, call, raised]
      rfl
    unfold Authority.serve
    rw [refused]
  · intro response after absent ingest
    rcases ingestBatch_cases ingest with ⟨-, again⟩ | ⟨plain, all, new⟩
    · obtain ⟨row, _, found, -⟩ := again.committed
      rw [found] at absent
      cases absent
    · exact ⟨plain, new.countsBatch⟩

end MiniOgas
