import MiniOgas.TelemetryQuality
import MiniOgas.TwoRuns

namespace MiniOgas

open Relational Serial TwoRuns

structure NodePrincipal where
  name : String
  nodeCode : String
  bound : nodeCode ≠ ""

inductive IngestFault where
  | forbidden (detail : String)
  | telemetry (fault : TelemetryFault)

/-- `assert_node_resource_access`, of a principal that is bound. -/
def assertNodeResourceAccess (actor : NodePrincipal) (nodeCode : String) :
    Except IngestFault Unit :=
  check (actor.nodeCode = nodeCode) (.forbidden "node credential cannot access another node")

structure IngestCall where
  actor : NodePrincipal
  payload : TelemetryBatchIn
  now : Timestamp

/-- The route `ingest_batch`. -/
def ingestRoute (settings : HistorianSettings) :
    Authority IngestCall TelemetryStore (TelemetryResponse × Bool) IngestFault where
  attempt call store := do
    assertNodeResourceAccess call.actor call.payload.1.sourceId
    (ingestBatch settings call.payload.1 call.actor.name call.now store).mapError .telemetry

def SampleReport.unnumbered : SampleReport → SampleReport
  | .stored _ sampleId signalCode quality reason => .stored 0 sampleId signalCode quality reason
  | .duplicate sampleId signalCode => .duplicate sampleId signalCode

def TelemetryResponse.unnumbered (response : TelemetryResponse) : TelemetryResponse :=
  { response with samples := response.samples.map (·.unnumbered) }

def BatchRow.unnumbered (row : BatchRow) : BatchRow :=
  { row with response := row.response.map (·.unnumbered) }

/-- Answers that differ in the identifiers of measurements at most. -/
def SameReply (reply other : TelemetryResponse × Bool) : Prop :=
  reply.1.unnumbered = other.1.unnumbered ∧ reply.2 = other.2

structure SameRows (node : String) (store other : TelemetryStore) : Prop where
  measurements : store.measurements.rows.filter (·.sourceId = node) =
    other.measurements.rows.filter (·.sourceId = node)
  receipts : store.receipts.rows.filter (·.sourceId = node) =
    other.receipts.rows.filter (·.sourceId = node)
  qualityEvents : store.qualityEvents.rows.filter (·.sourceId = node) =
    other.qualityEvents.rows.filter (·.sourceId = node)

def IngestCall.of (node : String) (call : IngestCall) : Bool := call.actor.nodeCode = node

structure Unspoiled (settings : HistorianSettings) (node : String) (start : TelemetryStore)
    (calls : List IngestCall) : Prop where
  answers : List.Forall₂ (Alike SameReply)
    (answersTo (ingestRoute settings) (IngestCall.of node) start calls)
    (answersTo (ingestRoute settings) (IngestCall.of node) start
      (calls.filter (IngestCall.of node)))
  rows : SameRows node ((ingestRoute settings).run start calls)
    ((ingestRoute settings).run start (calls.filter (IngestCall.of node)))

structure KeepsApart (store : TelemetryStore) (payload : TelemetryBatch) : Prop where
  batch : ∀ row, store.batches.get? payload.batchId = some row →
    row.sourceId = payload.sourceId
  samples : store.batches.get? payload.batchId = none → ∀ sample ∈ payload.samples,
    ∀ receipt, store.receiptOf sample.sampleId = some receipt →
      receipt.sourceId = payload.sourceId

def CallApart (store : TelemetryStore) (call : IngestCall) : Prop :=
  call.payload.1.sourceId = call.actor.nodeCode → KeepsApart store call.payload.1

structure Mirrors (node : String) (store other : TelemetryStore) : Prop where
  signals : other.signals = store.signals
  equipment : other.equipment = store.equipment
  batches : ∀ batchId, (other.batches.get? batchId).map BatchRow.unnumbered =
    ((store.batches.get? batchId).filter (·.sourceId = node)).map BatchRow.unnumbered
  receipts : other.receipts.rows = store.receipts.rows.filter (·.sourceId = node)
  measurements : other.measurements.rows = store.measurements.rows.filter (·.sourceId = node)
  qualityEvents : other.qualityEvents.rows =
    store.qualityEvents.rows.filter (·.sourceId = node)

section Laws

variable {settings : HistorianSettings} {node : String} {payload : TelemetryBatch}
  {now : Timestamp} {actor : String} {sample : TelemetrySample}
  {store store' other : TelemetryStore} {loop loop' : IngestLoop} {stored : StoredSample}
  {definition : SignalDefinition} {samples : List TelemetrySample} {response : TelemetryResponse}
  {all : List StoredSample} {reply : TelemetryResponse × Bool}

theorem find?_filter_of_found {α : Type} {p q : α → Bool} {xs : List α}
    (found : ∀ x, xs.find? q = some x → p x = true) : (xs.filter p).find? q = xs.find? q := by
  induction xs with
  | nil => rfl
  | cons x xs ih =>
    cases own : q x with
    | true =>
      have first : (x :: xs).find? q = some x := List.find?_cons_of_pos own
      rw [first, List.filter_cons_of_pos (found x first), List.find?_cons_of_pos own]
    | false =>
      have later : (x :: xs).find? q = xs.find? q := List.find?_cons_of_neg (by simp [own])
      rw [later] at found ⊢
      rw [← ih found, List.filter_cons]
      split
      next => rw [List.find?_cons_of_neg (by simp [own])]
      next => rfl

theorem Mirrors.sameRows (mirrors : Mirrors node store other) : SameRows node store other := by
  constructor
  · rw [mirrors.measurements, List.filter_filter]
    simp
  · rw [mirrors.receipts, List.filter_filter]
    simp
  · rw [mirrors.qualityEvents, List.filter_filter]
    simp

theorem Mirrors.start (node : String) (signals : Dictionary String SignalDefinition)
    (equipment : List String) :
    Mirrors node (.registered signals equipment) (.registered signals equipment) :=
  ⟨rfl, rfl, fun _ => rfl, rfl, rfl, rfl⟩

theorem Mirrors.activeSignal (mirrors : Mirrors node store other) (signalCode : String) :
    other.activeSignal signalCode = store.activeSignal signalCode := by
  unfold TelemetryStore.activeSignal
  rw [mirrors.signals]

theorem Mirrors.receiptOf (mirrors : Mirrors node store other) {sampleId : String}
    (own : ∀ receipt, store.receiptOf sampleId = some receipt → receipt.sourceId = node) :
    other.receiptOf sampleId = store.receiptOf sampleId := by
  unfold TelemetryStore.receiptOf at own ⊢
  rw [mirrors.receipts]
  exact find?_filter_of_found fun receipt found => by simpa using own receipt found

theorem Mirrors.sequenceOwner (mirrors : Mirrors node store other) (signalCode : String)
    (sequenceNo : Nat) :
    other.sequenceOwner node signalCode sequenceNo =
      store.sequenceOwner node signalCode sequenceNo := by
  unfold TelemetryStore.sequenceOwner
  rw [mirrors.receipts]
  refine find?_filter_of_found fun receipt found => ?_
  have owned := List.find?_some found
  have source : receipt.sourceId = node := congrArg Prod.fst (Receipt.owns_iff.mp owned)
  simpa using source

theorem Mirrors.maximumSequence (mirrors : Mirrors node store other) (signalCode : String) :
    other.maximumSequence node signalCode = store.maximumSequence node signalCode := by
  have same : ∀ receipt : Receipt, (receipt.sourceId = node && receipt.signalCode = signalCode &&
      receipt.sourceId = node) = (receipt.sourceId = node && receipt.signalCode = signalCode) := by
    intro receipt
    by_cases source : receipt.sourceId = node <;> simp [source]
  unfold TelemetryStore.maximumSequence
  rw [mirrors.receipts, List.filter_filter, List.filter_congr fun receipt _ => same receipt]

theorem rows_insert {α : Type} (table : SerialTable α) (row : α) :
    (table.insert row).rows = table.rows ++ [row] := by
  unfold SerialTable.rows SerialTable.insert
  rw [List.map_append]
  rfl

theorem record_measurements : (store.record payload now stored).measurements.rows =
    store.measurements.rows ++ [stored.measurement payload now] :=
  rows_insert _ _

theorem record_qualityEvents : (store.record payload now stored).qualityEvents.rows =
    if stored.classification.quality = .good then store.qualityEvents.rows
    else store.qualityEvents.rows ++ [stored.event payload now] := by
  unfold TelemetryStore.record
  split <;> rfl

theorem Mirrors.record (mirrors : Mirrors node store other) (source : payload.sourceId = node) :
    Mirrors node (store.record payload now stored) (other.record payload now stored) := by
  refine ⟨mirrors.signals, mirrors.equipment, mirrors.batches, ?_, ?_, ?_⟩
  · simp [record_receipts, mirrors.receipts, StoredSample.receipt, source]
  · simp [record_measurements, mirrors.measurements, StoredSample.measurement, source]
  · simp only [record_qualityEvents, mirrors.qualityEvents]
    split <;> simp [StoredSample.event, source]

structure LoopsMirror (payload : TelemetryBatch) (samples : List TelemetrySample)
    (loop loop' : IngestLoop) : Prop where
  stores : Mirrors payload.sourceId loop.store loop'.store
  counts : loop.counts = loop'.counts
  accepted : loop.accepted.map (·.unnumbered) = loop'.accepted.map (·.unnumbered)
  own : ∀ sample ∈ samples, ∀ receipt, loop.store.receiptOf sample.sampleId = some receipt →
    receipt.sourceId = payload.sourceId

theorem receiptOf_record_own {sampleId : String} {receipt : Receipt}
    (own : ∀ receipt, store.receiptOf sampleId = some receipt →
      receipt.sourceId = payload.sourceId)
    (found : (store.record payload now stored).receiptOf sampleId = some receipt) :
    receipt.sourceId = payload.sourceId := by
  unfold TelemetryStore.receiptOf at own found
  rw [record_receipts, List.find?_append] at found
  rcases Option.or_eq_some_iff.mp found with old | ⟨-, new⟩
  · exact own receipt old
  · have member := List.mem_of_find?_eq_some new
    rw [List.mem_singleton.mp member]
    rfl

theorem alike_storeSample (mirror : LoopsMirror payload (sample :: samples) loop loop') :
    Alike (LoopsMirror payload samples) (storeSample settings payload now definition sample loop)
      (storeSample settings payload now definition sample loop') := by
  unfold storeSample
  rw [mirror.stores.sequenceOwner, mirror.stores.maximumSequence]
  refine (alike_eq _).bind fun _ _ _ => ?_
  refine (alike_eq _).bind fun _ _ _ => ?_
  refine (alike_eq _).bind fun classification _ same => ?_
  subst same
  refine (alike_eq _).bind fun columns _ same => ?_
  subst same
  refine (alike_eq _).bind fun _ _ _ => ?_
  refine .ok ⟨mirror.stores.record rfl, ?_, ?_, ?_⟩
  · exact congrArg (fun counts : QualityCounts => counts.count classification.quality)
      mirror.counts
  · unfold IngestLoop.record
    rw [List.map_append, List.map_append, mirror.accepted]
    rfl
  · intro other member receipt found
    exact receiptOf_record_own (mirror.own other (List.mem_cons_of_mem _ member)) found

theorem alike_ingestSample (mirror : LoopsMirror payload (sample :: samples) loop loop') :
    Alike (LoopsMirror payload samples) (ingestSample settings payload now loop sample)
      (ingestSample settings payload now loop' sample) := by
  unfold ingestSample
  rw [mirror.stores.activeSignal]
  refine (alike_eq _).bind fun definition _ same => ?_
  subst same
  rw [mirror.stores.receiptOf (mirror.own sample List.mem_cons_self)]
  cases loop.store.receiptOf sample.sampleId with
  | some receipt =>
    refine (alike_eq _).bind fun _ _ _ => ?_
    refine .ok ⟨mirror.stores, ?_, ?_, ?_⟩
    · exact congrArg (fun counts : QualityCounts =>
        { counts with duplicate := counts.duplicate + 1 }) mirror.counts
    · unfold IngestLoop.repeat
      rw [List.map_append, List.map_append, mirror.accepted]
    · exact fun other member => mirror.own other (List.mem_cons_of_mem _ member)
  | none => exact alike_storeSample mirror

theorem Mirrors.setBatch (mirrors : Mirrors node store other) (batchId : String)
    {row row' : BatchRow} (source : row.sourceId = node) (same : row'.unnumbered = row.unnumbered) :
    Mirrors node { store with batches := store.batches.set batchId row }
      { other with batches := other.batches.set batchId row' } := by
  refine { mirrors with batches := fun id => ?_ }
  rw [Dictionary.get?_set, Dictionary.get?_set]
  split
  next => simp [Option.filter, source, same]
  next => exact mirrors.batches id

theorem alike_orFault {α β Fault : Type} {f : α → β} {x y : Option α} (same : x.map f = y.map f)
    (fault : Fault) : Alike (fun a b => f a = f b) (orFault x fault) (orFault y fault) := by
  cases x with
  | none =>
    cases y with
    | none => exact .error fault
    | some => cases same
  | some a =>
    cases y with
    | none => cases same
    | some b => exact .ok (Option.some.inj same)

theorem alike_ingestNew (mirrors : Mirrors payload.sourceId store other)
    (own : ∀ sample ∈ payload.samples, ∀ receipt,
      store.receiptOf sample.sampleId = some receipt → receipt.sourceId = payload.sourceId) :
    Alike (fun x y : TelemetryResponse × TelemetryStore =>
        x.1.unnumbered = y.1.unnumbered ∧ Mirrors payload.sourceId x.2 y.2)
      (ingestNew settings payload actor now store)
      (ingestNew settings payload actor now other) := by
  refine (alike_check (by rw [mirrors.equipment]) _).bind fun _ _ _ => ?_
  have opened : Mirrors payload.sourceId
      { store with batches := store.batches.set payload.batchId (batchRow payload actor now) }
      { other with batches := other.batches.set payload.batchId (batchRow payload actor now) } :=
    mirrors.setBatch payload.batchId rfl rfl
  have loops : LoopsMirror payload payload.samples
      { store := { store with
          batches := store.batches.set payload.batchId (batchRow payload actor now) } }
      { store := { other with
          batches := other.batches.set payload.batchId (batchRow payload actor now) } } :=
    ⟨opened, rfl, rfl, own⟩
  have rounds := alike_foldlM (I := LoopsMirror payload) (f := ingestSample settings payload now)
    (g := ingestSample settings payload now) (fun _ _ _ _ mirror => alike_ingestSample mirror)
    loops
  refine rounds.bind fun loop loop' mirror => ?_
  have response : (loop.response payload now).unnumbered =
      (loop'.response payload now).unnumbered := by
    unfold IngestLoop.response TelemetryResponse.unnumbered
    rw [mirror.counts]
    rw [mirror.accepted]
  refine .ok ⟨response, mirror.stores.setBatch payload.batchId rfl ?_⟩
  unfold BatchRow.unnumbered
  simp [response]

theorem alike_ingestBatch (mirrors : Mirrors payload.sourceId store other)
    (apart : KeepsApart store payload) :
    Alike (fun x y : (TelemetryResponse × Bool) × TelemetryStore =>
        SameReply x.1 y.1 ∧ Mirrors payload.sourceId x.2 y.2)
      (ingestBatch settings payload actor now store)
      (ingestBatch settings payload actor now other) := by
  have batches := mirrors.batches payload.batchId
  refine (alike_eq _).bind fun _ _ _ => ?_
  cases found : store.batches.get? payload.batchId with
  | some row =>
    have source := apart.batch row found
    rw [found] at batches
    have kept : (some row).filter (fun row : BatchRow => row.sourceId = payload.sourceId) =
        some row := by simp [Option.filter, source]
    rw [kept] at batches
    obtain ⟨row', found', same⟩ := Option.map_eq_some_iff.mp batches
    rw [found']
    have hash : row'.unnumbered.payloadHash = row.unnumbered.payloadHash := by rw [same]
    have answered : row'.unnumbered.response = row.unnumbered.response := by rw [same]
    have digest : row'.payloadHash = row.payloadHash := hash
    dsimp only
    rw [digest]
    refine (alike_eq _).bind fun _ _ _ => ?_
    refine (alike_orFault answered.symm _).bind fun response response' equal => ?_
    refine .ok ⟨⟨?_, rfl⟩, mirrors⟩
    have again : { response.unnumbered with idempotentReplay := true } =
        { response'.unnumbered with idempotentReplay := true } := by rw [equal]
    exact again
  | none =>
    rw [found] at batches
    have absent : other.batches.get? payload.batchId = none := by
      cases given : other.batches.get? payload.batchId with
      | none => rfl
      | some row =>
        rw [given] at batches
        cases batches
    rw [absent]
    refine (alike_ingestNew mirrors (apart.samples found)).bind fun x y both => ?_
    exact .ok ⟨⟨both.1, rfl⟩, both.2⟩

structure Sourced (store : TelemetryStore) : Prop where
  distinct : ReceiptsDistinct store
  batches : ∀ batchId row, store.batches.get? batchId = some row →
    row.payloadHash.sourceId = row.sourceId

theorem BatchIngested.sourced
    (new : BatchIngested settings payload now store response store' all)
    (sourced : Sourced store) : Sourced store' where
  distinct := new.distinct sourced.distinct
  batches := new.forall_batches
    (fun row hash _ source => by rw [hash, source]; rfl) sourced.batches

theorem rows_of_appended {α : Type} {table table' : SerialTable α} {rows : List (Nat × α)}
    (entries : table'.entries = table.entries ++ rows) :
    table'.rows = table.rows ++ rows.map Prod.snd := by
  unfold SerialTable.rows
  rw [entries, List.map_append]

theorem BatchIngested.mirrors
    (new : BatchIngested settings payload now store response store' all)
    (source : payload.sourceId ≠ node) (mirrors : Mirrors node store other) :
    Mirrors node store' other := by
  obtain ⟨row, -, -, own, rows⟩ := new.row
  refine ⟨mirrors.signals.trans new.frame.1.symm, mirrors.equipment.trans new.frame.2.1.symm,
    fun batchId => ?_, ?_, ?_, ?_⟩
  · rw [mirrors.batches, rows]
    split
    next same => simp [same, new.absent, Option.filter, own, source]
    next => rfl
  · simp [new.receipts, mirrors.receipts, StoredSample.receipt, source]
  · rw [rows_of_appended new.entries, new.inserted]
    simp [mirrors.measurements, StoredSample.measurement, source]
  · simp only [new.events, mirrors.qualityEvents, List.filter_append, List.filter_map]
    simp [Function.comp_def, StoredSample.event, source]

variable {call : IngestCall}

theorem ingestRoute_eq_ok (h : (ingestRoute settings).attempt call store = .ok (reply, store')) :
    call.actor.nodeCode = call.payload.1.sourceId ∧
      ingestBatch settings call.payload.1 call.actor.name call.now store =
        .ok (reply, store') := by
  obtain ⟨_, access, h⟩ := of_bind h
  refine ⟨check_eq_ok.mp access, ?_⟩
  generalize ingestBatch settings call.payload.1 call.actor.name call.now store = x at h
  cases x with
  | ok result => exact congrArg Except.ok (Except.ok.inj h)
  | error fault => cases h

theorem Sourced.serve (sourced : Sourced store) (call : IngestCall) :
    Sourced ((ingestRoute settings).serve store call) := by
  rcases (ingestRoute settings).serve_cases store call with same | ⟨reply, h⟩
  · rw [same]
    exact sourced
  · obtain ⟨-, ingest⟩ := ingestRoute_eq_ok h
    rcases ingestBatch_cases ingest with ⟨-, again⟩ | ⟨-, all, new⟩
    · rw [again.same]
      exact sourced
    · exact new.sourced sourced

structure RunsMirror (node : String) (store other : TelemetryStore) : Prop where
  mirrors : Mirrors node store other
  sourced : Sourced store

theorem RunsMirror.unseen (runs : RunsMirror node store other)
    (others : call.of node = false) :
    RunsMirror node ((ingestRoute settings).serve store call) other := by
  refine ⟨?_, runs.sourced.serve call⟩
  have different : call.actor.nodeCode ≠ node := by simpa [IngestCall.of] using others
  rcases (ingestRoute settings).serve_cases store call with same | ⟨reply, h⟩
  · rw [same]
    exact runs.mirrors
  · obtain ⟨own, ingest⟩ := ingestRoute_eq_ok h
    rcases ingestBatch_cases ingest with ⟨-, again⟩ | ⟨-, all, new⟩
    · rw [again.same]
      exact runs.mirrors
    · exact new.mirrors (own ▸ different) runs.mirrors

theorem RunsMirror.seen (runs : RunsMirror node store other) (own : call.of node = true)
    (apart : CallApart store call) :
    Alike (fun x y : (TelemetryResponse × Bool) × TelemetryStore =>
        SameReply x.1 y.1 ∧ RunsMirror node x.2 y.2)
      ((ingestRoute settings).attempt call store) ((ingestRoute settings).attempt call other) := by
  by_cases source : call.actor.nodeCode = call.payload.1.sourceId
  · have same : call.payload.1.sourceId = node := by
      rw [← source]
      simpa [IngestCall.of] using own
    have mirrors : Mirrors call.payload.1.sourceId store other := same ▸ runs.mirrors
    have batches := @alike_ingestBatch settings call.payload.1 call.now call.actor.name store other
      mirrors (apart source.symm)
    have alike : Alike (fun x y : (TelemetryResponse × Bool) × TelemetryStore =>
        SameReply x.1 y.1 ∧ Mirrors node x.2 y.2)
        ((ingestRoute settings).attempt call store)
        ((ingestRoute settings).attempt call other) := by
      rw [same] at batches
      exact (alike_eq _).bind fun _ _ _ => batches.mapError
    generalize attempted : (ingestRoute settings).attempt call store = x at alike ⊢
    generalize (ingestRoute settings).attempt call other = y at alike ⊢
    cases alike with
    | error fault => exact .error fault
    | @ok a b both =>
      have left := (ingestRoute settings).serve_of_ok attempted
      exact .ok ⟨both.1, both.2, left ▸ runs.sourced.serve call⟩
  · have refused : ∀ store, (ingestRoute settings).attempt call store =
        .error (.forbidden "node credential cannot access another node") := by
      intro store
      have access : assertNodeResourceAccess call.actor call.payload.1.sourceId =
          .error (.forbidden "node credential cannot access another node") := if_neg source
      unfold ingestRoute
      dsimp only
      rw [access]
      rfl
    rw [refused, refused]
    exact .error _

def SampleReport.repeated : SampleReport → Bool
  | .stored .. => false
  | .duplicate .. => true

theorem repeated_unnumbered (report : SampleReport) :
    report.unnumbered.repeated = report.repeated := by
  cases report <;> rfl

/-- The reports tell which samples have had a receipt. -/
def Tells (store : TelemetryStore) : List TelemetrySample → List SampleReport → Prop :=
  List.Forall₂ fun sample report =>
    report.repeated = (store.receiptOf sample.sampleId).isSome

theorem tells_record {reports : List SampleReport}
    (others : ∀ sample ∈ samples, sample.sampleId ≠ stored.sample.sampleId)
    (tells : Tells (store.record payload now stored) samples reports) :
    Tells store samples reports := by
  induction tells with
  | nil => exact .nil
  | cons first _ ih =>
    obtain ⟨other, others⟩ := List.forall_mem_cons.mp others
    rw [receiptOf_record other] at first
    exact .cons first (ih others)

theorem ingestSamples_tells (distinct : (samples.map (·.sampleId)).Nodup)
    (h : samples.foldlM (ingestSample settings payload now) loop = .ok loop') :
    ∃ reports, loop'.accepted = loop.accepted ++ reports ∧ Tells loop.store samples reports := by
  induction samples generalizing loop with
  | nil =>
    cases h
    exact ⟨[], (List.append_nil _).symm, .nil⟩
  | cons sample samples ih =>
    obtain ⟨mid, first, rest⟩ := of_bind h
    rw [List.map_cons, List.nodup_cons] at distinct
    obtain ⟨reports, accepted, tells⟩ := ih distinct.2 rest
    rcases ingestSample_cases first with ⟨rfl, receipt, found, -⟩ | ⟨stored, rfl, stores, rfl⟩
    · refine ⟨.duplicate sample.sampleId sample.signalCode :: reports, ?_, .cons ?_ tells⟩
      · rw [accepted, List.append_cons]
        rfl
      · rw [found]
        rfl
    · have others : ∀ sample ∈ samples, sample.sampleId ≠ stored.sample.sampleId := by
        intro sample member same
        exact distinct.1 (same ▸ List.mem_map_of_mem member)
      refine ⟨.stored (loop.store.measurements.seq + 1) stored.sample.sampleId
        stored.sample.signalCode stored.classification.quality stored.classification.reason ::
          reports, ?_, .cons ?_ (tells_record others tells)⟩
      · rw [accepted, List.append_cons]
        rfl
      · rw [stores.fresh]
        rfl

theorem ingestNew_tells (distinct : (payload.samples.map (·.sampleId)).Nodup)
    (h : ingestNew settings payload actor now store = .ok (response, store')) :
    Tells store payload.samples response.samples := by
  replace h := of_then h
  obtain ⟨loop, round, h⟩ := of_bind h
  cases h
  obtain ⟨reports, accepted, tells⟩ := ingestSamples_tells distinct round
  have all : (loop.response payload now).samples = reports := accepted
  rw [all]
  exact tells

theorem Tells.agree {reports reports' : List SampleReport} (tells : Tells store samples reports)
    (tells' : Tells other samples reports')
    (same : reports.map (·.unnumbered) = reports'.map (·.unnumbered)) :
    ∀ sample ∈ samples, (store.receiptOf sample.sampleId).isSome =
      (other.receiptOf sample.sampleId).isSome := by
  induction tells generalizing reports' with
  | nil => exact List.forall_mem_nil _
  | cons first _ ih =>
    cases tells' with
    | cons first' rest' =>
      rw [List.map_cons, List.map_cons] at same
      obtain ⟨head, tail⟩ := List.cons.inj same
      refine List.forall_mem_cons.mpr ⟨?_, ih rest' tail⟩
      rw [← first, ← first', ← repeated_unnumbered, head, repeated_unnumbered]

theorem Sourced.receipt_eq (sourced : Sourced store) {receipt other : Receipt}
    (one : receipt ∈ store.receipts.rows) (two : other ∈ store.receipts.rows)
    (same : receipt.sampleId = other.sampleId) : receipt = other :=
  List.inj_on_of_nodup_map sourced.distinct.sampleIds one two same

theorem keepsApart_of_answers (runs : RunsMirror node store other) (valid : payload.Valid)
    (source : payload.sourceId = node) {reply reply' : TelemetryResponse × Bool}
    {left left' : TelemetryStore}
    (ingest : ingestBatch settings payload actor now store = .ok (reply, left))
    (ingest' : ingestBatch settings payload actor now other = .ok (reply', left'))
    (same : SameReply reply reply') : KeepsApart store payload := by
  refine ⟨fun row found => ?_, fun absent sample member receipt found => ?_⟩
  · unfold ingestBatch at ingest
    replace ingest := of_then ingest
    rw [found] at ingest
    obtain ⟨_, hash, -⟩ := of_bind ingest
    rw [check_eq_ok] at hash
    have digest := runs.sourced.batches _ row found
    rw [hash] at digest
    exact digest.symm
  · have batches := runs.mirrors.batches payload.batchId
    rw [absent] at batches
    have none : other.batches.get? payload.batchId = none := Option.map_eq_none_iff.mp batches
    replace ingest := of_then ingest
    obtain ⟨_, -, ingest'⟩ := of_bind ingest'
    rw [absent] at ingest
    rw [none] at ingest'
    obtain ⟨⟨response, _⟩, new, ingest⟩ := of_bind ingest
    obtain ⟨⟨response', _⟩, new', ingest'⟩ := of_bind ingest'
    cases ingest
    cases ingest'
    have samples : response.unnumbered.samples = response'.unnumbered.samples := by
      rw [show response.unnumbered = response'.unnumbered from same.1]
    have agree := (ingestNew_tells valid.sampleIds new).agree
      (ingestNew_tells valid.sampleIds new') samples sample member
    rw [found] at agree
    obtain ⟨twin, there⟩ := Option.isSome_iff_exists.mp agree.symm
    have seen := List.mem_of_find?_eq_some there
    rw [runs.mirrors.receipts] at seen
    obtain ⟨stored, owned⟩ := List.mem_filter.mp seen
    have id : receipt.sampleId = sample.sampleId := by simpa using List.find?_some found
    have twinId : twin.sampleId = sample.sampleId := by simpa using List.find?_some there
    have equal := runs.sourced.receipt_eq (List.mem_of_find?_eq_some found) stored
      (id.trans twinId.symm)
    rw [equal, source]
    simpa using owned

theorem RunsMirror.apart (runs : RunsMirror node store other) (own : call.of node = true)
    (accepted : ((ingestRoute settings).attempt call store).isOk = true)
    (alike : Alike SameReply (answer (ingestRoute settings) store call)
      (answer (ingestRoute settings) other call)) : CallApart store call := by
  obtain ⟨⟨reply, left⟩, attempted⟩ := exists_ok accepted
  obtain ⟨access, ingest⟩ := ingestRoute_eq_ok attempted
  unfold answer at alike
  rw [attempted] at alike
  cases attempted' : (ingestRoute settings).attempt call other with
  | error fault =>
    rw [attempted'] at alike
    cases alike
  | ok result =>
    obtain ⟨reply', left'⟩ := result
    rw [attempted'] at alike
    obtain ⟨-, ingest'⟩ := ingestRoute_eq_ok attempted'
    have same : SameReply reply reply' := by
      cases alike with
      | ok related => exact related
    have source : call.payload.1.sourceId = node := by
      rw [← access]
      simpa [IngestCall.of] using own
    exact fun _ => keepsApart_of_answers runs call.payload.2 source ingest ingest' same

theorem RunsMirror.start (node : String) (signals : Dictionary String SignalDefinition)
    (equipment : List String) :
    RunsMirror node (.registered signals equipment) (.registered signals equipment) :=
  ⟨.start node signals equipment, ⟨List.nodup_nil, List.nodup_nil⟩, nofun⟩

/-- A node is not spoiled in the runs whose calls keep apart, and in those alone whose calls are
all accepted. -/
theorem telemetry_unspoiled (settings : HistorianSettings)
    (signals : Dictionary String SignalDefinition) (equipment : List String) (node : String)
    (calls : List IngestCall) :
    let start := TelemetryStore.registered signals equipment
    let apart := (ingestRoute settings).Along
      (fun store call => call.of node = true → CallApart store call) start calls
    (apart → Unspoiled settings node start calls) ∧
      ((ingestRoute settings).Along (fun store call => call.of node = true →
          ((ingestRoute settings).attempt call store).isOk = true) start calls →
        (Unspoiled settings node start calls ↔ apart)) := by
  intro start apart
  have init := RunsMirror.start node signals equipment
  have forward : apart → Unspoiled settings node start calls := by
    intro along
    obtain ⟨answers, ends⟩ := alike_answersTo (E := SameReply)
      (fun runs others => RunsMirror.unseen runs others)
      (fun runs own meets => RunsMirror.seen runs own meets) init along
    exact ⟨answers, ends.mirrors.sameRows⟩
  refine ⟨forward, fun accepted => ⟨fun unspoiled => ?_, forward⟩⟩
  exact along_of_answersTo (E := SameReply) (fun runs others => RunsMirror.unseen runs others)
    (fun runs own meets => RunsMirror.seen runs own meets)
    (fun runs own accepted alike => RunsMirror.apart runs own accepted alike) init accepted
    unspoiled.answers

end Laws

theorem first_bound : "N1" ≠ "" := by decide

theorem second_bound : "N2" ≠ "" := by decide

def firstNode : NodePrincipal := ⟨"N1", "N1", first_bound⟩

def secondNode : NodePrincipal := ⟨"N2", "N2", second_bound⟩

def readingBatch (batchId nodeCode : String) : TelemetryBatch :=
  { temperatureBatch batchId [temperatureSample 0 (.integer 20) 0] with sourceId := nodeCode }

theorem readingBatch_valid (batchId nodeCode : String) : (readingBatch batchId nodeCode).Valid where
  nonempty := List.cons_ne_nil _ _
  bounded := Nat.le_of_ble_eq_true rfl
  mapped sample member := by
    rw [List.mem_singleton.mp member]
    exact Int.one_pos
  sampleIds := List.nodup_singleton _
  sequences := List.nodup_singleton _

def sampleIngestCalls : List IngestCall :=
  [⟨firstNode, ⟨readingBatch "B1" "N1", readingBatch_valid "B1" "N1"⟩, 0⟩,
    ⟨secondNode, ⟨readingBatch "B2" "N2", readingBatch_valid "B2" "N2"⟩, 0⟩]

/-- A sample of one node is lost, as another node has sent one with its identifier and values. -/
theorem sample_of_another_lost : ¬ ∀ (settings : HistorianSettings)
    (signals : Dictionary String SignalDefinition) (equipment : List String) (node : String)
    (calls : List IngestCall),
    Unspoiled settings node (.registered signals equipment) calls := by
  intro h
  have rows := (h sampleHistorian (Dictionary.empty.set "TEMP" temperature) ["LATHE-01"] "N2"
    sampleIngestCalls).rows.measurements
  have lost : ((((ingestRoute sampleHistorian).run sampleTelemetryStore
      sampleIngestCalls).measurements.rows.filter (·.sourceId = "N2")).length = 0) := by
    decide +kernel
  have stored : ((((ingestRoute sampleHistorian).run sampleTelemetryStore
      (sampleIngestCalls.filter (IngestCall.of "N2"))).measurements.rows.filter
        (·.sourceId = "N2")).length = 1) := by
    decide +kernel
  have lengths := congrArg List.length rows
  unfold sampleTelemetryStore at lost stored
  omega

end MiniOgas
