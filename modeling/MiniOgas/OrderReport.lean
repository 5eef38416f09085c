import Mathlib.Data.Prod.Lex
import Mathlib.Data.String.Basic
import MiniOgas.Dictionary
import MiniOgas.OutboxSteps
import MiniOgas.TelemetryInput

namespace KeyedOrder

variable {κ ν : Type} [DecidableEq κ] [LinearOrder ν]

structure Comparison (κ ν : Type) where
  previous : Dictionary κ ν
  comparisons : Nat := 0
  descents : Nat := 0

def Comparison.next (comparison : Comparison κ ν) (item : κ × ν) : Comparison κ ν :=
  match comparison.previous.get? item.1 with
  | none => { comparison with previous := comparison.previous.set item.1 item.2 }
  | some last =>
    ⟨comparison.previous.set item.1 item.2, comparison.comparisons + 1,
      if item.2 < last then comparison.descents + 1 else comparison.descents⟩

def compareAll (items : List (κ × ν)) : Comparison κ ν :=
  items.foldl Comparison.next ⟨.empty, 0, 0⟩

/-- Neither an item nor the last value of its key is greater than a later one. -/
def Ascends (previous : Dictionary κ ν) (items : List (κ × ν)) : Prop :=
  (∀ item ∈ items, ∀ last, previous.get? item.1 = some last → last ≤ item.2) ∧
    items.Pairwise fun earlier later => earlier.1 = later.1 → earlier.2 ≤ later.2

variable {comparison : Comparison κ ν} {item : κ × ν} {items : List (κ × ν)}

@[simp] theorem next_previous :
    (comparison.next item).previous = comparison.previous.set item.1 item.2 := by
  unfold Comparison.next
  split <;> rfl

theorem descents_le_next : comparison.descents ≤ (comparison.next item).descents := by
  unfold Comparison.next
  split
  next => exact le_rfl
  next last _ =>
    dsimp only
    split <;> omega

theorem descents_le_foldl (comparison : Comparison κ ν) (items : List (κ × ν)) :
    comparison.descents ≤ (items.foldl Comparison.next comparison).descents := by
  induction items generalizing comparison with
  | nil => exact le_rfl
  | cons item items ih => exact descents_le_next.trans (ih _)

theorem next_descents_eq_iff : (comparison.next item).descents = comparison.descents ↔
    ∀ last, comparison.previous.get? item.1 = some last → last ≤ item.2 := by
  unfold Comparison.next
  split
  next none => simp [none]
  next last found =>
    by_cases down : item.2 < last
    · simp [found, down]
    · simp [found, down, not_lt.mp down]

theorem ascends_cons_iff : Ascends comparison.previous (item :: items) ↔
    (∀ last, comparison.previous.get? item.1 = some last → last ≤ item.2) ∧
      Ascends (comparison.next item).previous items := by
  unfold Ascends
  simp only [next_previous, Dictionary.get?_set, List.pairwise_cons, List.forall_mem_cons]
  constructor
  · rintro ⟨⟨first, rest⟩, after, pairs⟩
    refine ⟨first, fun later member last found => ?_, pairs⟩
    split at found
    next same =>
      cases found
      exact after later member same.symm
    next => exact rest later member last found
  · rintro ⟨first, rest, pairs⟩
    have after : ∀ later ∈ items, item.1 = later.1 → item.2 ≤ later.2 := fun later member same =>
      rest later member item.2 (if_pos same.symm)
    refine ⟨⟨first, fun later member last found => ?_⟩, after, pairs⟩
    by_cases same : later.1 = item.1
    · rw [same] at found
      exact (first last found).trans (after later member same.symm)
    · exact rest later member last (by rw [if_neg same, found])

theorem foldl_descents_eq_iff (comparison : Comparison κ ν) (items : List (κ × ν)) :
    (items.foldl Comparison.next comparison).descents = comparison.descents ↔
      Ascends comparison.previous items := by
  induction items generalizing comparison with
  | nil =>
    refine iff_of_true rfl ⟨fun item member => ?_, List.Pairwise.nil⟩
    cases member
  | cons item items ih =>
    rw [List.foldl_cons, ascends_cons_iff, ← ih, ← next_descents_eq_iff]
    have step : comparison.descents ≤ (comparison.next item).descents := descents_le_next
    have rest := descents_le_foldl (comparison.next item) items
    constructor
    · intro same
      omega
    · intro both
      omega

theorem compareAll_descents_eq_zero : (compareAll items).descents = 0 ↔
    items.Pairwise fun earlier later => earlier.1 = later.1 → earlier.2 ≤ later.2 := by
  unfold compareAll
  rw [foldl_descents_eq_iff]
  exact and_iff_right fun item _ last found => by cases found

end KeyedOrder

namespace MiniOgas

open Serial

/-- A row of `outbox_messages` with what its envelope says of the source. -/
structure OutboxRow where
  messageId : String
  messageType : String
  nodeCode : String
  runId : String
  sequence : Int
  status : OutboxStatus := .pending
  createdAt : Timestamp
deriving DecidableEq

structure ShadowReceipt where
  messageType : String
  sourceNode : String
  runId : String
  localSequence : Int
  ingestedAt : Timestamp
  deliveryCount : Nat := 1
  duplicateCount : Nat := 0

def OutboxRow.source (row : OutboxRow) : String × String × String :=
  (row.messageType, row.nodeCode, row.runId)

def ShadowReceipt.source (receipt : ShadowReceipt) : String × String × String :=
  (receipt.messageType, receipt.sourceNode, receipt.runId)

/-- The order of the tuples of `ordered_receipts`. -/
def ShadowReceipt.order (receipt : ShadowReceipt) :
    Timestamp ×ₗ String ×ₗ String ×ₗ String ×ₗ Int :=
  toLex (receipt.ingestedAt, toLex (receipt.messageType, toLex (receipt.sourceNode,
    toLex (receipt.runId, receipt.localSequence))))

def orderDifferences (receipts : List ShadowReceipt) :
    KeyedOrder.Comparison (String × String × String) Int :=
  KeyedOrder.compareAll ((receipts.insertionSort fun first second => first.order ≤ second.order).map
    fun receipt => (receipt.source, receipt.localSequence))

structure ReconciliationSettings where
  baseline : Timestamp
  graceSeconds : Int
  windowMessages : Nat
  minSamples : Nat
  minReceiveRate : ℚ
  maxDuplicateRate : ℚ
  maxP95LatencyMs : ℚ

structure ReportCounts where
  sampledOutbox : Nat
  published : Nat := 0
  matchedReceipts : Nat := 0
  freshUnmatched : Nat := 0
  staleUnmatched : Nat := 0
  freshPending : Nat := 0
  stalePending : Nat := 0
  deadLetter : Nat := 0
  orphanReceipts : Nat
  deliveries : Nat := 0
  duplicates : Nat := 0

abbrev SampledRow := OutboxRow × Option ShadowReceipt

section Report

variable (settings : ReconciliationSettings) (now : Timestamp)

def OutboxRow.stale (row : OutboxRow) : Bool := settings.graceSeconds * second < now - row.createdAt

def countStatus (counts : ReportCounts) (item : SampledRow) : ReportCounts :=
  match item.1.status with
  | .deadLetter => { counts with deadLetter := counts.deadLetter + 1 }
  | .pending | .publishing =>
    if item.1.stale settings now then { counts with stalePending := counts.stalePending + 1 }
    else { counts with freshPending := counts.freshPending + 1 }
  | .published =>
    let counts := { counts with published := counts.published + 1 }
    if item.2.isSome then { counts with matchedReceipts := counts.matchedReceipts + 1 }
    else if item.1.stale settings now then
      { counts with staleUnmatched := counts.staleUnmatched + 1 }
    else { counts with freshUnmatched := counts.freshUnmatched + 1 }

def countRow (counts : ReportCounts) (item : SampledRow) : ReportCounts :=
  let counts := countStatus settings now counts item
  match item.2 with
  | none => counts
  | some receipt => { counts with
      deliveries := counts.deliveries + max 1 receipt.deliveryCount
      duplicates := counts.duplicates + receipt.duplicateCount }

def latencyMs (row : OutboxRow) (receipt : ShadowReceipt) : ℚ :=
  max 0 ((receipt.ingestedAt - row.createdAt : Int) / 1000)

def percentile (values : List ℚ) (part : ℚ) : ℚ :=
  let ordered := values.insertionSort (· ≤ ·)
  let rank := (⌈part * ordered.length⌉ - 1).toNat
  (ordered[rank]?).elim 0 fun value => roundHalfEven (value * 1000) / 1000

structure ReconciliationReport where
  status : String
  counts : ReportCounts
  receiveRate : ℚ
  duplicateRate : ℚ
  sampleSize : Nat
  p50 : ℚ
  p95 : ℚ
  comparisons : Nat
  divergences : Nat
  violations : List String
  thresholdsMet : Bool

/-- `report`, once the rows of the window have been read. -/
def reconciliationReport (rows : List SampledRow) (orphanCount : Nat) : ReconciliationReport :=
  let counts := rows.foldl (countRow settings now)
    { sampledOutbox := rows.length, orphanReceipts := orphanCount }
  let latencies := rows.filterMap fun item => item.2.map (latencyMs item.1)
  let eligible := counts.matchedReceipts + counts.staleUnmatched
  let receiveRate : ℚ := if eligible = 0 then 1 else counts.matchedReceipts / eligible
  let duplicateRate : ℚ :=
    if counts.deliveries = 0 then 0 else counts.duplicates / counts.deliveries
  let comparison := orderDifferences (rows.filterMap (·.2))
  let p95 := percentile latencies (95 / 100)
  let enoughSamples : Bool := settings.minSamples ≤ eligible
  let violations : List String :=
    (if 0 < counts.stalePending then ["stale_outbox_pending"] else []) ++
      (if 0 < counts.staleUnmatched then ["published_without_receipt"] else []) ++
      (if 0 < counts.deadLetter then ["dead_letter_present"] else []) ++
      (if 0 < orphanCount then ["receipt_without_outbox"] else []) ++
      (if enoughSamples ∧ receiveRate < settings.minReceiveRate then
        ["receive_rate_below_threshold"] else []) ++
      (if enoughSamples ∧ settings.maxDuplicateRate < duplicateRate then
        ["duplicate_rate_above_threshold"] else []) ++
      (if enoughSamples ∧ settings.maxP95LatencyMs < p95 then
        ["latency_above_threshold"] else []) ++
      (if 0 < comparison.descents then ["order_divergence_detected"] else [])
  let catchingUp : Bool := 0 < counts.freshPending + counts.freshUnmatched
  { status :=
      if violations ≠ [] then "degraded"
      else if catchingUp then "catching_up"
      else if enoughSamples then "ready"
      else "observing"
    counts
    receiveRate
    duplicateRate
    sampleSize := latencies.length
    p50 := percentile latencies (50 / 100)
    p95
    comparisons := comparison.comparisons
    divergences := comparison.descents
    violations
    thresholdsMet := enoughSamples && violations.isEmpty && !catchingUp }

end Report

/-- The run of a node agent that is up, and its `tick`. -/
structure AgentTicks where
  runId : String
  tick : Nat

/-- A heartbeat that is on its way, with the tick that is its `last_sync_id`. -/
structure SentHeartbeat where
  nodeCode : String
  runId : String
  tick : Nat

structure ShadowTransport where
  agents : Dictionary String AgentTicks := .empty
  sent : List SentHeartbeat := []
  lastAuditId : Nat := 0
  reserved : List Nat := []
  outbox : List OutboxRow := []
  receipts : Dictionary String ShadowReceipt := .empty

inductive ShadowEvent where
  | start (nodeCode runId : String)
  | tick (nodeCode : String)
  | record (index : Nat) (messageId : String) (createdAt : Timestamp)
  | lose (index : Nat)
  | reserve
  | audit (index : Nat) (runId messageId : String) (createdAt : Timestamp)
  | abort (index : Nat)
  | move (messageId : String) (status : OutboxStatus)
  | deliver (messageId : String) (ingestedAt : Timestamp)
  | report (now : Timestamp)

def ShadowTransport.enqueue (transport : ShadowTransport) (row : OutboxRow) : ShadowTransport :=
  if transport.outbox.any (·.messageId = row.messageId) then transport
  else { transport with outbox := transport.outbox ++ [row] }

def SentHeartbeat.row (heartbeat : SentHeartbeat) (messageId : String) (createdAt : Timestamp) :
    OutboxRow where
  messageId
  messageType := "heartbeat"
  nodeCode := heartbeat.nodeCode
  runId := heartbeat.runId
  sequence := heartbeat.tick
  createdAt

def auditRow (auditId : Nat) (runId messageId : String) (createdAt : Timestamp) : OutboxRow where
  messageId
  messageType := "audit"
  nodeCode := "central"
  runId
  sequence := auditId
  createdAt

def receiptAfter (row : OutboxRow) (ingestedAt : Timestamp) : Option ShadowReceipt → ShadowReceipt
  | none => ⟨row.messageType, row.nodeCode, row.runId, row.sequence, ingestedAt, 1, 0⟩
  | some receipt => { receipt with
      deliveryCount := receipt.deliveryCount + 1
      duplicateCount := receipt.duplicateCount + 1 }

/-- `persist_nats_receipt` of a message of the outbox. -/
def ShadowTransport.ingest (transport : ShadowTransport) (row : OutboxRow)
    (ingestedAt : Timestamp) : ShadowTransport :=
  let receipt := receiptAfter row ingestedAt (transport.receipts.get? row.messageId)
  { transport with receipts := transport.receipts.set row.messageId receipt }

def OutboxRow.move (messageId : String) (status : OutboxStatus) (row : OutboxRow) : OutboxRow :=
  if row.messageId = messageId then { row with status } else row

@[simp] theorem OutboxRow.move_messageId (messageId : String) (status : OutboxStatus)
    (row : OutboxRow) : (row.move messageId status).messageId = row.messageId := by
  unfold OutboxRow.move
  split <;> rfl

@[simp] theorem OutboxRow.move_source (messageId : String) (status : OutboxStatus)
    (row : OutboxRow) : (row.move messageId status).source = row.source := by
  unfold OutboxRow.move
  split <;> rfl

@[simp] theorem OutboxRow.move_sequence (messageId : String) (status : OutboxStatus)
    (row : OutboxRow) : (row.move messageId status).sequence = row.sequence := by
  unfold OutboxRow.move
  split <;> rfl

def ShadowTransport.setStatus (transport : ShadowTransport) (messageId : String)
    (status : OutboxStatus) : ShadowTransport :=
  { transport with outbox := transport.outbox.map (OutboxRow.move messageId status) }

def ShadowTransport.attempt (event : ShadowEvent) (transport : ShadowTransport) :
    Except Unit (Unit × ShadowTransport) :=
  match event with
  | .start nodeCode runId =>
    .ok ((), { transport with agents := transport.agents.set nodeCode ⟨runId, 0⟩ })
  | .tick nodeCode => do
    let agent ← orFault (transport.agents.get? nodeCode) ()
    return ((), { transport with
      agents := transport.agents.set nodeCode ⟨agent.runId, agent.tick + 1⟩
      sent := transport.sent ++ [⟨nodeCode, agent.runId, agent.tick + 1⟩] })
  | .record index messageId createdAt => do
    let heartbeat ← orFault transport.sent[index]? ()
    let recorded := { transport with sent := transport.sent.eraseIdx index }
    return ((), recorded.enqueue (heartbeat.row messageId createdAt))
  | .lose index => .ok ((), { transport with sent := transport.sent.eraseIdx index })
  | .reserve => .ok ((), { transport with
      lastAuditId := transport.lastAuditId + 1
      reserved := transport.reserved ++ [transport.lastAuditId + 1] })
  | .audit index runId messageId createdAt => do
    let auditId ← orFault transport.reserved[index]? ()
    check (¬ transport.outbox.any (·.messageId = messageId)) ()
    let committed := { transport with reserved := transport.reserved.eraseIdx index }
    return ((), committed.enqueue (auditRow auditId runId messageId createdAt))
  | .abort index => .ok ((), { transport with reserved := transport.reserved.eraseIdx index })
  | .move messageId status => .ok ((), transport.setStatus messageId status)
  | .deliver messageId ingestedAt => do
    let row ← orFault (transport.outbox.find? (·.messageId = messageId)) ()
    return ((), transport.ingest row ingestedAt)
  | .report _ => .ok ((), transport)

def shadowAuthority : Authority ShadowEvent ShadowTransport Unit Unit :=
  ⟨ShadowTransport.attempt⟩

/-- The first row was enqueued before the second. -/
def EnqueuedBefore (outbox : List OutboxRow) (row later : OutboxRow) : Prop :=
  ∃ i j : Nat, i < j ∧ outbox[i]? = some row ∧ outbox[j]? = some later

/-- A message that is ingested for the first time is ingested before the messages of its source
that were enqueued after it, and at no earlier time than the others. -/
def InOrder (transport : ShadowTransport) : ShadowEvent → Prop
  | .deliver messageId ingestedAt => transport.receipts.get? messageId = none →
      (∀ row later, EnqueuedBefore transport.outbox row later → row.messageId = messageId →
        row.source = later.source → transport.receipts.get? later.messageId = none) ∧
      ∀ id receipt, transport.receipts.get? id = some receipt → receipt.ingestedAt ≤ ingestedAt
  | _ => True

section Window

variable (settings : ReconciliationSettings) (transport : ShadowTransport)

structure IsWindow (rows : List OutboxRow) : Prop where
  sorted : rows.Pairwise fun first second => second.createdAt ≤ first.createdAt
  limited : rows.length ≤ settings.windowMessages
  latest : ∃ others : List OutboxRow, (rows ++ others).Perm
      (transport.outbox.filter fun row => settings.baseline ≤ row.createdAt) ∧
    (others ≠ [] → rows.length = settings.windowMessages) ∧
    ∀ row ∈ rows, ∀ other ∈ others, other.createdAt ≤ row.createdAt

def ShadowTransport.sampled (rows : List OutboxRow) : List SampledRow :=
  rows.map fun row => (row, transport.receipts.get? row.messageId)

def ShadowTransport.orphanCount : Nat :=
  (transport.receipts.items.filter fun item =>
    settings.baseline ≤ item.2.ingestedAt &&
      transport.outbox.all fun row => row.messageId ≠ item.1).length

def NoDivergence : ShadowEvent → Prop
  | .report now => ∀ rows, IsWindow settings transport rows →
      (reconciliationReport settings now (transport.sampled rows)
        (transport.orphanCount settings)).divergences = 0
  | _ => True

/-- No two messages of one source that the report reads, ingested one after the other, have
been enqueued in this order with sequences that go down. -/
def InSequence : ShadowEvent → Prop
  | .report _ => ∀ rows, IsWindow settings transport rows →
      ∀ row ∈ rows, ∀ later ∈ rows, EnqueuedBefore transport.outbox row later →
        row.source = later.source →
        ∀ first second, transport.receipts.get? row.messageId = some first →
          transport.receipts.get? later.messageId = some second →
          first.ingestedAt < second.ingestedAt → row.sequence ≤ later.sequence
  | _ => True

end Window

section Laws

variable {settings : ReconciliationSettings} {transport transport' : ShadowTransport}
  {event : ShadowEvent} {row later other : OutboxRow} {rows : List OutboxRow}
  {messageId : String} {now : Timestamp} {first second : ShadowReceipt} {receipt : ShadowReceipt}

theorem order_le_of_source (same : first.source = second.source) (le : first.order ≤ second.order) :
    first.ingestedAt < second.ingestedAt ∨
      first.ingestedAt = second.ingestedAt ∧ first.localSequence ≤ second.localSequence := by
  obtain ⟨type, rest⟩ := Prod.mk.inj same
  obtain ⟨node, run⟩ := Prod.mk.inj rest
  simpa [ShadowReceipt.order, Prod.Lex.toLex_le_toLex, type, node, run] using le

theorem order_lt_of_ingestedAt (lt : first.ingestedAt < second.ingestedAt) :
    first.order < second.order :=
  Prod.Lex.toLex_lt_toLex.mpr (.inl lt)

theorem related_of_lt {α β : Type} [LinearOrder β] {xs : List α} {key : α → β}
    {R : α → α → Prop} (ordered : xs.Pairwise fun x y => key x ≤ key y) (related : xs.Pairwise R)
    {x y : α} (first : x ∈ xs) (second : y ∈ xs) (lt : key x < key y) : R x y := by
  obtain ⟨i, hi, rfl⟩ := List.mem_iff_getElem.mp first
  obtain ⟨j, hj, rfl⟩ := List.mem_iff_getElem.mp second
  rcases lt_trichotomy i j with before | rfl | after
  · exact List.pairwise_iff_getElem.mp related i j hi hj before
  · exact absurd lt (lt_irrefl _)
  · have le := List.pairwise_iff_getElem.mp ordered j i hj hi after
    exact absurd lt (not_lt.mpr le)

theorem pairwise_sorted (receipts : List ShadowReceipt) :
    (receipts.insertionSort fun first second => first.order ≤ second.order).Pairwise
      fun first second => first.order ≤ second.order := by
  have total : Std.Total fun first second : ShadowReceipt => first.order ≤ second.order :=
    ⟨fun first second => le_total first.order second.order⟩
  have trans : IsTrans ShadowReceipt fun first second => first.order ≤ second.order :=
    ⟨fun _ _ _ => le_trans⟩
  exact List.pairwise_insertionSort _ _

theorem orderDifferences_eq_zero (receipts : List ShadowReceipt) :
    (orderDifferences receipts).descents = 0 ↔
      ∀ first ∈ receipts, ∀ second ∈ receipts, first.source = second.source →
        first.ingestedAt < second.ingestedAt → first.localSequence ≤ second.localSequence := by
  have ordered := pairwise_sorted receipts
  have perm := List.perm_insertionSort
    (fun first second : ShadowReceipt => first.order ≤ second.order) receipts
  unfold orderDifferences
  rw [KeyedOrder.compareAll_descents_eq_zero, List.pairwise_map]
  constructor
  · intro ascends first member second member' source lt
    exact related_of_lt ordered ascends (perm.mem_iff.mpr member) (perm.mem_iff.mpr member')
      (order_lt_of_ingestedAt lt) source
  · intro ascends
    refine ordered.imp_of_mem fun {first second} member member' le source => ?_
    rcases order_le_of_source source le with lt | ⟨-, le⟩
    · exact ascends first (perm.mem_iff.mp member) second (perm.mem_iff.mp member') source lt
    · exact le

structure ReceiptOf (row : OutboxRow) (receipt : ShadowReceipt) : Prop where
  source : receipt.source = row.source
  sequence : receipt.localSequence = row.sequence

structure ShadowSound (transport : ShadowTransport) : Prop where
  distinct : (transport.outbox.map (·.messageId)).Nodup
  received : ∀ id receipt, transport.receipts.get? id = some receipt →
    ∃ row ∈ transport.outbox, row.messageId = id ∧ ReceiptOf row receipt
  ordered : ∀ row later first second, EnqueuedBefore transport.outbox row later →
    row.source = later.source → transport.receipts.get? row.messageId = some first →
    transport.receipts.get? later.messageId = some second →
    first.ingestedAt ≤ second.ingestedAt

theorem shadowSound_initial : ShadowSound {} where
  distinct := List.nodup_nil
  received := nofun
  ordered := fun row later first second _ _ found => by cases found

theorem ShadowSound.of_tables (sound : ShadowSound transport)
    (outbox : transport'.outbox = transport.outbox)
    (receipts : transport'.receipts = transport.receipts) : ShadowSound transport' := by
  obtain ⟨distinct, received, ordered⟩ := sound
  rw [← outbox] at distinct
  refine ⟨distinct, ?_, ?_⟩
  · rw [outbox, receipts]
    exact received
  · rw [outbox, receipts]
    exact ordered

theorem enqueuedBefore_append (h : EnqueuedBefore (transport.outbox ++ [other]) row later) :
    EnqueuedBefore transport.outbox row later ∨ row ∈ transport.outbox ∧ later = other := by
  obtain ⟨i, j, before, first, second⟩ := h
  have bound := (List.getElem?_eq_some_iff.mp second).1
  rw [List.length_append, List.length_singleton] at bound
  rw [List.getElem?_append_left (by omega)] at first
  by_cases old : j < transport.outbox.length
  · rw [List.getElem?_append_left old] at second
    exact .inl ⟨i, j, before, first, second⟩
  · have last : j = transport.outbox.length := by omega
    rw [last, List.getElem?_append_right le_rfl] at second
    exact .inr ⟨List.mem_of_getElem? first, by simpa using second.symm⟩

theorem ShadowSound.enqueue (sound : ShadowSound transport) (row : OutboxRow) :
    ShadowSound (transport.enqueue row) := by
  unfold ShadowTransport.enqueue
  split
  next => exact sound
  next absent =>
    have absent : ∀ old ∈ transport.outbox, old.messageId ≠ row.messageId := by simpa using absent
    have unreceived : transport.receipts.get? row.messageId = none := by
      by_contra found
      obtain ⟨receipt, found⟩ := Option.ne_none_iff_exists'.mp found
      obtain ⟨old, there, same, -⟩ := sound.received _ _ found
      exact absent old there same
    refine ⟨?_, fun id receipt found => ?_,
      fun first later one two before source found found' => ?_⟩
    · have fresh : row.messageId ∉ transport.outbox.map (·.messageId) := by simpa using absent
      simpa using sound.distinct.concat fresh
    · obtain ⟨old, there, own⟩ := sound.received id receipt found
      exact ⟨old, List.mem_append_left _ there, own⟩
    · rcases enqueuedBefore_append before with old | ⟨-, rfl⟩
      · exact sound.ordered first later one two old source found found'
      · rw [unreceived] at found'
        cases found'

theorem enqueuedBefore_setStatus {status : OutboxStatus}
    (before : EnqueuedBefore (transport.setStatus messageId status).outbox row later) :
    ∃ old old', EnqueuedBefore transport.outbox old old' ∧ row = old.move messageId status ∧
      later = old'.move messageId status := by
  obtain ⟨i, j, lt, first, second⟩ := before
  simp only [ShadowTransport.setStatus, List.getElem?_map, Option.map_eq_some_iff] at first second
  obtain ⟨old, first, rfl⟩ := first
  obtain ⟨old', second, rfl⟩ := second
  exact ⟨old, old', ⟨i, j, lt, first, second⟩, rfl, rfl⟩

theorem ShadowSound.setStatus (sound : ShadowSound transport) (messageId : String)
    (status : OutboxStatus) : ShadowSound (transport.setStatus messageId status) := by
  refine ⟨?_, fun id receipt found => ?_, fun row later one two before source found found' => ?_⟩
  · have ids : (transport.setStatus messageId status).outbox.map (·.messageId) =
        transport.outbox.map (·.messageId) := by
      simp [ShadowTransport.setStatus, Function.comp_def]
    rw [ids]
    exact sound.distinct
  · obtain ⟨row, there, same, own⟩ := sound.received id receipt found
    exact ⟨row.move messageId status, List.mem_map_of_mem there, by simpa using same,
      by simpa using own.source, by simpa using own.sequence⟩
  · obtain ⟨old, old', unmoved, rfl, rfl⟩ := enqueuedBefore_setStatus before
    rw [OutboxRow.move_messageId] at found found'
    rw [OutboxRow.move_source, OutboxRow.move_source] at source
    exact sound.ordered old old' one two unmoved source found found'

theorem ShadowSound.eq_of_messageId (sound : ShadowSound transport)
    (there : row ∈ transport.outbox) (there' : later ∈ transport.outbox)
    (same : row.messageId = later.messageId) : row = later :=
  List.inj_on_of_nodup_map sound.distinct there there' same

theorem enqueuedBefore_total (there : row ∈ transport.outbox) (there' : later ∈ transport.outbox)
    (different : row ≠ later) :
    EnqueuedBefore transport.outbox row later ∨ EnqueuedBefore transport.outbox later row := by
  obtain ⟨i, first⟩ := List.mem_iff_getElem?.mp there
  obtain ⟨j, second⟩ := List.mem_iff_getElem?.mp there'
  rcases lt_trichotomy i j with before | rfl | after
  · exact .inl ⟨i, j, before, first, second⟩
  · exact absurd (Option.some.inj (first.symm.trans second)) different
  · exact .inr ⟨j, i, after, second, first⟩

theorem ingest_get? (transport : ShadowTransport) (row : OutboxRow) (ingestedAt : Timestamp)
    (id : String) : (transport.ingest row ingestedAt).receipts.get? id =
      if id = row.messageId then
        some (receiptAfter row ingestedAt (transport.receipts.get? row.messageId))
      else transport.receipts.get? id :=
  Dictionary.get?_set

theorem ShadowSound.redeliver (sound : ShadowSound transport)
    (known : transport.receipts.get? row.messageId = some receipt) (ingestedAt : Timestamp) :
    ShadowSound (transport.ingest row ingestedAt) := by
  have kept : ∀ id after, (transport.ingest row ingestedAt).receipts.get? id = some after →
      ∃ before, transport.receipts.get? id = some before ∧ after.source = before.source ∧
        after.localSequence = before.localSequence ∧ after.ingestedAt = before.ingestedAt := by
    intro id after found
    rw [ingest_get?] at found
    split at found
    next same =>
      rw [known] at found
      cases found
      exact ⟨receipt, same ▸ known, rfl, rfl, rfl⟩
    next => exact ⟨after, found, rfl, rfl, rfl⟩
  refine ⟨sound.distinct, fun id after found => ?_, fun first later one two before source found
    found' => ?_⟩
  · obtain ⟨old, found, source, sequence, -⟩ := kept id after found
    obtain ⟨own, listed, same, of⟩ := sound.received id old found
    exact ⟨own, listed, same, source.trans of.source, sequence.trans of.sequence⟩
  · obtain ⟨old, found, -, -, time⟩ := kept _ _ found
    obtain ⟨old', found', -, -, time'⟩ := kept _ _ found'
    rw [time, time']
    exact sound.ordered first later old old' before source found found'

theorem ShadowSound.deliver (sound : ShadowSound transport) (there : row ∈ transport.outbox)
    (unknown : transport.receipts.get? row.messageId = none) {ingestedAt : Timestamp}
    (inOrder : InOrder transport (.deliver row.messageId ingestedAt)) :
    ShadowSound (transport.ingest row ingestedAt) := by
  obtain ⟨later_unknown, times⟩ := inOrder unknown
  refine ⟨sound.distinct, fun id after found => ?_, fun first later one two before source found
    found' => ?_⟩
  · rw [ingest_get?] at found
    split at found
    next same =>
      rw [unknown] at found
      cases found
      exact ⟨row, there, same.symm, rfl, rfl⟩
    next => exact sound.received id after found
  · rw [ingest_get?] at found found'
    split at found'
    next second =>
      rw [unknown] at found'
      cases found'
      split at found
      next first_own =>
        rw [unknown] at found
        cases found
        exact le_rfl
      next => exact times _ _ found
    next other =>
      split at found
      next own =>
        rw [later_unknown first later before own source] at found'
        cases found'
      next => exact sound.ordered first later one two before source found found'

theorem ShadowSound.step {reply : Unit} (sound : ShadowSound transport)
    (inOrder : InOrder transport event)
    (h : shadowAuthority.attempt event transport = .ok (reply, transport')) :
    ShadowSound transport' := by
  cases event with
  | start | lose | reserve | abort =>
    cases h
    exact sound.of_tables rfl rfl
  | tick nodeCode =>
    obtain ⟨agent, -, h⟩ := of_bind h
    cases h
    exact sound.of_tables rfl rfl
  | record index messageId createdAt =>
    obtain ⟨heartbeat, -, h⟩ := of_bind h
    cases h
    have recorded : ShadowSound { transport with sent := transport.sent.eraseIdx index } :=
      sound.of_tables rfl rfl
    exact recorded.enqueue _
  | audit index runId messageId createdAt =>
    obtain ⟨auditId, -, h⟩ := of_bind h
    replace h := of_then h
    cases h
    have committed :
        ShadowSound { transport with reserved := transport.reserved.eraseIdx index } :=
      sound.of_tables rfl rfl
    exact committed.enqueue _
  | move messageId status =>
    cases h
    exact sound.setStatus messageId status
  | deliver messageId ingestedAt =>
    obtain ⟨row, found, h⟩ := of_bind h
    cases h
    have found := orFault_eq_ok.mp found
    have there := List.mem_of_find?_eq_some found
    have same : row.messageId = messageId := by simpa using List.find?_some found
    subst same
    cases known : transport.receipts.get? row.messageId with
    | none => exact sound.deliver there known inOrder
    | some receipt => exact sound.redeliver known ingestedAt
  | report =>
    cases h
    exact sound

theorem IsWindow.mem (window : IsWindow settings transport rows) (member : row ∈ rows) :
    row ∈ transport.outbox := by
  obtain ⟨others, perm, -⟩ := window.latest
  have listed := perm.mem_iff.mp (List.mem_append_left others member)
  exact (List.mem_filter.mp listed).1

theorem mem_sampled_receipts :
    receipt ∈ (transport.sampled rows).filterMap (·.2) ↔
      ∃ row ∈ rows, transport.receipts.get? row.messageId = some receipt := by
  simp [ShadowTransport.sampled]

theorem ShadowSound.receiptOf (sound : ShadowSound transport) (there : row ∈ transport.outbox)
    (found : transport.receipts.get? row.messageId = some receipt) :
    ReceiptOf row receipt := by
  obtain ⟨own, listed, same, of⟩ := sound.received _ _ found
  rw [← sound.eq_of_messageId listed there same]
  exact of

theorem noDivergence_iff (sound : ShadowSound transport) :
    NoDivergence settings transport event ↔ InSequence settings transport event := by
  cases event with
  | report now =>
    refine forall₂_congr fun rows window => ?_
    change (orderDifferences ((transport.sampled rows).filterMap (·.2))).descents = 0 ↔ _
    rw [orderDifferences_eq_zero]
    constructor
    · intro ascends row member later member' before source first second found found' lt
      have own := sound.receiptOf (window.mem member) found
      have own' := sound.receiptOf (window.mem member') found'
      rw [← own.sequence, ← own'.sequence]
      exact ascends first (mem_sampled_receipts.mpr ⟨row, member, found⟩) second
        (mem_sampled_receipts.mpr ⟨later, member', found'⟩)
        (own.source.trans (source.trans own'.source.symm)) lt
    · intro inSequence first listed second listed' source lt
      obtain ⟨row, member, found⟩ := mem_sampled_receipts.mp listed
      obtain ⟨later, member', found'⟩ := mem_sampled_receipts.mp listed'
      have there := window.mem member
      have there' := window.mem member'
      have own := sound.receiptOf there found
      have own' := sound.receiptOf there' found'
      have sources : row.source = later.source :=
        own.source.symm.trans (source.trans own'.source)
      have different : row ≠ later := by
        rintro rfl
        rw [found] at found'
        cases found'
        exact lt_irrefl _ lt
      rw [own.sequence, own'.sequence]
      rcases enqueuedBefore_total there there' different with before | after
      · exact inSequence row member later member' before sources first second found found' lt
      · have le := sound.ordered later row second first after sources.symm found' found
        exact absurd lt (not_lt.mpr le)
  | start | tick | record | lose | reserve | audit | abort | move | deliver => exact Iff.rfl

/-- In every run whose messages are first ingested in order, each report counts no order
divergence if and only if the messages that it reads were enqueued in sequence. -/
theorem noDivergence_along_iff (settings : ReconciliationSettings) (events : List ShadowEvent)
    (inOrder : shadowAuthority.Along InOrder {} events) :
    shadowAuthority.Along (NoDivergence settings) {} events ↔
      shadowAuthority.Along (InSequence settings) {} events := by
  refine Authority.along_congr ?_
  exact Authority.along_invariant (I := ShadowSound) (fun sound inOrder h => sound.step inOrder h)
    (fun sound _ => noDivergence_iff sound) shadowSound_initial inOrder

end Laws

theorem inOrder_last {transport : ShadowTransport} {messageId : String} {ingestedAt : Timestamp}
    (older : List String) (ids : transport.outbox.map (·.messageId) = older ++ [messageId])
    (new : messageId ∉ older)
    (times : (transport.receipts.items.all fun item => item.2.ingestedAt ≤ ingestedAt) = true) :
    InOrder transport (.deliver messageId ingestedAt) := by
  refine fun _ => ⟨?_, fun id receipt found => ?_⟩
  · rintro row later ⟨i, j, lt, first, second⟩ rfl -
    have bound := (List.getElem?_eq_some_iff.mp second).1
    have length : transport.outbox.length = older.length + 1 := by
      simpa using congrArg List.length ids
    have listed : (transport.outbox.map (·.messageId))[i]? = some row.messageId := by
      rw [List.getElem?_map, first]
      rfl
    rw [ids, List.getElem?_append_left (by omega)] at listed
    exact absurd (List.mem_of_getElem? listed) new
  · have there := List.all_eq_true.mp times _ (Dictionary.get?_eq_some_iff.mp found)
    exact of_decide_eq_true there

def sampleRestart : List ShadowEvent :=
  [.start "milling-workshop-01" "RUN-1", .tick "milling-workshop-01", .lose 0,
    .tick "milling-workshop-01", .record 0 "first" 5, .deliver "first" 10,
    .start "milling-workshop-01" "RUN-1", .tick "milling-workshop-01", .record 0 "second" 15,
    .deliver "second" 20, .report 30]

def sampleReconciliation : ReconciliationSettings := ⟨0, 30, 100, 1, 99 / 100, 5 / 100, 5000⟩

theorem sampleRestart_inOrder : shadowAuthority.Along InOrder {} sampleRestart := by
  refine ⟨trivial, trivial, trivial, trivial, trivial, ?_, trivial, trivial, trivial, ?_, trivial,
    trivial⟩
  · exact inOrder_last [] (by decide +kernel) (by decide) (by decide +kernel)
  · exact inOrder_last ["first"] (by decide +kernel) (by decide) (by decide +kernel)

/-- The reports of the run, and the sequences that they read. -/
theorem sampleRestart_reports :
    shadowAuthority.Along (NoDivergence sampleReconciliation) {} sampleRestart ↔
      shadowAuthority.Along (InSequence sampleReconciliation) {} sampleRestart :=
  noDivergence_along_iff sampleReconciliation sampleRestart sampleRestart_inOrder

def sampleFirstRow : OutboxRow :=
  ⟨"first", "heartbeat", "milling-workshop-01", "RUN-1", 2, .pending, 5⟩

def sampleSecondRow : OutboxRow :=
  ⟨"second", "heartbeat", "milling-workshop-01", "RUN-1", 1, .pending, 15⟩

/-- A restart of an agent in its run is counted as an order divergence. -/
theorem restart_counts_divergence : ¬ ∀ (settings : ReconciliationSettings)
    (events : List ShadowEvent), shadowAuthority.Along InOrder {} events →
    shadowAuthority.Along (NoDivergence settings) {} events := by
  intro h
  have along := h sampleReconciliation sampleRestart sampleRestart_inOrder
  have last := along.2.2.2.2.2.2.2.2.2.2.1
  generalize reached : shadowAuthority.run {} (sampleRestart.take 10) = transport
  have outbox : transport.outbox = [sampleFirstRow, sampleSecondRow] := by
    rw [← reached]
    decide +kernel
  have window : IsWindow sampleReconciliation transport [sampleSecondRow, sampleFirstRow] := by
    refine ⟨by decide, by decide, [], ?_, fun filled => absurd rfl filled,
      fun row _ other none => ?_⟩
    · rw [outbox]
      exact List.Perm.swap _ _ _
    · cases none
  have counted : (reconciliationReport sampleReconciliation 30
      (transport.sampled [sampleSecondRow, sampleFirstRow])
      (transport.orphanCount sampleReconciliation)).divergences = 1 := by
    rw [← reached]
    decide +kernel
  have none : NoDivergence sampleReconciliation transport (.report 30) := by
    rw [← reached]
    exact last
  rw [none _ window] at counted
  cases counted

end MiniOgas
