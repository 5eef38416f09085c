import MiniOgas.AgentOutbox
import MiniOgas.BoundedList

namespace MiniOgas

open Bounded Relational Serial

variable {builtins : Builtins} {nodeCode : String} {db : LocalDatabase} {sample : TelemetrySample}

inductive TelemetryPhase where
  | down
  | ready (runId : String)
  | reserved (runId : String) (sequence : Nat)
  | sent (runId : String) (payload : TelemetryBatch)

structure TelemetryAgent where
  db : LocalDatabase
  phase : TelemetryPhase := .down
  numbers : List Nat := []
  payloads : List TelemetryBatch := []

/-- The commits of the local database, and the crashes between them; `answer` is a commit of
`sync_pending_telemetry_batches`, and `others` one that is not about telemetry. -/
inductive TelemetryEvent where
  | start (runId : String)
  | reserve
  | send (reading : TelemetryReading)
  | store (result : SendResult)
  | answer (id : Nat) (result : SendResult)
  | others (heartbeats : Table HeartbeatRow) (localCommands : Dictionary Int LocalCommand)
  | crash

/-- What an event does, if it can come where the agent is. -/
def TelemetryAgent.step (builtins : Builtins) (nodeCode : String) (agent : TelemetryAgent) :
    TelemetryEvent → Option TelemetryAgent
  | .start runId =>
    match agent.phase with
    | .down => some { agent with
        db := (initializeTelemetrySequenceState nodeCode agent.db).2
        phase := .ready runId }
    | _ => none
  | .reserve =>
    match agent.phase with
    | .ready runId =>
      let (sequence, db) := reserveTelemetrySequence nodeCode agent.db
      some { agent with
        db := db
        phase := .reserved runId sequence
        numbers := agent.numbers ++ [sequence] }
    | _ => none
  | .send reading =>
    match agent.phase with
    | .reserved runId sequence =>
      let payload := telemetryBatchPayload runId nodeCode reading sequence
      some { agent with phase := .sent runId payload, payloads := agent.payloads ++ [payload] }
    | _ => none
  | .store result =>
    match agent.phase with
    | .sent runId payload => some { agent with
        db := storeTelemetryBatch builtins agent.db payload result
        phase := .ready runId }
    | _ => none
  | .answer id result =>
    match agent.phase with
    | .ready _ => some { agent with db := answerTelemetryBatch builtins agent.db id result }
    | _ => none
  | .others heartbeats localCommands => some { agent with
      db := { agent.db with heartbeats := heartbeats, localCommands := localCommands } }
  | .crash => some { agent with phase := .down }

def telemetryAgentAuthority (builtins : Builtins) (nodeCode : String) :
    Authority TelemetryEvent TelemetryAgent Unit Unit where
  attempt event agent :=
    match agent.step builtins nodeCode event with
    | some agent' => .ok ((), agent')
    | none => .error ()

def heldPayloads (nodeCode : String) (db : LocalDatabase) : List TelemetryBatch :=
  (db.telemetryBatches.rows.map (·.payload)).filter (·.sourceId = nodeCode)

structure DistinctTelemetry (first second : TelemetryBatch) : Prop where
  batchId : first.batchId ≠ second.batchId
  sequences : ∀ one ∈ first.samples, ∀ other ∈ second.samples, one.sequenceNo ≠ other.sequenceNo

structure LegacyOutbox (nodeCode : String) (db : LocalDatabase) : Prop where
  unstarted : db.telemetrySequenceState.get? nodeCode = none
  batchIds : ∀ payload : TelemetryBatch, payload ∈ heldPayloads nodeCode db →
    ∃ runId : String, payload.batchId = s!"{runId}:{nodeCode}:telemetry:{payload.sequence}"
  distinct : (heldPayloads nodeCode db).Pairwise DistinctTelemetry

theorem eq_of_append_cons {α : Type} {xs ys ds es : List α} {mark : α}
    (same : xs ++ mark :: ds = ys ++ mark :: es) (first : mark ∉ ds) (second : mark ∉ es) :
    ds = es := by
  have back := congrArg List.reverse same
  simp only [List.reverse_append, List.reverse_cons, List.append_assoc,
    List.singleton_append] at back
  exact List.reverse_inj.mp (Bounded.append_cons_inj back (by simpa using first)
    (by simpa using second)).1

theorem colon_not_mem_toDigits (n : Nat) : ':' ∉ Nat.toDigits 10 n := by
  intro there
  have digit := Nat.isDigit_of_mem_toDigits (by decide) (by decide) there
  exact absurd digit (by decide)

theorem batchId_number {runId otherRun : String} {n m : Nat}
    (same : s!"{runId}:{nodeCode}:telemetry:{n}" = s!"{otherRun}:{nodeCode}:telemetry:{m}") :
    n = m := by
  have texts := congrArg String.toList same
  have mark : (toString ":telemetry:").toList = ":telemetry".toList ++ [':'] := by decide
  have digits (k : Nat) : (toString k).toList = Nat.toDigits 10 k := Nat.toList_repr
  simp only [String.toList_append, mark, digits, List.append_assoc, List.singleton_append] at texts
  simp only [← List.append_assoc] at texts
  have ends := eq_of_append_cons texts (colon_not_mem_toDigits n) (colon_not_mem_toDigits m)
  rw [← @Nat.ofDigitChars_ten_toDigits n, ends, Nat.ofDigitChars_ten_toDigits]

theorem initializeTelemetrySequenceState_of_none
    (fresh : db.telemetrySequenceState.get? nodeCode = none) :
    initializeTelemetrySequenceState nodeCode db =
      (storedTelemetrySequence nodeCode db,
        db.setSequence nodeCode (storedTelemetrySequence nodeCode db)) := by
  unfold initializeTelemetrySequenceState
  rw [fresh]

theorem initializeTelemetrySequenceState_of_some {last : Nat}
    (row : db.telemetrySequenceState.get? nodeCode = some last) :
    initializeTelemetrySequenceState nodeCode db = (last, db) := by
  unfold initializeTelemetrySequenceState
  rw [row]

theorem reserveTelemetrySequence_of_some {last : Nat}
    (row : db.telemetrySequenceState.get? nodeCode = some last) :
    reserveTelemetrySequence nodeCode db = (last + 1, db.setSequence nodeCode (last + 1)) := by
  unfold reserveTelemetrySequence
  rw [initializeTelemetrySequenceState_of_some row]

theorem setSequence_get? (sequence : Nat) :
    (db.setSequence nodeCode sequence).telemetrySequenceState.get? nodeCode = some sequence := by
  unfold LocalDatabase.setSequence
  rw [Dictionary.get?_set, if_pos rfl]

@[simp] theorem telemetryBatchPayload_sequence (runId : String) (reading : TelemetryReading)
    (tick : Nat) : (telemetryBatchPayload runId nodeCode reading tick).sequence = tick := by
  simp [TelemetryBatch.sequence, telemetryBatchPayload, TelemetryReading.signals, telemetrySample]

theorem telemetryBatchPayload_batchId (nodeCode runId : String) (reading : TelemetryReading)
    (tick : Nat) :
    let payload := telemetryBatchPayload runId nodeCode reading tick
    payload.batchId = s!"{runId}:{nodeCode}:telemetry:{payload.sequence}" := by
  intro payload
  rw [telemetryBatchPayload_sequence]
  rfl

theorem telemetryBatchPayload_sequenceNo {runId : String} {reading : TelemetryReading} {tick : Nat}
    (member : sample ∈ (telemetryBatchPayload runId nodeCode reading tick).samples) :
    sample.sequenceNo = tick := by
  obtain ⟨signal, -, rfl⟩ := List.mem_map.mp member
  rfl

theorem sequenceNo_le_sequence {batch : TelemetryBatch} (member : sample ∈ batch.samples) :
    sample.sequenceNo ≤ batch.sequence :=
  le_greatest (List.mem_map_of_mem member)

theorem sequence_le_stored {payload : TelemetryBatch} (held : payload ∈ heldPayloads nodeCode db) :
    payload.sequence ≤ storedTelemetrySequence nodeCode db := by
  obtain ⟨there, own⟩ := List.mem_filter.mp held
  obtain ⟨row, member, rfl⟩ := List.mem_map.mp there
  exact le_greatest (List.mem_map.mpr ⟨row, List.mem_filter.mpr ⟨member, own⟩, rfl⟩)

theorem storeTelemetryBatch_get? {payload : TelemetryBatch} {last : Nat} (result : SendResult)
    (row : db.telemetrySequenceState.get? payload.sourceId = some last) :
    (storeTelemetryBatch builtins db payload result).telemetrySequenceState.get?
      payload.sourceId = some (max last payload.sequence) := by
  unfold storeTelemetryBatch LocalDatabase.raiseSequence
  rw [setSequence_get?, row, Option.getD_some]

theorem storeTelemetryBatch_payloads {P : TelemetryBatch → Prop} {payload : TelemetryBatch}
    (result : SendResult) (each : ∀ row : TelemetryRow, row ∈ db.telemetryBatches.rows →
      P row.payload) (own : P payload) :
    ∀ row : TelemetryRow,
      row ∈ (storeTelemetryBatch builtins db payload result).telemetryBatches.rows →
        P row.payload := by
  refine SerialTable.forall_rows_delete (P := fun row : TelemetryRow => P row.payload) ?_
  unfold upsertTelemetryBatch
  split
  next => exact SerialTable.forall_rows_update each fun _ h => h
  next => exact SerialTable.forall_rows_insert each own

theorem answerTelemetryBatch_payloads {P : TelemetryBatch → Prop} (id : Nat) (result : SendResult)
    (each : ∀ row : TelemetryRow, row ∈ db.telemetryBatches.rows → P row.payload) :
    ∀ row : TelemetryRow, row ∈ (answerTelemetryBatch builtins db id result).telemetryBatches.rows →
      P row.payload :=
  SerialTable.forall_rows_update (P := fun row : TelemetryRow => P row.payload) each fun _ h => h

/-- What holds of an agent that was first started on a database with the payloads `held`. -/
structure SequenceSound (nodeCode : String) (floor : Nat) (held : List TelemetryBatch)
    (agent : TelemetryAgent) : Prop where
  started : agent.phase ≠ .down →
    (agent.db.telemetrySequenceState.get? nodeCode).isSome = true
  fresh : agent.db.telemetrySequenceState.get? nodeCode = none →
    agent.numbers = [] ∧ storedTelemetrySequence nodeCode agent.db = floor
  bounded : ∀ last, agent.db.telemetrySequenceState.get? nodeCode = some last →
    floor ≤ last ∧ ∀ number ∈ agent.numbers, number ≤ last
  increasing : agent.numbers.Pairwise (· < ·)
  above : ∀ number ∈ agent.numbers, floor < number
  built : ∀ payload ∈ agent.payloads, ∃ runId reading number, number ∈ agent.numbers ∧
    payload = telemetryBatchPayload runId nodeCode reading number
  ordered : (agent.payloads.map (·.sequence)).Pairwise (· < ·)
  reserved : ∀ runId number, agent.phase = .reserved runId number →
    number ∈ agent.numbers ∧ ∀ payload ∈ agent.payloads, payload.sequence < number
  sent : ∀ runId payload, agent.phase = .sent runId payload → payload ∈ agent.payloads
  stored : ∀ row : TelemetryRow, row ∈ agent.db.telemetryBatches.rows →
    row.payload ∈ held ∨ row.payload ∈ agent.payloads

namespace SequenceSound

variable {floor : Nat} {held : List TelemetryBatch} {agent : TelemetryAgent} {runId : String}

theorem row (sound : SequenceSound nodeCode floor held agent) (up : agent.phase ≠ .down) :
    ∃ last, agent.db.telemetrySequenceState.get? nodeCode = some last :=
  Option.isSome_iff_exists.mp (sound.started up)

theorem moved (sound : SequenceSound nodeCode floor held agent) {phase : TelemetryPhase}
    (idle : phase = .down ∨ agent.phase ≠ .down ∧ ∃ runId, phase = .ready runId) :
    SequenceSound nodeCode floor held { agent with phase := phase } :=
  { sound with
    started := fun up => by
      rcases idle with down | ⟨was, -⟩
      · exact absurd down up
      · exact sound.started was
    reserved := fun runId number same => by
      rcases idle with rfl | ⟨-, other, rfl⟩ <;> cases same
    sent := fun runId payload same => by
      rcases idle with rfl | ⟨-, other, rfl⟩ <;> cases same }

theorem rewritten (sound : SequenceSound nodeCode floor held agent) {db : LocalDatabase}
    (same : db.telemetrySequenceState.get? nodeCode =
      agent.db.telemetrySequenceState.get? nodeCode)
    (kept : agent.db.telemetrySequenceState.get? nodeCode = none →
      db.telemetryBatches = agent.db.telemetryBatches)
    (stored : ∀ row : TelemetryRow, row ∈ db.telemetryBatches.rows →
      row.payload ∈ held ∨ row.payload ∈ agent.payloads) :
    SequenceSound nodeCode floor held { agent with db := db } :=
  { sound with
    started := fun up => by
      rw [same]
      exact sound.started up
    fresh := fun none => by
      rw [same] at none
      obtain ⟨empty, stored⟩ := sound.fresh none
      refine ⟨empty, ?_⟩
      rw [← stored]
      unfold storedTelemetrySequence
      rw [kept none]
    bounded := fun last row => sound.bounded last (same ▸ row)
    stored := stored }

theorem start (sound : SequenceSound nodeCode floor held agent) (runId : String) :
    SequenceSound nodeCode floor held
      { agent with
        db := (initializeTelemetrySequenceState nodeCode agent.db).2
        phase := .ready runId } := by
  cases h : agent.db.telemetrySequenceState.get? nodeCode with
  | none =>
    obtain ⟨empty, floored⟩ := sound.fresh h
    have sequence := @setSequence_get? nodeCode agent.db floor
    rw [initializeTelemetrySequenceState_of_none h, floored]
    exact { sound with
      started := fun _ => by rw [sequence]; rfl
      fresh := fun none => by rw [sequence] at none; cases none
      bounded := fun last row => by
        rw [sequence] at row
        cases row
        rw [empty]
        exact ⟨Nat.le_refl _, nofun⟩
      reserved := nofun
      sent := nofun }
  | some last =>
    rw [initializeTelemetrySequenceState_of_some h]
    exact { sound with
      started := fun _ => by rw [h]; rfl
      reserved := nofun
      sent := nofun }

theorem reserve (sound : SequenceSound nodeCode floor held agent)
    (ready : agent.phase = .ready runId) : SequenceSound nodeCode floor held
      { agent with
        db := (reserveTelemetrySequence nodeCode agent.db).2
        phase := .reserved runId (reserveTelemetrySequence nodeCode agent.db).1
        numbers := agent.numbers ++ [(reserveTelemetrySequence nodeCode agent.db).1] } := by
  obtain ⟨last, row⟩ := sound.row (by rw [ready]; nofun)
  obtain ⟨floored, upper⟩ := sound.bounded last row
  have sequence := @setSequence_get? nodeCode agent.db (last + 1)
  rw [reserveTelemetrySequence_of_some row]
  exact { sound with
    started := fun _ => by rw [sequence]; rfl
    fresh := fun none => by rw [sequence] at none; cases none
    bounded := fun next found => by
      rw [sequence] at found
      cases found
      refine ⟨by omega, fun number member => ?_⟩
      rcases List.mem_append.mp member with h | h
      · exact Nat.le_succ_of_le (upper number h)
      · rw [List.mem_singleton.mp h]
    increasing := by
      rw [List.pairwise_append]
      refine ⟨sound.increasing, List.pairwise_singleton _ _, fun number member next h => ?_⟩
      rw [List.mem_singleton.mp h]
      exact Nat.lt_succ_of_le (upper number member)
    above := fun number member => by
      rcases of_mem_concat member with h | rfl
      · exact sound.above number h
      · omega
    built := fun payload member => by
      obtain ⟨runId, reading, number, there, same⟩ := sound.built payload member
      exact ⟨runId, reading, number, List.mem_append_left _ there, same⟩
    reserved := fun runId number same => by
      cases same
      refine ⟨List.mem_append_right _ List.mem_cons_self, fun payload member => ?_⟩
      obtain ⟨_, _, number, there, rfl⟩ := sound.built payload member
      rw [telemetryBatchPayload_sequence]
      exact Nat.lt_succ_of_le (upper number there)
    sent := nofun }

theorem send (sound : SequenceSound nodeCode floor held agent) {sequence : Nat}
    (reserved : agent.phase = .reserved runId sequence) (reading : TelemetryReading) :
    SequenceSound nodeCode floor held
      { agent with
        phase := .sent runId (telemetryBatchPayload runId nodeCode reading sequence)
        payloads := agent.payloads ++
          [telemetryBatchPayload runId nodeCode reading sequence] } := by
  obtain ⟨given, below⟩ := sound.reserved runId sequence reserved
  exact { sound with
    started := fun _ => sound.started (by rw [reserved]; nofun)
    built := fun payload member => by
      rcases of_mem_concat member with h | rfl
      · exact sound.built payload h
      · exact ⟨runId, reading, sequence, given, rfl⟩
    ordered := by
      rw [List.map_append, List.pairwise_append]
      refine ⟨sound.ordered, List.pairwise_singleton _ _, fun number member next h => ?_⟩
      obtain ⟨payload, there, rfl⟩ := List.mem_map.mp member
      rw [List.map_singleton, telemetryBatchPayload_sequence, List.mem_singleton] at h
      rw [h]
      exact below payload there
    reserved := nofun
    sent := fun runId payload same => by
      cases same
      exact List.mem_append_right _ List.mem_cons_self
    stored := fun row member => (sound.stored row member).imp_right (List.mem_append_left _) }

theorem store (sound : SequenceSound nodeCode floor held agent) {payload : TelemetryBatch}
    (sent : agent.phase = .sent runId payload) (result : SendResult) :
    SequenceSound nodeCode floor held
      { agent with
        db := storeTelemetryBatch builtins agent.db payload result
        phase := .ready runId } := by
  have up : agent.phase ≠ .down := by
    rw [sent]
    nofun
  obtain ⟨last, row⟩ := sound.row up
  have own := sound.sent runId payload sent
  obtain ⟨_, reading, number, given, same⟩ := sound.built payload own
  have source : payload.sourceId = nodeCode := by rw [same]; rfl
  have lower : payload.sequence ≤ last := by
    rw [same, telemetryBatchPayload_sequence]
    exact (sound.bounded last row).2 number given
  have kept : (storeTelemetryBatch builtins agent.db payload result).telemetrySequenceState.get?
      nodeCode = some last := by
    have raised := @storeTelemetryBatch_get? builtins agent.db payload last result (source ▸ row)
    rwa [source, Nat.max_eq_left lower] at raised
  have stored := @storeTelemetryBatch_payloads builtins agent.db
    (fun payload => payload ∈ held ∨ payload ∈ agent.payloads) payload result sound.stored
    (.inr own)
  have rewritten := sound.rewritten (kept.trans row.symm) (fun none => by simp [row] at none) stored
  exact rewritten.moved (.inr ⟨up, runId, rfl⟩)

theorem answer (sound : SequenceSound nodeCode floor held agent)
    (ready : agent.phase = .ready runId) (id : Nat) (result : SendResult) :
    SequenceSound nodeCode floor held
      { agent with db := answerTelemetryBatch builtins agent.db id result } := by
  obtain ⟨last, row⟩ := sound.row (by rw [ready]; nofun)
  refine sound.rewritten rfl (fun none => by simp [row] at none) ?_
  exact answerTelemetryBatch_payloads
    (P := fun payload => payload ∈ held ∨ payload ∈ agent.payloads) id result sound.stored

theorem step (sound : SequenceSound nodeCode floor held agent) {event : TelemetryEvent}
    {agent' : TelemetryAgent} (h : agent.step builtins nodeCode event = some agent') :
    SequenceSound nodeCode floor held agent' := by
  cases event with
  | start runId =>
    dsimp only [TelemetryAgent.step] at h
    split at h
    next => exact Option.some.inj h ▸ sound.start runId
    next => cases h
  | reserve =>
    dsimp only [TelemetryAgent.step] at h
    split at h
    next runId ready => exact Option.some.inj h ▸ sound.reserve ready
    next => cases h
  | send reading =>
    dsimp only [TelemetryAgent.step] at h
    split at h
    next runId sequence reserved => exact Option.some.inj h ▸ sound.send reserved reading
    next => cases h
  | store result =>
    dsimp only [TelemetryAgent.step] at h
    split at h
    next runId payload sent => exact Option.some.inj h ▸ sound.store sent result
    next => cases h
  | answer id result =>
    dsimp only [TelemetryAgent.step] at h
    split at h
    next runId ready => exact Option.some.inj h ▸ sound.answer ready id result
    next => cases h
  | others heartbeats localCommands =>
    exact Option.some.inj h ▸ sound.rewritten rfl (fun _ => rfl) sound.stored
  | crash => exact Option.some.inj h ▸ sound.moved (.inl rfl)

theorem run (sound : SequenceSound nodeCode floor held agent) (events : List TelemetryEvent) :
    SequenceSound nodeCode floor held
      ((telemetryAgentAuthority builtins nodeCode).run agent events) := by
  refine Authority.invariant (fun {agent event _ agent'} sound h => ?_) events sound
  unfold telemetryAgentAuthority at h
  dsimp only at h
  split at h
  next next found =>
    cases h
    exact sound.step found
  next => cases h

end SequenceSound

theorem LegacyOutbox.sound (legacy : LegacyOutbox nodeCode db) :
    SequenceSound nodeCode (storedTelemetrySequence nodeCode db)
      (db.telemetryBatches.rows.map (·.payload)) { db := db } where
  started := by simp
  fresh _ := ⟨rfl, rfl⟩
  bounded last row := by simp [legacy.unstarted] at row
  increasing := .nil
  above := nofun
  built := nofun
  ordered := .nil
  reserved := nofun
  sent := nofun
  stored row member := .inl (List.mem_map_of_mem member)

theorem distinctTelemetry_of_lt {first second : TelemetryBatch} {runId otherRun : String}
    (one : first.batchId = s!"{runId}:{nodeCode}:telemetry:{first.sequence}")
    (two : second.batchId = s!"{otherRun}:{nodeCode}:telemetry:{second.sequence}")
    (numbered : ∀ sample ∈ second.samples, sample.sequenceNo = second.sequence)
    (lt : first.sequence < second.sequence) : DistinctTelemetry first second where
  batchId same := by
    rw [one, two] at same
    have := batchId_number same
    omega
  sequences sample member other h := by
    have := sequenceNo_le_sequence member
    rw [numbered other h]
    omega

def TelemetryAgent.sourcePayloads (nodeCode : String) (db : LocalDatabase)
    (agent : TelemetryAgent) : List TelemetryBatch :=
  heldPayloads nodeCode db ++ agent.payloads

/-- No two payloads of the source share an id or a number, whatever the crashes. -/
theorem telemetry_never_reused (legacy : LegacyOutbox nodeCode db)
    (events : List TelemetryEvent) :
    let agent := (telemetryAgentAuthority builtins nodeCode).run { db := db } events
    agent.numbers.Pairwise (· < ·) ∧
      (agent.sourcePayloads nodeCode db).Pairwise DistinctTelemetry ∧
      ∀ payload ∈ heldPayloads nodeCode agent.db, payload ∈ agent.sourcePayloads nodeCode db := by
  intro agent
  have sound : SequenceSound nodeCode _ _ agent := legacy.sound.run events
  refine ⟨sound.increasing, ?_, fun payload member => ?_⟩
  · unfold TelemetryAgent.sourcePayloads
    rw [List.pairwise_append]
    refine ⟨legacy.distinct, ?_, fun first one second two => ?_⟩
    · refine (List.pairwise_map.mp sound.ordered).imp_of_mem fun one two lt => ?_
      obtain ⟨runId, reading, number, -, rfl⟩ := sound.built _ one
      obtain ⟨runId', reading', number', -, rfl⟩ := sound.built _ two
      rw [telemetryBatchPayload_sequence, telemetryBatchPayload_sequence] at lt
      refine distinctTelemetry_of_lt (telemetryBatchPayload_batchId nodeCode runId reading number)
        (telemetryBatchPayload_batchId nodeCode runId' reading' number') ?_ ?_
      all_goals rw [telemetryBatchPayload_sequence]
      · exact fun sample => telemetryBatchPayload_sequenceNo
      · rwa [telemetryBatchPayload_sequence]
    · obtain ⟨runId, own⟩ := legacy.batchIds first one
      obtain ⟨runId', reading, number, given, rfl⟩ := sound.built second two
      have := sequence_le_stored one
      have := sound.above number given
      refine distinctTelemetry_of_lt own
        (telemetryBatchPayload_batchId nodeCode runId' reading number) ?_ ?_
      all_goals rw [telemetryBatchPayload_sequence]
      · exact fun sample => telemetryBatchPayload_sequenceNo
      · omega
  · obtain ⟨there, own⟩ := List.mem_filter.mp member
    obtain ⟨row, held, rfl⟩ := List.mem_map.mp there
    rcases sound.stored row held with h | h
    · exact List.mem_append_left _ (List.mem_filter.mpr ⟨h, own⟩)
    · exact List.mem_append_right _ h

def sampleLegacy : LocalDatabase :=
  { storeTelemetryBatch sampleBuiltins .empty (sampleBatch 41) ⟨true, "", 201, "", none⟩ with
    telemetrySequenceState := .empty }

theorem sampleLegacy_legacy : LegacyOutbox "milling-workshop-01" sampleLegacy := by
  have held : heldPayloads "milling-workshop-01" sampleLegacy = [sampleBatch 41] := by
    decide +kernel
  refine ⟨rfl, ?_, ?_⟩
  · rw [held]
    intro payload member
    rw [List.mem_singleton.mp member]
    exact ⟨"RUN-1", by decide +kernel⟩
  · rw [held]
    exact List.pairwise_singleton _ _

def sampleCrashes : List TelemetryEvent :=
  [.start "RUN-2", .reserve, .crash, .start "RUN-2", .reserve, .crash, .start "RUN-2", .reserve]

theorem telemetry_never_reused_sample :
    let agent := (telemetryAgentAuthority sampleBuiltins "milling-workshop-01").run
      { db := sampleLegacy } sampleCrashes
    agent.numbers = [42, 43, 44] ∧ agent.numbers.Pairwise (· < ·) := by
  intro agent
  refine ⟨by decide +kernel, ?_⟩
  exact (telemetry_never_reused sampleLegacy_legacy sampleCrashes).1

end MiniOgas
