import MiniOgas.AgentTelemetry
import MiniOgas.Backlog
import MiniOgas.TableQuery

namespace MiniOgas

open Backlog Relational

variable {builtins : Builtins} {db : LocalDatabase}

structure CentreDecisions where
  batch : TelemetryBatch → SendResult
  record : Nat → Fields → Bool
  accepted : SendResult
  refused : SendResult
  accepts : accepted.synced = true
  refuses : refused.synced = false

variable {centre : CentreDecisions} {item : Nat × TelemetryBatch} {record : Nat × HeartbeatRow}

def CentreDecisions.records (centre : CentreDecisions) (records : List (Nat × HeartbeatRow)) :
    SendResult :=
  if records.all fun record => centre.record record.1 record.2.payload then centre.accepted
  else centre.refused

/-- `sync_pending_telemetry_batches`, and then `sync_pending_records`. -/
def syncRound (builtins : Builtins) (centre : CentreDecisions) (db : LocalDatabase) :
    LocalDatabase :=
  syncPendingRecords
    (syncPendingTelemetryBatches builtins db (fun batch _ => (centre.batch batch, ())) ()).1
    centre.records

structure AllSynced (centre : CentreDecisions) (db later : LocalDatabase) : Prop where
  batches : ∀ id row, (id, row) ∈ db.telemetryBatches.entries → row.synced = .pending →
    (centre.batch row.payload).synced = true →
    ∃ row', (id, row') ∈ later.telemetryBatches.entries ∧ row'.synced = .synced
  records : ∀ id row, (id, row) ∈ db.heartbeats.entries → row.synced = false →
    centre.record id row.payload = true →
    ∃ row', (id, row') ∈ later.heartbeats.entries ∧ row'.synced = true

def pendingBatches (db : LocalDatabase) : List (Nat × TelemetryBatch) :=
  (db.telemetryBatches.select (·.synced = .pending)).map fun entry => (entry.1, entry.2.payload)

def acceptsBatch (centre : CentreDecisions) (item : Nat × TelemetryBatch) : Bool :=
  (centre.batch item.2).synced

def stopsSync (builtins : Builtins) (centre : CentreDecisions) (item : Nat × TelemetryBatch) :
    Bool :=
  (centre.batch item.2).syncState builtins = .pending

theorem acceptsBatch_goes (item : Nat × TelemetryBatch) (h : acceptsBatch centre item = true) :
    stopsSync builtins centre item = false := by
  unfold acceptsBatch at h
  simp [stopsSync, SendResult.syncState, h]

theorem mem_pendingBatches : item ∈ pendingBatches db ↔
    ∃ row, (item.1, row) ∈ db.telemetryBatches.entries ∧ row.payload = item.2 ∧
      row.synced = .pending := by
  unfold pendingBatches SerialTable.select
  simp only [List.mem_map, List.mem_filter, decide_eq_true_eq]
  constructor
  · rintro ⟨entry, ⟨there, pending⟩, rfl⟩
    exact ⟨entry.2, there, rfl, pending⟩
  · rintro ⟨row, there, same, pending⟩
    exact ⟨(item.1, row), ⟨there, pending⟩, by rw [same]⟩

theorem nodup_pendingBatches (db : LocalDatabase) : ((pendingBatches db).map Prod.fst).Nodup := by
  unfold pendingBatches SerialTable.select
  rw [List.map_map]
  exact (db.telemetryBatches.nodup_ids).sublist (List.filter_sublist.map _)

theorem pendingBatches_answer {item : Nat × TelemetryBatch} (there : item ∈ pendingBatches db)
    (result : SendResult) :
    pendingBatches (answerTelemetryBatch builtins db item.1 result) =
      if result.syncState builtins = .pending then pendingBatches db
      else (pendingBatches db).filter (·.1 ≠ item.1) := by
  obtain ⟨row, member, -, pending⟩ := mem_pendingBatches.mp there
  have own : ∀ entry ∈ db.telemetryBatches.entries, entry.1 = item.1 →
      entry.2.synced = .pending := by
    intro entry h same
    rw [SerialTable.eq_of_id h member same]
    exact pending
  unfold pendingBatches SerialTable.select answerTelemetryBatch SerialTable.update
  dsimp only
  generalize db.telemetryBatches.entries = entries at own
  induction entries with
  | nil => split <;> rfl
  | cons entry entries ih =>
    by_cases same : entry.1 = item.1
    · by_cases stays : result.syncState builtins = .pending <;>
        simp_all [TelemetryRow.answered]
    · by_cases waits : entry.2.synced = .pending <;>
        by_cases stays : result.syncState builtins = .pending <;> simp_all

theorem pendingTelemetryBatches_eq (db : LocalDatabase) (limit : Nat) :
    pendingTelemetryBatches db limit = (pendingBatches db).take limit := by
  unfold pendingTelemetryBatches pendingBatches
  rw [List.map_take]

theorem syncBatches_cons {item : Nat × TelemetryBatch} {rest : List (Nat × TelemetryBatch)}
    (items : pendingBatches db = item :: rest) (k : Nat) :
    pendingBatches (answerTelemetryBatch builtins db item.1 (centre.batch item.2)) =
      (if stopsSync builtins centre item = true then item :: rest else rest) ∧
    syncBatches builtins (fun batch _ => (centre.batch batch, ()))
      ((pendingBatches db).take (k + 1)) db () =
      if stopsSync builtins centre item = true then
        (answerTelemetryBatch builtins db item.1 (centre.batch item.2), ())
      else syncBatches builtins (fun batch _ => (centre.batch batch, ()))
        ((pendingBatches
          (answerTelemetryBatch builtins db item.1 (centre.batch item.2))).take k)
        (answerTelemetryBatch builtins db item.1 (centre.batch item.2)) () := by
  have there : item ∈ pendingBatches db := items ▸ List.mem_cons_self
  have answered := @pendingBatches_answer builtins _ _ there (centre.batch item.2)
  have distinct := nodup_pendingBatches db
  rw [items] at answered distinct
  have looped : syncBatches builtins (fun batch _ => (centre.batch batch, ()))
      (item :: rest.take k) db () =
      if (centre.batch item.2).syncState builtins = .pending then
        (answerTelemetryBatch builtins db item.1 (centre.batch item.2), ())
      else syncBatches builtins (fun batch _ => (centre.batch batch, ())) (rest.take k)
        (answerTelemetryBatch builtins db item.1 (centre.batch item.2)) () := rfl
  rw [items, List.take_succ_cons, looped]
  cases stopped : stopsSync builtins centre item with
  | true =>
    have stays : (centre.batch item.2).syncState builtins = .pending := by
      simpa [stopsSync] using stopped
    rw [if_pos stays] at answered ⊢
    exact ⟨answered, rfl⟩
  | false =>
    have goes : ¬(centre.batch item.2).syncState builtins = .pending := by
      simpa [stopsSync] using stopped
    have others : (item :: rest).filter (·.1 ≠ item.1) = rest := by
      rw [List.map_cons, List.nodup_cons] at distinct
      rw [List.filter_cons_of_neg (by simp), List.filter_eq_self]
      intro other h
      have different : other.1 ≠ item.1 := fun same =>
        distinct.1 (same ▸ List.mem_map_of_mem h)
      simpa using different
    rw [if_neg goes, others] at answered
    rw [if_neg goes, answered]
    exact ⟨rfl, rfl⟩

theorem pendingBatches_syncBatches (k : Nat) (db : LocalDatabase) :
    pendingBatches (syncBatches builtins (fun batch _ => (centre.batch batch, ()))
      ((pendingBatches db).take k) db ()).1 =
      drain (stopsSync builtins centre) k (pendingBatches db) := by
  induction k generalizing db with
  | zero =>
    rfl
  | succ k ih =>
    cases items : pendingBatches db with
    | nil =>
      exact items
    | cons item rest =>
      obtain ⟨answered, next⟩ := @syncBatches_cons builtins _ centre _ _ items k
      rw [← items, next]
      cases stopped : stopsSync builtins centre item with
      | true =>
        rw [if_pos stopped] at answered
        rw [if_pos rfl, answered, items, drain_cons stopped]
      | false =>
        rw [stopped, if_neg Bool.false_ne_true] at answered
        rw [if_neg Bool.false_ne_true, ih, answered, items, drain_succ_cons stopped]

theorem syncBatches_invariant {P : LocalDatabase → Prop}
    (step : ∀ db item, P db → item ∈ pendingBatches db →
      P (answerTelemetryBatch builtins db item.1 (centre.batch item.2)))
    (k : Nat) (start : P db) :
    P (syncBatches builtins (fun batch _ => (centre.batch batch, ()))
      ((pendingBatches db).take k) db ()).1 := by
  induction k generalizing db with
  | zero =>
    exact start
  | succ k ih =>
    cases items : pendingBatches db with
    | nil =>
      exact start
    | cons item rest =>
      obtain ⟨-, next⟩ := @syncBatches_cons builtins _ centre _ _ items k
      have answered := step db item start (items ▸ List.mem_cons_self)
      rw [← items, next]
      split
      next => exact answered
      next => exact ih answered

/-- A batch that was pending still is, or has the state that the centre decides on. -/
def BatchFate (builtins : Builtins) (centre : CentreDecisions) (item : Nat × TelemetryBatch)
    (db : LocalDatabase) : Prop :=
  ∃ row, (item.1, row) ∈ db.telemetryBatches.entries ∧ row.payload = item.2 ∧
    (row.synced = .pending ∨ row.synced = (centre.batch item.2).syncState builtins)

theorem batchFate_answer {item other : Nat × TelemetryBatch}
    (fate : BatchFate builtins centre item db) (there : other ∈ pendingBatches db) :
    BatchFate builtins centre item
      (answerTelemetryBatch builtins db other.1 (centre.batch other.2)) := by
  obtain ⟨row, member, same, state⟩ := fate
  by_cases own : item.1 = other.1
  · obtain ⟨row', member', same', -⟩ := mem_pendingBatches.mp there
    have only : row = row' := by
      have := SerialTable.eq_of_id member member' own
      exact (Prod.mk.inj this).2
    refine ⟨row.answered builtins (centre.batch other.2), ?_, same, .inr ?_⟩
    · exact List.mem_map.mpr ⟨_, member, if_pos (by simpa using own)⟩
    · rw [← same, only, same']
      rfl
  · exact ⟨row, List.mem_map.mpr ⟨_, member, if_neg (by simpa using own)⟩, same, state⟩

def pendingHeartbeats (db : LocalDatabase) : List (Nat × HeartbeatRow) :=
  db.heartbeats.select fun row => !row.synced

def acceptsRecord (centre : CentreDecisions) (record : Nat × HeartbeatRow) : Bool :=
  centre.record record.1 record.2.payload

theorem records_synced (records : List (Nat × HeartbeatRow)) :
    (centre.records records).synced = records.all (acceptsRecord centre) := by
  unfold CentreDecisions.records acceptsRecord
  split
  next whole => rw [centre.accepts, whole]
  next refused => rw [centre.refuses, Bool.eq_false_iff.mpr refused]

theorem pendingHeartbeats_markRecordsSynced (ids : List Nat) (requestId : String)
    (httpStatus : Nat) :
    pendingHeartbeats (markRecordsSynced db ids requestId httpStatus) =
      (pendingHeartbeats db).filter (·.1 ∉ ids) := by
  unfold pendingHeartbeats Table.select markRecordsSynced
  rw [Table.entries_map]
  generalize db.heartbeats.entries = entries
  induction entries with
  | nil => rfl
  | cons entry entries ih =>
    by_cases marked : entry.1 ∈ ids <;> by_cases waits : entry.2.synced = true <;> simp_all

theorem nodup_pendingHeartbeats (db : LocalDatabase) :
    ((pendingHeartbeats db).map Prod.fst).Nodup := by
  have ids : db.heartbeats.entries.map Prod.fst =
      (List.range' 0 db.heartbeats.rows.length).map (· + 1) := by
    rw [← List.zipIdx_map_snd, List.map_map, Table.entries, List.map_map]
    rfl
  refine List.Nodup.sublist (List.filter_sublist.map _) ?_
  rw [ids]
  have positions : (List.range' 0 db.heartbeats.rows.length).Nodup := List.nodup_range'
  exact positions.map (add_left_injective 1)

theorem filter_not_mem_take {α : Type} {xs : List (Nat × α)} (k : Nat)
    (distinct : (xs.map Prod.fst).Nodup) :
    xs.filter (·.1 ∉ (xs.take k).map Prod.fst) = xs.drop k := by
  have parts := List.take_append_drop k xs
  have apart : ∀ x ∈ xs.drop k, x.1 ∉ (xs.take k).map Prod.fst := by
    intro x there first
    rw [← parts, List.map_append, List.nodup_append'] at distinct
    exact distinct.2.2 first (List.mem_map_of_mem there)
  have whole : xs.filter (·.1 ∉ (xs.take k).map Prod.fst) =
      (xs.take k ++ xs.drop k).filter (·.1 ∉ (xs.take k).map Prod.fst) := by rw [parts]
  have first : (xs.take k).filter (·.1 ∉ (xs.take k).map Prod.fst) = [] := by
    rw [List.filter_eq_nil_iff]
    intro x there
    simpa using List.mem_map_of_mem there
  have later : (xs.drop k).filter (·.1 ∉ (xs.take k).map Prod.fst) = xs.drop k :=
    List.filter_eq_self.mpr fun x there => decide_eq_true (apart x there)
  rw [whole, List.filter_append, first, later, List.nil_append]

theorem pendingHeartbeats_syncPendingRecords (db : LocalDatabase) :
    pendingHeartbeats (syncPendingRecords db centre.records) =
      release (acceptsRecord centre) syncLimit (pendingHeartbeats db) := by
  unfold syncPendingRecords
  have records : pendingRecords db syncLimit = (pendingHeartbeats db).take syncLimit := rfl
  rw [records]
  dsimp only
  rw [records_synced]
  unfold release
  split
  next none =>
    have empty : pendingHeartbeats db = [] := by
      have := List.isEmpty_iff.mp none
      cases h : pendingHeartbeats db with
      | nil => rfl
      | cons record records => rw [h] at this; cases this
    rw [empty]
    rfl
  next =>
    split
    next whole =>
      rw [pendingHeartbeats_markRecordsSynced,
        filter_not_mem_take syncLimit (nodup_pendingHeartbeats db)]
    next => rfl

def RecordFate (record : Nat × HeartbeatRow) (db : LocalDatabase) : Prop :=
  ∃ row, (record.1, row) ∈ db.heartbeats.entries ∧ row.payload = record.2.payload

theorem recordFate_syncPendingRecords (fate : RecordFate record db) :
    RecordFate record (syncPendingRecords db centre.records) := by
  obtain ⟨row, member, same⟩ := fate
  unfold syncPendingRecords
  dsimp only
  split
  next => exact ⟨row, member, same⟩
  next =>
    split
    next =>
      unfold RecordFate markRecordsSynced
      rw [Table.entries_map]
      refine ⟨_, List.mem_map.mpr ⟨_, member, rfl⟩, ?_⟩
      split
      · exact same
      · exact same
    next => exact ⟨row, member, same⟩

theorem telemetryBatches_syncPendingRecords (db : LocalDatabase) :
    (syncPendingRecords db centre.records).telemetryBatches = db.telemetryBatches := by
  unfold syncPendingRecords
  dsimp only
  split
  next => rfl
  next => split <;> rfl

theorem heartbeats_syncBatches (db : LocalDatabase) :
    (syncPendingTelemetryBatches builtins db (fun batch _ => (centre.batch batch, ()))
      ()).1.heartbeats = db.heartbeats := by
  unfold syncPendingTelemetryBatches
  rw [pendingTelemetryBatches_eq]
  exact syncBatches_invariant (P := fun later => later.heartbeats = db.heartbeats)
    (fun later item same _ => same) syncLimit rfl

theorem pendingBatches_syncRound (n : Nat) (db : LocalDatabase) :
    pendingBatches ((syncRound builtins centre)^[n] db) =
      (drain (stopsSync builtins centre) syncLimit)^[n] (pendingBatches db) := by
  have step : Function.Semiconj pendingBatches (syncRound builtins centre)
      (drain (stopsSync builtins centre) syncLimit) := by
    intro db
    have rows : pendingBatches (syncRound builtins centre db) =
        pendingBatches (syncPendingTelemetryBatches builtins db
          (fun batch _ => (centre.batch batch, ())) ()).1 := by
      unfold pendingBatches syncRound
      rw [telemetryBatches_syncPendingRecords]
    rw [rows]
    unfold syncPendingTelemetryBatches
    rw [pendingTelemetryBatches_eq, pendingBatches_syncBatches]
  exact step.iterate_right n db

theorem pendingHeartbeats_syncRound (n : Nat) (db : LocalDatabase) :
    pendingHeartbeats ((syncRound builtins centre)^[n] db) =
      (release (acceptsRecord centre) syncLimit)^[n] (pendingHeartbeats db) := by
  have step : Function.Semiconj pendingHeartbeats (syncRound builtins centre)
      (release (acceptsRecord centre) syncLimit) := by
    intro db
    unfold syncRound
    rw [pendingHeartbeats_syncPendingRecords]
    unfold pendingHeartbeats
    rw [heartbeats_syncBatches]
  exact step.iterate_right n db

theorem batchFate_syncRound (n : Nat) (fate : BatchFate builtins centre item db) :
    BatchFate builtins centre item ((syncRound builtins centre)^[n] db) := by
  induction n with
  | zero => exact fate
  | succ n ih =>
    rw [Function.iterate_succ_apply']
    generalize (syncRound builtins centre)^[n] db = later at ih
    have synced : BatchFate builtins centre item (syncPendingTelemetryBatches builtins later
        (fun batch _ => (centre.batch batch, ())) ()).1 := by
      unfold syncPendingTelemetryBatches
      rw [pendingTelemetryBatches_eq]
      exact syncBatches_invariant (fun db other fate there => batchFate_answer fate there) _ ih
    unfold syncRound
    unfold BatchFate at synced ⊢
    rw [telemetryBatches_syncPendingRecords]
    exact synced

theorem recordFate_syncRound {record : Nat × HeartbeatRow} (n : Nat)
    (fate : RecordFate record db) :
    RecordFate record ((syncRound builtins centre)^[n] db) := by
  induction n with
  | zero => exact fate
  | succ n ih =>
    rw [Function.iterate_succ_apply']
    refine recordFate_syncPendingRecords ?_
    unfold RecordFate at ih ⊢
    rw [heartbeats_syncBatches]
    exact ih

theorem mem_pendingHeartbeats :
    record ∈ pendingHeartbeats db ↔
      record ∈ db.heartbeats.entries ∧ record.2.synced = false := by
  unfold pendingHeartbeats Table.select
  rw [List.mem_filter, Bool.not_eq_true']

theorem batches_synced_iff (n : Nat) :
    (∀ id row, (id, row) ∈ db.telemetryBatches.entries → row.synced = .pending →
      (centre.batch row.payload).synced = true →
      ∃ row', (id, row') ∈ ((syncRound builtins centre)^[n] db).telemetryBatches.entries ∧
        row'.synced = .synced) ↔
      ∀ item ∈ (drain (stopsSync builtins centre) syncLimit)^[n] (pendingBatches db),
        acceptsBatch centre item = false := by
  constructor
  · intro synced item left
    by_contra accepted
    have accepted : acceptsBatch centre item = true := Bool.not_eq_false _ ▸ accepted
    have first : item ∈ pendingBatches db :=
      iterate_subset (fun _ => drain_subset) (Nat.zero_le n) left
    obtain ⟨row, member, same, pending⟩ := mem_pendingBatches.mp first
    rw [acceptsBatch, ← same] at accepted
    obtain ⟨row', member', done⟩ := synced item.1 row member pending accepted
    rw [← pendingBatches_syncRound] at left
    obtain ⟨row'', member'', -, waits⟩ := mem_pendingBatches.mp left
    have only := SerialTable.eq_of_id member' member'' rfl
    rw [(Prod.mk.inj only).2, waits] at done
    cases done
  · intro none id row member pending accepted
    have first : BatchFate builtins centre (id, row.payload) db := ⟨row, member, rfl, .inl pending⟩
    obtain ⟨row', member', same, state⟩ := batchFate_syncRound n first
    rcases state with waits | done
    · have left : (id, row.payload) ∈ pendingBatches ((syncRound builtins centre)^[n] db) :=
        mem_pendingBatches.mpr ⟨row', member', same, waits⟩
      rw [pendingBatches_syncRound] at left
      have refused := none _ left
      rw [acceptsBatch, accepted] at refused
      cases refused
    · refine ⟨row', member', done.trans ?_⟩
      simp [SendResult.syncState, accepted]

theorem records_synced_iff (n : Nat) :
    (∀ id row, (id, row) ∈ db.heartbeats.entries → row.synced = false →
      centre.record id row.payload = true →
      ∃ row', (id, row') ∈ ((syncRound builtins centre)^[n] db).heartbeats.entries ∧
        row'.synced = true) ↔
      ∀ record ∈ (release (acceptsRecord centre) syncLimit)^[n] (pendingHeartbeats db),
        acceptsRecord centre record = false := by
  constructor
  · intro synced record left
    by_contra accepted
    have accepted : acceptsRecord centre record = true := Bool.not_eq_false _ ▸ accepted
    obtain ⟨member, pending⟩ := mem_pendingHeartbeats.mp
      (iterate_subset (fun _ => release_subset) (Nat.zero_le n) left)
    obtain ⟨row', member', done⟩ := synced record.1 record.2 member pending accepted
    rw [← @pendingHeartbeats_syncRound builtins] at left
    obtain ⟨member'', waits⟩ := mem_pendingHeartbeats.mp left
    have only := (Table.mem_entries.mp member').symm.trans (Table.mem_entries.mp member'')
    rw [Option.some.inj only, waits] at done
    cases done
  · intro none id row member pending accepted
    have first : RecordFate (id, row) db := ⟨row, member, rfl⟩
    obtain ⟨row', member', same⟩ := @recordFate_syncRound builtins _ centre _ n first
    refine ⟨row', member', ?_⟩
    by_contra waits
    have left : (id, row') ∈ pendingHeartbeats ((syncRound builtins centre)^[n] db) :=
      mem_pendingHeartbeats.mpr ⟨member', Bool.not_eq_true _ ▸ waits⟩
    rw [pendingHeartbeats_syncRound] at left
    have refused := none _ left
    rw [acceptsRecord, same, accepted] at refused
    cases refused

theorem allSynced_iterate_iff (n : Nat) :
    AllSynced centre db ((syncRound builtins centre)^[n] db) ↔
      (∀ item ∈ (drain (stopsSync builtins centre) syncLimit)^[n] (pendingBatches db),
        acceptsBatch centre item = false) ∧
      ∀ record ∈ (release (acceptsRecord centre) syncLimit)^[n] (pendingHeartbeats db),
        acceptsRecord centre record = false := by
  rw [← batches_synced_iff n, ← @records_synced_iff builtins _ _ n]
  exact ⟨fun all => ⟨all.batches, all.records⟩, fun both => ⟨both.1, both.2⟩⟩

/-- In finitely many rounds all that the centre would accept is synced, if and only if no batch
waits for one that is refused, other than with a terminal conflict, and no record is in a group
of twenty, or after one, that has a refused record. -/
theorem allSynced_iff (builtins : Builtins) (centre : CentreDecisions) (db : LocalDatabase) :
    (∃ n, AllSynced centre db ((syncRound builtins centre)^[n] db)) ↔
      (∀ older item newer, pendingBatches db = older ++ item :: newer →
        acceptsBatch centre item = true →
        ∀ earlier ∈ older, stopsSync builtins centre earlier = false) ∧
      Grouped (acceptsRecord centre) 20 (pendingHeartbeats db) := by
  have pos : 0 < syncLimit := by decide
  have batches := @drain_iff _ _ (stopsSync builtins centre) _ (pendingBatches db) pos
    (@acceptsBatch_goes builtins centre)
  have records := @release_iff _ (acceptsRecord centre) _ (pendingHeartbeats db) pos
  constructor
  · rintro ⟨n, synced⟩
    obtain ⟨one, two⟩ := (allSynced_iterate_iff n).mp synced
    exact ⟨batches.mp ⟨n, one⟩, records.mp ⟨n, two⟩⟩
  · rintro ⟨one, two⟩
    obtain ⟨m, none⟩ := batches.mpr one
    obtain ⟨n, none'⟩ := records.mpr two
    refine ⟨max m n, (allSynced_iterate_iff _).mpr ⟨fun item left => ?_, fun record left => ?_⟩⟩
    · exact none item (iterate_subset (fun _ => drain_subset) (Nat.le_max_left m n) left)
    · exact none' record (iterate_subset (fun _ => release_subset) (Nat.le_max_right m n) left)

def sampleBatch (tick : Nat) : TelemetryBatch :=
  telemetryBatchPayload "RUN-1" "milling-workshop-01"
    { machineCode := "MILL-02", timestamp := 0, simulationTime := none, spindleTemp := 40,
      toolWearLevel := 10, utilization := 1 / 2, defectRate := 0, actualRate := 1 } tick

def sampleRefusal : SendResult where
  synced := false
  httpStatus := 409
  problem := some [("code", .str "TELEMETRY_SIGNAL_NOT_REGISTERED")]

def sampleCentre : CentreDecisions where
  batch batch := if batch.sequence = 1 then sampleRefusal else ⟨true, "", 201, "", none⟩
  record _ _ := true
  accepted := ⟨true, "", 200, "", none⟩
  refused := ⟨false, "", 409, "", none⟩
  accepts := rfl
  refuses := rfl

def sampleBacklog : LocalDatabase :=
  [1, 2].foldl (fun db tick => storeTelemetryBatch sampleBuiltins db (sampleBatch tick)
    ⟨false, "", 0, "timed out", none⟩) .empty

/-- A batch that is refused keeps the next one from being synced. -/
theorem refused_batch_blocks : ¬∀ (builtins : Builtins) (centre : CentreDecisions)
    (db : LocalDatabase), ∃ n, AllSynced centre db ((syncRound builtins centre)^[n] db) := by
  intro h
  obtain ⟨n, synced⟩ := h sampleBuiltins sampleCentre sampleBacklog
  have pos : 0 < syncLimit := by decide
  have clear := (@drain_iff _ _ (stopsSync sampleBuiltins sampleCentre) _
    (pendingBatches sampleBacklog) pos (@acceptsBatch_goes sampleBuiltins sampleCentre)).mp
    ⟨n, ((allSynced_iterate_iff n).mp synced).1⟩
  have items : pendingBatches sampleBacklog = [(1, sampleBatch 1), (2, sampleBatch 2)] := by
    decide +kernel
  have stopped := clear [(1, sampleBatch 1)] (2, sampleBatch 2) [] items (by decide +kernel)
    (1, sampleBatch 1) List.mem_cons_self
  exact absurd stopped (by decide +kernel)

end MiniOgas
