import MiniOgas.TelemetryQuality

namespace MiniOgas

open Relational Serial

inductive RetentionPhase where
  | idle
  | started (runId : Nat) (startedAt : Timestamp)
  | aggregated (runId : Nat) (startedAt : Timestamp)
  | covered (runId : Nat) (startedAt : Timestamp)

/-- A store with retention runs in steps: `counted` has the rows that their aggregations have
counted, and `since` those that were committed since the last aggregation. -/
structure RetentionProcess where
  store : TelemetryStore
  phase : RetentionPhase := .idle
  counted : List (Nat × Measurement) := []
  since : List (Nat × Measurement) := []

/-- The transactions of `run_retention`, those of the calls that come between them, and the end
of a process in the middle of its run. -/
inductive RetentionStep where
  | ingest (payload : TelemetryBatchIn) (actor : String) (now : Timestamp)
  | register (signals : Dictionary String SignalDefinition) (equipment : List String)
  | start (reason actor : String) (now : Timestamp)
  | aggregate (now : Timestamp)
  | coverage (now : Timestamp)
  | delete (now : Timestamp)
  | crash

def expiredEntries (store : TelemetryStore) (cutoff : Timestamp) : List (Nat × Measurement) :=
  store.measurements.entries.filter (·.2.sourceTimestamp < cutoff)

def notThere : TelemetryFault := .valueError "no retention run is at this step"

def RetentionProcess.attempt (settings : HistorianSettings) (process : RetentionProcess) :
    RetentionStep → Except TelemetryFault (Unit × RetentionProcess)
  | .ingest payload actor now => do
    let (_, store) ← ingestBatch settings payload.1 actor now process.store
    let inserted := insertedSince process.store.measurements store.measurements
    return ((), { process with store := store, since := process.since ++ inserted })
  | .register signals equipment =>
    let store := { process.store with signals := signals, equipment := equipment }
    .ok ((), { process with store := store })
  | .start reason actor now =>
    match process.phase with
    | .idle =>
      let (runId, store) := startRetentionRun settings now process.store reason actor
      .ok ((), { process with store := store, phase := .started runId now })
    | _ => .error notThere
  | .aggregate now =>
    match process.phase with
    | .started runId startedAt =>
      let rawCutoff := settings.rawCutoff startedAt
      let bounds : AggregationBounds := { toTimestamp := some rawCutoff }
      .ok ((),
        { store := (aggregateHourly settings bounds now process.store).2
          phase := .aggregated runId startedAt
          counted := process.counted ++ expiredEntries process.store rawCutoff })
    | _ => .error notThere
  | .coverage now =>
    match process.phase with
    | .aggregated runId startedAt =>
      match retentionCoverage (settings.rawCutoff startedAt) process.store with
      | .ok _ => .ok ((), { process with phase := .covered runId startedAt })
      | .error _ =>
        .ok ((), { process with
          store := failRetentionRun now process.store runId
          phase := .idle })
    | _ => .error notThere
  | .delete now =>
    match process.phase with
    | .covered runId startedAt =>
      let store := deleteExpired now process.store (settings.rawCutoff startedAt)
        (settings.aggregateCutoff startedAt) runId
      .ok ((), { process with store := store, phase := .idle })
    | _ => .error notThere
  | .crash => .ok ((), { process with phase := .idle })

def retentionAuthority (settings : HistorianSettings) :
    Authority RetentionStep RetentionProcess Unit TelemetryFault where
  attempt step process := process.attempt settings step

variable {settings : HistorianSettings} {process process' : RetentionProcess}
  {now : Timestamp} {store : TelemetryStore}

def RetentionProcess.deletes (settings : HistorianSettings) (process : RetentionProcess) :
    RetentionStep → Option Timestamp
  | .delete _ =>
    match process.phase with
    | .covered _ startedAt => some (settings.rawCutoff startedAt)
    | _ => none
  | _ => none

def DeletesCounted (settings : HistorianSettings) (process : RetentionProcess)
    (step : RetentionStep) : Prop :=
  ∀ cutoff ∈ process.deletes settings step, ∀ entry ∈ expiredEntries process.store cutoff,
    entry ∈ process.counted

/-- Nothing that was committed since the aggregation of a run is before its cutoff when the run
comes to delete. -/
def NoneLate (settings : HistorianSettings) (process : RetentionProcess) (step : RetentionStep) :
    Prop :=
  ∀ cutoff ∈ process.deletes settings step, ∀ entry ∈ process.since,
    cutoff ≤ entry.2.sourceTimestamp

def RetentionPhase.aggregatedAt : RetentionPhase → Option Timestamp
  | .aggregated _ startedAt | .covered _ startedAt => some startedAt
  | _ => none

structure CountedSound (settings : HistorianSettings) (process : RetentionProcess) : Prop where
  given : ∀ entry ∈ process.counted, entry.1 ≤ process.store.measurements.seq
  fresh : ∀ startedAt, process.phase.aggregatedAt = some startedAt →
    ∀ entry ∈ process.since, entry ∉ process.counted
  split : ∀ startedAt, process.phase.aggregatedAt = some startedAt →
    ∃ base, process.store.measurements.entries = base ++ process.since ∧
      ∀ entry ∈ base, entry.2.sourceTimestamp < settings.rawCutoff startedAt →
        entry ∈ process.counted

theorem CountedSound.kept (sound : CountedSound settings process)
    (measurements : process'.store.measurements = process.store.measurements)
    (counted : process'.counted = process.counted) (since : process'.since = process.since)
    (phase : ∀ startedAt, process'.phase.aggregatedAt = some startedAt →
      process.phase.aggregatedAt = some startedAt) : CountedSound settings process' where
  given := by
    rw [counted, measurements]
    exact sound.given
  fresh startedAt at' := by
    rw [counted, since]
    exact sound.fresh startedAt (phase startedAt at')
  split startedAt at' := by
    rw [counted, since, measurements]
    exact sound.split startedAt (phase startedAt at')

theorem CountedSound.idle (sound : CountedSound settings process)
    (seq : process'.store.measurements.seq = process.store.measurements.seq)
    (counted : process'.counted = process.counted) (phase : process'.phase = .idle) :
    CountedSound settings process' where
  given := by
    rw [counted, seq]
    exact sound.given
  fresh startedAt at' := by
    rw [phase] at at'
    cases at'
  split startedAt at' := by
    rw [phase] at at'
    cases at'

variable {settings : HistorianSettings} {process process' : RetentionProcess}
  {now : Timestamp} {store store' : TelemetryStore} {payload : TelemetryBatch}
  {actor : String} {reply : TelemetryResponse × Bool}

theorem ingestBatch_appends (h : ingestBatch settings payload actor now store = .ok (reply, store'))
    : store'.measurements.entries =
        store.measurements.entries ++ insertedSince store.measurements store'.measurements ∧
      store.measurements.seq ≤ store'.measurements.seq := by
  rcases ingestBatch_cases h with ⟨-, again⟩ | ⟨-, all, new⟩
  · rw [again.same, insertedSince_subset (List.Subset.refl _), List.append_nil]
    exact ⟨rfl, Nat.le_refl _⟩
  · exact ⟨new.entries, new.seq⟩

theorem CountedSound.ingested (sound : CountedSound settings process)
    (h : ingestBatch settings payload actor now process.store = .ok (reply, store)) :
    CountedSound settings { process with
      store := store
      since := process.since ++ insertedSince process.store.measurements store.measurements } := by
  obtain ⟨entries, seq⟩ := ingestBatch_appends h
  exact {
    given := fun entry member => Nat.le_trans (sound.given entry member) seq
    fresh := fun startedAt phase entry member counted => by
      rcases List.mem_append.mp member with old | new
      · exact sound.fresh startedAt phase entry old counted
      · have earlier := sound.given entry counted
        have later := insertedSince_later entry new
        omega
    split := fun startedAt phase => by
      obtain ⟨base, whole, all⟩ := sound.split startedAt phase
      refine ⟨base, ?_, all⟩
      rw [entries, whole, List.append_assoc] }

theorem CountedSound.aggregated (sound : CountedSound settings process) (runId : Nat)
    (startedAt : Timestamp) : CountedSound settings
      { store := (aggregateHourly settings { toTimestamp := some (settings.rawCutoff startedAt) }
          now process.store).2
        phase := .aggregated runId startedAt
        counted := process.counted ++
          expiredEntries process.store (settings.rawCutoff startedAt) } where
  given entry member := by
    rcases List.mem_append.mp member with old | new
    · exact sound.given entry old
    · exact process.store.measurements.given entry (List.mem_of_mem_filter new)
  fresh startedAt phase entry none := absurd none List.not_mem_nil
  split started phase := by
    cases phase
    refine ⟨process.store.measurements.entries, (List.append_nil _).symm, ?_⟩
    intro entry member early
    exact List.mem_append_right _ (List.mem_filter.mpr ⟨member, decide_eq_true early⟩)

theorem deleteExpired_seq {rawCutoff aggregateCutoff : Timestamp} {runId : Nat} :
    (deleteExpired now store rawCutoff aggregateCutoff runId).measurements.seq =
      store.measurements.seq := by
  have same := congrArg SerialTable.seq
    (@deleteExpired_same now store runId rawCutoff aggregateCutoff).measurements
  exact same

theorem CountedSound.step {step : RetentionStep} (sound : CountedSound settings process)
    (h : (retentionAuthority settings).attempt step process = .ok ((), process')) :
    CountedSound settings process' := by
  cases step with
  | ingest payload actor now =>
    obtain ⟨⟨reply, store⟩, ingest, h⟩ := of_bind h
    cases h
    exact sound.ingested ingest
  | register signals equipment =>
    cases h
    exact sound.kept rfl rfl rfl fun startedAt phase => phase
  | start reason actor now =>
    dsimp only [retentionAuthority, RetentionProcess.attempt] at h
    split at h
    next =>
      cases h
      refine sound.kept rfl rfl rfl fun startedAt phase => ?_
      cases phase
    next => cases h
  | aggregate now =>
    dsimp only [retentionAuthority, RetentionProcess.attempt] at h
    split at h
    next runId startedAt phase =>
      cases h
      exact sound.aggregated runId startedAt
    next => cases h
  | coverage now =>
    dsimp only [retentionAuthority, RetentionProcess.attempt] at h
    split at h
    next runId startedAt phase =>
      split at h
      next =>
        cases h
        refine sound.kept rfl rfl rfl fun started covered => ?_
        rw [phase]
        exact covered
      next =>
        cases h
        refine sound.idle ?_ rfl rfl
        exact congrArg SerialTable.seq (updateRun_same _).measurements
    next => cases h
  | delete now =>
    dsimp only [retentionAuthority, RetentionProcess.attempt] at h
    split at h
    next runId startedAt phase =>
      cases h
      exact sound.idle deleteExpired_seq rfl rfl
    next => cases h
  | crash =>
    cases h
    exact sound.idle rfl rfl rfl

theorem CountedSound.start (store : TelemetryStore) :
    CountedSound settings { store := store } where
  given entry none := absurd none List.not_mem_nil
  fresh startedAt phase := by cases phase
  split startedAt phase := by cases phase

theorem CountedSound.deletes_iff (sound : CountedSound settings process) (step : RetentionStep) :
    DeletesCounted settings process step ↔ NoneLate settings process step := by
  have aggregated : ∀ cutoff ∈ process.deletes settings step, ∃ startedAt,
      process.phase.aggregatedAt = some startedAt ∧ cutoff = settings.rawCutoff startedAt := by
    intro cutoff deletes
    unfold RetentionProcess.deletes at deletes
    split at deletes
    next =>
      split at deletes
      next runId startedAt phase =>
        cases Option.mem_some.mp deletes
        exact ⟨startedAt, by rw [phase]; rfl, rfl⟩
      next => cases deletes
    next => cases deletes
  constructor
  · intro counted cutoff deletes entry late
    obtain ⟨startedAt, phase, rfl⟩ := aggregated cutoff deletes
    obtain ⟨base, whole, all⟩ := sound.split startedAt phase
    by_contra early
    refine sound.fresh startedAt phase entry late (counted _ deletes entry ?_)
    refine List.mem_filter.mpr ⟨?_, decide_eq_true (not_le.mp early)⟩
    rw [whole]
    exact List.mem_append_right _ late
  · intro none cutoff deletes entry member
    obtain ⟨startedAt, phase, rfl⟩ := aggregated cutoff deletes
    obtain ⟨base, whole, all⟩ := sound.split startedAt phase
    obtain ⟨there, early⟩ := List.mem_filter.mp member
    have early := of_decide_eq_true early
    rw [whole] at there
    rcases List.mem_append.mp there with old | new
    · exact all entry old early
    · exact absurd early (not_lt.mpr (none _ deletes entry new))

/-- Along a run, retention deletes only what an aggregation has counted, if and only if nothing
before the cutoff of a retention run is committed between its aggregation and its deletes. -/
theorem deletes_counted_iff (settings : HistorianSettings) (store : TelemetryStore)
    (steps : List RetentionStep) :
    (retentionAuthority settings).Along (DeletesCounted settings) { store := store } steps ↔
      (retentionAuthority settings).Along (NoneLate settings) { store := store } steps := by
  have sound : CountedSound settings { store := store } := .start store
  constructor
  · exact Authority.along_invariant (fun sound _ h => sound.step h)
      (fun sound counted => (sound.deletes_iff _).mp counted) sound
  · exact Authority.along_invariant (fun sound _ h => sound.step h)
      (fun sound none => (sound.deletes_iff _).mpr none) sound

/-- A late sample is committed between the coverage check and the deletes, which remove it. -/
theorem late_sample_deleted : ¬ (retentionAuthority sampleHistorian).Along
    (DeletesCounted sampleHistorian) { store := sampleTelemetryStore }
    [.start "weekly" "ops" (8 * day), .aggregate (8 * day), .coverage (8 * day),
      .ingest ⟨temperatureBatch "B1" [temperatureSample 0 (.number 20) 0], by decide +kernel⟩
        "edge" (8 * day),
      .delete (8 * day)] := by
  rintro ⟨-, -, -, -, counted, -⟩
  unfold DeletesCounted at counted
  revert counted
  decide +kernel

end MiniOgas
