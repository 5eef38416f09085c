import MiniOgas.TelemetryQuality

namespace MiniOgas

open Relational Serial

variable {settings : HistorianSettings} {now cutoff : Timestamp} {history history' : Historian}
  {store store' : TelemetryStore} {key : AggregateKey} {reason actor : String}
  {entries : List (Nat × Measurement)}

def Historian.deleted (history : Historian) : List (Nat × Measurement) :=
  history.ingested.filter fun entry => entry ∉ history.store.measurements.entries

def ofWindow (entries : List (Nat × Measurement)) (key : AggregateKey) : List Measurement :=
  (entries.filter (·.2.window = key)).map Prod.snd

def windowBefore (entries : List (Nat × Measurement)) (key : AggregateKey) (cutoff : Timestamp) :
    List Measurement :=
  (entries.filter fun entry => entry.2.window = key && entry.2.sourceTimestamp < cutoff).map
    Prod.snd

theorem inWindow_expired (store : TelemetryStore) (cutoff : Timestamp) (key : AggregateKey) :
    inWindow (store.expired cutoff) key = windowBefore store.measurements.entries key cutoff := by
  unfold inWindow TelemetryStore.expired SerialTable.rows windowBefore
  rw [List.filter_filter, List.filter_map]
  rfl

structure Accounted (history : Historian) : Prop where
  kept : history.store.measurements.entries =
    history.ingested.filter fun entry => entry ∈ history.store.measurements.entries
  given : ∀ entry ∈ history.ingested, entry.1 ≤ history.store.measurements.seq

/-- The aggregates are those of the measurements that have been deleted. -/
def Aggregated (history : Historian) : Prop :=
  ∀ key aggregate, history.store.aggregates.get? key = some aggregate →
    AggregateOf (ofWindow history.deleted key) aggregate

theorem Accounted.kept_filter (accounted : Accounted history) (p : Nat × Measurement → Bool) :
    history.store.measurements.entries.filter p = history.ingested.filter fun entry =>
      p entry && entry ∈ history.store.measurements.entries := by
  conv_lhs => rw [accounted.kept]
  rw [List.filter_filter]

theorem Accounted.append (accounted : Accounted history)
    (kept : history'.store.measurements.entries = history.store.measurements.entries ++ entries)
    (ingested : history'.ingested = history.ingested ++ entries)
    (later : ∀ entry ∈ entries, history.store.measurements.seq < entry.1)
    (seq : history.store.measurements.seq ≤ history'.store.measurements.seq) :
    Accounted history' ∧ history'.deleted = history.deleted := by
  have apart : ∀ entry ∈ history.ingested, entry ∉ entries := by
    intro entry member new
    have old := accounted.given entry member
    have young := later entry new
    omega
  have there : ∀ entry ∈ history.ingested,
      entry ∈ history.store.measurements.entries ++ entries ↔
        entry ∈ history.store.measurements.entries := by
    intro entry member
    rw [List.mem_append, or_iff_left (apart entry member)]
  have new : entries.filter (fun entry =>
      entry ∈ history.store.measurements.entries ++ entries) = entries :=
    List.filter_eq_self.mpr fun entry member => decide_eq_true (List.mem_append_right _ member)
  constructor
  · constructor
    · rw [ingested, kept, List.filter_append, new]
      refine congrArg (· ++ entries) ?_
      conv_lhs => rw [accounted.kept]
      exact List.filter_congr fun entry member => by simp only [there entry member]
    · intro entry member
      rw [ingested, List.mem_append] at member
      rcases member with h | h
      · exact Nat.le_trans (accounted.given entry h) seq
      · refine history'.store.measurements.given entry ?_
        rw [kept]
        exact List.mem_append_right _ h
  · have none : entries.filter (fun entry =>
        entry ∉ history.store.measurements.entries ++ entries) = [] := by
      rw [List.filter_eq_nil_iff]
      intro entry member
      simp [member]
    unfold Historian.deleted
    rw [ingested, kept, List.filter_append, none, List.append_nil]
    exact List.filter_congr fun entry member => by simp only [there entry member]

theorem TelemetryEffect.appends {call : TelemetryCall}
    (effect : TelemetryEffect settings store call store')
    (other : ∀ reason actor now, call ≠ .retention reason actor now) :
    store'.aggregates = store.aggregates ∧
      store'.measurements.entries = store.measurements.entries ++
        insertedSince store.measurements store'.measurements ∧
      store.measurements.seq ≤ store'.measurements.seq := by
  cases effect with
  | replayed payload actor now response again =>
    rw [again.same]
    refine ⟨rfl, ?_, Nat.le_refl _⟩
    rw [insertedSince_subset (List.Subset.refl _), List.append_nil]
  | ingested payload actor now response all new =>
    exact ⟨new.frame.2.2.1, new.entries, new.seq⟩
  | retained reason actor now reply effect => exact absurd rfl (other reason actor now)
  | registered signals equipment =>
    refine ⟨rfl, ?_, Nat.le_refl _⟩
    rw [insertedSince_subset (List.Subset.refl _), List.append_nil]

theorem Accounted.other {call : TelemetryCall} (accounted : Accounted history)
    (other : ∀ reason actor now, call ≠ .retention reason actor now) :
    Accounted ((historian settings).serve history call) ∧
      ((historian settings).serve history call).deleted = history.deleted ∧
      ((historian settings).serve history call).store.aggregates = history.store.aggregates := by
  rcases (historian settings).serve_cases history call with same | ⟨reply, h⟩
  · rw [same]
    exact ⟨accounted, rfl, rfl⟩
  · obtain ⟨effect, ingested⟩ := historian_effect h
    obtain ⟨aggregates, kept, seq⟩ := effect.appends other
    have step := accounted.append kept ingested insertedSince_later seq
    exact ⟨step.1, step.2, aggregates⟩

structure Retained (settings : HistorianSettings) (now : Timestamp)
    (history history' : Historian) : Prop where
  ingested : history'.ingested = history.ingested
  seq : history'.store.measurements.seq = history.store.measurements.seq
  kept : history'.store.measurements.entries = history.store.measurements.entries.filter
    fun entry => !decide (entry.2.sourceTimestamp < settings.rawCutoff now)
  aggregates : ∀ key aggregate, history'.store.aggregates.get? key = some aggregate ↔
    (history.store.aggregated settings now).aggregates.get? key = some aggregate ∧
      settings.aggregateCutoff now < aggregate.windowEnd

theorem retained (history : Historian) (reason actor : String) :
    Retained settings now history
      ((historian settings).serve history (.retention reason actor now)) := by
  obtain ⟨-, after⟩ := @runRetention_completes settings now history.store reason actor
  have none : insertedSince history.store.measurements
      (runRetention settings now history.store reason actor).2.measurements = [] := by
    refine insertedSince_subset ?_
    rw [after.measurements]
    exact fun entry member => List.mem_of_mem_filter member
  have served : (historian settings).serve history (.retention reason actor now) =
      ⟨(runRetention settings now history.store reason actor).2,
        history.ingested ++ insertedSince history.store.measurements
          (runRetention settings now history.store reason actor).2.measurements⟩ := rfl
  rw [served, none, List.append_nil]
  exact {
    ingested := rfl
    seq := by
      rw [after.measurements]
      rfl
    kept := by
      rw [after.measurements]
      rfl
    aggregates := fun key aggregate => by
      change (runRetention settings now history.store reason actor).2.aggregates.get? key =
        some aggregate ↔ _
      rw [after.aggregates]
      unfold TelemetryStore.cleared TelemetryStore.purged
      rw [Dictionary.get?_keepIf_eq_some_iff]
      simp only [Bool.not_eq_eq_eq_not, Bool.not_true, decide_eq_false_iff_not, not_le] }

theorem Retained.deleted (retained : Retained settings now history history')
    (before : ∀ entry ∈ history.deleted, entry.2.sourceTimestamp < settings.rawCutoff now)
    (accounted : Accounted history) :
    Accounted history' ∧ history'.deleted = history.ingested.filter fun entry =>
      decide (entry.2.sourceTimestamp < settings.rawCutoff now) := by
  constructor
  · constructor
    · rw [retained.ingested, retained.kept, accounted.kept_filter]
      refine List.filter_congr fun entry member => ?_
      simp only [List.mem_filter, member, true_and, Bool.decide_eq_true]
    · rw [retained.ingested, retained.seq]
      exact accounted.given
  · unfold Historian.deleted
    rw [retained.ingested, retained.kept]
    refine List.filter_congr fun entry member => ?_
    rw [decide_eq_decide, List.mem_filter, not_and]
    constructor
    · intro absent
      by_cases there : entry ∈ history.store.measurements.entries
      · simpa using absent there
      · exact before entry (List.mem_filter.mpr ⟨member, decide_eq_true there⟩)
    · intro early there
      simpa using early

variable {settings : HistorianSettings} {now cutoff : Timestamp} {history history' : Historian}
  {key : AggregateKey} {aggregate : HourlyAggregate} {calls : List TelemetryCall}

def retentionTimes (calls : List TelemetryCall) : List Timestamp :=
  calls.filterMap fun call =>
    match call with
    | .retention _ _ now => some now
    | _ => none

/-- Each aggregate of an hour that starts before the cutoff is that of all measurements of its
hour that were ever inserted and that are before the cutoff. -/
def ExactBefore (cutoff : Timestamp) (history : Historian) : Prop :=
  ∀ key aggregate, history.store.aggregates.get? key = some aggregate →
    key.windowStart < cutoff → AggregateOf (windowBefore history.ingested key cutoff) aggregate

/-- A retention run that completes leaves exact aggregates. -/
def ExactAfter (settings : HistorianSettings) (history : Historian) (call : TelemetryCall) :
    Prop :=
  match call with
  | .retention reason actor now =>
    (runRetention settings now history.store reason actor).1.coverage.isOk = true →
      ExactBefore (settings.rawCutoff now)
        ((historian settings).serve history (.retention reason actor now))
  | _ => True

/-- A retention run aggregates no hour, of those whose aggregates it leaves, that an earlier run
has deleted measurements of. -/
def Untouched (settings : HistorianSettings) (history : Historian) (call : TelemetryCall) :
    Prop :=
  match call with
  | .retention _ _ now =>
    ∀ row ∈ history.store.expired (settings.rawCutoff now),
      settings.aggregateCutoff now < row.window.windowStart + oneHour →
        ∀ entry ∈ history.deleted, entry.2.window ≠ row.window
  | _ => True

def DeletedBefore (settings : HistorianSettings) (history : Historian) (now : Timestamp) : Prop :=
  ∀ entry ∈ history.deleted, entry.2.sourceTimestamp < settings.rawCutoff now

theorem ofWindow_filter (entries : List (Nat × Measurement)) :
    ofWindow (entries.filter fun entry => decide (entry.2.sourceTimestamp < cutoff)) key =
      windowBefore entries key cutoff := by
  unfold ofWindow windowBefore
  rw [List.filter_filter]

theorem get?_aggregated_of_expired {row : Measurement}
    (expired : row ∈ history.store.expired (settings.rawCutoff now)) :
    (history.store.aggregated settings now).aggregates.get? row.window = some
      (hourlyAggregate settings now (windowBefore history.store.measurements.entries row.window
        (settings.rawCutoff now)) row.window) := by
  rw [get?_aggregated, if_pos (mem_windows.mpr ⟨row, expired, rfl⟩), inWindow_expired]

theorem windowBefore_kept (accounted : Accounted history)
    (untouched : ∀ entry ∈ history.deleted, entry.2.window ≠ key) :
    windowBefore history.store.measurements.entries key cutoff =
      windowBefore history.ingested key cutoff := by
  unfold windowBefore
  rw [accounted.kept_filter]
  refine congrArg _ (List.filter_congr fun entry member => ?_)
  by_cases there : entry ∈ history.store.measurements.entries
  · rw [decide_eq_true there, Bool.and_true]
  · have other := untouched entry (List.mem_filter.mpr ⟨member, decide_eq_true there⟩)
    rw [decide_eq_false other, Bool.false_and, Bool.false_and]

theorem windowBefore_deleted (before : DeletedBefore settings history now)
    (none : ∀ row ∈ history.store.expired (settings.rawCutoff now), row.window ≠ key) :
    ofWindow history.deleted key =
      windowBefore history.ingested key (settings.rawCutoff now) := by
  unfold ofWindow windowBefore Historian.deleted
  rw [List.filter_filter]
  refine congrArg _ (List.filter_congr fun entry member => ?_)
  by_cases same : entry.2.window = key
  · rw [decide_eq_true same, Bool.true_and, Bool.true_and, decide_eq_decide]
    constructor
    · exact fun absent => before entry (List.mem_filter.mpr ⟨member, decide_eq_true absent⟩)
    · intro early there
      refine none entry.2 (List.mem_filter.mpr ⟨?_, decide_eq_true early⟩) same
      exact List.mem_map_of_mem there
  · rw [decide_eq_false same, Bool.false_and, Bool.false_and]

theorem Aggregated.retained (aggregated : Aggregated history) (accounted : Accounted history)
    (before : DeletedBefore settings history now)
    (retained : Retained settings now history history')
    (untouched : ∀ row ∈ history.store.expired (settings.rawCutoff now),
      settings.aggregateCutoff now < row.window.windowStart + oneHour →
        ∀ entry ∈ history.deleted, entry.2.window ≠ row.window)
    (found : history'.store.aggregates.get? key = some aggregate) :
    AggregateOf (windowBefore history.ingested key (settings.rawCutoff now)) aggregate := by
  obtain ⟨written, live⟩ := (retained.aggregates key aggregate).mp found
  by_cases expired : ∃ row ∈ history.store.expired (settings.rawCutoff now), row.window = key
  · obtain ⟨row, there, rfl⟩ := expired
    rw [get?_aggregated_of_expired there] at written
    cases written
    rw [← windowBefore_kept accounted (untouched row there live)]
    exact ⟨rfl, rfl, rfl, rfl, rfl, rfl⟩
  · have none : ∀ row ∈ history.store.expired (settings.rawCutoff now), row.window ≠ key :=
      fun row there same => expired ⟨row, there, same⟩
    rw [get?_aggregated, if_neg (fun member => expired (mem_windows.mp member))] at written
    rw [← windowBefore_deleted before none]
    exact aggregated key aggregate written

theorem exactBefore_untouched (accounted : Accounted history)
    (before : DeletedBefore settings history now)
    (retained : Retained settings now history history')
    (exact : ExactBefore (settings.rawCutoff now) history') {row : Measurement}
    (expired : row ∈ history.store.expired (settings.rawCutoff now))
    (live : settings.aggregateCutoff now < row.window.windowStart + oneHour) :
    ∀ entry ∈ history.deleted, entry.2.window ≠ row.window := by
  intro entry gone same
  have found := (retained.aggregates row.window _).mpr
    ⟨get?_aggregated_of_expired expired, live⟩
  have counted := (exact row.window _ found (windowStart_lt expired)).sampleCount
  have fewer : (windowBefore history.store.measurements.entries row.window
      (settings.rawCutoff now)).length =
      (windowBefore history'.ingested row.window (settings.rawCutoff now)).length := counted
  rw [retained.ingested] at fewer
  unfold windowBefore at fewer
  rw [List.length_map, List.length_map, accounted.kept_filter] at fewer
  obtain ⟨member, absent⟩ := List.mem_filter.mp gone
  have shorter : (history.ingested.filter fun entry =>
      (entry.2.window = row.window && entry.2.sourceTimestamp < settings.rawCutoff now) &&
        entry ∈ history.store.measurements.entries).Sublist
      (history.ingested.filter fun entry =>
        entry.2.window = row.window && entry.2.sourceTimestamp < settings.rawCutoff now) :=
    List.monotone_filter_right _ fun entry both => (Bool.and_eq_true _ _ ▸ both).1
  have all := shorter.eq_of_length fewer
  have there : entry ∈ history.ingested.filter fun entry =>
      (entry.2.window = row.window && entry.2.sourceTimestamp < settings.rawCutoff now) &&
        entry ∈ history.store.measurements.entries := by
    rw [all]
    exact List.mem_filter.mpr ⟨member, by simp [same, before entry gone]⟩
  have kept := (List.mem_filter.mp there).2
  rw [Bool.and_eq_true, decide_eq_true_eq] at kept
  exact absurd kept.2 (by simpa using absent)

structure Exact (settings : HistorianSettings) (history : Historian)
    (calls : List TelemetryCall) : Prop where
  accounted : Accounted history
  aggregated : Aggregated history
  before : ∀ now ∈ retentionTimes calls, DeletedBefore settings history now
  ordered : (retentionTimes calls).Pairwise (· ≤ ·)

theorem Exact.start {calls : List TelemetryCall} (signals : Dictionary String SignalDefinition)
    (equipment : List String) (ordered : (retentionTimes calls).Pairwise (· ≤ ·)) :
    Exact settings (.start signals equipment) calls where
  accounted := ⟨rfl, fun entry none => absurd none List.not_mem_nil⟩
  aggregated key aggregate found := by cases found
  before now _ entry none := absurd none List.not_mem_nil
  ordered := ordered

theorem Exact.other {call : TelemetryCall} {calls : List TelemetryCall}
    (exact : Exact settings history (call :: calls))
    (other : ∀ reason actor now, call ≠ .retention reason actor now) :
    Exact settings ((historian settings).serve history call) calls := by
  obtain ⟨accounted, deleted, aggregates⟩ := @Accounted.other settings _ _ exact.accounted other
  have times : retentionTimes (call :: calls) = retentionTimes calls := by
    cases call with
    | retention reason actor now => exact absurd rfl (other reason actor now)
    | ingest payload actor now => rfl
    | register signals equipment => rfl
  have before := exact.before
  have ordered := exact.ordered
  rw [times] at before ordered
  exact {
    accounted := accounted
    aggregated := fun key aggregate found => by
      rw [aggregates] at found
      rw [deleted]
      exact exact.aggregated key aggregate found
    before := fun now member entry gone => by
      rw [deleted] at gone
      exact before now member entry gone
    ordered := ordered }

theorem Exact.retention {reason actor : String}
    (exact : Exact settings history (.retention reason actor now :: calls))
    (untouched : Untouched settings history (.retention reason actor now)) :
    Exact settings ((historian settings).serve history (.retention reason actor now)) calls := by
  have retained := @retained settings now history reason actor
  have before := exact.before now List.mem_cons_self
  obtain ⟨accounted, deleted⟩ := retained.deleted before exact.accounted
  have ordered := List.pairwise_cons.mp exact.ordered
  exact {
    accounted := accounted
    aggregated := fun key aggregate found => by
      rw [deleted, ofWindow_filter]
      exact exact.aggregated.retained exact.accounted before retained untouched found
    before := fun later member entry gone => by
      rw [deleted] at gone
      have early := of_decide_eq_true (List.mem_filter.mp gone).2
      exact lt_of_lt_of_le early (Int.sub_le_sub_right (ordered.1 later member) _)
    ordered := ordered.2 }

theorem Exact.exactAfter_iff {reason actor : String}
    (exact : Exact settings history (.retention reason actor now :: calls)) :
    ExactAfter settings history (.retention reason actor now) ↔
      Untouched settings history (.retention reason actor now) := by
  have retained := @retained settings now history reason actor
  have before := exact.before now List.mem_cons_self
  constructor
  · intro after row expired live
    have completes := (@runRetention_completes settings now history.store reason actor).1
    exact exactBefore_untouched exact.accounted before retained (after completes) expired live
  · intro untouched _ key aggregate found _
    rw [retained.ingested]
    exact exact.aggregated.retained exact.accounted before retained untouched found

/-- Retention keeps the hourly aggregates exact along a run, if and only if no retention run
aggregates an hour again that an earlier one has deleted measurements of. -/
theorem aggregates_exact_iff (settings : HistorianSettings)
    (signals : Dictionary String SignalDefinition) (equipment : List String)
    (calls : List TelemetryCall) (ordered : (retentionTimes calls).Pairwise (· ≤ ·)) :
    (historian settings).Along (ExactAfter settings) (.start signals equipment) calls ↔
      (historian settings).Along (Untouched settings) (.start signals equipment) calls := by
  have exact := @Exact.start settings calls signals equipment ordered
  generalize Historian.start signals equipment = history at exact
  induction calls generalizing history with
  | nil => exact Iff.rfl
  | cons call calls ih =>
    by_cases other : ∀ reason actor now, call ≠ .retention reason actor now
    · have rest := exact.other other
      have here : ExactAfter settings history call ↔ Untouched settings history call := by
        cases call with
        | retention reason actor now => exact absurd rfl (other reason actor now)
        | ingest payload actor now => exact Iff.rfl
        | register signals equipment => exact Iff.rfl
      exact and_congr here (ih rest.ordered _ rest)
    · push Not at other
      obtain ⟨reason, actor, now, rfl⟩ := other
      constructor
      · rintro ⟨after, along⟩
        have untouched := exact.exactAfter_iff.mp after
        have rest := exact.retention untouched
        exact ⟨untouched, (ih rest.ordered _ rest).mp along⟩
      · rintro ⟨untouched, along⟩
        have rest := exact.retention untouched
        exact ⟨exact.exactAfter_iff.mpr untouched, (ih rest.ordered _ rest).mpr along⟩

def sampleRetention (time : Timestamp) : TelemetryCall := .retention "weekly" "ops" (7 * day + time)

def splitHour : List TelemetryCall :=
  [.ingest ⟨temperatureBatch "B1" [temperatureSample 0 (.number 20) (600 * second),
    temperatureSample 1 (.number 30) (3000 * second)], by decide +kernel⟩ "edge" 0,
    sampleRetention (1800 * second)]

/-- The second run overwrites the aggregate of an hour with what was left of it. -/
theorem second_run_forgets : ¬ (historian sampleHistorian).Along (ExactAfter sampleHistorian)
    (.start sampleTelemetryStore.signals ["LATHE-01"])
    (splitHour ++ [sampleRetention (7200 * second)]) := by
  rintro ⟨-, -, after, -⟩
  have exact := after (by decide +kernel)
  have written : Option.map (·.sampleCount) (((historian sampleHistorian).run
      (.start sampleTelemetryStore.signals ["LATHE-01"])
      (splitHour ++ [sampleRetention (7200 * second)])).store.aggregates.get?
        ⟨"N1", "TEMP", 0⟩) = some 1 := by decide +kernel
  obtain ⟨aggregate, found, one⟩ := Option.map_eq_some_iff.mp written
  have counted := (exact ⟨"N1", "TEMP", 0⟩ aggregate found (by decide +kernel)).sampleCount
  rw [one] at counted
  revert counted
  decide +kernel

instance (settings : HistorianSettings) (history : Historian) :
    (call : TelemetryCall) → Decidable (Untouched settings history call)
  | .ingest _ _ _ => inferInstanceAs (Decidable True)
  | .register _ _ => inferInstanceAs (Decidable True)
  | .retention _ _ now => inferInstanceAs (Decidable (
      ∀ row ∈ history.store.expired (settings.rawCutoff now),
        settings.aggregateCutoff now < row.window.windowStart + oneHour →
          ∀ entry ∈ history.deleted, entry.2.window ≠ row.window))

theorem aggregates_exact_sample : (historian sampleHistorian).Along (ExactAfter sampleHistorian)
    (.start sampleTelemetryStore.signals ["LATHE-01"]) splitHour :=
  (aggregates_exact_iff sampleHistorian sampleTelemetryStore.signals ["LATHE-01"] splitHour
    (by decide +kernel)).mpr (by decide +kernel)

end MiniOgas
