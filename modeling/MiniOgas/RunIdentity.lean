import MiniOgas.HeartbeatFacts
import MiniOgas.HeartbeatFlow

namespace MiniOgas

open Serial

variable {env : FactEnv} {store store' : FactStore} {payload : Fields} {fact : HeartbeatFact}
  {facts : List HeartbeatFact} {call : FactCall} {reply : FactReply}

structure RunsAgree (facts : List HeartbeatFact) : Prop where
  run : ∀ first ∈ facts, ∀ second ∈ facts, first.runId ≠ "" → first.runId = second.runId →
    first.scenarioId = second.scenarioId ∧ first.randomSeed = second.randomSeed
  seed : ∀ first ∈ facts, ∀ second ∈ facts, first.scenarioId ≠ "" →
    first.scenarioId = second.scenarioId → first.randomSeed = second.randomSeed
  engine : ∀ first ∈ facts, ∀ second ∈ facts, first.scenarioId ≠ "" →
    first.scenarioId = second.scenarioId → first.simulationEngine ≠ "" →
    second.simulationEngine ≠ "" → first.simulationEngine = second.simulationEngine

/-- No heartbeat names an engine for a scenario that was stored without one. -/
def NamesNoLateEngine (env : FactEnv) (store : FactStore) (call : FactCall) : Prop :=
  match call.operation with
  | .live payload _ => ∀ row ∈ store.scenarios,
    row.scenarioId = runtimeText env.store payload "scenario_id" → row.simulationEngine = "" →
      runtimeText env.store payload "simulation_engine" = ""
  | _ => True

structure FactsRecorded (store : FactStore) (facts : List HeartbeatFact) : Prop where
  runIds : (store.runs.map RunRow.runId).Nodup
  scenarioIds : (store.scenarios.map ScenarioRow.scenarioId).Nodup
  run : ∀ fact ∈ facts, fact.runId ≠ "" → ∃ row ∈ store.runs,
    (row.runId, row.scenarioId, row.randomSeed) = (fact.runId, fact.scenarioId, fact.randomSeed)
  scenario : ∀ fact ∈ facts, fact.scenarioId ≠ "" → ∃ row ∈ store.scenarios,
    row.scenarioId = fact.scenarioId ∧ row.randomSeed = fact.randomSeed ∧
      (fact.simulationEngine ≠ "" → row.simulationEngine = fact.simulationEngine)

theorem runsAgree_of_recorded (recorded : FactsRecorded store facts) : RunsAgree facts where
  run first hfirst second hsecond named same := by
    obtain ⟨row, there, is⟩ := recorded.run first hfirst named
    obtain ⟨other, present, other_is⟩ := recorded.run second hsecond (same ▸ named)
    simp only [Prod.mk.injEq] at is other_is
    have twin : row = other := List.inj_on_of_nodup_map recorded.runIds there present
      (by rw [is.1, other_is.1, same])
    rw [← is.2.1, ← is.2.2, ← other_is.2.1, ← other_is.2.2, twin]
    exact ⟨rfl, rfl⟩
  seed first hfirst second hsecond named same := by
    obtain ⟨row, there, id, seed, -⟩ := recorded.scenario first hfirst named
    obtain ⟨other, present, other_id, other_seed, -⟩ :=
      recorded.scenario second hsecond (same ▸ named)
    have twin : row = other := List.inj_on_of_nodup_map recorded.scenarioIds there present
      (by rw [id, other_id, same])
    rw [← seed, ← other_seed, twin]
  engine first hfirst second hsecond named same one two := by
    obtain ⟨row, there, id, -, engine⟩ := recorded.scenario first hfirst named
    obtain ⟨other, present, other_id, -, other_engine⟩ :=
      recorded.scenario second hsecond (same ▸ named)
    have twin : row = other := List.inj_on_of_nodup_map recorded.scenarioIds there present
      (by rw [id, other_id, same])
    rw [← engine one, ← other_engine two, twin]

theorem checkRunRow_ok {runId scenarioId : String} {randomSeed : Int} {u : Unit}
    (checked : checkRunRow store runId scenarioId randomSeed = .ok u) (named : runId ≠ "")
    {row : RunRow} (found : store.runs.find? (·.runId = runId) = some row) :
    row.scenarioId = scenarioId ∧ row.randomSeed = randomSeed := by
  unfold checkRunRow at checked
  rw [if_neg named, found] at checked
  obtain ⟨_, scenario, seed⟩ := of_bind checked
  exact ⟨check_eq_ok.mp scenario, check_eq_ok.mp seed⟩

theorem checkScenarioRow_ok {scenarioId engine : String} {randomSeed : Int} {u : Unit}
    (checked : checkScenarioRow store scenarioId engine randomSeed = .ok u)
    (named : scenarioId ≠ "") {row : ScenarioRow}
    (found : store.scenarios.find? (·.scenarioId = scenarioId) = some row) :
    row.randomSeed = randomSeed ∧
      ¬(row.simulationEngine ≠ "" ∧ engine ≠ "" ∧ row.simulationEngine ≠ engine) := by
  unfold checkScenarioRow at checked
  rw [if_neg named, found] at checked
  obtain ⟨_, seed, engines⟩ := of_bind checked
  exact ⟨check_eq_ok.mp seed, check_eq_ok.mp engines⟩

theorem runs_written (runIds : (store.runs.map RunRow.runId).Nodup)
    (checked : checkRunRow store fact.runId fact.scenarioId fact.randomSeed = .ok ()) :
    ((store.writeFact env fact).runs.map RunRow.runId).Nodup ∧
      (∀ row ∈ store.runs, ∃ kept ∈ (store.writeFact env fact).runs,
        (kept.runId, kept.scenarioId, kept.randomSeed) =
          (row.runId, row.scenarioId, row.randomSeed)) ∧
      (fact.runId ≠ "" → ∃ row ∈ (store.writeFact env fact).runs,
        (row.runId, row.scenarioId, row.randomSeed) =
          (fact.runId, fact.scenarioId, fact.randomSeed)) :=
  RowLog.upserted (fun _ _ _ => rfl) (fun _ _ => rfl) (fun _ _ same is => same.trans is) runIds rfl
    fun bound row found named => by
      obtain ⟨scenario, seed⟩ := checkRunRow_ok checked bound found
      rw [scenario, seed, named]
      rfl

theorem scenarios_written (scenarioIds : (store.scenarios.map ScenarioRow.scenarioId).Nodup)
    (checked : checkScenarioRow store fact.scenarioId fact.simulationEngine fact.randomSeed =
      .ok ())
    (early : ∀ row ∈ store.scenarios, row.scenarioId = fact.scenarioId →
      row.simulationEngine = "" → fact.simulationEngine = "") :
    ((store.writeFact env fact).scenarios.map ScenarioRow.scenarioId).Nodup ∧
      (∀ row ∈ store.scenarios, ∃ kept ∈ (store.writeFact env fact).scenarios,
        (kept.scenarioId, kept.randomSeed, kept.simulationEngine) =
          (row.scenarioId, row.randomSeed, row.simulationEngine)) ∧
      (fact.scenarioId ≠ "" → ∃ row ∈ (store.writeFact env fact).scenarios,
        row.scenarioId = fact.scenarioId ∧ row.randomSeed = fact.randomSeed ∧
          (fact.simulationEngine ≠ "" → row.simulationEngine = fact.simulationEngine)) := by
  refine RowLog.upserted (fun _ _ _ => rfl) (fun _ _ => rfl) (fun old kept same is => ?_)
    scenarioIds ⟨rfl, rfl, fun _ => rfl⟩ fun bound row found named => ?_
  · simp only [Prod.mk.injEq] at same
    exact ⟨same.1.trans is.1, same.2.1.trans is.2.1, fun names => same.2.2.trans (is.2.2 names)⟩
  · obtain ⟨seed, engines⟩ := checkScenarioRow_ok checked bound found
    refine ⟨named, seed, fun names => ?_⟩
    by_contra other
    exact engines ⟨fun blank => names (early row (List.mem_of_find?_eq_some found) named blank),
      names, other⟩

theorem FactsRecorded.write (recorded : FactsRecorded store facts)
    (run : checkRunRow store fact.runId fact.scenarioId fact.randomSeed = .ok ())
    (scenario : checkScenarioRow store fact.scenarioId fact.simulationEngine fact.randomSeed =
      .ok ())
    (early : ∀ row ∈ store.scenarios, row.scenarioId = fact.scenarioId →
      row.simulationEngine = "" → fact.simulationEngine = "") :
    FactsRecorded (store.writeFact env fact) (facts ++ [fact]) := by
  obtain ⟨runIds, runsKept, ownRun⟩ := @runs_written env store fact recorded.runIds run
  obtain ⟨scenarioIds, scenariosKept, ownScenario⟩ :=
    @scenarios_written env store fact recorded.scenarioIds scenario early
  refine ⟨runIds, scenarioIds, fun other member named => ?_, fun other member named => ?_⟩
  · rcases of_mem_concat member with old | rfl
    · obtain ⟨row, there, is⟩ := recorded.run other old named
      obtain ⟨kept, present, same⟩ := runsKept row there
      exact ⟨kept, present, same.trans is⟩
    · exact ownRun named
  · rcases of_mem_concat member with old | rfl
    · obtain ⟨row, there, id, seed, engine⟩ := recorded.scenario other old named
      obtain ⟨kept, present, same⟩ := scenariosKept row there
      simp only [Prod.mk.injEq] at same
      exact ⟨kept, present, same.1.trans id, same.2.1.trans seed, fun names =>
        same.2.2.trans (engine names)⟩
    · exact ownScenario named

theorem persistHeartbeat_ok {enqueued : Bool}
    (done : persistHeartbeat env payload enqueued store = .ok (fact, store')) :
    readFact env payload = .ok fact ∧
      checkRunRow store fact.runId fact.scenarioId fact.randomSeed = .ok () ∧
      checkScenarioRow store fact.scenarioId fact.simulationEngine fact.randomSeed = .ok () ∧
      store' = store.writeFact env fact := by
  obtain ⟨read, reads, done⟩ := of_bind done
  obtain ⟨_, run, done⟩ := of_bind done
  obtain ⟨_, scenario, done⟩ := of_bind done
  replace done := of_then done
  cases done
  exact ⟨reads, run, scenario, rfl⟩

theorem readFact_ok (reads : readFact env payload = .ok fact) :
    fact.nodeCode = textOr env.store (payload.get "node_code") "" ∧
      fact.scenarioId = runtimeText env.store payload "scenario_id" ∧
      fact.simulationEngine = runtimeText env.store payload "simulation_engine" ∧
      fact.payload = payload ∧ payload.get "_received_at" = .time fact.receivedAt := by
  obtain ⟨seed, -, reads⟩ := of_bind reads
  obtain ⟨status, -, reads⟩ := of_bind reads
  obtain ⟨receivedAt, time, reads⟩ := of_bind reads
  cases reads
  refine ⟨rfl, rfl, rfl, rfl, ?_⟩
  unfold databaseDatetime at time
  split at time
  next received => cases Except.ok.inj time; exact received
  next => cases time

theorem runtimeText_received (storeEnv : StoreEnv) (payload : Fields) (time : Json)
    (key : String) :
    runtimeText storeEnv (payload.set "_received_at" time) key =
      runtimeText storeEnv payload key := by
  unfold runtimeText
  rw [Fields.get_set, if_neg (by decide)]

theorem archiveRecord_runs {now : Timestamp} {nodeCode : String} {localId : Int} {record : Fields}
    {accepted : Bool}
    (done : archiveRecord env now nodeCode store localId record = .ok (accepted, store')) :
    store'.runs = store.runs ∧ store'.scenarios = store.scenarios := by
  obtain ⟨payload, -, done⟩ := of_bind done
  replace done := of_then done
  dsimp only at done
  split at done
  next =>
    replace done := of_then done
    cases done
    exact ⟨rfl, rfl⟩
  next =>
    obtain ⟨stored, -, done⟩ := of_bind done
    cases done
    exact ⟨rfl, rfl⟩

theorem persistSynced_runs {now : Timestamp} {nodeCode : String} {records : List Fields}
    {counts : Nat × Nat}
    (done : persistSyncedNodeRecords env now nodeCode records store = .ok (counts, store')) :
    store'.runs = store.runs ∧ store'.scenarios = store.scenarios := by
  obtain ⟨numbered, -, done⟩ := of_bind done
  obtain ⟨⟨counted, archived⟩, looped, done⟩ := of_bind done
  cases done
  refine foldlM_invariant (I := fun round : (Nat × Nat) × FactStore =>
    round.2.runs = store.runs ∧ round.2.scenarios = store.scenarios) ?_ ⟨rfl, rfl⟩ looped
  intro round record round' _ same done
  obtain ⟨⟨accepted, left⟩, archives, done⟩ := of_bind done
  cases done
  obtain ⟨runs, scenarios⟩ := archiveRecord_runs archives
  exact ⟨runs.trans same.1, scenarios.trans same.2⟩

theorem factsRecorded_attempt (early : NamesNoLateEngine env store call)
    (recorded : FactsRecorded store facts)
    (done : call.attempt env store = .ok (reply, store')) :
    FactsRecorded store' (facts ++ reply.facts) := by
  obtain ⟨now, operation⟩ := call
  cases operation with
  | live payload enqueued =>
    obtain ⟨⟨fact, left⟩, persisted, done⟩ := of_bind done
    cases done
    obtain ⟨reads, run, scenario, rfl⟩ := persistHeartbeat_ok persisted
    obtain ⟨-, named, engine, -⟩ := readFact_ok reads
    rw [runtimeText_received] at named engine
    refine recorded.write run scenario fun row member same blank => ?_
    rw [engine]
    exact early row member (same.trans named) blank
  | sync nodeCode records =>
    obtain ⟨⟨counts, left⟩, synced, done⟩ := of_bind done
    cases done
    obtain ⟨runs, scenarios⟩ := persistSynced_runs synced
    rw [FactReply.facts, List.append_nil]
    exact ⟨by rw [runs]; exact recorded.runIds, by rw [scenarios]; exact recorded.scenarioIds,
      by rw [runs]; exact recorded.run, by rw [scenarios]; exact recorded.scenario⟩

theorem factsRecorded_run (calls : List FactCall) (recorded : FactsRecorded store facts)
    (along : (factAuthority env).Along (NamesNoLateEngine env) store calls) :
    FactsRecorded ((factAuthority env).run store calls)
      (facts ++ acceptedFacts env store calls) := by
  induction calls generalizing store facts with
  | nil =>
    rw [acceptedFacts, List.append_nil]
    exact recorded
  | cons call calls ih =>
    obtain ⟨early, along⟩ := along
    rw [acceptedFacts, ← List.append_assoc, Authority.run_cons]
    refine ih ?_ along
    rcases attempted : call.attempt env store with fault | ⟨reply, left⟩
    · have same : (factAuthority env).serve store call = store := by
        simp [Authority.serve, factAuthority, attempted]
      rw [same, List.append_nil]
      exact recorded
    · have served : (factAuthority env).serve store call = left :=
        Authority.serve_of_ok (A := factAuthority env) attempted
      rw [served]
      exact factsRecorded_attempt early recorded attempted

theorem factsRecorded_empty : FactsRecorded .empty [] where
  runIds := List.nodup_nil
  scenarioIds := List.nodup_nil
  run _ member := absurd member List.not_mem_nil
  scenario _ member := absurd member List.not_mem_nil

/-- In every run in which no heartbeat names an engine for a scenario that was stored without one,
the accepted heartbeats agree on their runs and scenarios. -/
theorem run_identity (env : FactEnv) (calls : List FactCall)
    (along : (factAuthority env).Along (NamesNoLateEngine env) .empty calls) :
    RunsAgree (acceptedFacts env .empty calls) :=
  runsAgree_of_recorded (factsRecorded_run calls factsRecorded_empty along)

def sampleFactEnv : FactEnv where
  store := ⟨sampleBuiltins, ⟨.controlledWrite, 30, []⟩, "token", fun n => toString n⟩
  backend := .postgresql
  loads _ := none
  digest _ := ""
  fromisoformat _ := none
  timestamptz _ := none
  retentionPerNode := 720

def sampleBeat (nodeCode scenarioId simulationEngine : String) (now : Timestamp) : FactCall :=
  ⟨now, .live [("node_code", .str nodeCode), ("runtime", .obj [("scenario_id", .str scenarioId),
    ("run_id", .str "R"), ("simulation_engine", .str simulationEngine)])] true⟩

def sampleBeats : List FactCall :=
  [sampleBeat "turning-workshop-01" "S" "simpy" 1, sampleBeat "milling-workshop-01" "S" "" 2,
    sampleBeat "grinding-workshop-01" "S" "simpy" 3]

instance NamesNoLateEngine.decidable (env : FactEnv) (store : FactStore) :
    (call : FactCall) → Decidable (NamesNoLateEngine env store call)
  | ⟨_, .live payload _⟩ => inferInstanceAs (Decidable (∀ row ∈ store.scenarios,
      row.scenarioId = runtimeText env.store payload "scenario_id" → row.simulationEngine = "" →
        runtimeText env.store payload "simulation_engine" = ""))
  | ⟨_, .sync _ _⟩ => .isTrue trivial

/-- Three heartbeats of one scenario, of which the second names no engine. -/
theorem run_identity_sample :
    (acceptedFacts sampleFactEnv .empty sampleBeats).map (·.simulationEngine) =
        ["simpy", "", "simpy"] ∧
      RunsAgree (acceptedFacts sampleFactEnv .empty sampleBeats) :=
  ⟨by decide +kernel, run_identity sampleFactEnv sampleBeats (by decide +kernel)⟩

def sampleLateEngine : List FactCall :=
  [sampleBeat "turning-workshop-01" "S" "" 1, sampleBeat "milling-workshop-01" "S" "simpy" 2,
    sampleBeat "grinding-workshop-01" "S" "physical" 3]

/-- A scenario that was stored without an engine takes two of them. -/
theorem late_engines_differ :
    ¬ RunsAgree (acceptedFacts sampleFactEnv .empty sampleLateEngine) := by
  intro agree
  have accepted : ∃ first ∈ acceptedFacts sampleFactEnv .empty sampleLateEngine,
      ∃ second ∈ acceptedFacts sampleFactEnv .empty sampleLateEngine,
        first.scenarioId = "S" ∧ second.scenarioId = "S" ∧ first.simulationEngine = "simpy" ∧
          second.simulationEngine = "physical" := by decide +kernel
  obtain ⟨first, hfirst, second, hsecond, one, two, simpy, physical⟩ := accepted
  have same := agree.engine first hfirst second hsecond (by rw [one]; decide) (one.trans two.symm)
    (by rw [simpy]; decide) (by rw [physical]; decide)
  rw [simpy, physical] at same
  exact absurd same (by decide)

end MiniOgas
