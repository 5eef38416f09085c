import MiniOgas.RateAgreement

namespace MiniOgas

open Bounded Serial

def PartStatus.active : PartStatus → Bool
  | .ready => true
  | .claimed => true
  | .completed => false

section Counts

variable (run : String) (parts : List PartQueueItem)

def queueDepth (operation : String) : Nat :=
  parts.countP fun part =>
    part.inRun run && part.status.active && part.currentOperation = operation

/-- `grinding_output`. -/
def finishedGoodsBuffer : Nat :=
  parts.countP fun part =>
    part.inRun run && !part.status.active && part.currentOperation = "grinding"

/-- `projected_input` and `projected_output`. -/
def projectedWip (nodeCode : String) (reportedInput reportedOutput : Int) : Int × Int :=
  match nodeCode with
  | "turning-workshop-01" => (reportedInput, queueDepth run parts "milling")
  | "milling-workshop-01" => (queueDepth run parts "milling", queueDepth run parts "grinding")
  | "grinding-workshop-01" => (queueDepth run parts "grinding", finishedGoodsBuffer run parts)
  | _ => (reportedInput, reportedOutput)

end Counts

def flowNodes : List String :=
  ["turning-workshop-01", "milling-workshop-01", "grinding-workshop-01"]

section Projection

variable (env : StoreEnv) (store : MemoryStore)

/-- `part_queue_flow_projection`; `none` when `int` raises. -/
def partQueueFlowProjection (nodeCode : String) (reported : Fields) : Option Fields := do
  let run := currentRunIdForSystem env store
  let parts := store.partQueue
  let reportedInput ← env.builtins.integer ((reported.get "wip_input").or (.int 0))
  let reportedOutput ← env.builtins.integer ((reported.get "wip_output").or (.int 0))
  let projected := projectedWip run parts nodeCode reportedInput reportedOutput
  let source := if nodeCode ∈ flowNodes then "part_queue" else "heartbeat"
  return [("reported_wip_input", .int reportedInput), ("reported_wip_output", .int reportedOutput),
    ("wip_input", .int projected.1), ("wip_output", .int projected.2), ("wip_source", .str source),
    ("flow_run_id", .str run), ("milling_queue_depth", .int (queueDepth run parts "milling")),
    ("grinding_queue_depth", .int (queueDepth run parts "grinding")),
    ("finished_goods_buffer", .int (finishedGoodsBuffer run parts))].foldl
      (fun production field => production.set field.1 field.2) reported

/-- The `system_production` of `_observe_command_effects_locked`. -/
def systemProduction : Option (List (String × Fields)) :=
  (verificationBaseline store).mapM fun item =>
    (partQueueFlowProjection env store item.1 item.2).map (item.1, ·)

end Projection

def reportedProduction (store : MemoryStore) (nodeCode : String) : Option Fields :=
  productionOf (verificationBaseline store) nodeCode

/-- No part was created, claimed or completed; a claim may have expired. -/
def PartsStay : List PartQueueItem → List PartQueueItem → Prop :=
  List.Forall₂ fun part later => later.runId = part.runId ∧
    later.currentOperation = part.currentOperation ∧
    (later.status = part.status ∨ part.status = .claimed ∧ later.status = .ready)

def rateFields : List String :=
  ["target_rate", "actual_rate", "target_rate_per_hour", "actual_rate_per_hour"]

structure FactsStay (nodeCode : String) (store later : MemoryStore) : Prop where
  parts : PartsStay store.partQueue later.partQueue
  others : ∀ other ≠ nodeCode, reportedProduction later other = reportedProduction store other
  own : ∀ field ∉ rateFields, ((reportedProduction later nodeCode).getD []).get field =
    ((reportedProduction store nodeCode).getD []).get field

structure FlowObservation where
  run : String
  result : CommandVerification

/-- A command that was created at a store, and what was observed of it while the facts stayed. -/
inductive Observed (env : StoreEnv) (store : MemoryStore) :
    List FlowObservation → NodeCommand → Prop
  | created {request : CommandRequest} {commands commands' : List NodeCommand} {now : Timestamp}
      {command : NodeCommand} {transitions : List CommandTransition}
      (made : createCommand env.builtins commands now
        { request with verificationBaseline := verificationBaseline store } =
          .ok ((command, transitions, true), commands')) :
      Observed env store [] command
  | moved {seen : List FlowObservation} {command updated : NodeCommand}
      (before : Observed env store seen command) (node : updated.nodeCode = command.nodeCode)
      (parameters : updated.parameters = command.parameters)
      (baseline : updated.verificationBaseline = command.verificationBaseline)
      (evidence : updated.verificationEvidence = command.verificationEvidence) :
      Observed env store seen updated
  | observed {seen : List FlowObservation} {command updated : NodeCommand} {later : MemoryStore}
      {production : List (String × Fields)} {now : Timestamp} {result : CommandVerification}
      (before : Observed env store seen command)
      (stays : FactsStay command.nodeCode store later)
      (projected : systemProduction env later = some production)
      (continues : command.verificationStatus.terminal = false)
      (done : CommandVerifier.standard.observe env.builtins now command production =
        .ok (result, updated))
      (ready : result.status ≠ .notStarted) :
      Observed env store (seen ++ [⟨currentRunIdForSystem env later, result⟩]) updated

structure NodeCommand.Decreases (builtins : Builtins) (command : NodeCommand) : Prop where
  node : command.nodeCode = "turning-workshop-01" ∨ command.nodeCode = "milling-workshop-01"
  direction : rateDirection (number builtins (command.parameters.get "target_rate"))
    (number builtins (((productionOf command.verificationBaseline command.nodeCode).getD []).get
      "target_rate")) = .decrease

/-- The recorded backlog has not moved, and the command was not judged effective. -/
def FlowObservation.Unmoved (observation : FlowObservation) : Prop :=
  (∀ delta, observation.result.evidence.get "downstream_backlog_delta" = .float delta →
    delta = 0) ∧ observation.result.status ≠ .effective

def flowBacklog (run : String) (parts : List PartQueueItem) (nodeCode : String) : ℚ :=
  (projectedWip run parts nodeCode 0 0).1 - (projectedWip run parts nodeCode 0 0).2

/-- The part queue at the creation of a command holds the backlog that the downstream node
reported then, counted for each run; one that reported none has one backlog in all of them. -/
def MeasuresAlike (builtins : Builtins) (store : MemoryStore) (nodeCode : String)
    (runs : List String) : Prop :=
  ∀ reported, reportedProduction store (downstreamNode nodeCode) = some reported →
    (∀ b, backlog builtins reported = some b →
      ∀ run ∈ runs, flowBacklog run store.partQueue (downstreamNode nodeCode) = b) ∧
    (backlog builtins reported = none → ∀ run ∈ runs, ∀ other ∈ runs,
      flowBacklog run store.partQueue (downstreamNode nodeCode) =
        flowBacklog other store.partQueue (downstreamNode nodeCode))

section Laws

variable {env : StoreEnv} {store later : MemoryStore} {parts parts' : List PartQueueItem}
  {run nodeCode operation : String} {production : List (String × Fields)}
  {reported projected : Fields}

theorem inRun_congr {part later : PartQueueItem} (same : later.runId = part.runId) :
    later.inRun run = part.inRun run := by
  unfold PartQueueItem.inRun
  rw [same]

theorem active_of_stay {part later : PartQueueItem}
    (same : later.status = part.status ∨ part.status = .claimed ∧ later.status = .ready) :
    later.status.active = part.status.active := by
  rcases same with same | ⟨claimed, ready⟩
  · rw [same]
  · rw [claimed, ready]
    rfl

theorem queueDepth_stay (stays : PartsStay parts parts') :
    queueDepth run parts' operation = queueDepth run parts operation := by
  unfold queueDepth
  induction stays with
  | nil => rfl
  | cons same _ ih =>
    rw [List.countP_cons, List.countP_cons, ih, inRun_congr same.1, active_of_stay same.2.2,
      same.2.1]

theorem finishedGoodsBuffer_stay (stays : PartsStay parts parts') :
    finishedGoodsBuffer run parts' = finishedGoodsBuffer run parts := by
  unfold finishedGoodsBuffer
  induction stays with
  | nil => rfl
  | cons same _ ih =>
    rw [List.countP_cons, List.countP_cons, ih, inRun_congr same.1, active_of_stay same.2.2,
      same.2.1]

theorem flowBacklog_stay (stays : PartsStay parts parts') :
    flowBacklog run parts' nodeCode = flowBacklog run parts nodeCode := by
  have same : projectedWip run parts' nodeCode 0 0 = projectedWip run parts nodeCode 0 0 := by
    unfold projectedWip
    simp only [queueDepth_stay stays, finishedGoodsBuffer_stay stays]
  unfold flowBacklog
  rw [same]

theorem backlog_projection (exact : env.builtins.ExactFloat)
    (downstream : nodeCode = "milling-workshop-01" ∨ nodeCode = "grinding-workshop-01")
    (h : partQueueFlowProjection env store nodeCode reported = some projected) :
    backlog env.builtins projected =
      some (flowBacklog (currentRunIdForSystem env store) store.partQueue nodeCode) := by
  obtain ⟨reportedInput, -, h⟩ := Option.bind_eq_some_iff.mp h
  obtain ⟨reportedOutput, -, h⟩ := Option.bind_eq_some_iff.mp h
  rw [← Option.some.inj h]
  rcases downstream with rfl | rfl <;>
    simp [backlog, Fields.get_set, number, exact.int, projectedWip, flowBacklog]

theorem productionOf_mapM {items : List (String × Fields)} {f : String → Fields → Option Fields}
    (h : items.mapM (fun item => (f item.1 item.2).map (item.1, ·)) = some production) :
    (productionOf items nodeCode = none → productionOf production nodeCode = none) ∧
    (∀ reported, productionOf items nodeCode = some reported →
      ∃ projected, f nodeCode reported = some projected ∧
        productionOf production nodeCode = some projected) := by
  induction items generalizing production with
  | nil =>
    cases h
    exact ⟨fun none => none, nofun⟩
  | cons item items ih =>
    rw [List.mapM_cons] at h
    obtain ⟨entry, own, h⟩ := Option.bind_eq_some_iff.mp h
    obtain ⟨rest, others, h⟩ := Option.bind_eq_some_iff.mp h
    cases h
    obtain ⟨projected, made, rfl⟩ := Option.map_eq_some_iff.mp own
    unfold productionOf at ih ⊢
    by_cases same : item.1 = nodeCode
    · refine ⟨fun absent => ?_, fun reported found => ?_⟩
      · simp [same] at absent
      · have value : item.2 = reported := by simpa [same] using found
        refine ⟨projected, ?_, by simp [same]⟩
        rw [← same, ← value]
        exact made
    · simpa [same] using ih others

end Laws

section Samples

variable {builtins : Builtins} {command updated : NodeCommand} {now : Timestamp}
  {production : List (String × Fields)} {result : CommandVerification}
  {evidence : CommandEvidence} {downstream : Option Fields} {verifier : CommandVerifier}

def SampleOf (item : Json) (backlog : Option ℚ) : Prop :=
  ∃ fields, item = .obj fields ∧ Fields.get fields "downstream_backlog" = jsonRate backlog

theorem backlogValues_eq (exact : builtins.ExactFloat) {items : List Json}
    {backlogs : List (Option ℚ)} (samples : List.Forall₂ SampleOf items backlogs) :
    backlogValues builtins items = .ok (backlogs.filterMap id) := by
  induction samples with
  | nil => rfl
  | @cons item backlog items backlogs sample _ ih =>
    obtain ⟨fields, rfl, value⟩ := sample
    unfold backlogValues
    rw [ih, value]
    cases backlog with
    | none => rfl
    | some q =>
      dsimp only [jsonRate, Option.map_some, Option.getD_some]
      rw [exact.float]
      rfl

theorem observation_sampleOf (builtins : Builtins) (now : Timestamp) (command : NodeCommand)
    (production : List (String × Fields)) :
    SampleOf (observation builtins now command production)
      (backlog builtins ((downstreamProduction production command.nodeCode).getD [])) := by
  refine ⟨_, rfl, ?_⟩
  simp [Fields.get]

theorem observe_recorded (continues : command.verificationStatus.terminal = false)
    (done : verifier.observe builtins now command production = .ok (result, updated))
    (ready : result.status ≠ .notStarted) :
    ∃ past backlogs, pastObservations command.verificationEvidence = .ok past ∧
      backlogValues builtins (keepLast verifier.maxObservations
        (past ++ [observation builtins now command production])) = .ok backlogs ∧
      ∃ evidence, evidence = gatherEvidence builtins command production
          (keepLast verifier.maxObservations
            (past ++ [observation builtins now command production])) backlogs ∧
        result.evidence = verifier.fields evidence ∧
        result.status = (verifier.conclude evidence
          (downstreamProduction production command.nodeCode)).1 ∧
        updated.verificationEvidence = verifier.fields evidence ∧
        updated.nodeCode = command.nodeCode ∧ updated.parameters = command.parameters ∧
        updated.verificationBaseline = command.verificationBaseline := by
  unfold CommandVerifier.observe at done
  rw [continues] at done
  simp only [Bool.false_eq_true, if_false] at done
  split at done
  next =>
    cases done
    exact absurd rfl ready
  next =>
  obtain ⟨past, samples, done⟩ := of_bind done
  obtain ⟨backlogs, values, done⟩ := of_bind done
  refine ⟨past, backlogs, samples, values, _, rfl, ?_⟩
  generalize concluded : verifier.conclude _ _ = conclusion at done ⊢
  split at done
  next waits =>
    cases done
    exact ⟨rfl, waits.symm, rfl, rfl, rfl, rfl⟩
  next =>
    cases done
    exact ⟨rfl, rfl, rfl, rfl, rfl, rfl⟩

theorem pastObservations_fields (verifier : CommandVerifier) (evidence : CommandEvidence) :
    pastObservations (verifier.fields evidence) = .ok evidence.observations := by
  simp [pastObservations, CommandVerifier.fields, Fields.get]

theorem unmoved_iff {observation : FlowObservation}
    (recorded : observation.result.evidence = verifier.fields evidence)
    (status : observation.result.status = (verifier.conclude evidence downstream).1)
    (direction : evidence.rateDirection = .decrease) (next : evidence.downstreamNode ≠ "")
    (improved : evidence.flowImproved =
      evidence.downstreamBacklogDelta.any fun delta => decide (delta ≤ -1 / 2)) :
    observation.Unmoved ↔ ∀ delta, evidence.downstreamBacklogDelta = some delta → delta = 0 := by
  have field : observation.result.evidence.get "downstream_backlog_delta" =
      jsonRate evidence.downstreamBacklogDelta := by
    rw [recorded]
    simp [CommandVerifier.fields, Fields.get]
  unfold FlowObservation.Unmoved
  rw [field]
  constructor
  · rintro ⟨still, -⟩ delta moved
    exact still delta (by rw [moved]; rfl)
  · intro still
    refine ⟨fun delta moved => ?_, ?_⟩
    · cases given : evidence.downstreamBacklogDelta with
      | none =>
        rw [given] at moved
        cases moved
      | some other =>
        rw [given] at moved
        cases Json.float.inj moved
        exact still delta given
    · have unimproved : evidence.effectProven = false := by
        have stays : evidence.flowImproved = false := by
          rw [improved]
          cases given : evidence.downstreamBacklogDelta with
          | none => rfl
          | some delta =>
            rw [still delta given]
            norm_num
        unfold CommandEvidence.effectProven
        rw [direction]
        simp [next, stays]
      rw [status]
      unfold CommandVerifier.conclude
      simp only [unimproved, Bool.false_eq_true, if_false]
      split_ifs <;> simp

end Samples

section Runs

variable {env : StoreEnv} {store later : MemoryStore} {seen : List FlowObservation}
  {command : NodeCommand} {nodeCode run : String} {production : List (String × Fields)}

def observedBacklog (store : MemoryStore) (nodeCode : String) (observation : FlowObservation) :
    Option ℚ :=
  (reportedProduction store (downstreamNode nodeCode)).map fun _ =>
    flowBacklog observation.run store.partQueue (downstreamNode nodeCode)

theorem downstream_cases
    (node : nodeCode = "turning-workshop-01" ∨ nodeCode = "milling-workshop-01") :
    downstreamNode nodeCode ≠ "" ∧ downstreamNode nodeCode ≠ nodeCode ∧
      (downstreamNode nodeCode = "milling-workshop-01" ∨
        downstreamNode nodeCode = "grinding-workshop-01") := by
  rcases node with rfl | rfl <;> simp [downstreamNode]

theorem backlog_downstream (exact : env.builtins.ExactFloat)
    (node : nodeCode = "turning-workshop-01" ∨ nodeCode = "milling-workshop-01")
    (stays : FactsStay nodeCode store later)
    (projected : systemProduction env later = some production) (result : CommandVerification) :
    backlog env.builtins ((downstreamProduction production nodeCode).getD []) =
      observedBacklog store nodeCode ⟨currentRunIdForSystem env later, result⟩ := by
  obtain ⟨named, other, downstream⟩ := downstream_cases node
  have facts := @productionOf_mapM (downstreamNode nodeCode) _ _ _ projected
  have same : productionOf (verificationBaseline later) (downstreamNode nodeCode) =
      reportedProduction store (downstreamNode nodeCode) := stays.others _ other
  unfold downstreamProduction observedBacklog
  rw [if_neg named]
  rw [same] at facts
  cases found : reportedProduction store (downstreamNode nodeCode) with
  | none =>
    rw [facts.1 found]
    rfl
  | some reported =>
    obtain ⟨projection, made, shown⟩ := facts.2 reported found
    rw [shown, Option.getD_some, backlog_projection exact downstream made,
      flowBacklog_stay stays.parts]
    rfl

structure Sampled (store : MemoryStore) (seen : List FlowObservation) (command : NodeCommand) :
    Prop where
  baseline : command.verificationBaseline = verificationBaseline store
  samples : ∃ items, pastObservations command.verificationEvidence = .ok items ∧
    List.Forall₂ SampleOf items (keepLast 5 (seen.map (observedBacklog store command.nodeCode)))

theorem Sampled.observed (sampled : Sampled store seen command) {builtins : Builtins}
    (now : Timestamp) {items : List Json} {shown : FlowObservation}
    (past : pastObservations command.verificationEvidence = .ok items)
    (shows : backlog builtins ((downstreamProduction production command.nodeCode).getD []) =
      observedBacklog store command.nodeCode shown) :
    List.Forall₂ SampleOf (keepLast 5 (items ++ [observation builtins now command production]))
      (keepLast 5 ((seen ++ [shown]).map (observedBacklog store command.nodeCode))) := by
  obtain ⟨items', past', samples⟩ := sampled.samples
  cases past.symm.trans past'
  have last := observation_sampleOf builtins now command production
  rw [shows] at last
  rw [List.map_append, List.map_singleton, ← keepLast_keepLast_append 5 (seen.map _)]
  exact forall₂_keepLast 5 (List.rel_append samples (.cons last .nil))

theorem Observed.sampled (exact : env.builtins.ExactFloat) (run : Observed env store seen command)
    (node : command.nodeCode = "turning-workshop-01" ∨ command.nodeCode = "milling-workshop-01") :
    Sampled store seen command := by
  induction run with
  | created made =>
    unfold createCommand at made
    split at made
    next => cases made
    next =>
      obtain ⟨ttlSeconds, -, made⟩ := of_bind made
      cases made
      exact ⟨rfl, [], rfl, .nil⟩
  | moved before same parameters baseline evidence ih =>
    rw [same] at node
    have sampled := ih node
    exact ⟨baseline.trans sampled.baseline, by rw [evidence, same]; exact sampled.samples⟩
  | @observed seen command updated later production now result before stays projected continues
      done ready ih =>
    obtain ⟨past, backlogs, samples, values, evidence, gathered, -, -, stored, same, -, baseline⟩ :=
      observe_recorded continues done ready
    rw [same] at node
    have sampled := ih node
    have shown := sampled.observed now samples
      (backlog_downstream exact node stays projected result)
    refine ⟨baseline.trans sampled.baseline, evidence.observations, ?_, ?_⟩
    · rw [stored]
      exact pastObservations_fields _ _
    · rw [gathered, same]
      exact shown

theorem getLast?_keepLast_append {α : Type} (xs : List α) (x : α) :
    (keepLast 5 (xs ++ [x])).getLast? = some x := by
  unfold keepLast
  rw [List.length_append, List.length_singleton, List.drop_append_of_le_length (by omega),
    List.getLast?_append]
  rfl

theorem backlogDelta_keepLast (xs : List ℚ) (x : ℚ) :
    (xs = [] → backlogDelta (keepLast 5 (xs ++ [x])) = none) ∧
      (xs ≠ [] → ∃ y ∈ xs, backlogDelta (keepLast 5 (xs ++ [x])) = some (x - y)) := by
  refine ⟨fun empty => by rw [empty]; rfl, fun nonempty => ?_⟩
  have length := List.length_pos_iff.mpr nonempty
  have last := getLast?_keepLast_append xs x
  have window : keepLast 5 (xs ++ [x]) = xs.drop (xs.length + 1 - 5) ++ [x] := by
    unfold keepLast
    rw [List.length_append, List.length_singleton, List.drop_append_of_le_length (by omega)]
  cases older : xs.drop (xs.length + 1 - 5) with
  | nil =>
    have short := List.drop_eq_nil_iff.mp older
    omega
  | cons y ys =>
    refine ⟨y, List.mem_of_mem_drop (older ▸ List.mem_cons_self), ?_⟩
    rw [window, older] at last ⊢
    cases ys with
    | nil => rfl
    | cons z zs =>
      dsimp only [List.cons_append, backlogDelta]
      simp

theorem measuresAlike_append {builtins : Builtins} {runs : List String} :
    MeasuresAlike builtins store nodeCode (runs ++ [run]) ↔
      MeasuresAlike builtins store nodeCode runs ∧
      ∀ reported, reportedProduction store (downstreamNode nodeCode) = some reported →
        (∀ b, backlog builtins reported = some b →
          flowBacklog run store.partQueue (downstreamNode nodeCode) = b) ∧
        (backlog builtins reported = none → ∀ other ∈ runs,
          flowBacklog run store.partQueue (downstreamNode nodeCode) =
            flowBacklog other store.partQueue (downstreamNode nodeCode)) := by
  constructor
  · intro alike
    refine ⟨fun reported found => ⟨fun b given other member => ?_,
      fun absent first member second member' => ?_⟩, fun reported found =>
        ⟨fun b given => ?_, fun absent other member => ?_⟩⟩
    · exact (alike reported found).1 b given other (List.mem_append_left _ member)
    · exact (alike reported found).2 absent first (List.mem_append_left _ member) second
        (List.mem_append_left _ member')
    · exact (alike reported found).1 b given run (by simp)
    · exact (alike reported found).2 absent run (by simp) other (List.mem_append_left _ member)
  · rintro ⟨alike, last⟩ reported found
    refine ⟨fun b given other member => ?_, fun absent first member second member' => ?_⟩
    · rcases of_mem_concat member with old | rfl
      · exact (alike reported found).1 b given other old
      · exact (last reported found).1 b given
    · rcases List.mem_append.mp member with old | new <;>
        rcases List.mem_append.mp member' with old' | new'
      · exact (alike reported found).2 absent first old second old'
      · rw [List.mem_singleton.mp new']
        exact ((last reported found).2 absent first old).symm
      · rw [List.mem_singleton.mp new]
        exact (last reported found).2 absent second old'
      · rw [List.mem_singleton.mp new, List.mem_singleton.mp new']

theorem filterMap_observedBacklog (store : MemoryStore) (nodeCode : String)
    (seen : List FlowObservation) :
    (reportedProduction store (downstreamNode nodeCode) = none →
      (keepLast 5 (seen.map (observedBacklog store nodeCode))).filterMap id = []) ∧
    ∀ reported, reportedProduction store (downstreamNode nodeCode) = some reported →
      (keepLast 5 (seen.map (observedBacklog store nodeCode))).filterMap id =
        keepLast 5 (seen.map fun observation =>
          flowBacklog observation.run store.partQueue (downstreamNode nodeCode)) := by
  unfold keepLast
  simp only [List.length_map, ← List.map_drop]
  generalize seen.drop (seen.length - 5) = window
  refine ⟨fun absent => ?_, fun reported found => ?_⟩
  · simp [observedBacklog, absent]
  · induction window with
    | nil => rfl
    | cons observation window ih =>
      simpa [observedBacklog, found] using ih

theorem unmoved_observed_iff (exact : env.builtins.ExactFloat)
    (sampled : Sampled store seen command) (decreases : command.Decreases env.builtins)
    (stays : FactsStay command.nodeCode store later)
    (projected : systemProduction env later = some production)
    {updated : NodeCommand} {now : Timestamp} {result : CommandVerification}
    (continues : command.verificationStatus.terminal = false)
    (done : CommandVerifier.standard.observe env.builtins now command production =
      .ok (result, updated)) (ready : result.status ≠ .notStarted)
    (alike : MeasuresAlike env.builtins store command.nodeCode (seen.map (·.run))) :
    FlowObservation.Unmoved ⟨currentRunIdForSystem env later, result⟩ ↔
      ∀ reported, reportedProduction store (downstreamNode command.nodeCode) = some reported →
        (∀ b, backlog env.builtins reported = some b →
          flowBacklog (currentRunIdForSystem env later) store.partQueue
            (downstreamNode command.nodeCode) = b) ∧
        (backlog env.builtins reported = none → ∀ other ∈ seen.map (·.run),
          flowBacklog (currentRunIdForSystem env later) store.partQueue
              (downstreamNode command.nodeCode) =
            flowBacklog other store.partQueue (downstreamNode command.nodeCode)) := by
  obtain ⟨named, -, -⟩ := downstream_cases decreases.node
  obtain ⟨past, backlogs, samples, values, evidence, gathered, recorded, status, -⟩ :=
    observe_recorded continues done ready
  have shown := sampled.observed now samples
    (backlog_downstream exact decreases.node stays projected result)
  have values := (backlogValues_eq exact shown).symm.trans values
  have shows := filterMap_observedBacklog store command.nodeCode
    (seen ++ [⟨currentRunIdForSystem env later, result⟩])
  rw [Except.ok.inj values] at shows
  have direction : evidence.rateDirection = .decrease := by
    rw [gathered]
    exact decreases.direction
  have next : evidence.downstreamNode ≠ "" := by
    rw [gathered]
    exact named
  rw [unmoved_iff recorded status direction next (by rw [gathered]; rfl)]
  have delta : evidence.downstreamBacklogDelta = (backlogs.getLast?.bind fun last =>
      (backlog env.builtins ((reportedProduction store
        (downstreamNode command.nodeCode)).getD [])).map fun before => last - before).or
      (backlogDelta backlogs) := by
    have baseline : reportedProduction store (downstreamNode command.nodeCode) =
        downstreamProduction command.verificationBaseline command.nodeCode := by
      rw [sampled.baseline]
      exact (if_neg named).symm
    rw [gathered, baseline]
    unfold gatherEvidence
    dsimp only
    cases backlogs.getLast? with
    | none => rfl
    | some last => cases backlog _ _ <;> rfl
  rw [delta]
  cases found : reportedProduction store (downstreamNode command.nodeCode) with
  | none =>
    rw [shows.1 found]
    constructor
    · nofun
    · nofun
  | some reported =>
    rw [shows.2 reported found, List.map_append, List.map_singleton, getLast?_keepLast_append,
      Option.getD_some]
    generalize flowBacklog (currentRunIdForSystem env later) store.partQueue
      (downstreamNode command.nodeCode) = last
    cases given : backlog env.builtins reported with
    | some before =>
      constructor
      · intro still other own
        cases own
        refine ⟨fun b same => ?_, fun absent => ?_⟩
        · cases given.symm.trans same
          exact sub_eq_zero.mp (still _ rfl)
        · rw [given] at absent
          cases absent
      · intro equal delta moved
        rw [← Option.some.inj moved]
        exact sub_eq_zero.mpr ((equal reported rfl).1 before given)
    | none =>
      obtain ⟨first, later⟩ := backlogDelta_keepLast (seen.map fun observation =>
        flowBacklog observation.run store.partQueue (downstreamNode command.nodeCode)) last
      have same := (alike reported found).2 given
      by_cases empty : seen = []
      · subst empty
        constructor
        · intro _ other own
          cases own
          refine ⟨fun b some => ?_, fun _ run earlier => absurd earlier List.not_mem_nil⟩
          rw [given] at some
          cases some
        · nofun
      · obtain ⟨y, member, moves⟩ := later (by simpa using empty)
        obtain ⟨observation, old, rfl⟩ := List.mem_map.mp member
        rw [moves]
        constructor
        · intro still other own
          cases own
          refine ⟨fun b some => ?_, fun _ run earlier => ?_⟩
          · rw [given] at some
            cases some
          · rw [same run earlier observation.run (List.mem_map_of_mem old)]
            exact sub_eq_zero.mp (still _ rfl)
        · intro equal delta moved
          rw [← Option.some.inj moved]
          exact sub_eq_zero.mpr ((equal reported rfl).2 given observation.run
            (List.mem_map_of_mem old))

end Runs

def watchCommand (env : StoreEnv) (later : MemoryStore) (now : Timestamp) :
    Nat → List FlowObservation → NodeCommand → Option (List FlowObservation × NodeCommand)
  | 0, seen, command => some (seen, command)
  | n + 1, seen, command => do
    let production ← systemProduction env later
    match CommandVerifier.standard.observe env.builtins now command production with
    | .error _ => none
    | .ok (result, updated) =>
      if command.verificationStatus.terminal = false ∧ result.status ≠ .notStarted then
        watchCommand env later now n (seen ++ [⟨currentRunIdForSystem env later, result⟩]) updated
      else none

theorem watchCommand_observed {env : StoreEnv} {store later : MemoryStore} {now : Timestamp}
    {n : Nat} {seen seen' : List FlowObservation} {command command' : NodeCommand}
    (before : Observed env store seen command) (stays : FactsStay command.nodeCode store later)
    (h : watchCommand env later now n seen command = some (seen', command')) :
    Observed env store seen' command' ∧ command'.nodeCode = command.nodeCode ∧
      command'.parameters = command.parameters ∧
      command'.verificationBaseline = command.verificationBaseline := by
  induction n generalizing seen command with
  | zero =>
    cases h
    exact ⟨before, rfl, rfl, rfl⟩
  | succ n ih =>
    obtain ⟨production, projected, h⟩ := Option.bind_eq_some_iff.mp h
    split at h
    next => cases h
    next result updated done =>
    split at h
    next goes =>
      obtain ⟨_, _, -, -, _, -, -, -, -, node, parameters, baseline⟩ :=
        observe_recorded goes.1 done goes.2
      have observed := before.observed stays projected goes.1 done goes.2
      obtain ⟨watched, node', parameters', baseline'⟩ := ih observed (node ▸ stays) h
      exact ⟨watched, node'.trans node, parameters'.trans parameters, baseline'.trans baseline⟩
    next => cases h

def sampleMillingRates (targetRate actualRate : ℚ) : Fields :=
  [("target_rate", .float targetRate), ("actual_rate", .float actualRate),
    ("utilization", .float (7 / 10)), ("wip_input", .int 8), ("wip_output", .int 4)]

def sampleGrinding : Fields :=
  [("target_rate", .float (108 / 100)), ("actual_rate", .float (7 / 10)),
    ("utilization", .float (72 / 100)), ("wip_input", .int 12), ("wip_output", .int 4)]

def sampleFlowStore (targetRate actualRate : ℚ) : MemoryStore :=
  { MemoryStore.empty with
    nodeHeartbeatsV2 := (Dictionary.empty.set "milling-workshop-01"
        [("production", .obj (sampleMillingRates targetRate actualRate))]).set
          "grinding-workshop-01" [("production", .obj sampleGrinding)] }

def sampleFlowRequest : CommandRequest where
  nodeCode := "milling-workshop-01"
  commandType := "set_target_rate"
  riskLevel := "low"
  status := .pending
  operator := "admin"
  parameters := [("target_rate", .float (72 / 100))]
  verificationBaseline := verificationBaseline (sampleFlowStore 1 (8 / 10))

def sampleFlowCommand : NodeCommand :=
  { sampleFlowRequest.command 1 1 300 with status := .applied }

theorem sampleFlowCommand_observed :
    Observed sampleControlEnv.store (sampleFlowStore 1 (8 / 10)) [] sampleFlowCommand := by
  have made : Observed sampleControlEnv.store (sampleFlowStore 1 (8 / 10)) []
      (sampleFlowRequest.command 1 1 300) :=
    @Observed.created _ _ sampleFlowRequest [] [sampleFlowRequest.command 1 1 300] 1 _ [] rfl
  exact made.moved rfl rfl rfl rfl

theorem reportedProduction_sample (targetRate actualRate : ℚ) (nodeCode : String) :
    reportedProduction (sampleFlowStore targetRate actualRate) nodeCode =
      productionOf [("milling-workshop-01", sampleMillingRates targetRate actualRate),
        ("grinding-workshop-01", sampleGrinding)] nodeCode := rfl

theorem sampleFlowStore_stays :
    FactsStay sampleFlowCommand.nodeCode (sampleFlowStore 1 (8 / 10))
      (sampleFlowStore (72 / 100) (62 / 100)) := by
  refine ⟨.nil, fun other ne => ?_, fun field rates => ?_⟩
  · have differs : "milling-workshop-01" ≠ other := ne.symm
    rw [reportedProduction_sample, reportedProduction_sample]
    simp [productionOf, differs]
  · have target : "target_rate" ≠ field := fun same => rates (same ▸ by decide)
    have actual : "actual_rate" ≠ field := fun same => rates (same ▸ by decide)
    have node : sampleFlowCommand.nodeCode = "milling-workshop-01" := rfl
    rw [node, reportedProduction_sample, reportedProduction_sample]
    simp [productionOf, sampleMillingRates, Fields.get, target, actual]

theorem sampleFlowCommand_decreases : sampleFlowCommand.Decreases sampleBuiltins :=
  ⟨.inr rfl, by decide +kernel⟩

def sampleFlowWatch : Option (List FlowObservation × NodeCommand) :=
  watchCommand sampleControlEnv.store (sampleFlowStore (72 / 100) (62 / 100)) 2 3 []
    sampleFlowCommand

theorem sampleFlowWatch_observed {seen : List FlowObservation} {command : NodeCommand}
    (watched : sampleFlowWatch = some (seen, command)) :
    Observed sampleControlEnv.store (sampleFlowStore 1 (8 / 10)) seen command ∧
      command.Decreases sampleBuiltins := by
  obtain ⟨observed, node, parameters, baseline⟩ :=
    watchCommand_observed sampleFlowCommand_observed sampleFlowStore_stays watched
  have decreases := sampleFlowCommand_decreases
  refine ⟨observed, ?_, ?_⟩
  · rw [node]
    exact decreases.node
  · rw [node, parameters, baseline]
    exact decreases.direction

end MiniOgas
