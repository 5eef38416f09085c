import MiniOgas.VerificationWindow

namespace MiniOgas

open Bounded Serial

inductive CommandOrigin where
  | direct
  | retried

/-- A command that the store has created, with what the nodes have reported as its baseline, or
that a retry has created. -/
inductive CreatedBy (builtins : Builtins) (store : MemoryStore) (commands : List NodeCommand) :
    CommandOrigin → NodeCommand → Prop
  | direct {request : CommandRequest} {now : Timestamp} {command : NodeCommand}
      {transitions : List CommandTransition} {commands' : List NodeCommand}
      (made : createCommand builtins commands now
        { request with verificationBaseline := verificationBaseline store } =
          .ok ((command, transitions, true), commands')) :
      CreatedBy builtins store commands .direct command
  | retried {commandId : Nat} {actor : String} {now : Timestamp} {command : NodeCommand}
      {transitions : List CommandTransition} {commands' : List NodeCommand}
      (made : retry builtins commands now commandId actor =
        .ok ((command, transitions), commands')) :
      CreatedBy builtins store commands .retried command

structure RateObservation where
  production : List (String × Fields)
  result : CommandVerification

/-- What happens to a command after its creation: operations move it, and observations count. -/
inductive WatchedFrom (builtins : Builtins) (verifier : CommandVerifier) (once : NodeCommand) :
    List RateObservation → NodeCommand → Prop
  | created : WatchedFrom builtins verifier once [] once
  | moved {seen : List RateObservation} {command updated : NodeCommand}
      {operation : CommandOperation} (before : WatchedFrom builtins verifier once seen command)
      (move : CommandMove operation command updated)
      (evidence : updated.verificationEvidence = command.verificationEvidence) :
      WatchedFrom builtins verifier once seen updated
  | observed {seen : List RateObservation} {command updated : NodeCommand}
      {production : List (String × Fields)} {now : Timestamp} {result : CommandVerification}
      (before : WatchedFrom builtins verifier once seen command)
      (continues : command.verificationStatus.terminal = false)
      (done : verifier.observe builtins now command production = .ok (result, updated))
      (ready : result.status ≠ .notStarted) :
      WatchedFrom builtins verifier once (seen ++ [⟨production, result⟩]) updated

section Movement

variable (builtins : Builtins)

def nodeNumber (production : List (String × Fields)) (nodeCode field : String) : Option ℚ :=
  number builtins (((productionOf production nodeCode).getD []).get field)

def downstreamBacklog (production : List (String × Fields)) (nodeCode : String) : Option ℚ :=
  backlog builtins ((downstreamProduction production nodeCode).getD [])

def standingRate (store : MemoryStore) (nodeCode : String) : Option ℚ :=
  nodeNumber builtins (verificationBaseline store) nodeCode "target_rate"

end Movement

/-- The latest of the values is below an earlier one, by an amount. -/
def Fell (amount : ℚ) (values : List ℚ) : Prop :=
  ∃ earlier before current, values = earlier ++ [current] ∧ before ∈ earlier ∧
    current ≤ before - amount

/-- The movement that the change of a target rate asks for shows in the production: the own rate
against the one at the creation, or the backlog downstream against an earlier one. -/
structure RateMoved (builtins : Builtins) (store : MemoryStore) (nodeCode : String)
    (target inForce : ℚ) (seen : List (List (String × Fields)))
    (production : List (String × Fields)) : Prop where
  rose : inForce < target → ∃ before current,
    nodeNumber builtins (verificationBaseline store) nodeCode "actual_rate" = some before ∧
    nodeNumber builtins production nodeCode "actual_rate" = some current ∧
    before + 2 / 100 ≤ current
  fell : target < inForce →
    (∃ before current,
      nodeNumber builtins (verificationBaseline store) nodeCode "actual_rate" = some before ∧
      nodeNumber builtins production nodeCode "actual_rate" = some current ∧
      current ≤ before - 2 / 100) ∨
    Fell (1 / 2) ((downstreamBacklog builtins (verificationBaseline store) nodeCode).toList ++
      (seen ++ [production]).filterMap (downstreamBacklog builtins · nodeCode))

section Baselines

variable {builtins : Builtins} {store : MemoryStore}
  {commands : List NodeCommand} {origin : CommandOrigin} {command : NodeCommand}

theorem createdBy_baseline (created : CreatedBy builtins store commands origin command) :
    command.verificationEvidence = [] ∧ command.verificationStatus = .notStarted ∧
      command.resultMessage = "" ∧
      ((origin = .direct ∧ command.verificationBaseline = verificationBaseline store) ∨
        (origin = .retried ∧ command.verificationBaseline = [])) := by
  cases created with
  | direct made =>
    unfold createCommand at made
    split at made
    next => cases made
    next =>
      obtain ⟨ttlSeconds, -, made⟩ := of_bind made
      cases made
      exact ⟨rfl, rfl, rfl, .inl ⟨rfl, rfl⟩⟩
  | @retried commandId actor _ _ _ _ made =>
    obtain ⟨source, -, made⟩ := of_bind made
    replace made := of_then made
    obtain ⟨⟨⟨new, transitions, flag⟩, left⟩, created, made⟩ := of_bind made
    cases made
    rcases createCommand_cases created with ⟨repeated, -⟩ | ⟨-, ttlSeconds, new, -⟩
    · rw [repeatedCommand_retryRequest] at repeated
      cases repeated
    · have new : command = _ := new
      rw [new]
      exact ⟨rfl, rfl, rfl, .inr ⟨rfl, rfl⟩⟩

end Baselines

section Window

variable {builtins : Builtins} {verifier : CommandVerifier} {store : MemoryStore}
  {command once updated : NodeCommand} {seen : List RateObservation}
  {production : List (String × Fields)} {target inForce : ℚ}

structure WatchedAs (builtins : Builtins) (verifier : CommandVerifier) (once : NodeCommand)
    (seen : List RateObservation) (command : NodeCommand) : Prop where
  same : command.identity = once.identity
  samples : ∃ items, pastObservations command.verificationEvidence = .ok items ∧
    List.Forall₂ SampleOf items (keepLast verifier.maxObservations
      (seen.map fun shown => downstreamBacklog builtins shown.production once.nodeCode))

theorem WatchedAs.observed (watched : WatchedAs builtins verifier once seen command)
    (production : List (String × Fields)) (now : Timestamp) (result : CommandVerification)
    {items : List Json}
    (past : pastObservations command.verificationEvidence = .ok items) :
    List.Forall₂ SampleOf
      (keepLast verifier.maxObservations (items ++ [observation builtins now command production]))
      (keepLast verifier.maxObservations
        ((seen ++ [(⟨production, result⟩ : RateObservation)]).map fun shown =>
          downstreamBacklog builtins shown.production once.nodeCode)) := by
  obtain ⟨items', past', samples⟩ := watched.samples
  cases past.symm.trans past'
  have node : command.nodeCode = once.nodeCode := congrArg CommandIdentity.nodeCode watched.same
  have last := observation_sampleOf builtins now command production
  rw [node] at last
  rw [List.map_append, List.map_singleton, ← keepLast_keepLast_append _ (seen.map _)]
  exact forall₂_keepLast _ (List.rel_append samples (.cons last .nil))

theorem watchedAs_run (fresh : once.verificationEvidence = [])
    (run : WatchedFrom builtins verifier once seen command) :
    WatchedAs builtins verifier once seen command := by
  induction run with
  | created =>
    refine ⟨rfl, [], ?_, ?_⟩
    · rw [fresh]
      rfl
    · rw [List.map_nil, keepLast, List.drop_nil]
      exact .nil
  | moved before move evidence ih =>
    refine ⟨move.same.trans ih.same, ?_⟩
    rw [evidence]
    exact ih.samples
  | @observed seen command updated production now result before continues done ready ih =>
    obtain ⟨past, backlogs, samples, values, evidence, gathered, -, -, stored, -⟩ :=
      observe_recorded continues done ready
    have move : CommandMove (.observe 0 []) command updated := observe_move done
    refine ⟨move.same.trans ih.same, evidence.observations, ?_, ?_⟩
    · rw [stored]
      exact pastObservations_fields _ _
    · rw [gathered]
      exact ih.observed production now result samples

theorem watched_last {observation : RateObservation} {later : NodeCommand}
    (run : WatchedFrom builtins verifier once (seen ++ [observation]) later) :
    ∃ command updated now, WatchedFrom builtins verifier once seen command ∧
      command.verificationStatus.terminal = false ∧
      verifier.observe builtins now command observation.production =
        .ok (observation.result, updated) ∧ observation.result.status ≠ .notStarted := by
  generalize all : seen ++ [observation] = shown at run
  induction run with
  | created => simp at all
  | moved _ _ _ ih => exact ih all
  | @observed seen' command updated production now result before continues done ready _ =>
    obtain ⟨rfl, last⟩ := List.append_inj' all rfl
    cases List.singleton_injective last
    exact ⟨command, updated, now, before, continues, done, ready⟩

theorem conclude_proven {evidence : CommandEvidence} {downstream : Option Fields}
    (status : (verifier.conclude evidence downstream).1 = .effective) :
    evidence.effectProven = true := by
  unfold CommandVerifier.conclude at status
  dsimp only at status
  split_ifs at status with few missing late harmful proven
  exact proven

theorem ownRateMoved_cases {before current : Option ℚ}
    (moved : ownRateMoved (some target) (some inForce) before current = true) :
    ∃ b c, before = some b ∧ current = some c ∧
      (inForce < target → b + 2 / 100 ≤ c) ∧ (target < inForce → c ≤ b - 2 / 100) := by
  cases before with
  | none => cases moved
  | some b =>
    cases current with
    | none => cases moved
    | some c =>
      dsimp only [ownRateMoved] at moved
      refine ⟨b, c, rfl, rfl, fun up => ?_, fun down => ?_⟩
      · rw [if_neg (not_lt.mpr up.le), if_pos up] at moved
        exact of_decide_eq_true moved
      · rw [if_pos down] at moved
        exact of_decide_eq_true moved

theorem fell_of_delta {values : List (Option ℚ)} {before : Option ℚ} {n : Nat} {delta : ℚ}
    (shown : (((keepLast n values).filterMap id).getLast?.bind fun last =>
      before.map fun first => last - first).or
        (backlogDelta ((keepLast n values).filterMap id)) = some delta)
    (improved : delta ≤ -1 / 2) : Fell (1 / 2) (before.toList ++ values.filterMap id) := by
  have window : values.filterMap id =
      (values.take (values.length - n)).filterMap id ++ (keepLast n values).filterMap id := by
    rw [← List.filterMap_append]
    exact congrArg _ (List.take_append_drop _ _).symm
  rw [window]
  generalize (values.take (values.length - n)).filterMap id = older
  generalize (keepLast n values).filterMap id = recent at shown
  rcases List.eq_nil_or_concat recent with empty | ⟨middle, last, split⟩
  · rw [empty] at shown
    cases shown
  · rw [split, List.concat_eq_append] at shown ⊢
    rw [List.getLast?_append, List.getLast?_singleton, Option.some_or, Option.bind_some] at shown
    cases before with
    | some first =>
      refine ⟨first :: (older ++ middle), first, last, by simp, List.mem_cons_self, ?_⟩
      have value : last - first = delta := Option.some.inj shown
      linarith
    | none =>
      cases middle with
      | nil => cases shown
      | cons first rest =>
        refine ⟨older ++ first :: rest, first, last, by simp, by simp, ?_⟩
        have value : last - first = delta := by
          cases rest with
          | nil => exact Option.some.inj shown
          | cons second rest =>
            dsimp only [List.cons_append, backlogDelta] at shown
            simpa using shown
        linarith

theorem downstreamBacklogDelta_eq (observations : List Json) (backlogs : List ℚ) :
    (gatherEvidence builtins command production observations backlogs).downstreamBacklogDelta =
      (backlogs.getLast?.bind fun last =>
        (downstreamBacklog builtins command.verificationBaseline command.nodeCode).map
          fun before => last - before).or (backlogDelta backlogs) := by
  unfold gatherEvidence downstreamBacklog
  dsimp only
  cases backlogs.getLast? with
  | none => rfl
  | some last => cases backlog _ _ <;> rfl

theorem rateDirection_of_differs (differs : 1 / 1000 < |target - inForce|) :
    (inForce < target ∧ rateDirection (some target) (some inForce) = .increase) ∨
      (target < inForce ∧ rateDirection (some target) (some inForce) = .decrease) := by
  dsimp only [rateDirection]
  rcases lt_abs.mp differs with up | down
  · refine .inl ⟨by linarith, ?_⟩
    rw [if_neg (by linarith), if_pos (by linarith)]
  · refine .inr ⟨by linarith, ?_⟩
    rw [if_pos (by linarith)]

theorem moved_of_effective (exact : builtins.ExactFloat)
    (fresh : once.verificationEvidence = [])
    (baseline : once.verificationBaseline = verificationBaseline store)
    (asked : number builtins (once.parameters.get "target_rate") = some target)
    (standing : standingRate builtins store once.nodeCode = some inForce)
    (differs : 1 / 1000 < |target - inForce|) {observation : RateObservation} {later : NodeCommand}
    (run : WatchedFrom builtins verifier once (seen ++ [observation]) later)
    (effective : observation.result.status = .effective) :
    RateMoved builtins store once.nodeCode target inForce (seen.map (·.production))
      observation.production := by
  obtain ⟨command, updated, now, before, continues, done, ready⟩ := watched_last run
  have watched := watchedAs_run fresh before
  obtain ⟨past, backlogs, samples, values, evidence, gathered, -, status, -⟩ :=
    observe_recorded continues done ready
  have node : command.nodeCode = once.nodeCode := congrArg CommandIdentity.nodeCode watched.same
  have parameters : command.parameters = once.parameters :=
    congrArg CommandIdentity.parameters watched.same
  have same : command.verificationBaseline = verificationBaseline store :=
    (congrArg CommandIdentity.verificationBaseline watched.same).trans baseline
  have shown := watched.observed observation.production now observation.result samples
  have listed := Except.ok.inj ((backlogValues_eq exact shown).symm.trans values)
  have proven := conclude_proven (status.symm.trans effective)
  have expected : evidence.expectedTargetRate = some target := by
    rw [gathered, ← asked, ← parameters]
    rfl
  have direction : evidence.rateDirection = rateDirection (some target) (some inForce) := by
    rw [gathered, ← asked, ← standing, ← parameters, standingRate, ← same, ← node]
    rfl
  have own : evidence.ownRateMoved = ownRateMoved (some target) (some inForce)
      (nodeNumber builtins (verificationBaseline store) once.nodeCode "actual_rate")
      (nodeNumber builtins observation.production once.nodeCode "actual_rate") := by
    rw [gathered, ← asked, ← standing, ← parameters, standingRate, ← same, ← node]
    rfl
  have flow : evidence.flowImproved =
      evidence.downstreamBacklogDelta.any fun delta => decide (delta ≤ -1 / 2) := by
    rw [gathered]
    rfl
  have delta := @downstreamBacklogDelta_eq builtins command observation.production
    (keepLast verifier.maxObservations
      (past ++ [MiniOgas.observation builtins now command observation.production])) backlogs
  rw [← gathered] at delta
  unfold CommandEvidence.effectProven at proven
  rcases rateDirection_of_differs differs with ⟨up, rises⟩ | ⟨down, falls⟩
  · rw [direction, rises] at proven
    rw [own] at proven
    obtain ⟨b, c, first, last, rose, -⟩ := ownRateMoved_cases proven
    refine ⟨fun _ => ⟨b, c, first, last, rose up⟩, fun below => ?_⟩
    exact absurd below (not_lt.mpr up.le)
  · rw [direction, falls] at proven
    refine ⟨fun above => absurd above (not_lt.mpr down.le), fun _ => ?_⟩
    dsimp only at proven
    split at proven
    next =>
      rw [own] at proven
      obtain ⟨b, c, first, last, -, fell⟩ := ownRateMoved_cases proven
      exact .inl ⟨b, c, first, last, fell down⟩
    next =>
      rw [flow, Option.any_eq_true] at proven
      obtain ⟨value, given, improved⟩ := proven
      rw [delta, ← listed, same, node] at given
      have fell := fell_of_delta given (of_decide_eq_true improved)
      refine .inr ?_
      rw [List.filterMap_map] at fell
      rw [← List.map_singleton (f := fun o : RateObservation => o.production), ← List.map_append,
        List.filterMap_map]
      exact fell

end Window

def steadyProduction (nodeCode : String) (target rate : ℚ) : List (String × Fields) :=
  [(nodeCode,
      if nodeCode = "grinding-workshop-01" then
        [("target_rate", .float target), ("actual_rate", .float rate)]
      else [("target_rate", .float target)]),
    ("grinding-workshop-01", [("actual_rate", .float rate)])]

structure Untold (builtins : Builtins) (store : MemoryStore) (command : NodeCommand) : Prop where
  requested : nodeNumber builtins command.verificationBaseline command.nodeCode "target_rate" = none
  sink : ∀ rate, nodeNumber builtins command.verificationBaseline "grinding-workshop-01"
      "actual_rate" = some rate →
    nodeNumber builtins (verificationBaseline store) "grinding-workshop-01" "actual_rate" =
      some rate

section Steady

variable {builtins : Builtins} {verifier : CommandVerifier} {store : MemoryStore}
  {command once updated : NodeCommand} {seen : List RateObservation} {nodeCode : String}
  {target rate inForce : ℚ} {evidence : CommandEvidence}

theorem number_float (exact : builtins.ExactFloat) (q : ℚ) :
    number builtins (.float q) = some q := exact.float q

theorem steady_target (exact : builtins.ExactFloat) :
    nodeNumber builtins (steadyProduction nodeCode target rate) nodeCode "target_rate" =
      some target := by
  unfold nodeNumber steadyProduction productionOf
  by_cases sink : nodeCode = "grinding-workshop-01" <;>
    simp [sink, Fields.get, number_float exact]

theorem steady_sink (exact : builtins.ExactFloat) :
    nodeNumber builtins (steadyProduction nodeCode target rate) "grinding-workshop-01"
      "actual_rate" = some rate := by
  unfold nodeNumber steadyProduction productionOf
  by_cases sink : nodeCode = "grinding-workshop-01" <;>
    simp [sink, Fields.get, number_float exact]

theorem steady_own (other : nodeCode ≠ "grinding-workshop-01") :
    nodeNumber builtins (steadyProduction nodeCode target rate) nodeCode "actual_rate" = none := by
  unfold nodeNumber steadyProduction productionOf
  simp [other, Fields.get, number]

theorem steady_downstream : ((downstreamProduction (steadyProduction nodeCode target rate)
    nodeCode).getD []).get "wip_input" = .null := by
  unfold downstreamProduction steadyProduction productionOf downstreamNode
  split
  next => simp [Fields.get]
  next => simp [Fields.get]
  next => simp [Fields.get]

theorem steady_backlog :
    downstreamBacklog builtins (steadyProduction nodeCode target rate) nodeCode = none := by
  unfold downstreamBacklog backlog
  rw [steady_downstream]
  rfl

theorem not_moved_steady {shown : List (List (String × Fields))} (differs : target ≠ inForce)
    (own : ∀ before, nodeNumber builtins (verificationBaseline store) "grinding-workshop-01"
      "actual_rate" = some before → before = rate)
    (exact : builtins.ExactFloat)
    (steady : ∀ production ∈ shown, production = steadyProduction nodeCode target rate) :
    ¬ RateMoved builtins store nodeCode target inForce shown
      (steadyProduction nodeCode target rate) := by
  intro moved
  have still : ∀ before current,
      nodeNumber builtins (verificationBaseline store) nodeCode "actual_rate" = some before →
      nodeNumber builtins (steadyProduction nodeCode target rate) nodeCode "actual_rate" =
        some current → before = current := by
    intro before current first last
    by_cases sink : nodeCode = "grinding-workshop-01"
    · rw [sink] at first last
      rw [steady_sink exact] at last
      rw [own before first, Option.some.inj last]
    · rw [steady_own sink] at last
      cases last
  rcases lt_or_gt_of_ne differs with down | up
  · rcases moved.fell down with ⟨before, current, first, last, fell⟩ | fell
    · have := still before current first last
      linarith
    · have none : (shown ++ [steadyProduction nodeCode target rate]).filterMap
          (downstreamBacklog builtins · nodeCode) = [] := by
        rw [List.filterMap_eq_nil_iff]
        intro production member
        rcases of_mem_concat member with earlier | rfl
        · rw [steady production earlier]
          exact steady_backlog
        · exact steady_backlog
      obtain ⟨earlier, before, current, values, member, -⟩ := fell
      rw [none, List.append_nil] at values
      have length := congrArg List.length values
      have short : (downstreamBacklog builtins (verificationBaseline store)
          nodeCode).toList.length ≤ 1 := by
        cases downstreamBacklog builtins (verificationBaseline store) nodeCode <;> simp
      have long := List.length_pos_of_mem member
      rw [List.length_append, List.length_singleton] at length
      omega
  · obtain ⟨before, current, first, last, rose⟩ := moved.rose up
    have := still before current first last
    linarith

theorem gathered_steady (exact : builtins.ExactFloat) (untold : Untold builtins store command)
    (asked : number builtins (command.parameters.get "target_rate") = some target)
    (own : ∀ before, nodeNumber builtins (verificationBaseline store) "grinding-workshop-01"
      "actual_rate" = some before → before = rate) {observations : List Json} {backlogs : List ℚ}
    (gathered : evidence = gatherEvidence builtins command
      (steadyProduction command.nodeCode target rate) observations backlogs) :
    evidence.targetApplied = true ∧ evidence.severeStarvation = false ∧
      evidence.throughputFloorOk = true ∧ evidence.rateDirection = .unchanged := by
  have requested := untold.requested
  have shown := @steady_target builtins command.nodeCode target rate exact
  have sink := @steady_sink builtins command.nodeCode target rate exact
  unfold nodeNumber at requested shown sink
  refine ⟨?_, ?_, ?_, ?_⟩
  · rw [gathered]
    unfold gatherEvidence
    dsimp only
    rw [asked, shown]
    simp
  · rw [gathered]
    unfold gatherEvidence
    dsimp only
    rw [steady_downstream]
    rfl
  · have before := untold.sink
    rw [gathered]
    unfold gatherEvidence
    dsimp only
    rw [asked, requested, sink]
    cases kept : number builtins (((productionOf command.verificationBaseline
        "grinding-workshop-01").getD []).get "actual_rate") with
    | none => rfl
    | some first =>
      have same := own first (before first kept)
      by_cases positive : first ≤ 0
      · simp [positive]
      · simp only [Option.map_some, Bool.or_eq_true, decide_eq_true_eq]
        exact .inr (by linarith)
  · rw [gathered]
    unfold gatherEvidence
    dsimp only
    rw [requested]
    cases number builtins (command.parameters.get "target_rate") <;> rfl

theorem conclude_steady {downstream : Option Fields} (applied : evidence.targetApplied = true)
    (fed : evidence.severeStarvation = false) (floor : evidence.throughputFloorOk = true)
    (still : evidence.rateDirection = .unchanged) :
    (verifier.conclude evidence downstream).1 =
      if evidence.observations.length < verifier.minObservations then .observing
      else .effective := by
  have proven : evidence.effectProven = true := by
    unfold CommandEvidence.effectProven
    rw [still]
    exact applied
  unfold CommandVerifier.conclude
  dsimp only
  split
  next => rfl
  next => simp [applied, fed, floor]

theorem observe_ready {now : Timestamp} {production : List (String × Fields)}
    {result : CommandVerification} (verifiable : command.Verifiable builtins verifier)
    (done : verifier.observe builtins now command production = .ok (result, updated)) :
    result.status ≠ .notStarted := by
  unfold CommandVerifier.observe at done
  rw [verifiable.continues, if_neg (by decide)] at done
  have ready : ¬(command.commandType ≠ "set_target_rate" ∨
      (command.status ≠ .applied ∧ command.status ≠ .executed)) := by
    intro unready
    rcases unready with other | ⟨one, two⟩
    · exact other verifiable.kind
    · exact verifiable.carried.elim one two
  rw [if_neg ready] at done
  obtain ⟨past, -, done⟩ := of_bind done
  obtain ⟨backlogs, -, done⟩ := of_bind done
  dsimp only at done
  split at done
  next =>
    obtain ⟨answer, -⟩ := Prod.mk.inj (Except.ok.inj done)
    intro unready
    rw [← answer] at unready
    cases unready
  next decided =>
    obtain ⟨answer, -⟩ := Prod.mk.inj (Except.ok.inj done)
    have given := (conclude_window rfl).2.2.resolve_left decided
    intro unready
    rw [← answer] at unready
    dsimp only at unready
    rw [unready] at given
    cases given

theorem observe_steady (exact : builtins.ExactFloat) (untold : Untold builtins store command)
    (asked : number builtins (command.parameters.get "target_rate") = some target)
    (own : ∀ before, nodeNumber builtins (verificationBaseline store) "grinding-workshop-01"
      "actual_rate" = some before → before = rate)
    (verifiable : command.Verifiable builtins verifier) :
    ∃ result updated, verifier.observe builtins 0 command
        (steadyProduction command.nodeCode target rate) = .ok (result, updated) ∧
      result.status ≠ .notStarted ∧
      Observes builtins verifier command (steadyProduction command.nodeCode target rate) updated ∧
      result.status = if updated.observations.length < verifier.minObservations then .observing
        else .effective := by
  obtain ⟨result, updated, done, observes⟩ := observe_verifiable exact verifiable 0
    (steadyProduction command.nodeCode target rate)
  have ready := observe_ready verifiable done
  obtain ⟨past, backlogs, -, -, evidence, gathered, -, status, stored, -⟩ :=
    observe_recorded verifiable.continues done ready
  obtain ⟨applied, fed, floor, still⟩ := gathered_steady exact untold asked own gathered
  have count : updated.observations = evidence.observations :=
    observations_eq (stored ▸ pastObservations_fields verifier evidence)
  refine ⟨result, updated, done, ready, observes, ?_⟩
  rw [status, count]
  exact conclude_steady applied fed floor still

theorem watch_steady (exact : builtins.ExactFloat) (untold : Untold builtins store once)
    (asked : number builtins (once.parameters.get "target_rate") = some target)
    (own : ∀ before, nodeNumber builtins (verificationBaseline store) "grinding-workshop-01"
      "actual_rate" = some before → before = rate)
    (before : WatchedFrom builtins verifier once seen command)
    (same : command.identity = once.identity)
    (verifiable : command.Verifiable builtins verifier) :
    ∃ result updated, updated.identity = once.identity ∧
      WatchedFrom builtins verifier once
        (seen ++ [⟨steadyProduction once.nodeCode target rate, result⟩]) updated ∧
      Observes builtins verifier command (steadyProduction once.nodeCode target rate) updated ∧
      result.status = if updated.observations.length < verifier.minObservations then .observing
        else .effective := by
  have node : command.nodeCode = once.nodeCode := congrArg CommandIdentity.nodeCode same
  have parameters : command.parameters = once.parameters :=
    congrArg CommandIdentity.parameters same
  have baseline : command.verificationBaseline = once.verificationBaseline :=
    congrArg CommandIdentity.verificationBaseline same
  have told : Untold builtins store command :=
    ⟨by rw [node, baseline]; exact untold.requested, by rw [baseline]; exact untold.sink⟩
  obtain ⟨result, updated, done, ready, observes, status⟩ :=
    observe_steady exact told (parameters ▸ asked) own verifiable
  have move : CommandMove (.observe 0 []) command updated := observe_move done
  rw [node] at done observes
  exact ⟨result, updated, move.same.trans same,
    before.observed verifiable.continues done ready, observes, status⟩

theorem steady_effective (exact : builtins.ExactFloat) (untold : Untold builtins store once)
    (asked : number builtins (once.parameters.get "target_rate") = some target)
    (own : ∀ before, nodeNumber builtins (verificationBaseline store) "grinding-workshop-01"
      "actual_rate" = some before → before = rate) (left : Nat)
    (before : WatchedFrom builtins verifier once seen command)
    (steady : ∀ shown ∈ seen, shown.production = steadyProduction once.nodeCode target rate)
    (same : command.identity = once.identity)
    (verifiable : command.Verifiable builtins verifier)
    (count : command.observations.length + left + 1 = verifier.minObservations) :
    ∃ shown observation later,
      WatchedFrom builtins verifier once (shown ++ [observation]) later ∧
      (∀ earlier ∈ shown, earlier.production = steadyProduction once.nodeCode target rate) ∧
      observation.production = steadyProduction once.nodeCode target rate ∧
      observation.result.status = .effective := by
  have window := verifier.window
  induction left generalizing seen command with
  | zero =>
    obtain ⟨result, updated, -, next, observes, status⟩ :=
      watch_steady exact untold asked own before same verifiable
    have counted := observes.count
    rw [if_neg (by omega)] at status
    exact ⟨seen, _, updated, next, steady, rfl, status⟩
  | succ left ih =>
    obtain ⟨result, updated, same', next, observes, -⟩ :=
      watch_steady exact untold asked own before same verifiable
    have counted := observes.count
    have waits : updated.verificationStatus.terminal = false := by
      by_contra decided
      have := observes.early (by simpa using decided)
      omega
    refine ih next ?_ same' (observes.verifiable verifiable waits) (by omega)
    intro shown member
    rcases List.mem_append.mp member with earlier | last
    · exact steady shown earlier
    · rw [List.mem_singleton.mp last]

/-- The command has a status from which an agent can still apply it. -/
def NodeCommand.Appliable (command : NodeCommand) : Prop :=
  command.status.acceptsResult = true ∨ command.status = .waitingApproval

def NodeCommand.carriedOut (command : NodeCommand) : NodeCommand :=
  { command with status := .applied, verificationStatus := .observing }

theorem watched_carriedOut (appliable : once.Appliable) :
    WatchedFrom builtins verifier once [] once.carriedOut := by
  rcases appliable with accepts | waiting
  · have move : CommandMove (.recordResult once.nodeCode once.id "executed" "applied") once
        once.carriedOut := ⟨rfl, .result rfl rfl accepts⟩
    exact WatchedFrom.created.moved move rfl
  · have approved : CommandMove (.approve once.id "admin") once
        { once with status := .pending } := ⟨rfl, .approve waiting⟩
    have move : CommandMove (.recordResult once.nodeCode once.id "executed" "applied")
        { once with status := .pending } once.carriedOut := ⟨rfl, .result rfl rfl rfl⟩
    exact (WatchedFrom.created.moved approved rfl).moved move rfl

theorem carriedOut_verifiable (fresh : once.verificationEvidence = [])
    (kind : once.commandType = "set_target_rate") :
    once.carriedOut.observations = [] ∧ once.carriedOut.Verifiable builtins verifier := by
  have listed : pastObservations once.carriedOut.verificationEvidence = .ok [] := by
    change pastObservations once.verificationEvidence = _
    rw [fresh]
    rfl
  have none := observations_eq listed
  refine ⟨none, rfl, kind, .inl rfl, ⟨[], listed⟩, [], ?_⟩
  rw [none, keepLast, List.drop_nil]
  rfl

theorem untold_effective (exact : builtins.ExactFloat) (verifier : CommandVerifier)
    (fresh : once.verificationEvidence = [])
    (kind : once.commandType = "set_target_rate") (appliable : once.Appliable)
    (asked : number builtins (once.parameters.get "target_rate") = some target)
    (untold : Untold builtins store once) (differs : target ≠ inForce) :
    ∃ seen observation later, WatchedFrom builtins verifier once (seen ++ [observation]) later ∧
      observation.result.status = .effective ∧
      ¬ RateMoved builtins store once.nodeCode target inForce
        (seen.map RateObservation.production) observation.production := by
  obtain ⟨rate, own⟩ : ∃ rate, ∀ before, nodeNumber builtins (verificationBaseline store)
      "grinding-workshop-01" "actual_rate" = some before → before = rate := by
    cases nodeNumber builtins (verificationBaseline store) "grinding-workshop-01"
        "actual_rate" with
    | none => exact ⟨0, nofun⟩
    | some rate => exact ⟨rate, fun _ given => (Option.some.inj given).symm⟩
  obtain ⟨none, verifiable⟩ := carriedOut_verifiable fresh kind
  have count : once.carriedOut.observations.length + (verifier.minObservations - 1) + 1 =
      verifier.minObservations := by
    have window := verifier.window
    rw [none, List.length_nil]
    omega
  obtain ⟨seen, observation, later, run, steady, last, effective⟩ :=
    steady_effective exact untold asked own (verifier.minObservations - 1)
      (watched_carriedOut appliable) (by simp) rfl verifiable count
  refine ⟨seen, observation, later, run, effective, ?_⟩
  rw [last]
  refine not_moved_steady differs own exact fun production member => ?_
  obtain ⟨shown, earlier, rfl⟩ := List.mem_map.mp member
  exact steady shown earlier

end Steady

section Origins

variable {builtins : Builtins} {store : MemoryStore} {commands : List NodeCommand}
  {origin : CommandOrigin} {once : NodeCommand} {target inForce : ℚ}

theorem untold_of_created (created : CreatedBy builtins store commands origin once)
    (unknown : ¬(origin = .direct ∧ (standingRate builtins store once.nodeCode).isSome = true)) :
    Untold builtins store once := by
  obtain ⟨-, -, -, ⟨direct, baseline⟩ | ⟨-, baseline⟩⟩ := createdBy_baseline created
  · refine ⟨?_, fun rate given => ?_⟩
    · rw [baseline]
      by_contra some
      exact unknown ⟨direct, Option.isSome_iff_ne_none.mpr some⟩
    · rw [baseline] at given
      exact given
  · refine ⟨?_, fun rate given => ?_⟩
    · rw [baseline]
      rfl
    · rw [baseline] at given
      cases given

end Origins

theorem sampleFlowRequest_created : CreatedBy sampleBuiltins (sampleFlowStore 1 (8 / 10)) []
    .direct (sampleFlowRequest.command 1 1 300) :=
  @CreatedBy.direct _ _ _ sampleFlowRequest 1 _ [] [sampleFlowRequest.command 1 1 300] rfl

def sampleRetried : NodeCommand :=
  (({ sampleFlowRequest.command 1 1 300 with status := .failed }).retryRequest "admin").command 5 2
    300

end MiniOgas
