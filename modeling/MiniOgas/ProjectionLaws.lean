import MiniOgas.RedisProjection

namespace MiniOgas

open Steps

/-- Every latest-value key of the rebuild is there. -/
def RedisServer.Complete (redis : RedisServer) (call : RebuildCall) : Prop :=
  ∀ key ∈ call.createdKeys, (redis.latest.get? key).isSome = true

/-- The active generation has all its keys. -/
def ProjectionSystem.Intact (system : ProjectionSystem) : Prop :=
  ∀ generation, system.redis.activeGeneration = some generation →
    ∃ rebuild, system.rebuilds.get? generation = some rebuild ∧
      system.redis.Complete rebuild.call

def RebuildPhase.isCleanUp : RebuildPhase → Bool
  | .cleanUp _ _ => true
  | _ => false

/-- The event executes the clean-up of the rebuild that the active pointer names. -/
def ProjectionSystem.DeletesActive (system : ProjectionSystem) : ProjectionEvent → Prop
  | .command generation fate => fate.executed = true ∧
    system.redis.activeGeneration = some generation ∧
      (system.rebuilds.get? generation).any (·.phase.isCleanUp) = true
  | .start _ | .lockExpires => False

instance decidableDeletesActive (system : ProjectionSystem) :
    ∀ event, Decidable (system.DeletesActive event)
  | .command generation fate => inferInstanceAs (Decidable (fate.executed = true ∧
      system.redis.activeGeneration = some generation ∧
        (system.rebuilds.get? generation).any (·.phase.isCleanUp) = true))
  | .start _ | .lockExpires => inferInstanceAs (Decidable False)

def RebuildPhase.switched : RebuildPhase → Bool
  | .checkpoint | .cleanUp _ _ | .readLock _ | .releaseLock _ | .ended _ => true
  | .ping | .lock | .project _ _ | .verify | .activate => false

structure Projected (system : ProjectionSystem) : Prop where
  named : ∀ generation rebuild, system.rebuilds.get? generation = some rebuild →
    rebuild.call.generation = generation
  /-- The keys are there before the pointer is switched. -/
  ready : ∀ generation rebuild, system.rebuilds.get? generation = some rebuild →
    rebuild.phase = .activate → system.redis.Complete rebuild.call
  cleans : ∀ generation rebuild, system.rebuilds.get? generation = some rebuild →
    rebuild.phase.isCleanUp = true → rebuild.call.createdKeys ≠ []
  active : ∀ generation, system.redis.activeGeneration = some generation →
    ∃ rebuild, system.rebuilds.get? generation = some rebuild ∧ rebuild.phase.switched = true ∧
      system.redis.Complete rebuild.call

variable {system : ProjectionSystem} {redis redis' : RedisServer} {call other : RebuildCall}
  {phase : RebuildPhase} {generation : String} {rebuild : Rebuild} {fate : Fate}
  {created : List LatestKey} {fault : RebuildFault} {guarded failed : Bool}
  {rest : List (Nat × Measurement)} {key : LatestKey} {event : ProjectionEvent}

theorem generation_of_createdKey (member : key ∈ call.createdKeys) :
    key.1 = call.generation := by
  obtain ⟨row, -, rfl⟩ := List.mem_map.mp member
  rfl

theorem RedisServer.Complete.of_get? (complete : redis.Complete call)
    (same : ∀ key ∈ call.createdKeys, redis'.latest.get? key = redis.latest.get? key) :
    redis'.Complete call := by
  intro key member
  rw [same key member]
  exact complete key member

theorem complete_of_present (all : redis.present call.createdKeys = call.createdKeys.length) :
    redis.Complete call :=
  List.countP_eq_length.mp all

theorem cleanUpPhase_switched : (cleanUpPhase created guarded fault).switched = true := by
  unfold cleanUpPhase
  split <;> rfl

theorem cleanUpPhase_isCleanUp (cleans : (cleanUpPhase created guarded fault).isCleanUp = true) :
    created ≠ [] := by
  unfold cleanUpPhase at cleans
  split at cleans
  next => cases cleans
  next filled => exact filled

theorem cleanUpPhase_ne_activate : cleanUpPhase created guarded fault ≠ .activate := by
  unfold cleanUpPhase
  split <;> simp

theorem projectPhase_isCleanUp (cleans : (projectPhase created rest failed).isCleanUp = true) :
    created ≠ [] := by
  unfold projectPhase at cleans
  split at cleans
  next =>
    split at cleans
    next => exact cleanUpPhase_isCleanUp cleans
    next => cases cleans
  next => cases cleans

theorem projectPhase_ne_activate : projectPhase created rest failed ≠ .activate := by
  unfold projectPhase
  split
  next =>
    split
    next => exact cleanUpPhase_ne_activate
    next => simp
  next => simp

theorem execute_get? (ne : key.1 ≠ call.generation) :
    (phase.execute call system).redis.latest.get? key = system.redis.latest.get? key := by
  cases phase with
  | lock =>
    unfold RebuildPhase.execute
    dsimp only
    split <;> rfl
  | project rows failed =>
    cases rows with
    | nil => rfl
    | cons row rest =>
      have other : key ≠ latestKey call.generation row := fun same => ne (congrArg Prod.fst same)
      change (system.redis.latest.set _ _).get? key = _
      rw [Dictionary.get?_set, if_neg other]
  | cleanUp guarded fault =>
    have kept : key ∉ call.createdKeys := fun member => ne (generation_of_createdKey member)
    apply Option.ext
    intro value
    change (system.redis.latest.keepIf _).get? key = _ ↔ _
    rw [Dictionary.get?_keepIf_eq_some_iff]
    simp [kept]
  | _ => rfl

theorem delete_get? (member : key ∈ created) :
    (redis.delete created).latest.get? key = none := by
  rw [Option.eq_none_iff_forall_ne_some]
  intro value found
  have kept := (Dictionary.get?_keepIf_eq_some_iff.mp found).2
  simp [member] at kept

theorem execute_activeGeneration (phase : RebuildPhase) (call : RebuildCall)
    (system : ProjectionSystem) : (phase.execute call system).redis.activeGeneration =
      if phase matches .activate then some call.generation
      else system.redis.activeGeneration := by
  cases phase with
  | lock =>
    unfold RebuildPhase.execute
    dsimp only
    split <;> rfl
  | project rows failed => cases rows <;> rfl
  | _ => rfl

theorem next_activate (goes : phase.next call redis = .activate) :
    call.createdKeys = [] ∧ phase = .lock ∨ redis.Complete call ∧ phase = .verify := by
  cases phase with
  | lock =>
    left
    unfold RebuildPhase.next at goes
    dsimp only at goes
    split at goes
    next =>
      split at goes
      next empty => exact ⟨by rw [RebuildCall.createdKeys, empty]; rfl, rfl⟩
      next => cases goes
    next => cases goes
  | project rows failed => exact absurd goes projectPhase_ne_activate
  | verify =>
    right
    unfold RebuildPhase.next at goes
    dsimp only at goes
    split at goes
    next all => exact ⟨complete_of_present all, rfl⟩
    next => exact absurd goes cleanUpPhase_ne_activate
  | readLock reply =>
    unfold RebuildPhase.next at goes
    dsimp only at goes
    split at goes <;> cases goes
  | _ => cases goes

theorem raised_ne_activate : phase.raised call ≠ .activate := by
  cases phase with
  | project rows failed => exact projectPhase_ne_activate
  | verify => exact cleanUpPhase_ne_activate
  | activate => exact cleanUpPhase_ne_activate
  | _ => exact nofun

theorem next_isCleanUp (cleans : (phase.next call redis).isCleanUp = true) :
    call.createdKeys ≠ [] := by
  cases phase with
  | lock =>
    unfold RebuildPhase.next at cleans
    dsimp only at cleans
    split at cleans
    next => split at cleans <;> cases cleans
    next => cases cleans
  | project rows failed => exact projectPhase_isCleanUp cleans
  | verify =>
    unfold RebuildPhase.next at cleans
    dsimp only at cleans
    split at cleans
    next => cases cleans
    next => exact cleanUpPhase_isCleanUp cleans
  | readLock reply =>
    unfold RebuildPhase.next at cleans
    dsimp only at cleans
    split at cleans <;> cases cleans
  | _ => cases cleans

theorem raised_isCleanUp (cleans : (phase.raised call).isCleanUp = true) :
    call.createdKeys ≠ [] := by
  cases phase with
  | project rows failed => exact projectPhase_isCleanUp cleans
  | verify => exact cleanUpPhase_isCleanUp cleans
  | activate => exact cleanUpPhase_isCleanUp cleans
  | _ => cases cleans

theorem next_switched (switched : phase.switched = true ∨ phase = .activate) :
    (phase.next call redis).switched = true := by
  cases phase with
  | ping | lock | project | verify => simp [RebuildPhase.switched] at switched
  | readLock reply =>
    unfold RebuildPhase.next
    dsimp only
    split <;> rfl
  | _ => rfl

theorem raised_switched (switched : phase.switched = true ∨ phase = .activate) :
    (phase.raised call).switched = true := by
  cases phase with
  | ping | lock | project | verify => simp [RebuildPhase.switched] at switched
  | activate => exact cleanUpPhase_switched
  | _ => rfl

theorem Projected.intact (projected : Projected system) : system.Intact := by
  intro generation active
  obtain ⟨rebuild, found, -, complete⟩ := projected.active generation active
  exact ⟨rebuild, found, complete⟩

theorem projected_empty : Projected {} where
  named := nofun
  ready := nofun
  cleans := nofun
  active := nofun

theorem Projected.start (projected : Projected system) (call : RebuildCall) :
    Projected (system.step (.start call)) := by
  have found : ∀ generation rebuild,
      (system.rebuilds.setDefault call.generation { call := call }).get? generation =
        some rebuild → system.rebuilds.get? generation = some rebuild ∨
          rebuild = { call := call } ∧ generation = call.generation := by
    intro generation rebuild there
    rw [Dictionary.get?_setDefault] at there
    split at there
    next same =>
      cases old : system.rebuilds.get? call.generation with
      | none =>
        rw [old] at there
        exact .inr ⟨(Option.some.inj there).symm, same⟩
      | some rebuild' =>
        rw [old] at there
        rw [same, old]
        exact .inl there
    next => exact .inl there
  refine ⟨fun generation rebuild there => ?_, fun generation rebuild there => ?_,
    fun generation rebuild there => ?_, fun generation active => ?_⟩
  · rcases found generation rebuild there with old | ⟨rfl, rfl⟩
    · exact projected.named generation rebuild old
    · rfl
  · rcases found generation rebuild there with old | ⟨rfl, rfl⟩
    · exact projected.ready generation rebuild old
    · intro complete
      cases complete
  · rcases found generation rebuild there with old | ⟨rfl, rfl⟩
    · exact projected.cleans generation rebuild old
    · intro cleaned
      cases cleaned
  · obtain ⟨rebuild, old, switched, complete⟩ := projected.active generation active
    refine ⟨rebuild, ?_, switched, complete⟩
    change (system.rebuilds.setDefault call.generation { call := call }).get? generation = _
    rw [Dictionary.get?_setDefault]
    split
    next same => rw [← same, old, Option.getD_some]
    next => exact old

def Rebuild.after (rebuild : Rebuild) (redis : RedisServer) (fate : Fate) : RebuildPhase :=
  if fate = .answered then rebuild.phase.next rebuild.call redis
  else rebuild.phase.raised rebuild.call

def Rebuild.left (rebuild : Rebuild) (system : ProjectionSystem) (fate : Fate) :
    ProjectionSystem :=
  if fate.executed then rebuild.phase.execute rebuild.call system else system

theorem command_redis : (system.command generation rebuild fate).redis =
    (rebuild.left system fate).redis := rfl

theorem get?_command {key : String} : (system.command generation rebuild fate).rebuilds.get? key =
    if key = generation then some { rebuild with phase := rebuild.after system.redis fate }
    else system.rebuilds.get? key :=
  Dictionary.get?_set

theorem left_get? (ne : key.1 ≠ rebuild.call.generation) :
    (rebuild.left system fate).redis.latest.get? key = system.redis.latest.get? key := by
  unfold Rebuild.left
  split
  next => exact execute_get? ne
  next => rfl

theorem left_latest (pure : rebuild.phase = .lock ∨ rebuild.phase = .verify ∨
      rebuild.phase = .activate ∨ rebuild.phase.switched = true ∧
        (rebuild.phase.isCleanUp = true → fate.executed = false)) :
    (rebuild.left system fate).redis.latest = system.redis.latest := by
  unfold Rebuild.left
  split
  next executed =>
    cases phase : rebuild.phase with
    | ping | project => simp [phase, RebuildPhase.switched] at pure
    | lock =>
      unfold RebuildPhase.execute
      dsimp only
      split <;> rfl
    | cleanUp guarded fault =>
      simp [phase, RebuildPhase.switched, RebuildPhase.isCleanUp, executed] at pure
    | _ => rfl
  next => rfl

theorem after_switched (switched : rebuild.phase.switched = true ∨ rebuild.phase = .activate) :
    (rebuild.after redis fate).switched = true := by
  unfold Rebuild.after
  split
  next => exact next_switched switched
  next => exact raised_switched switched

theorem Projected.command (projected : Projected system)
    (found : system.rebuilds.get? generation = some rebuild)
    (spares : ¬ system.DeletesActive (.command generation fate)) :
    Projected (system.command generation rebuild fate) := by
  have named := projected.named generation rebuild found
  have others : ∀ call : RebuildCall, call.generation ≠ generation →
      system.redis.Complete call → (rebuild.left system fate).redis.Complete call := by
    intro call ne complete
    refine complete.of_get? fun key member => left_get? ?_
    rw [generation_of_createdKey member, named]
    exact ne
  refine ⟨fun other rebuild' there => ?_, fun other rebuild' there ready => ?_,
    fun other rebuild' there cleans => ?_, fun other active => ?_⟩
  · rw [get?_command] at there
    split at there
    next same =>
      cases there
      exact named.trans same.symm
    next => exact projected.named other rebuild' there
  · rw [get?_command] at there
    rw [command_redis]
    split at there
    next same =>
      cases there
      unfold Rebuild.after at ready
      split at ready
      next =>
        rcases next_activate ready with ⟨empty, -⟩ | ⟨complete, verifies⟩
        · intro key member
          rw [empty] at member
          cases member
        · refine complete.of_get? fun key _ => ?_
          rw [left_latest (.inr (.inl verifies))]
      next => exact absurd ready raised_ne_activate
    next ne =>
      refine others rebuild'.call ?_ (projected.ready other rebuild' there ready)
      rwa [projected.named other rebuild' there]
  · rw [get?_command] at there
    split at there
    next same =>
      cases there
      unfold Rebuild.after at cleans
      split at cleans
      next => exact next_isCleanUp cleans
      next => exact raised_isCleanUp cleans
    next => exact projected.cleans other rebuild' there cleans
  · rw [command_redis] at active ⊢
    rw [get?_command]
    -- the pointer is as it was, or the command has switched it
    have moved : system.redis.activeGeneration = some other ∨
        rebuild.phase = .activate ∧ other = generation := by
      unfold Rebuild.left at active
      split at active
      next =>
        rw [execute_activeGeneration] at active
        split at active
        next activates => exact .inr ⟨activates, (Option.some.inj active).symm.trans named⟩
        next => exact .inl active
      next => exact .inl active
    by_cases same : other = generation
    · subst same
      rw [if_pos rfl]
      have switches : (rebuild.phase = .activate ∨ rebuild.phase.switched = true ∧
          (rebuild.phase.isCleanUp = true → fate.executed = false)) ∧
            system.redis.Complete rebuild.call := by
        rcases moved with active | ⟨activates, -⟩
        · obtain ⟨rebuild', there, switched, complete⟩ := projected.active other active
          rw [found] at there
          cases there
          refine ⟨.inr ⟨switched, fun cleans => ?_⟩, complete⟩
          by_contra executed
          refine spares ⟨by simpa using executed, active, ?_⟩
          rw [found]
          exact cleans
        · exact ⟨.inl activates, projected.ready other rebuild found activates⟩
      obtain ⟨pure, complete⟩ := switches
      refine ⟨_, rfl, after_switched (pure.symm.imp_left And.left), ?_⟩
      refine complete.of_get? fun key _ => ?_
      rw [left_latest (.inr (.inr pure))]
    · rw [if_neg same]
      have active := moved.resolve_right fun h => same h.2
      obtain ⟨rebuild', there, switched, complete⟩ := projected.active other active
      refine ⟨rebuild', there, switched, others rebuild'.call ?_ complete⟩
      rwa [projected.named other rebuild' there]

theorem Projected.step (projected : Projected system) (spares : ¬ system.DeletesActive event) :
    Projected (system.step event) := by
  cases event with
  | start call => exact projected.start call
  | command generation fate =>
    cases found : system.rebuilds.get? generation with
    | none =>
      rw [ProjectionSystem.step, found]
      exact projected
    | some rebuild =>
      rw [ProjectionSystem.step, found]
      exact projected.command found spares
  | lockExpires => exact { projected with }

theorem Projected.dangles (projected : Projected system) (deletes : system.DeletesActive event) :
    ¬ (system.step event).Intact := by
  cases event with
  | start call => exact deletes.elim
  | lockExpires => exact deletes.elim
  | command generation fate =>
    obtain ⟨executed, active, cleans⟩ := deletes
    obtain ⟨rebuild, found, cleans⟩ := (Option.any_eq_true _ _).mp cleans
    obtain ⟨key, member⟩ := List.exists_mem_of_ne_nil _ (projected.cleans generation rebuild found
      cleans)
    intro intact
    rw [ProjectionSystem.step, found] at intact
    have left : (rebuild.left system fate).redis =
        system.redis.delete rebuild.call.createdKeys := by
      unfold Rebuild.left
      rw [if_pos executed]
      cases phase : rebuild.phase with
      | cleanUp guarded fault => rfl
      | _ => simp [phase, RebuildPhase.isCleanUp] at cleans
    obtain ⟨rebuild', there, complete⟩ := intact generation (by
      rw [command_redis, left]
      exact active)
    rw [get?_command, if_pos rfl] at there
    cases there
    rw [command_redis, left] at complete
    have present := complete key member
    rw [delete_get? member] at present
    cases present

/-- The active generation has all its keys in every state of a run exactly when no clean-up of a
rebuild is executed while the pointer names its generation. -/
theorem intact_throughout_iff (events : List ProjectionEvent) :
    Throughout ProjectionSystem.step ProjectionSystem.Intact {} events ↔
      Meets ProjectionSystem.step (fun system event => ¬ system.DeletesActive event) {} events :=
  throughout_iff_meets (fun _ _ projected spares => projected.step spares)
    (fun _ projected => projected.intact)
    (fun _ _ projected deletes => projected.dangles (not_not.mp deletes)) projected_empty

def sampleMeasurement : Measurement where
  sampleId := "S-1"
  batchId := "B-1"
  source := .simulated
  sourceId := "turning-01"
  equipmentCode := "EQ-1"
  signalCode := "temperature"
  numericValue := some (numericValue 20)
  textValue := none
  unit := "C"
  quality := .good
  reason := .none
  mappingVersion := 1
  sequenceNo := 1
  sourceTimestamp := 0
  edgeReceivedAt := 0
  centralIngestedAt := 0
  simulationTime := none

def sampleRebuild : RebuildCall :=
  ⟨"G-1", "L-1", ⟨[(1, sampleMeasurement)], 1, 1⟩, "rebuild", "operator"⟩

def sampleLostSwitch : List ProjectionEvent :=
  [.start sampleRebuild, .command "G-1" .answered, .command "G-1" .answered,
    .command "G-1" .answered, .command "G-1" .answered, .command "G-1" .unanswered,
    .command "G-1" .answered]

theorem active_generation_dangles : ¬ ∀ events : List ProjectionEvent,
    Throughout ProjectionSystem.step ProjectionSystem.Intact {} events := by
  intro h
  have intact := (h sampleLostSwitch).last
  have active : (exec ProjectionSystem.step {} sampleLostSwitch).redis.activeGeneration =
      some "G-1" := by
    decide +kernel
  have calls : ((exec ProjectionSystem.step {} sampleLostSwitch).rebuilds.get? "G-1").map
      (·.call.createdKeys) = some [("G-1", "turning-01:temperature")] := by
    decide +kernel
  have absent : ((exec ProjectionSystem.step {} sampleLostSwitch).redis.latest.get?
      ("G-1", "turning-01:temperature")).isSome = false := by
    decide +kernel
  obtain ⟨rebuild, found, complete⟩ := intact "G-1" active
  rw [found] at calls
  have keys := Option.some.inj calls
  have present := complete ("G-1", "turning-01:temperature") (by simp [keys])
  rw [absent] at present
  cases present

end MiniOgas
