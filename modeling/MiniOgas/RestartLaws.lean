import MiniOgas.StopLaws

namespace MiniOgas

open Steps

def Goroutine.restarts : Goroutine → Option Nat
  | .sleeping generation _ | .launching (.restart generation _) => some generation
  | _ => none

namespace ProcessSystem

/-- A crashed process has a goroutine of its generation that is going to restart it. -/
def RestartPending (system : ProcessSystem) : Prop :=
  system.state = .crashed → ∃ id goroutine, system.goroutines.get? id = some goroutine ∧
    goroutine.restarts = some system.generation

/-- The step is not the failure of the start that the process waits for, and no panic while it is
crashed. -/
def KeepsTrying (system : ProcessSystem) (outcome : StepOutcome) : Goroutine → Prop
  | .failing generation _ => outcome = .proceeds → system.generation ≠ generation
  | .closing exited => outcome = .proceeds → (∀ channel ∈ exited, channel ∈ system.closed) →
    system.state ≠ .crashed
  | _ => True

def Persistent (system : ProcessSystem) : ProcessEvent → Prop
  | .run id outcome => ∀ goroutine ∈ system.goroutines.get? id,
    system.KeepsTrying outcome goroutine
  | .call _ _ | .exit _ => True

structure NumberedBy (generation : Nat) (goroutines : Dictionary GoroutineId Goroutine) :
    Prop where
  monitors : ∀ id goroutine, goroutines.get? id = some goroutine →
    ∀ child exited, goroutine.monitor? = some (child, exited) → id = .monitor child
  known : ∀ child goroutine, goroutines.get? (.monitor child) = some goroutine →
    child ≤ generation
  starters : ∀ id goroutine, goroutines.get? id = some goroutine →
    ∀ started, goroutine.starts = some started → started ≤ generation ∧
      goroutines.get? (.monitor started) = none ∧
        ∀ other old, goroutines.get? other = some old → old.starts = some started → other = id

abbrev Numbered (system : ProcessSystem) : Prop :=
  NumberedBy system.generation system.goroutines

section Restarts

variable {probed : Bool} {system later : ProcessSystem} {id : GoroutineId}
  {goroutine : Goroutine} {generation : Nat} {exited : Option Nat} {launcher : Launcher}

theorem numbered_of_none (none : ∀ id, system.goroutines.get? id = none) : Numbered system := by
  refine ⟨?_, ?_, ?_⟩
  all_goals
    intro _ goroutine found
    rw [none] at found
    cases found

theorem Numbered.sub (numbered : Numbered system)
    {goroutines : Dictionary GoroutineId Goroutine}
    (known : ∀ g old, goroutines.get? (.monitor g) = some old →
      ∃ was, system.goroutines.get? (.monitor g) = some was)
    (monitors : ∀ id old, goroutines.get? id = some old → ∀ monitor, old.monitor? = some monitor →
      ∃ was, system.goroutines.get? id = some was ∧ was.monitor? = some monitor)
    (starts : ∀ id old, goroutines.get? id = some old → ∀ g, old.starts = some g →
      ∃ was, system.goroutines.get? id = some was ∧ was.starts = some g) :
    NumberedBy system.generation goroutines := by
  refine ⟨fun id old there g e has => ?_, fun g old there => ?_, fun id old there g inside => ?_⟩
  · obtain ⟨was, there, has⟩ := monitors id old there _ has
    exact numbered.monitors id was there g e has
  · obtain ⟨was, there⟩ := known g old there
    exact numbered.known g was there
  · obtain ⟨was, there, inside⟩ := starts id old there g inside
    obtain ⟨bound, absent, sole⟩ := numbered.starters id was there g inside
    refine ⟨bound, ?_, fun other old there inside => ?_⟩
    · cases there : goroutines.get? (.monitor g) with
      | none => rfl
      | some old =>
        obtain ⟨was, there⟩ := known g old there
        rw [there] at absent
        cases absent
    · obtain ⟨was, there, inside⟩ := starts other old there g inside
      exact sole other was there inside

theorem Numbered.finish (numbered : Numbered system) : Numbered (system.finish id) := by
  have less : ∀ {other : GoroutineId} {old : Goroutine},
      (system.finish id).goroutines.get? other = some old →
        system.goroutines.get? other = some old := fun there => (Dictionary.of_get?_pop there).2
  exact numbered.sub (fun _ old there => ⟨old, less there⟩)
    (fun _ old there _ has => ⟨old, less there, has⟩)
    fun _ old there _ inside => ⟨old, less there, inside⟩

theorem Numbered.goTo (numbered : Numbered system) (next : Goroutine)
    (found : system.goroutines.get? id = some goroutine)
    (monitor : next.monitor? = goroutine.monitor? ∨ next.monitor? = none)
    (starts : next.starts = goroutine.starts ∨ next.starts = none) :
    Numbered (system.goTo id next) := by
  refine numbered.sub (fun g old there => ?_) (Dictionary.forall_set (fun m has => ?_)
    fun _ old there _ has => ⟨old, there, has⟩) (Dictionary.forall_set (fun g inside => ?_)
    fun _ old there _ inside => ⟨old, there, inside⟩)
  · rcases Dictionary.of_get?_set there with ⟨rfl, -⟩ | ⟨-, there⟩
    · exact ⟨goroutine, found⟩
    · exact ⟨old, there⟩
  · rcases monitor with kept | none
    · exact ⟨goroutine, found, kept ▸ has⟩
    · rw [none] at has
      cases has
  · rcases starts with kept | none
    · exact ⟨goroutine, found, kept ▸ inside⟩
    · rw [none] at inside
      cases inside

theorem Numbered.retire (numbered : Numbered system) (state : ProcessState) :
    Numbered (system.retire state) :=
  ⟨numbered.monitors, fun child old there => Nat.le_succ_of_le (numbered.known child old there),
    fun other old there started inside =>
      (numbered.starters other old there started inside).imp_left Nat.le_succ_of_le⟩

theorem Numbered.launch (numbered : Numbered system)
    (found : system.goroutines.get? id = some (.launching launcher)) :
    Numbered ({ system with generation := system.generation + 1, state := .starting }.goTo id
      (.spawning (system.generation + 1) launcher)) := by
  refine ⟨Dictionary.forall_set (fun g e has => numbered.monitors id _ found g e has)
    numbered.monitors, ?_, ?_⟩
  · intro g old there
    refine Nat.le_succ_of_le ?_
    rcases Dictionary.of_get?_set there with ⟨same, rfl⟩ | ⟨-, there⟩
    · exact numbered.known g _ (same ▸ found)
    · exact numbered.known g old there
  · intro other old there g inside
    rw [ProcessSystem.goTo, Dictionary.get?_set] at there
    have absent : ∀ g, g = system.generation + 1 → system.goroutines.get? (.monitor g) = none := by
      rintro g rfl
      cases there : system.goroutines.get? (.monitor (system.generation + 1)) with
      | none => rfl
      | some old =>
        have bound := numbered.known _ old there
        omega
    split at there
    next same =>
      rw [← Option.some.inj there] at inside
      have new : g = system.generation + 1 := (Option.some.inj inside).symm
      refine ⟨Nat.le_of_eq new, ?_, ?_⟩
      · rw [ProcessSystem.goTo, Dictionary.get?_set]
        split
        next own =>
          have gone := absent g new
          rw [own, found] at gone
          cases gone
        next => exact absent g new
      · intro third old there inside
        rcases Dictionary.of_get?_set there with ⟨own, rfl⟩ | ⟨-, there⟩
        · exact own.trans same.symm
        · have bound := (numbered.starters third old there g inside).1
          omega
    next =>
      obtain ⟨bound, gone, sole⟩ := numbered.starters other old there g inside
      refine ⟨Nat.le_succ_of_le bound, ?_, ?_⟩
      · rw [ProcessSystem.goTo, Dictionary.get?_set]
        split
        next own =>
          rw [own, found] at gone
          cases gone
        next => exact gone
      · intro third old there inside
        rcases Dictionary.of_get?_set there with ⟨-, rfl⟩ | ⟨-, there⟩
        · have new : g = system.generation + 1 := (Option.some.inj inside).symm
          omega
        · exact sole third old there inside

theorem get?_record_returnTo {other : GoroutineId} {old : Goroutine}
    (there : ((system.record generation).returnTo id launcher).goroutines.get? other = some old) :
    (other = id ∧ old.monitor? = none ∧ old.starts = none ∧ old.restarts = none) ∨
      (other = .monitor generation ∧ ∃ exited, old = .monitoring generation exited) ∨
        other ≠ id ∧ system.goroutines.get? other = some old := by
  have inner : ∀ {old : Goroutine},
      (system.record generation).goroutines.get? other = some old →
      (other = .monitor generation ∧ ∃ exited, old = .monitoring generation exited) ∨
        system.goroutines.get? other = some old := by
    intro old there
    unfold ProcessSystem.record at there
    rcases Dictionary.of_get?_set there with ⟨same, rfl⟩ | ⟨-, there⟩
    · exact .inl ⟨same, _, rfl⟩
    · refine .inr ?_
      split at there
      next => exact there
      next => exact there
  cases launcher with
  | call =>
    obtain ⟨ne, there⟩ := Dictionary.of_get?_pop there
    rcases inner there with new | kept
    · exact .inr (.inl new)
    · exact .inr (.inr ⟨ne, kept⟩)
  | restart g exited =>
    rcases Dictionary.of_get?_set there with ⟨same, rfl⟩ | ⟨ne, there⟩
    · exact .inl ⟨same, rfl, rfl, rfl⟩
    · rcases inner there with new | kept
      · exact .inr (.inl new)
      · exact .inr (.inr ⟨ne, kept⟩)

theorem record_returnTo_generation :
    ((system.record generation).returnTo id launcher).generation = system.generation := by
  have inner : (system.record generation).generation = system.generation := by
    unfold ProcessSystem.record
    dsimp only [ProcessSystem.goTo]
    split <;> rfl
  cases launcher with
  | call => exact inner
  | restart => exact inner

theorem Numbered.record (numbered : Numbered system)
    (found : system.goroutines.get? id = some (.recording generation launcher)) :
    Numbered ((system.record generation).returnTo id launcher) := by
  obtain ⟨bound, absent, sole⟩ := numbered.starters id _ found generation rfl
  refine ⟨?_, ?_, ?_⟩
  · intro other old there g e has
    rcases get?_record_returnTo there with ⟨-, none, -⟩ | ⟨rfl, exited, rfl⟩ | ⟨-, there⟩
    · rw [none] at has
      cases has
    · obtain ⟨rfl, -⟩ := Prod.mk.inj (Option.some.inj has)
      rfl
    · exact numbered.monitors other old there g e has
  · intro g old there
    rw [record_returnTo_generation]
    rcases get?_record_returnTo there with ⟨same, -⟩ | ⟨same, -⟩ | ⟨-, there⟩
    · exact numbered.known g _ (same ▸ found)
    · cases same
      exact bound
    · exact numbered.known g old there
  · intro other old there g inside
    rw [record_returnTo_generation]
    have inner : ∀ {other : GoroutineId} {old : Goroutine},
        ((system.record generation).returnTo id launcher).goroutines.get? other = some old →
        old.starts = some g → other ≠ id ∧ system.goroutines.get? other = some old := by
      intro other old there inside
      rcases get?_record_returnTo there with ⟨-, -, none, -⟩ | ⟨-, exited, rfl⟩ | kept
      · rw [none] at inside
        cases inside
      · cases inside
      · exact kept
    obtain ⟨ne, there⟩ := inner there inside
    obtain ⟨least, gone, only⟩ := numbered.starters other old there g inside
    have differs : g ≠ generation := fun same => ne (sole other old there (same ▸ inside))
    refine ⟨least, ?_, fun third old there inside => ?_⟩
    · cases later : ((system.record generation).returnTo id launcher).goroutines.get?
          (.monitor g) with
      | none => rfl
      | some old =>
        rcases get?_record_returnTo later with ⟨same, -⟩ | ⟨same, -⟩ | ⟨-, there⟩
        · rw [same, found] at gone
          cases gone
        · cases same
          exact absurd rfl differs
        · rw [there] at gone
          cases gone
    · exact only third old (inner there inside).2 inside

theorem Numbered.returnTo (numbered : Numbered system)
    (found : system.goroutines.get? id = some goroutine) :
    Numbered (system.returnTo id launcher) := by
  cases launcher with
  | call => exact numbered.finish
  | restart => exact numbered.goTo _ found (.inr rfl) (.inr rfl)

theorem numbered_run (numbered : Numbered system) (outcome : StepOutcome)
    (found : system.goroutines.get? id = some goroutine) :
    Numbered (system.run probed id goroutine outcome) := by
  unfold run
  split
  next =>
    split
    next => exact numbered.goTo _ found (.inr rfl) (.inr rfl)
    next => exact numbered.finish
  next => exact numbered.goTo _ found (.inr rfl) (.inr rfl)
  next => exact numbered.finish
  next restarts =>
    split
    next => exact Numbered.goTo (numbered.retire _) _ found (.inr rfl) (.inr rfl)
    next => exact Numbered.goTo (numbered.retire _) _ found (.inr rfl) (.inr rfl)
  next =>
    split
    next => exact numbered.goTo _ found (.inr rfl) (.inr rfl)
    next => exact numbered
  next => exact numbered.finish
  next restarts =>
    split
    next => exact numbered.goTo _ found (.inr rfl) (.inr rfl)
    next => exact numbered.finish
  next => exact Numbered.finish (numbered.retire _)
  next => exact numbered.launch found
  next => exact numbered.goTo _ found (.inl rfl) (.inl rfl)
  next => exact numbered.goTo _ found (.inl rfl) (.inl rfl)
  next =>
    split
    next =>
      have crashed : Numbered { system with state := .crashed } := numbered
      exact Numbered.returnTo crashed found
    next => exact numbered.returnTo found
  next => exact numbered.record found
  next generation exited =>
    have moved := numbered.goTo (.watching generation exited) found (.inl rfl) (.inl rfl)
    split
    next => exact moved
    next =>
      unfold markHealthy
      split
      next => exact moved
      next => exact moved
  next =>
    split
    next => exact numbered
    next => exact numbered.goTo _ found (.inl rfl) (.inl rfl)
  next =>
    split
    next => exact numbered.goTo _ found (.inl rfl) (.inl rfl)
    next => exact numbered
  next =>
    unfold markHealthy
    split
    next =>
      split
      next => exact numbered
      next => exact numbered
    next => exact numbered
  next =>
    split
    next => exact numbered
    next =>
      split
      next => exact numbered.goTo _ found (.inl rfl) (.inl rfl)
      next => exact numbered.goTo _ found (.inl rfl) (.inl rfl)
  next =>
    split
    next => exact numbered
    next => exact numbered.goTo _ found (.inr rfl) (.inl rfl)
  next => exact numbered.goTo _ found (.inr rfl) (.inl rfl)
  next =>
    split
    next => exact numbered
    next => exact numbered.goTo _ found (.inl rfl) (.inl rfl)
  next =>
    split
    next => exact numbered.goTo _ found (.inr rfl) (.inl rfl)
    next => exact numbered.goTo _ found (.inl rfl) (.inl rfl)
  next =>
    split
    next => exact numbered.goTo _ found (.inl rfl) (.inl rfl)
    next => exact numbered.goTo _ found (.inr rfl) (.inl rfl)
  next => exact numbered_of_none fun _ => rfl
  next =>
    split
    next => exact numbered_of_none fun _ => rfl
    next => exact numbered.finish
  next => exact numbered

theorem pending_of_state (other : later.state ≠ .crashed) : RestartPending later :=
  fun crashed => absurd crashed other

theorem RestartPending.spawn (pending : RestartPending system) (next : Goroutine)
    (absent : system.goroutines.get? id = none) : RestartPending (system.goTo id next) := by
  intro crashed
  obtain ⟨other, old, there, again⟩ := pending crashed
  refine ⟨other, old, Dictionary.get?_set_of_ne there ?_, again⟩
  rintro rfl
  rw [absent] at there
  cases there

theorem RestartPending.goTo (pending : RestartPending system) (next : Goroutine)
    (found : system.goroutines.get? id = some goroutine)
    (restarts : goroutine.restarts = none ∨ next.restarts = goroutine.restarts) :
    RestartPending (system.goTo id next) := by
  intro crashed
  obtain ⟨other, old, there, again⟩ := pending crashed
  by_cases same : other = id
  · rw [same, found] at there
    rcases restarts with none | kept
    · rw [← Option.some.inj there, none] at again
      cases again
    · refine ⟨id, next, ?_, ?_⟩
      · rw [ProcessSystem.goTo, Dictionary.get?_set, if_pos rfl]
      · rw [kept, Option.some.inj there, again]
        rfl
  · exact ⟨other, old, Dictionary.get?_set_of_ne there same, again⟩

theorem RestartPending.finish (pending : RestartPending system)
    (found : system.goroutines.get? id = some goroutine) (restarts : goroutine.restarts = none) :
    RestartPending (system.finish id) := by
  intro crashed
  obtain ⟨other, old, there, again⟩ := pending crashed
  refine ⟨other, old, Dictionary.get?_pop_of_ne there ?_, again⟩
  rintro rfl
  rw [found] at there
  rw [← Option.some.inj there, restarts] at again
  cases again

theorem RestartPending.returnTo (pending : RestartPending system)
    (found : system.goroutines.get? id = some goroutine) (restarts : goroutine.restarts = none) :
    RestartPending (system.returnTo id launcher) := by
  cases launcher with
  | call => exact pending.finish found restarts
  | restart => exact pending.goTo _ found (.inl restarts)

theorem RestartPending.markHealthy (pending : RestartPending system) :
    RestartPending (system.markHealthy generation) := by
  unfold ProcessSystem.markHealthy
  split
  next => exact pending
  next => exact pending_of_state (by simp)

theorem RestartPending.record (pending : RestartPending system) (numbered : Numbered system)
    (found : system.goroutines.get? id = some (.recording generation launcher)) :
    RestartPending ((system.record generation).returnTo id launcher) := by
  obtain ⟨-, absent, -⟩ := numbered.starters id _ found generation rfl
  by_cases current : system.generation = generation
  · refine pending_of_state ?_
    have running : (system.record generation).state = .running := by
      unfold ProcessSystem.record
      simp [ProcessSystem.goTo, current]
    cases launcher with
    | call =>
      rw [ProcessSystem.returnTo, ProcessSystem.finish, running]
      simp
    | restart =>
      rw [ProcessSystem.returnTo, ProcessSystem.goTo, running]
      simp
  · have recorded : system.record generation =
        system.goTo (.monitor generation) (.monitoring generation system.exited) := by
      unfold ProcessSystem.record
      simp [current]
    rw [recorded]
    have inner := pending.spawn (.monitoring generation system.exited) absent
    refine @RestartPending.returnTo _ id (.recording generation launcher) launcher inner ?_ rfl
    refine Dictionary.get?_set_of_ne found ?_
    rintro rfl
    rw [absent] at found
    cases found

theorem pending_crashing (pending : RestartPending system)
    (found : system.goroutines.get? id = some (.crashing generation exited)) :
    RestartPending (if system.generation ≠ generation ∨ system.state = .stopped then
        system.goTo id (.closing exited)
      else
        { system with state := .crashed, crashCount := system.crashCount + 1 }.goTo id
          (.sleeping generation exited)) := by
  split
  next => exact pending.goTo _ found (.inl rfl)
  next current =>
    have same : system.generation = generation := by
      by_contra ne
      exact current (.inl ne)
    intro _
    refine ⟨id, .sleeping generation exited, ?_, ?_⟩
    · rw [ProcessSystem.goTo, Dictionary.get?_set, if_pos rfl]
    · rw [Goroutine.restarts, ProcessSystem.goTo, same]

theorem pending_sleeping (pending : RestartPending system)
    (found : system.goroutines.get? id = some (.sleeping generation exited)) :
    RestartPending (if system.generation = generation ∧ system.state = .crashed then
        system.goTo id (.launching (.restart generation exited))
      else system.goTo id (.closing exited)) := by
  split
  next => exact pending.goTo _ found (.inr rfl)
  next retired =>
    intro crashed
    obtain ⟨other, old, there, again⟩ := pending crashed
    refine ⟨other, old, Dictionary.get?_set_of_ne there ?_, again⟩
    rintro rfl
    rw [found] at there
    rw [← Option.some.inj there] at again
    exact retired ⟨(Option.some.inj again).symm, crashed⟩

theorem pending_run (pending : RestartPending system) (numbered : Numbered system)
    (outcome : StepOutcome) (found : system.goroutines.get? id = some goroutine)
    (trying : system.KeepsTrying outcome goroutine) :
    RestartPending (system.run probed id goroutine outcome) := by
  have kept : ∀ {next : Goroutine}, goroutine.restarts = none →
      RestartPending (system.goTo id next) :=
    fun quiet => pending.goTo _ found (.inl quiet)
  have ended : goroutine.restarts = none → RestartPending (system.finish id) :=
    fun quiet => pending.finish found quiet
  unfold run
  split
  next =>
    split
    next => exact kept rfl
    next => exact ended rfl
  next => exact kept rfl
  next => exact ended rfl
  next => exact pending_of_state (by simp [ProcessSystem.goTo, ProcessSystem.retire])
  next =>
    split
    next => exact kept rfl
    next => exact pending
  next => exact ended rfl
  next restarts =>
    split
    next => exact pending_of_state (by simp [ProcessSystem.goTo])
    next => exact pending_of_state (by simp [ProcessSystem.finish])
  next => exact pending_of_state (by simp [ProcessSystem.finish, ProcessSystem.retire])
  next => exact pending_of_state (by simp [ProcessSystem.goTo])
  next => exact pending.goTo _ found (.inl rfl)
  next => exact pending.goTo _ found (.inl rfl)
  next generation launcher =>
    rw [if_neg (trying rfl)]
    exact pending.returnTo found rfl
  next => exact pending.record numbered found
  next =>
    split
    next => exact kept rfl
    next =>
      unfold markHealthy
      split
      next => exact kept rfl
      next => exact pending_of_state (by simp [ProcessSystem.goTo])
  next =>
    split
    next => exact pending
    next => exact kept rfl
  next =>
    split
    next => exact kept rfl
    next => exact pending
  next =>
    split
    next => exact pending.markHealthy
    next => exact pending
  next =>
    split
    next => exact pending
    next =>
      split
      next => exact pending.goTo _ found (.inl rfl)
      next => exact kept rfl
  next =>
    split
    next => exact pending
    next => exact kept rfl
  next => exact kept rfl
  next =>
    split
    next => exact pending
    next => exact kept rfl
  next => exact pending_crashing pending found
  next => exact pending_sleeping pending found
  next =>
    refine pending_of_state (trying rfl fun channel member => ?_)
    cases member
  next exited =>
    split
    next closed =>
      refine pending_of_state (trying rfl fun channel member => ?_)
      cases member
      exact closed
    next => exact pending.finish found rfl
  next => exact pending

theorem get?_returnTo {other : GoroutineId} {old : Goroutine}
    (there : (later.returnTo id launcher).goroutines.get? other = some old) :
    old.restarts = none ∨ other ≠ id ∧ later.goroutines.get? other = some old := by
  cases launcher with
  | call =>
    obtain ⟨ne, there⟩ := Dictionary.of_get?_pop there
    exact .inr ⟨ne, there⟩
  | restart g exited =>
    rcases Dictionary.of_get?_set there with ⟨-, rfl⟩ | ⟨ne, there⟩
    · exact .inl rfl
    · exact .inr ⟨ne, there⟩

theorem monitor_of_restarts (again : goroutine.restarts = some generation) :
    ∃ exited, goroutine.monitor? = some (generation, exited) := by
  unfold Goroutine.restarts at again
  split at again
  next g exited =>
    cases again
    exact ⟨exited, rfl⟩
  next g exited =>
    cases again
    exact ⟨exited, rfl⟩
  next => cases again

theorem not_pending_of_failing (numbered : Numbered system)
    (found : system.goroutines.get? id = some (.failing generation launcher))
    (current : system.generation = generation) :
    ¬ RestartPending (system.run probed id (.failing generation launcher) .proceeds) := by
  intro pending
  obtain ⟨-, absent, -⟩ := numbered.starters id _ found generation rfl
  unfold run at pending
  dsimp only at pending
  rw [if_pos current] at pending
  have crashed : ({ system with state := .crashed }.returnTo id launcher).state = .crashed := by
    cases launcher <;> rfl
  have same : ({ system with state := .crashed }.returnTo id launcher).generation =
      system.generation := by
    cases launcher <;> rfl
  obtain ⟨other, old, there, again⟩ := pending crashed
  rw [same, current] at again
  rcases get?_returnTo there with none | ⟨-, there⟩
  · rw [none] at again
    cases again
  · obtain ⟨exited, whose⟩ := monitor_of_restarts again
    have named := numbered.monitors other old there generation exited whose
    rw [named] at there
    have gone : system.goroutines.get? (.monitor generation) = some old := there
    rw [absent] at gone
    cases gone

theorem not_pending_of_panics (crashed : system.state = .crashed) :
    ¬ RestartPending system.panics := by
  intro pending
  obtain ⟨id, old, there, -⟩ := pending crashed
  cases there

theorem not_pending_of_not_persistent (numbered : Numbered system) {event : ProcessEvent}
    (gives : ¬ system.Persistent event) : ¬ RestartPending (system.step probed event) := by
  cases event with
  | call n operation => exact absurd trivial gives
  | exit generation => exact absurd trivial gives
  | run id outcome =>
    simp only [Persistent, not_forall] at gives
    obtain ⟨goroutine, there, gives⟩ := gives
    have found : system.goroutines.get? id = some goroutine := there
    clear there
    have stepped : system.step probed (.run id outcome) =
        system.run probed id goroutine outcome := by
      unfold step
      dsimp only
      rw [found]
    rw [stepped]
    unfold KeepsTrying at gives
    split at gives
    next generation launcher =>
      simp only [ne_eq, not_forall, not_not] at gives
      obtain ⟨rfl, current⟩ := gives
      exact not_pending_of_failing numbered found current
    next exited =>
      simp only [ne_eq, not_forall, not_not] at gives
      obtain ⟨rfl, closed, crashed⟩ := gives
      unfold run
      cases exited with
      | none => exact not_pending_of_panics crashed
      | some channel =>
        dsimp only
        rw [if_pos (closed channel rfl)]
        exact not_pending_of_panics crashed
    next => exact absurd trivial gives

theorem Numbered.call (numbered : Numbered system) (n : Nat) (operation : ManagerCall) :
    Numbered (system.goTo (.caller n) operation.first) := by
  have quiet : operation.first.starts = none ∧ operation.first.monitor? = none := by
    cases operation <;> exact ⟨rfl, rfl⟩
  refine numbered.sub (fun g old there => ?_) (Dictionary.forall_set (by simp [quiet.2])
    fun _ old there _ has => ⟨old, there, has⟩) (Dictionary.forall_set (by simp [quiet.1])
    fun _ old there _ inside => ⟨old, there, inside⟩)
  rcases Dictionary.of_get?_set there with ⟨same, -⟩ | ⟨-, there⟩
  · cases same
  · exact ⟨old, there⟩

theorem numbered_step (numbered : Numbered system) (event : ProcessEvent) :
    Numbered (system.step probed event) := by
  cases event with
  | call n operation =>
    unfold step
    dsimp only
    split
    next => exact numbered
    next free => exact numbered.call n operation
  | run id outcome =>
    unfold step
    dsimp only
    split
    next goroutine found => exact numbered_run numbered outcome found
    next => exact numbered
  | exit generation => exact numbered

theorem pending_step (pending : RestartPending system) (numbered : Numbered system)
    {event : ProcessEvent} (persistent : system.Persistent event) :
    RestartPending (system.step probed event) := by
  cases event with
  | call n operation =>
    unfold step
    dsimp only
    split
    next => exact pending
    next free =>
      have absent : system.goroutines.get? (.caller n) = none := by
        simpa using (not_or.mp free).2
      exact pending.spawn _ absent
  | run id outcome =>
    unfold step
    dsimp only
    split
    next goroutine found =>
      exact pending_run pending numbered outcome found (persistent goroutine found)
    next => exact pending
  | exit generation => exact pending

/-- The runs in which a crashed process always has its restart pending are those in which no
current start fails, and in which the supervisor does not panic while the process is crashed. -/
theorem restart_pending_iff (probed : Bool) (events : List ProcessEvent) :
    Throughout (step probed) RestartPending {} events ↔
      Meets (step probed) Persistent {} events := by
  refine @throughout_iff_meets _ _ (step probed) RestartPending
    (fun system => Numbered system ∧ RestartPending system) Persistent _ events ?_ ?_ ?_
    ⟨numbered_of_none fun _ => rfl, fun crashed => by cases crashed⟩
  · rintro system event ⟨numbered, pending⟩ persistent
    exact ⟨numbered_step numbered event, pending_step pending numbered persistent⟩
  · exact fun system kept => kept.2
  · rintro system event ⟨numbered, -⟩ gives
    exact not_pending_of_not_persistent numbered gives

end Restarts

def sampleFailedRestart : List ProcessEvent :=
  sampleCrash ++ [.run (.monitor 1) .proceeds, .run (.monitor 1) .fails] ++
    goesOn (.monitor 1) 2

/-- The process stays crashed, and no goroutine is left. -/
theorem failed_restart_abandoned :
    (exec (step true) {} sampleFailedRestart).state = .crashed ∧
      (exec (step true) {} sampleFailedRestart).goroutines.items = [] ∧
      ¬ Throughout (step true) RestartPending {} sampleFailedRestart := by
  have crashed : (exec (step true) {} sampleFailedRestart).state = .crashed := by decide +kernel
  have none : (exec (step true) {} sampleFailedRestart).goroutines.items = [] := by
    decide +kernel
  refine ⟨crashed, none, fun holds => ?_⟩
  obtain ⟨id, goroutine, there, -⟩ := holds.last crashed
  rw [Dictionary.get?_eq_some_iff, none] at there
  cases there

end ProcessSystem

end MiniOgas
