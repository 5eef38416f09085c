import MiniOgas.ProcessManager

namespace MiniOgas

open Steps

/-- The generation that the goroutine is inside `startOne` for. -/
def Goroutine.starts : Goroutine → Option Nat
  | .spawning generation _ | .failing generation _ | .recording generation _ => some generation
  | _ => none

/-- The goroutine is in a `Stop` that has taken what it waits for. -/
def Goroutine.stops : Goroutine → Bool
  | .waiting _ _ | .retiring _ => true
  | _ => false

def Launcher.monitor? : Launcher → Option (Nat × Option Nat)
  | .call => none
  | .restart generation exited => some (generation, exited)

def Goroutine.monitor? : Goroutine → Option (Nat × Option Nat)
  | .monitoring generation exited | .watching generation exited | .draining generation exited
  | .killing generation exited | .crashing generation exited | .sleeping generation exited =>
    some (generation, exited)
  | .launching launcher | .spawning _ launcher | .failing _ launcher | .recording _ launcher =>
    launcher.monitor?
  | _ => none

def Goroutine.channel : Goroutine → Option Nat
  | .closing exited => exited
  | goroutine => goroutine.monitor?.bind (·.2)

def Goroutine.left : Goroutine → Option Nat
  | .crashing _ exited | .sleeping _ exited | .closing exited => exited
  | .launching launcher | .spawning _ launcher | .failing _ launcher | .recording _ launcher =>
    launcher.monitor?.bind (·.2)
  | _ => none

/-- A `Stop` that is under way waits for the child. -/
def Goroutine.Awaits (generation : Nat) : Goroutine → Prop
  | .waiting exited _ => exited = generation
  | .retiring _ => False
  | _ => True

namespace ProcessSystem

/-- No goroutine is between the two lock sections of `startOne`. -/
def NotStarting (system : ProcessSystem) : Prop :=
  ∀ goroutine ∈ system.goroutines.values, goroutine.starts = none

def NotStopping (system : ProcessSystem) : Prop :=
  ∀ goroutine ∈ system.goroutines.values, goroutine.stops = false

/-- The goroutine may go on: no start overlaps another start, a child or a `Stop`, none follows a
`Stop` that it was not asked after, and no monitor gives its child up. -/
def MayGoOn (system : ProcessSystem) (outcome : StepOutcome) : Goroutine → Prop
  | .launching _ => system.alive = [] ∧ system.NotStarting ∧ system.NotStopping ∧
    system.stopReturned = false
  | .stopping _ | .stoppingAll => system.NotStarting
  | .draining generation _ => outcome = .timesOut → generation ∉ system.alive
  | .watching generation _ => outcome = .unhealthy →
    (system.generation = generation ∧ system.cancel ≠ none) ∨ generation ∉ system.alive
  | _ => True

def Orderly (system : ProcessSystem) : ProcessEvent → Prop
  | .run id outcome => ∀ goroutine ∈ system.goroutines.get? id, system.MayGoOn outcome goroutine
  | .call _ _ | .exit _ => True

def StaysStopped (system : ProcessSystem) : Prop := system.stopReturned = true → system.alive = []

/-- What holds while a goroutine is inside `startOne`. -/
structure Starting (generation : Nat) (alive closed : List Nat) (stopReturned : Bool)
    (goroutines : Dictionary GoroutineId Goroutine) (id : GoroutineId) (started : Nat) : Prop where
  current : generation = started
  only : ∀ child ∈ alive, child = started
  opened : started ∉ closed
  asked : stopReturned = false
  alone : ∀ other goroutine, goroutines.get? other = some goroutine →
    goroutine.stops = false ∧ goroutine.channel ≠ some started ∧
      (goroutine.starts ≠ none → other = id)

/-- Every child is known to its starter, or to the process and to every `Stop`. -/
structure TendedBy (generation : Nat) (exited : Option Nat) (alive shut : List Nat)
    (stopReturned : Bool) (goroutines : Dictionary GoroutineId Goroutine) : Prop where
  kept : ∀ child ∈ alive,
    (∃ id launcher, goroutines.get? id = some (.recording child launcher)) ∨
      exited = some child ∧ child ∉ shut ∧ stopReturned = false ∧
        ∀ id goroutine, goroutines.get? id = some goroutine → goroutine.Awaits child
  left : ∀ id goroutine, goroutines.get? id = some goroutine →
    ∀ child, goroutine.left = some child → child ∉ alive
  own : ∀ id goroutine, goroutines.get? id = some goroutine →
    ∀ generation exited, goroutine.monitor? = some (generation, exited) → exited = some generation
  opened : ∀ id goroutine, goroutines.get? id = some goroutine →
    ∀ channel, goroutine.channel = some channel → channel ≤ generation
  closed : ∀ channel ∈ shut, channel ≤ generation
  starting : ∀ id goroutine, goroutines.get? id = some goroutine →
    ∀ started, goroutine.starts = some started →
      Starting generation alive shut stopReturned goroutines id started

abbrev Tended (system : ProcessSystem) : Prop :=
  TendedBy system.generation system.exited system.alive system.closed system.stopReturned
    system.goroutines

section Laws

variable {probed : Bool} {system later : ProcessSystem} {id other : GoroutineId}
  {goroutine : Goroutine} {child generation : Nat} {exited : Option Nat} {launcher : Launcher}
  {restarts : Bool}

theorem staysStopped_of_tended (tended : Tended system) : StaysStopped system := by
  intro returned
  rw [List.eq_nil_iff_forall_not_mem]
  intro child member
  rcases tended.kept child member with ⟨id, launcher, found⟩ | ⟨-, -, asked, -⟩
  · have asked := (tended.starting id _ found child rfl).asked
    rw [returned] at asked
    cases asked
  · rw [returned] at asked
    cases asked

theorem awaits_of_stops (stops : goroutine.stops = false) : goroutine.Awaits child := by
  cases goroutine with
  | waiting => cases stops
  | retiring => cases stops
  | _ => trivial

theorem Tended.move (tended : Tended system) (next : Goroutine)
    (found : system.goroutines.get? id = some goroutine)
    (unrecorded : ∀ child launcher, goroutine ≠ .recording child launcher)
    (starts : next.starts = none ∨ next.starts = goroutine.starts)
    (stops : next.stops = false)
    (channel : ∀ c, next.channel = some c → goroutine.channel = some c)
    (left : ∀ c, next.left = some c → c ∉ system.alive)
    (own : ∀ g e, next.monitor? = some (g, e) → e = some g) : Tended (system.goTo id next) := by
  refine ⟨?_, Dictionary.forall_set left tended.left, Dictionary.forall_set own tended.own,
    Dictionary.forall_set (fun c has => tended.opened id goroutine found c (channel c has))
      tended.opened, tended.closed, fun other old there generation inside => ?_⟩
  · intro child member
    rcases tended.kept child member with ⟨keeper, launcher, there⟩ | ⟨here, opened, asked, each⟩
    · refine .inl ⟨keeper, launcher, Dictionary.get?_set_of_ne there ?_⟩
      rintro rfl
      rw [found] at there
      exact unrecorded child launcher (Option.some.inj there)
    · exact .inr ⟨here, opened, asked, Dictionary.forall_set (awaits_of_stops stops) each⟩
  · have before : ∃ was, system.goroutines.get? other = some was ∧
        was.starts = some generation := by
      rcases Dictionary.of_get?_set there with ⟨rfl, rfl⟩ | ⟨-, there⟩
      · rcases starts with none | kept
        · rw [none] at inside
          cases inside
        · exact ⟨goroutine, found, kept ▸ inside⟩
      · exact ⟨old, there, inside⟩
    obtain ⟨was, there, inside⟩ := before
    obtain ⟨current, only, opened, asked, alone⟩ :=
      tended.starting other was there generation inside
    obtain ⟨-, apart, sole⟩ := alone id goroutine found
    refine ⟨current, only, opened, asked, Dictionary.forall_set ⟨stops, fun has =>
      apart (channel generation has), fun starting => sole ?_⟩ alone⟩
    rcases starts with none | kept
    · exact absurd none starting
    · rwa [kept] at starting

theorem Tended.ended (tended : Tended system) (found : system.goroutines.get? id = some goroutine)
    (unrecorded : ∀ child launcher, goroutine ≠ .recording child launcher) :
    Tended (system.finish id) := by
  have less : ∀ {other : GoroutineId} {old : Goroutine},
      (system.goroutines.pop id).get? other = some old →
        system.goroutines.get? other = some old := fun there => (Dictionary.of_get?_pop there).2
  refine ⟨fun child member => ?_, fun other old there => tended.left other old (less there),
    fun other old there => tended.own other old (less there),
    fun other old there => tended.opened other old (less there), tended.closed,
    fun other old there generation inside => ?_⟩
  · rcases tended.kept child member with ⟨keeper, launcher, there⟩ | ⟨here, opened, asked, each⟩
    · refine .inl ⟨keeper, launcher, Dictionary.get?_pop_of_ne there ?_⟩
      rintro rfl
      rw [found] at there
      exact unrecorded child launcher (Option.some.inj there)
    · exact .inr ⟨here, opened, asked, fun other old there => each other old (less there)⟩
  · obtain ⟨current, only, opened, asked, alone⟩ :=
      tended.starting other old (less there) generation inside
    exact ⟨current, only, opened, asked, fun third old there => alone third old (less there)⟩

theorem Tended.returns (tended : Tended system)
    (found : system.goroutines.get? id = some goroutine)
    (unrecorded : ∀ child launcher, goroutine ≠ .recording child launcher)
    (monitor : goroutine.monitor? = launcher.monitor?)
    (left : goroutine.left = goroutine.monitor?.bind (·.2))
    (channel : goroutine.channel = goroutine.monitor?.bind (·.2)) :
    Tended (system.returnTo id launcher) := by
  cases launcher with
  | call => exact tended.ended found unrecorded
  | restart generation exited =>
    have whose : goroutine.monitor?.bind (·.2) = exited := by rw [monitor]; rfl
    refine tended.move (.closing exited) found unrecorded (.inl rfl) rfl ?_ ?_ nofun
    · intro c has
      rw [channel, whose]
      exact has
    · intro c gone
      refine tended.left id goroutine found c ?_
      rw [left, whose]
      exact gone

theorem Tended.exit (tended : Tended system) (generation : Nat) :
    Tended { system with alive := system.alive.filter (· ≠ generation) } := by
  have less : ∀ {child : Nat}, child ∈ system.alive.filter (· ≠ generation) →
      child ∈ system.alive := fun member => List.mem_of_mem_filter member
  refine ⟨fun child member => tended.kept child (less member), ?_, tended.own, tended.opened,
    tended.closed, ?_⟩
  · exact fun other old there child gone member => tended.left other old there child gone
      (less member)
  · intro other old there generation inside
    obtain ⟨current, only, opened, asked, alone⟩ :=
      tended.starting other old there generation inside
    exact ⟨current, fun child member => only child (less member), opened, asked, alone⟩

theorem Tended.call (tended : Tended system) {n : Nat} {operation : ManagerCall}
    (absent : system.goroutines.get? (.caller n) = none) :
    Tended ({ system with stopReturned := system.stopReturned && !operation.starts }.goTo
      (.caller n) operation.first) := by
  have quiet : operation.first.starts = none ∧ operation.first.stops = false ∧
      operation.first.channel = none ∧ operation.first.left = none ∧
        operation.first.monitor? = none := by
    cases operation <;> exact ⟨rfl, rfl, rfl, rfl, rfl⟩
  obtain ⟨starts, stops, channel, left, monitor⟩ := quiet
  refine ⟨?_, Dictionary.forall_set (by simp [left]) tended.left,
    Dictionary.forall_set (by simp [monitor]) tended.own,
    Dictionary.forall_set (by simp [channel]) tended.opened, tended.closed,
    Dictionary.forall_set (by simp [starts]) fun other old there generation inside => ?_⟩
  · intro child member
    rcases tended.kept child member with ⟨keeper, launcher, there⟩ | ⟨here, opened, asked, each⟩
    · refine .inl ⟨keeper, launcher, Dictionary.get?_set_of_ne there ?_⟩
      rintro rfl
      rw [absent] at there
      cases there
    · exact .inr ⟨here, opened, by simp [goTo, asked],
        Dictionary.forall_set (awaits_of_stops stops) each⟩
  · obtain ⟨current, only, opened, asked, alone⟩ :=
      tended.starting other old there generation inside
    exact ⟨current, only, opened, by simp [goTo, asked],
      Dictionary.forall_set (by simp [stops, channel, starts]) alone⟩

theorem NotStarting.starts (idle : system.NotStarting)
    (found : system.goroutines.get? id = some goroutine) : goroutine.starts = none :=
  idle goroutine (List.mem_map.mpr ⟨_, Dictionary.get?_eq_some_iff.mp found, rfl⟩)

theorem NotStopping.stops (quiet : system.NotStopping)
    (found : system.goroutines.get? id = some goroutine) : goroutine.stops = false :=
  quiet goroutine (List.mem_map.mpr ⟨_, Dictionary.get?_eq_some_iff.mp found, rfl⟩)

theorem notStarting_of_stops (tended : Tended system)
    (found : system.goroutines.get? id = some goroutine) (stops : goroutine.stops = true) :
    system.NotStarting := by
  intro old member
  obtain ⟨⟨other, old⟩, there, rfl⟩ := List.mem_map.mp member
  have there := Dictionary.get?_eq_some_iff.mpr there
  cases inside : old.starts with
  | none => rfl
  | some generation =>
    have quiet := ((tended.starting other old there generation inside).alone id goroutine found).1
    rw [stops] at quiet
    cases quiet

theorem Tended.retire (tended : Tended system) (idle : system.NotStarting)
    (state : ProcessState) : Tended (system.retire state) := by
  refine ⟨tended.kept, tended.left, tended.own, ?_, ?_, ?_⟩
  · exact fun other old there c has => Nat.le_succ_of_le (tended.opened other old there c has)
  · exact fun c member => Nat.le_succ_of_le (tended.closed c member)
  · intro other old there generation inside
    rw [idle.starts there] at inside
    cases inside

theorem Tended.stop (tended : Tended system) (idle : system.NotStarting) (next : Goroutine)
    (starts : next.starts = none) (monitor : next.monitor? = none) (channel : next.channel = none)
    (left : next.left = none)
    (awaits : ∀ child ∈ system.alive, system.exited = some child → child ∉ system.closed →
      (∀ id goroutine, system.goroutines.get? id = some goroutine → goroutine.Awaits child) →
      next.Awaits child) : Tended (system.goTo id next) := by
  refine ⟨?_, Dictionary.forall_set (by simp [left]) tended.left,
    Dictionary.forall_set (by simp [monitor]) tended.own,
    Dictionary.forall_set (by simp [channel]) tended.opened, tended.closed,
    Dictionary.forall_set (by simp [starts]) fun other old there generation inside => ?_⟩
  · intro child member
    rcases tended.kept child member with ⟨keeper, launcher, there⟩ | ⟨here, opened, asked, each⟩
    · cases idle.starts there
    · exact .inr ⟨here, opened, asked,
        Dictionary.forall_set (awaits child member here opened each) each⟩
  · rw [idle.starts there] at inside
    cases inside

theorem alive_of_retiring (tended : Tended system)
    (found : system.goroutines.get? id = some (.retiring restarts)) : system.alive = [] := by
  have idle := notStarting_of_stops tended found rfl
  rw [List.eq_nil_iff_forall_not_mem]
  intro child member
  rcases tended.kept child member with ⟨keeper, launcher, there⟩ | ⟨-, -, -, each⟩
  · cases idle.starts there
  · exact each id _ found

theorem Tended.stopped (tended : Tended system) (idle : system.NotStarting)
    (none : system.alive = []) (state : ProcessState) (exited : Option Nat) (returned : Bool) :
    Tended { system with state, exited, stopReturned := returned } := by
  refine { tended with kept := ?_, starting := ?_ }
  · intro child member
    rw [none] at member
    cases member
  · intro other old there generation inside
    rw [idle.starts there] at inside
    cases inside

theorem Tended.launch (tended : Tended system)
    (found : system.goroutines.get? id = some (.launching launcher))
    (none : system.alive = []) (idle : system.NotStarting) (quiet : system.NotStopping)
    (asked : system.stopReturned = false) :
    Tended ({ system with generation := system.generation + 1, state := .starting }.goTo id
      (.spawning (system.generation + 1) launcher)) := by
  refine ⟨?_, ?_, ?_, ?_, ?_, ?_⟩
  · intro child member
    rw [goTo, none] at member
    cases member
  · intro other old there child gone member
    rw [goTo, none] at member
    cases member
  · exact Dictionary.forall_set (fun g e has => tended.own id _ found g e has) tended.own
  · exact Dictionary.forall_set
      (fun c has => Nat.le_succ_of_le (tended.opened id _ found c has))
      fun other old there c has => Nat.le_succ_of_le (tended.opened other old there c has)
  · exact fun c member => Nat.le_succ_of_le (tended.closed c member)
  · intro other old there generation inside
    have sole : other = id ∧ generation = system.generation + 1 := by
      rcases Dictionary.of_get?_set there with ⟨same, rfl⟩ | ⟨-, there⟩
      · exact ⟨same, (Option.some.inj inside).symm⟩
      · rw [idle.starts there] at inside
        cases inside
    obtain ⟨rfl, rfl⟩ := sole
    refine ⟨rfl, ?_, ?_, asked, ?_⟩
    · intro child member
      rw [goTo, none] at member
      cases member
    · intro member
      have bound := tended.closed _ member
      omega
    · intro third old there
      rcases Dictionary.of_get?_set there with ⟨same, rfl⟩ | ⟨-, there⟩
      · refine ⟨rfl, fun has => ?_, fun _ => same⟩
        have bound := tended.opened other _ found _ has
        omega
      · refine ⟨quiet.stops there, fun has => ?_, fun still => ?_⟩
        · have bound := tended.opened third old there _ has
          omega
        · exact absurd (idle.starts there) still

theorem Tended.spawn (tended : Tended system)
    (found : system.goroutines.get? id = some (.spawning generation launcher)) :
    Tended ({ system with alive := generation :: system.alive }.goTo id
      (.recording generation launcher)) := by
  obtain ⟨current, only, opened, asked, alone⟩ := tended.starting id _ found generation rfl
  have sole : ∀ child ∈ generation :: system.alive, child = generation := by
    intro child member
    rcases List.mem_cons.mp member with same | there
    · exact same
    · exact only child there
  have absent : ∀ other goroutine, system.goroutines.get? other = some goroutine →
      ∀ child, goroutine.left = some child → child ∉ generation :: system.alive := by
    intro other goroutine there child gone member
    rcases List.mem_cons.mp member with rfl | still
    · refine (alone other goroutine there).2.1 ?_
      cases goroutine <;> first | exact gone | cases gone
    · exact tended.left other goroutine there child gone still
  have inner : Starting system.generation (generation :: system.alive) system.closed
      system.stopReturned (system.goroutines.set id (.recording generation launcher)) id
      generation :=
    ⟨current, sole, opened, asked, Dictionary.forall_set ⟨rfl, (alone id _ found).2⟩ alone⟩
  refine ⟨?_, Dictionary.forall_set (fun child gone => absent id _ found child gone) absent,
    Dictionary.forall_set (fun g e has => tended.own id _ found g e has) tended.own,
    Dictionary.forall_set (fun c has => tended.opened id _ found c has) tended.opened,
    tended.closed, Dictionary.forall_set (fun g inside => Option.some.inj inside ▸ inner)
      fun other goroutine there g inside => ?_⟩
  · intro child member
    refine .inl ⟨id, launcher, ?_⟩
    rw [goTo, Dictionary.get?_set, if_pos rfl, sole child member]
  · obtain rfl : other = id := (alone other goroutine there).2.2 (by simp [inside])
    rw [found] at there
    cases there
    exact Option.some.inj inside ▸ inner

/-- What `startOne` leaves when its generation is still the current one. -/
structure StartRecorded (system later : ProcessSystem) (id : GoroutineId) (child : Nat)
    (launcher : Launcher) : Prop where
  generation : later.generation = system.generation
  exited : later.exited = some child
  alive : later.alive = system.alive
  closed : later.closed = system.closed
  stopReturned : later.stopReturned = system.stopReturned
  goroutines : ∀ other goroutine, later.goroutines.get? other = some goroutine →
    goroutine = .monitoring child (some child) ∨
      (∃ g exited, launcher = .restart g exited ∧ goroutine = .closing exited) ∨
        other ≠ id ∧ system.goroutines.get? other = some goroutine

theorem record_returnTo (current : system.generation = generation) :
    StartRecorded system ((system.record generation).returnTo id launcher) id generation
      launcher := by
  have recorded : system.record generation =
      { system with state := .running, cancel := some generation, exited := some generation }.goTo
        (.monitor generation) (.monitoring generation (some generation)) := by
    unfold record
    simp [current]
  rw [recorded]
  cases launcher with
  | call =>
    refine ⟨rfl, rfl, rfl, rfl, rfl, fun other goroutine there => ?_⟩
    obtain ⟨ne, there⟩ := Dictionary.of_get?_pop there
    rcases Dictionary.of_get?_set there with ⟨-, rfl⟩ | ⟨-, there⟩
    · exact .inl rfl
    · exact .inr (.inr ⟨ne, there⟩)
  | restart g exited =>
    refine ⟨rfl, rfl, rfl, rfl, rfl, fun other goroutine there => ?_⟩
    rcases Dictionary.of_get?_set there with ⟨-, rfl⟩ | ⟨ne, there⟩
    · exact .inr (.inl ⟨g, exited, rfl, rfl⟩)
    · rcases Dictionary.of_get?_set there with ⟨-, rfl⟩ | ⟨-, there⟩
      · exact .inl rfl
      · exact .inr (.inr ⟨ne, there⟩)

theorem Tended.record (tended : Tended system)
    (found : system.goroutines.get? id = some (.recording generation launcher)) :
    Tended ((system.record generation).returnTo id launcher) := by
  obtain ⟨current, only, opened, asked, alone⟩ := tended.starting id _ found generation rfl
  have recorded := @record_returnTo system id generation launcher current
  have gone := tended.left id _ found
  have channels := tended.opened id _ found
  refine ⟨?_, ?_, ?_, ?_, ?_, ?_⟩
  · intro child member
    rw [recorded.alive] at member
    rw [recorded.exited, recorded.closed, recorded.stopReturned, only child member]
    refine .inr ⟨rfl, opened, asked, fun other goroutine there => ?_⟩
    rcases recorded.goroutines other goroutine there with rfl | ⟨g, exited, -, rfl⟩ | ⟨-, was⟩
    · trivial
    · trivial
    · exact awaits_of_stops (alone other goroutine was).1
  · intro other goroutine there child left
    rw [recorded.alive]
    rcases recorded.goroutines other goroutine there with rfl | ⟨g, exited, rfl, rfl⟩ | ⟨-, was⟩
    · cases left
    · exact gone child left
    · exact tended.left other goroutine was child left
  · intro other goroutine there g e has
    rcases recorded.goroutines other goroutine there with rfl | ⟨g', exited, -, rfl⟩ | ⟨-, was⟩
    · obtain ⟨rfl, rfl⟩ := Prod.mk.inj (Option.some.inj has)
      rfl
    · cases has
    · exact tended.own other goroutine was g e has
  · intro other goroutine there c has
    rw [recorded.generation]
    rcases recorded.goroutines other goroutine there with rfl | ⟨g, exited, rfl, rfl⟩ | ⟨-, was⟩
    · cases has
      exact Nat.le_of_eq current.symm
    · exact channels c has
    · exact tended.opened other goroutine was c has
  · rw [recorded.closed, recorded.generation]
    exact tended.closed
  · intro other goroutine there g inside
    rcases recorded.goroutines other goroutine there with rfl | ⟨g', exited, -, rfl⟩ | ⟨ne, was⟩
    · cases inside
    · cases inside
    · exact absurd ((alone other goroutine was).2.2 (by rw [inside]; simp)) ne

theorem Tended.close (tended : Tended system) {channel : Nat}
    (found : system.goroutines.get? id = some (.closing (some channel))) :
    Tended ({ system with closed := channel :: system.closed }.finish id) := by
  have gone := tended.left id _ found channel rfl
  have closed : Tended { system with closed := channel :: system.closed } := by
    refine ⟨fun child member => ?_, tended.left, tended.own, tended.opened, ?_,
      fun other goroutine there generation inside => ?_⟩
    · rcases tended.kept child member with kept | ⟨here, opened, asked, each⟩
      · exact .inl kept
      · refine .inr ⟨here, fun closed => ?_, asked, each⟩
        rcases List.mem_cons.mp closed with same | before
        · exact gone (same ▸ member)
        · exact opened before
    · exact List.forall_mem_cons.mpr ⟨tended.opened id _ found channel rfl, tended.closed⟩
    · obtain ⟨current, only, opened, asked, alone⟩ :=
        tended.starting other goroutine there generation inside
      refine ⟨current, only, fun closed => ?_, asked, alone⟩
      rcases List.mem_cons.mp closed with same | before
      · exact (alone id _ found).2.1 (by rw [same]; rfl)
      · exact opened before
  exact Tended.ended closed found nofun

theorem Tended.monitor (tended : Tended system) (next : Goroutine)
    (found : system.goroutines.get? id = some goroutine)
    (whose : goroutine.monitor? = some (generation, exited)) (starts : goroutine.starts = none)
    (channel : goroutine.channel = exited) (quiet : next.starts = none ∧ next.stops = false)
    (same : next.channel = exited)
    (monitor : next.monitor? = some (generation, exited) ∨ next.monitor? = none)
    (left : next.left = none ∨ next.left = exited ∧ generation ∉ system.alive) :
    Tended (system.goTo id next) := by
  have own := tended.own id goroutine found generation exited whose
  refine tended.move next found ?_ (.inl quiet.1) quiet.2 ?_ ?_ ?_
  · rintro child launcher rfl
    cases starts
  · intro c has
    rw [channel, ← same]
    exact has
  · intro c gone
    rcases left with none | ⟨here, ended⟩
    · rw [none] at gone
      cases gone
    · rw [here, own] at gone
      rw [← Option.some.inj gone]
      exact ended
  · intro g e has
    rcases monitor with kept | none
    · rw [kept] at has
      obtain ⟨rfl, rfl⟩ := Prod.mk.inj (Option.some.inj has)
      exact own
    · rw [none] at has
      cases has

abbrev Kept (system later : ProcessSystem) : Prop :=
  Tended later ∧ later.panicked = system.panicked

theorem returnTo_panicked : (later.returnTo id launcher).panicked = later.panicked := by
  cases launcher <;> rfl

theorem record_panicked : (system.record generation).panicked = system.panicked := by
  unfold record
  dsimp only [ProcessSystem.goTo]
  split <;> rfl

theorem ended_of_left (tended : Tended system)
    (found : system.goroutines.get? id = some goroutine)
    (whose : goroutine.monitor? = some (generation, exited)) (left : goroutine.left = exited) :
    generation ∉ system.alive := by
  have own := tended.own id goroutine found generation exited whose
  exact tended.left id goroutine found generation (left.trans own)

theorem kept_stopping (tended : Tended system) (idle : system.NotStarting) :
    Kept system ((system.retire .stopping).goTo id (match system.exited with
      | some exited => .waiting exited restarts
      | none => .retiring restarts)) := by
  have retired := tended.retire idle .stopping
  cases here : system.exited with
  | none =>
    refine ⟨Tended.stop retired idle _ rfl rfl rfl rfl fun child _ own _ _ => ?_, rfl⟩
    have none : system.exited = some child := own
    rw [here] at none
    cases none
  | some exited =>
    refine ⟨Tended.stop retired idle _ rfl rfl rfl rfl fun child _ own _ _ => ?_, rfl⟩
    have same : system.exited = some child := own
    rw [here] at same
    exact Option.some.inj same

theorem kept_waiting (tended : Tended system) {channel : Nat}
    (found : system.goroutines.get? id = some (.waiting channel restarts))
    (closed : channel ∈ system.closed) : Kept system (system.goTo id (.retiring restarts)) := by
  have idle := notStarting_of_stops tended found rfl
  refine ⟨tended.stop idle _ rfl rfl rfl rfl fun child _ _ opened each => ?_, rfl⟩
  have same : channel = child := each id _ found
  exact opened (same ▸ closed)

theorem kept_retiring (tended : Tended system)
    (found : system.goroutines.get? id = some (.retiring restarts)) :
    Kept system (if restarts then { system with
        state := .stopped, exited := none, stopReturned := !restarts }.goTo id .starting
      else { system with
        state := .stopped, exited := none, stopReturned := !restarts }.finish id) := by
  have stopped := tended.stopped (notStarting_of_stops tended found rfl)
    (alive_of_retiring tended found) .stopped none (!restarts)
  split
  next =>
    exact ⟨Tended.move stopped _ found (by simp) (.inl rfl) rfl nofun nofun nofun, rfl⟩
  next => exact ⟨Tended.ended stopped found (by simp), rfl⟩

theorem kept_unhealthy (tended : Tended system)
    (found : system.goroutines.get? id = some (.watching generation exited))
    (may : (system.generation = generation ∧ system.cancel ≠ none) ∨ generation ∉ system.alive) :
    Kept system (if system.generation = generation ∧ system.cancel ≠ none then
        { system with cancelled := system.cancel.toList ++ system.cancelled }.goTo id
          (.killing generation exited)
      else system.goTo id (.crashing generation exited)) := by
  split
  next =>
    exact ⟨tended.monitor _ found rfl rfl rfl ⟨rfl, rfl⟩ rfl (.inl rfl) (.inl rfl), rfl⟩
  next retired =>
    exact ⟨tended.monitor _ found rfl rfl rfl ⟨rfl, rfl⟩ rfl (.inl rfl)
      (.inr ⟨rfl, may.resolve_left retired⟩), rfl⟩

theorem kept_run (tended : Tended system) (outcome : StepOutcome)
    (found : system.goroutines.get? id = some goroutine)
    (may : system.MayGoOn outcome goroutine) :
    system.run probed id goroutine outcome = system.panics ∨
      Kept system (system.run probed id goroutine outcome) := by
  have stay : Kept system system := ⟨tended, rfl⟩
  unfold run
  split
  next =>
    refine .inr ⟨?_, by split <;> rfl⟩
    split
    next => exact tended.move _ found (by simp) (.inl rfl) rfl nofun nofun nofun
    next => exact tended.ended found (by simp)
  next => exact .inr ⟨tended.move _ found (by simp) (.inl rfl) rfl nofun nofun nofun, rfl⟩
  next => exact .inr ⟨tended.ended found (by simp), rfl⟩
  next restarts => exact .inr (kept_stopping tended may)
  next exited restarts =>
    refine .inr ?_
    split
    next closed => exact kept_waiting tended found closed
    next => exact stay
  next => exact .inr ⟨tended.ended found (by simp), rfl⟩
  next restarts => exact .inr (kept_retiring tended found)
  next => exact .inr ⟨Tended.ended (tended.retire may .stopped) found (by simp), rfl⟩
  next launcher =>
    obtain ⟨none, idle, quiet, asked⟩ := may
    exact .inr ⟨tended.launch found none idle quiet asked, rfl⟩
  next => exact .inr ⟨tended.spawn found, rfl⟩
  next generation launcher =>
    exact .inr ⟨tended.move _ found (by simp) (.inr rfl) rfl (fun c has => has)
      (fun c left => tended.left id _ found c left) (fun g e has => tended.own id _ found g e has),
      rfl⟩
  next generation launcher =>
    refine .inr ⟨?_, ?_⟩
    · split
      next =>
        have crashed : Tended { system with state := .crashed } := tended
        exact Tended.returns crashed found (by simp) rfl rfl rfl
      next => exact tended.returns found (by simp) rfl rfl rfl
    · rw [returnTo_panicked]
      split <;> rfl
  next generation launcher =>
    exact .inr ⟨tended.record found, by rw [returnTo_panicked, record_panicked]⟩
  next generation exited =>
    have moved := tended.monitor (.watching generation exited) found rfl rfl rfl ⟨rfl, rfl⟩ rfl
      (.inl rfl) (.inl rfl)
    refine .inr ?_
    split
    next => exact ⟨moved, rfl⟩
    next =>
      unfold markHealthy
      split
      next => exact ⟨moved, rfl⟩
      next => exact ⟨moved, rfl⟩
  next generation exited =>
    refine .inr ?_
    split
    next => exact stay
    next gone =>
      exact ⟨tended.monitor _ found rfl rfl rfl ⟨rfl, rfl⟩ rfl (.inl rfl) (.inr ⟨rfl, gone⟩), rfl⟩
  next generation exited =>
    refine .inr ?_
    split
    next =>
      exact ⟨tended.monitor _ found rfl rfl rfl ⟨rfl, rfl⟩ rfl (.inl rfl) (.inl rfl), rfl⟩
    next => exact stay
  next generation exited =>
    refine .inr ?_
    split
    next =>
      unfold markHealthy
      split
      next => exact stay
      next => exact stay
    next => exact stay
  next generation exited =>
    refine .inr ?_
    split
    next => exact stay
    next => exact kept_unhealthy tended found (may rfl)
  next generation exited =>
    refine .inr ?_
    split
    next => exact stay
    next gone =>
      exact ⟨tended.monitor _ found rfl rfl rfl ⟨rfl, rfl⟩ rfl (.inr rfl) (.inr ⟨rfl, gone⟩), rfl⟩
  next generation exited =>
    exact .inr ⟨tended.monitor _ found rfl rfl rfl ⟨rfl, rfl⟩ rfl (.inr rfl)
      (.inr ⟨rfl, may rfl⟩), rfl⟩
  next generation exited =>
    refine .inr ?_
    split
    next => exact stay
    next gone =>
      exact ⟨tended.monitor _ found rfl rfl rfl ⟨rfl, rfl⟩ rfl (.inl rfl) (.inr ⟨rfl, gone⟩), rfl⟩
  next generation exited =>
    have ended := ended_of_left tended found rfl rfl
    refine .inr ?_
    split
    next =>
      exact ⟨tended.monitor _ found rfl rfl rfl ⟨rfl, rfl⟩ rfl (.inr rfl) (.inr ⟨rfl, ended⟩), rfl⟩
    next =>
      exact ⟨tended.monitor _ found rfl rfl rfl ⟨rfl, rfl⟩ rfl (.inl rfl) (.inr ⟨rfl, ended⟩), rfl⟩
  next generation exited =>
    have ended := ended_of_left tended found rfl rfl
    refine .inr ?_
    split
    next =>
      exact ⟨tended.monitor _ found rfl rfl rfl ⟨rfl, rfl⟩ rfl (.inl rfl) (.inr ⟨rfl, ended⟩), rfl⟩
    next =>
      exact ⟨tended.monitor _ found rfl rfl rfl ⟨rfl, rfl⟩ rfl (.inr rfl) (.inr ⟨rfl, ended⟩), rfl⟩
  next => exact .inl rfl
  next exited =>
    split
    next => exact .inl rfl
    next => exact .inr ⟨tended.close found, rfl⟩
  next => exact .inr stay

structure Guarded (system : ProcessSystem) : Prop where
  stays : StaysStopped system
  ended : system.panicked = true → ∀ id, system.goroutines.get? id = none
  tended : system.panicked = false → Tended system

theorem guarded_of_tended (tended : Tended system) (calm : system.panicked = false) :
    Guarded system := by
  refine ⟨staysStopped_of_tended tended, fun ended => ?_, fun _ => tended⟩
  rw [calm] at ended
  cases ended

theorem guarded_step (guarded : Guarded system) {event : ProcessEvent}
    (orderly : system.Orderly event) : Guarded (system.step probed event) := by
  cases event with
  | call n operation =>
    unfold step
    dsimp only
    split
    next => exact guarded
    next free =>
      obtain ⟨calm, absent⟩ := not_or.mp free
      have calm : system.panicked = false := by simpa using calm
      have absent : system.goroutines.get? (.caller n) = none := by simpa using absent
      exact guarded_of_tended ((guarded.tended calm).call absent) calm
  | run id outcome =>
    unfold step
    dsimp only
    split
    next goroutine found =>
      have calm : system.panicked = false := by
        rw [← Bool.not_eq_true]
        intro ended
        rw [guarded.ended ended id] at found
        cases found
      rcases kept_run (guarded.tended calm) outcome found (orderly goroutine found) with
        same | ⟨tended, panicked⟩
      · rw [same]
        exact ⟨guarded.stays, fun _ _ => rfl, fun calm => by cases calm⟩
      · exact guarded_of_tended tended (panicked.trans calm)
    next => exact guarded
  | exit generation =>
    refine ⟨fun returned => ?_, guarded.ended, fun calm => (guarded.tended calm).exit generation⟩
    have none := guarded.stays returned
    unfold step
    dsimp only
    rw [none, List.filter_nil]

theorem guarded_empty : Guarded {} := by
  refine guarded_of_tended ⟨?_, ?_, ?_, ?_, ?_, ?_⟩ rfl
  · exact fun child member => absurd member List.not_mem_nil
  · exact nofun
  · exact nofun
  · exact nofun
  · exact fun channel member => absurd member List.not_mem_nil
  · exact nofun

/-- In an orderly run a process that has been stopped has no child until it is started again. -/
theorem stopped_stays_stopped (probed : Bool) {events : List ProcessEvent}
    (orderly : Meets (step probed) Orderly {} events) :
    Throughout (step probed) StaysStopped {} events := by
  have guarded : Throughout (step probed) Guarded {} events :=
    throughout_of_meets (fun _ _ guarded orderly => guarded_step guarded orderly) guarded_empty
      orderly
  exact guarded.mono fun _ guarded => guarded.stays

end Laws

instance decidableNotStarting (system : ProcessSystem) : Decidable system.NotStarting :=
  inferInstanceAs (Decidable (∀ goroutine ∈ system.goroutines.values, goroutine.starts = none))

instance decidableNotStopping (system : ProcessSystem) : Decidable system.NotStopping :=
  inferInstanceAs (Decidable (∀ goroutine ∈ system.goroutines.values, goroutine.stops = false))

instance decidableMayGoOn (system : ProcessSystem) (outcome : StepOutcome) :
    ∀ goroutine, Decidable (system.MayGoOn outcome goroutine)
  | .launching _ => inferInstanceAs (Decidable (system.alive = [] ∧ system.NotStarting ∧
      system.NotStopping ∧ system.stopReturned = false))
  | .stopping _ => decidableNotStarting system
  | .stoppingAll => decidableNotStarting system
  | .draining generation _ => inferInstanceAs (Decidable (outcome = .timesOut →
      generation ∉ system.alive))
  | .watching generation _ => inferInstanceAs (Decidable (outcome = .unhealthy →
      (system.generation = generation ∧ system.cancel ≠ none) ∨ generation ∉ system.alive))
  | .starting | .depending | .waiting _ _ | .retiring _ | .spawning _ _ | .failing _ _
  | .recording _ _ | .monitoring _ _ | .killing _ _ | .crashing _ _ | .sleeping _ _ | .closing _ =>
    inferInstanceAs (Decidable True)

instance decidableOrderly (system : ProcessSystem) : ∀ event, Decidable (system.Orderly event)
  | .run id outcome => inferInstanceAs (Decidable (∀ goroutine ∈ system.goroutines.get? id,
      system.MayGoOn outcome goroutine))
  | .call _ _ | .exit _ => inferInstanceAs (Decidable True)

def goesOn (id : GoroutineId) (n : Nat) : List ProcessEvent :=
  List.replicate n (.run id .proceeds)

def sampleCrash : List ProcessEvent :=
  .call 0 .start :: goesOn (.caller 0) 5 ++
    [.run (.monitor 1) .proceeds, .exit 1, .run (.monitor 1) .gone] ++ goesOn (.monitor 1) 2

/-- A `Stop` comes between the check of the sleeper and its restart. -/
def sampleLateRestart : List ProcessEvent :=
  sampleCrash ++ [.call 1 .stop, .run (.caller 1) .proceeds] ++ goesOn (.monitor 1) 4 ++
    goesOn (.caller 1) 2

/-- A child outlives a `Stop` that has returned nil: the restart that had slept makes it. -/
theorem late_restart_outlives_stop :
    (exec (step true) {} sampleLateRestart).stopReturned = true ∧
      (exec (step true) {} sampleLateRestart).alive = [3] ∧
      ¬ Throughout (step true) StaysStopped {} sampleLateRestart := by
  have returned : (exec (step true) {} sampleLateRestart).stopReturned = true := by
    decide +kernel
  have alive : (exec (step true) {} sampleLateRestart).alive = [3] := by decide +kernel
  refine ⟨returned, alive, fun holds => ?_⟩
  have none := holds.last returned
  rw [alive] at none
  cases none

/-- The `Stop` comes after the restart, and waits for the child. -/
def sampleStop : List ProcessEvent :=
  sampleCrash ++ goesOn (.monitor 1) 4 ++ [.call 1 .stop, .run (.caller 1) .proceeds,
    .run (.monitor 2) .proceeds, .run (.monitor 2) .cancelled, .exit 2,
    .run (.monitor 2) .gone] ++ goesOn (.monitor 2) 1 ++ goesOn (.caller 1) 2

theorem stopped_stays_stopped_after_restart :
    (exec (step true) {} sampleStop).stopReturned = true ∧
      Throughout (step true) StaysStopped {} sampleStop :=
  ⟨by decide +kernel, stopped_stays_stopped true (by decide +kernel)⟩

end ProcessSystem

end MiniOgas
