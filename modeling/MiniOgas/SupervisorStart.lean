import MiniOgas.Digraph
import MiniOgas.Serial
import Mathlib.Data.List.Nodup
import Mathlib.Data.List.Perm.Subperm

namespace MiniOgas

open Serial Digraph

structure HealthCheckConfig where
  type : String
  endpoint : String
  interval : Int
  timeout : Int
  retries : Int

/-- The fields of a `ProcessSpec` that `validate` and `StartAll` read. -/
structure ProcessSpec where
  name : String
  command : String
  dependsOn : List String
  health : HealthCheckConfig

section Validate

variable (quote : String → String)

/-- A round of the first loop of `validate`; `quote` is the verb `%q`. -/
def validateProcess (known : List String) (process : ProcessSpec) :
    Except String (List String) := do
  check (process.name ≠ "") "process name is required"
  check (process.command ≠ "") s!"process {quote process.name} command is required"
  check (process.name ∉ known) s!"duplicate process name {quote process.name}"
  check (process.health.type = "http" ∨ process.health.type = "http-status" ∨
      process.health.type = "process")
    s!"process {quote process.name} has unsupported health type {quote process.health.type}"
  check (¬((process.health.type = "http" ∨ process.health.type = "http-status") ∧
      process.health.endpoint = ""))
    s!"process {quote process.name} HTTP health check requires an endpoint"
  check (0 < process.health.interval ∧ 0 < process.health.timeout ∧ 0 < process.health.retries)
    s!"process {quote process.name} health interval, timeout, and retries must be positive"
  return known ++ [process.name]

def validateDependency (known : List String) (process : ProcessSpec) (dependency : String) :
    Except String Unit :=
  check (dependency ∈ known)
    s!"process {quote process.name} depends on unknown process {quote dependency}"

/-- `validate`. -/
def validateConfig (processes : List ProcessSpec) : Except String Unit := do
  let known ← processes.foldlM (validateProcess quote) []
  processes.forM fun process => process.dependsOn.forM (validateDependency quote known process)

end Validate

/-- What `StartAll` sees of a dependency, and what it launches. -/
inductive StartEvent where
  | observed (dependency : String) (healthy : Bool)
  | launched (name : String) (error : Option String)

structure StartState where
  started : List String := []
  waited : Nat := 0
  trace : List StartEvent := []

inductive StartFault where
  | healthTimeout (remain : Nat)
  | deadlock (remain : Nat)
  | start (name error : String)

/-- What a run of `StartAll` meets, whatever has happened so far: the order in which a loop goes
through the processes, the health that it sees of a dependency of a process before it looks at
the rest of them, what `startOne` returns, and how often it can wait before its deadline. -/
structure StartEnv where
  order : StartState → List ProcessSpec → List ProcessSpec
  order_perm : ∀ state processes, (order state processes).Perm processes
  healthy : StartState → String → List String → String → Bool
  startOne : StartState → String → Option String
  limit : Nat

structure DependencyScan where
  met : Bool
  waiting : Bool
  seen : List StartEvent

def scanDependencies (started : List String) (healthy : List String → String → Bool) :
    List String → DependencyScan
  | [] => ⟨true, false, []⟩
  | dependency :: dependencies =>
    let seen := .observed dependency (healthy dependencies dependency)
    if dependency ∈ started ∧ healthy dependencies dependency = true then
      let rest := scanDependencies started healthy dependencies
      { rest with seen := seen :: rest.seen }
    else ⟨false, dependency ∈ started, [seen]⟩

structure ProcessScan where
  ready : List String
  waiting : Bool
  seen : List StartEvent

def scanProcesses (started : List String) (healthy : String → List String → String → Bool) :
    List ProcessSpec → ProcessScan
  | [] => ⟨[], false, []⟩
  | process :: processes =>
    let rest := scanProcesses started healthy processes
    if process.name ∈ started then rest
    else
      let own := scanDependencies started (healthy process.name) process.dependsOn
      ⟨if own.met then process.name :: rest.ready else rest.ready, own.waiting || rest.waiting,
        own.seen ++ rest.seen⟩

section Start

variable (env : StartEnv) (processes : List ProcessSpec)

def launchReady : List String → StartState → StartState × Option (Except StartFault Unit)
  | [], state => (state, none)
  | name :: names, state =>
    let error := env.startOne state name
    let tried := { state with trace := state.trace ++ [.launched name error] }
    match error with
    | some error => (tried, some (.error (.start name error)))
    | none => launchReady names { tried with started := state.started ++ [name] }

/-- A round of `StartAll`, with what it returns if it returns. -/
def startRound (state : StartState) : StartState × Option (Except StartFault Unit) :=
  if state.started.length < processes.length then
    let scan := scanProcesses state.started (env.healthy state) (env.order state processes)
    let remain := processes.length - state.started.length
    let seen := { state with trace := state.trace ++ scan.seen }
    if scan.ready = [] then
      if scan.waiting then
        if env.limit ≤ state.waited then (seen, some (.error (.healthTimeout remain)))
        else ({ seen with waited := state.waited + 1 }, none)
      else (seen, some (.error (.deadlock remain)))
    else launchReady env scan.ready seen
  else (state, some (.ok ()))

def startRounds : Nat → StartState → StartState × Option (Except StartFault Unit)
  | 0, state => (state, none)
  | rounds + 1, state =>
    match startRound env processes state with
    | (later, none) => startRounds rounds later
    | (later, some result) => (later, some result)

/-- `StartAll`: every round starts a process or waits. -/
def startAll : StartState × Option (Except StartFault Unit) :=
  startRounds env processes (processes.length + env.limit + 1) {}

end Start

/-- What `validate` makes sure of. -/
structure Configured (processes : List ProcessSpec) : Prop where
  distinct : (processes.map (·.name)).Nodup
  known : ∀ process ∈ processes, ∀ dependency ∈ process.dependsOn,
    dependency ∈ processes.map (·.name)

/-- The edges of the dependency graph. -/
def Depends (processes : List ProcessSpec) (name dependency : String) : Prop :=
  ∃ process ∈ processes, process.name = name ∧ dependency ∈ process.dependsOn

def StartEvent.launched? : StartEvent → Option String
  | .launched name _ => some name
  | .observed .. => none

/-- The processes that `startOne` has been called for. -/
def launches (trace : List StartEvent) : List String := trace.filterMap StartEvent.launched?

structure StartTrace (processes : List ProcessSpec) (trace : List StartEvent) : Prop where
  once : (launches trace).Nodup
  after : ∀ before name error rest, trace = before ++ .launched name error :: rest →
    ∀ dependency, Depends processes name dependency → .observed dependency true ∈ before

structure StartSound (processes : List ProcessSpec) (state : StartState) : Prop where
  trace : StartTrace processes state.trace
  launched : launches state.trace = state.started
  known : ∀ name ∈ state.started, name ∈ processes.map (·.name)
  ordered : Ordered (Depends processes) state.started

section Laws

variable {quote : String → String} {env : StartEnv} {processes : List ProcessSpec}
  {state later : StartState} {trace seen : List StartEvent} {started : List String}
  {name dependency : String} {healthy : List String → String → Bool} {dependencies : List String}
  {result : Option (Except StartFault Unit)}

theorem validateProcess_eq_ok {known later : List String} {process : ProcessSpec}
    (ok : validateProcess quote known process = .ok later) :
    process.name ∉ known ∧ later = known ++ [process.name] := by
  unfold validateProcess at ok
  obtain ⟨-, -, ok⟩ := of_bind ok
  obtain ⟨-, -, ok⟩ := of_bind ok
  obtain ⟨_, fresh, ok⟩ := of_bind ok
  obtain ⟨-, -, ok⟩ := of_bind ok
  obtain ⟨-, -, ok⟩ := of_bind ok
  obtain ⟨-, -, ok⟩ := of_bind ok
  exact ⟨check_eq_ok.mp fresh, (Except.ok.inj ok).symm⟩

theorem validateProcesses_eq_ok {known later : List String} (distinct : known.Nodup)
    (ok : processes.foldlM (validateProcess quote) known = .ok later) :
    later.Nodup ∧ later = known ++ processes.map (·.name) := by
  induction processes generalizing known with
  | nil =>
    cases ok
    exact ⟨distinct, (List.append_nil _).symm⟩
  | cons process processes ih =>
    rw [List.foldlM_cons] at ok
    obtain ⟨mid, first, rest⟩ := of_bind ok
    obtain ⟨fresh, rfl⟩ := validateProcess_eq_ok first
    have longer : (known ++ [process.name]).Nodup :=
      List.Nodup.append distinct (List.nodup_singleton _) (by simpa using fresh)
    have all := ih longer rest
    rw [List.append_assoc] at all
    exact all

theorem configured_of_validate (ok : validateConfig quote processes = .ok ()) :
    Configured processes := by
  unfold validateConfig at ok
  obtain ⟨known, first, rest⟩ := of_bind ok
  obtain ⟨distinct, same⟩ := validateProcesses_eq_ok List.nodup_nil first
  rw [List.nil_append] at same
  rw [same] at distinct rest
  refine ⟨distinct, fun process member dependency depends => ?_⟩
  exact check_eq_ok.mp (forM_eq_ok.mp (forM_eq_ok.mp rest process member) dependency depends)

theorem launches_append (trace seen : List StartEvent) :
    launches (trace ++ seen) = launches trace ++ launches seen :=
  List.filterMap_append

theorem StartTrace.observe (law : StartTrace processes trace) (only : launches seen = []) :
    StartTrace processes (trace ++ seen) := by
  refine ⟨?_, ?_⟩
  · rw [launches_append, only, List.append_nil]
    exact law.once
  · intro before name error rest split dependency depends
    rcases split_append split with ⟨old, first⟩ | ⟨mid, rfl, second⟩
    · exact law.after before name error old first dependency depends
    · have there : name ∈ launches seen := by
        rw [second]
        exact List.mem_filterMap.mpr ⟨_, List.mem_append_right _ List.mem_cons_self, rfl⟩
      rw [only] at there
      cases there

theorem StartTrace.launch (law : StartTrace processes trace) (fresh : name ∉ launches trace)
    (healthy : ∀ dependency, Depends processes name dependency →
      .observed dependency true ∈ trace) (error : Option String) :
    StartTrace processes (trace ++ [.launched name error]) := by
  refine ⟨?_, ?_⟩
  · rw [launches_append]
    exact List.Nodup.append law.once (List.nodup_singleton name)
      (List.disjoint_singleton.mpr fresh)
  · intro before other error' rest split dependency depends
    rcases split_append split with ⟨old, first⟩ | ⟨mid, rfl, second⟩
    · exact law.after before other error' old first dependency depends
    · cases mid with
      | nil =>
        cases second
        rw [List.append_nil]
        exact healthy dependency depends
      | cons event mid => simp at second

theorem scanDependencies_met (met : (scanDependencies started healthy dependencies).met = true) :
    ∀ dependency ∈ dependencies, dependency ∈ started := by
  induction dependencies with
  | nil => exact nofun
  | cons dependency dependencies ih =>
    unfold scanDependencies at met
    split at met
    next both => exact List.forall_mem_cons.mpr ⟨both.1, ih met⟩
    next => cases met

theorem scanDependencies_seen (met : (scanDependencies started healthy dependencies).met = true) :
    ∀ dependency ∈ dependencies, .observed dependency true ∈
      (scanDependencies started healthy dependencies).seen := by
  induction dependencies with
  | nil => exact nofun
  | cons dependency dependencies ih =>
    unfold scanDependencies at met ⊢
    split at met
    next both =>
      rw [if_pos both]
      intro other member
      rcases List.mem_cons.mp member with rfl | member
      · rw [both.2]
        exact List.mem_cons_self
      · exact List.mem_cons_of_mem _ (ih met other member)
    next => cases met

theorem scanDependencies_waiting
    (waiting : (scanDependencies started healthy dependencies).waiting = true) :
    ∃ rest, ∃ dependency ∈ started, healthy rest dependency = false := by
  induction dependencies with
  | nil => cases waiting
  | cons dependency dependencies ih =>
    unfold scanDependencies at waiting
    split at waiting
    next => exact ih waiting
    next unmet =>
      have there : dependency ∈ started := of_decide_eq_true waiting
      exact ⟨dependencies, dependency, there, by simpa [there] using unmet⟩

theorem scanDependencies_started (all : ∀ dependency ∈ dependencies, dependency ∈ started) :
    (scanDependencies started healthy dependencies).met = true ∨
      (scanDependencies started healthy dependencies).waiting = true := by
  induction dependencies with
  | nil => exact .inl rfl
  | cons dependency dependencies ih =>
    rw [List.forall_mem_cons] at all
    unfold scanDependencies
    split
    next => exact ih all.2
    next => exact .inr (decide_eq_true all.1)

theorem launches_scanDependencies (healthy : List String → String → Bool)
    (dependencies : List String) :
    launches (scanDependencies started healthy dependencies).seen = [] := by
  induction dependencies with
  | nil => rfl
  | cons dependency dependencies ih =>
    unfold scanDependencies
    split
    next => exact ih
    next => rfl

theorem scanProcesses_ready_new {healthy : String → List String → String → Bool}
    (ready : name ∈ (scanProcesses started healthy processes).ready) : name ∉ started := by
  induction processes with
  | nil => cases ready
  | cons process processes ih =>
    unfold scanProcesses at ready
    split at ready
    next => exact ih ready
    next new =>
      dsimp only at ready
      split at ready
      next =>
        rcases List.mem_cons.mp ready with rfl | rest
        · exact new
        · exact ih rest
      next => exact ih ready

theorem scanProcesses_ready_sublist (healthy : String → List String → String → Bool) :
    (scanProcesses started healthy processes).ready.Sublist (processes.map (·.name)) := by
  induction processes with
  | nil => exact .slnil
  | cons process processes ih =>
    unfold scanProcesses
    rw [List.map_cons]
    split
    next => exact ih.cons _
    next =>
      dsimp only
      split
      next => exact ih.cons_cons _
      next => exact ih.cons _

theorem scanProcesses_seen {healthy : String → List String → String → Bool}
    (ready : name ∈ (scanProcesses started healthy processes).ready) :
    ∃ process ∈ processes, process.name = name ∧ ∀ dependency ∈ process.dependsOn,
      dependency ∈ started ∧
        .observed dependency true ∈ (scanProcesses started healthy processes).seen := by
  induction processes with
  | nil => cases ready
  | cons process processes ih =>
    unfold scanProcesses at ready ⊢
    by_cases old : process.name ∈ started
    · rw [if_pos old] at ready ⊢
      obtain ⟨other, there, same, all⟩ := ih ready
      exact ⟨other, List.mem_cons_of_mem _ there, same, all⟩
    · rw [if_neg old] at ready ⊢
      dsimp only at ready ⊢
      have later : name ∈ (scanProcesses started healthy processes).ready →
          ∃ other ∈ process :: processes, other.name = name ∧
            ∀ dependency ∈ other.dependsOn, dependency ∈ started ∧
              .observed dependency true ∈
                (scanDependencies started (healthy process.name) process.dependsOn).seen ++
                  (scanProcesses started healthy processes).seen := by
        intro rest
        obtain ⟨other, there, same, all⟩ := ih rest
        exact ⟨other, List.mem_cons_of_mem _ there, same, fun dependency depends =>
          ⟨(all dependency depends).1, List.mem_append_right _ (all dependency depends).2⟩⟩
      split at ready
      next met =>
        rcases List.mem_cons.mp ready with rfl | rest
        · refine ⟨process, List.mem_cons_self, rfl, fun dependency depends => ⟨?_, ?_⟩⟩
          · exact scanDependencies_met met dependency depends
          · exact List.mem_append_left _ (scanDependencies_seen met dependency depends)
        · exact later rest
      next => exact later ready

theorem scanProcesses_waiting {healthy : String → List String → String → Bool}
    (waiting : (scanProcesses started healthy processes).waiting = true) :
    ∃ name rest, ∃ dependency ∈ started, healthy name rest dependency = false := by
  induction processes with
  | nil => cases waiting
  | cons process processes ih =>
    unfold scanProcesses at waiting
    split at waiting
    next => exact ih waiting
    next =>
      rcases Bool.or_eq_true_iff.mp waiting with own | rest
      · exact ⟨process.name, scanDependencies_waiting own⟩
      · exact ih rest

theorem scanProcesses_started {healthy : String → List String → String → Bool}
    {process : ProcessSpec}
    (member : process ∈ processes) (new : process.name ∉ started)
    (all : ∀ dependency ∈ process.dependsOn, dependency ∈ started) :
    (scanProcesses started healthy processes).ready ≠ [] ∨
      (scanProcesses started healthy processes).waiting = true := by
  induction processes with
  | nil => cases member
  | cons first processes ih =>
    unfold scanProcesses
    rcases List.mem_cons.mp member with rfl | member
    · rw [if_neg new]
      have either : (scanDependencies started (healthy process.name) process.dependsOn).met = true ∨
          (scanDependencies started (healthy process.name) process.dependsOn).waiting = true :=
        scanDependencies_started all
      dsimp only
      rcases either with met | waiting
      · refine .inl ?_
        rw [if_pos met]
        exact List.cons_ne_nil _ _
      · exact .inr (Bool.or_eq_true_iff.mpr (.inl waiting))
    · split
      next => exact ih member
      next =>
        rcases ih member with ready | waiting
        · refine .inl ?_
          dsimp only
          split
          next => exact List.cons_ne_nil _ _
          next => exact ready
        · exact .inr (Bool.or_eq_true_iff.mpr (.inr waiting))

theorem launches_scanProcesses (healthy : String → List String → String → Bool) :
    launches (scanProcesses started healthy processes).seen = [] := by
  induction processes with
  | nil => rfl
  | cons process processes ih =>
    unfold scanProcesses
    split
    next => exact ih
    next =>
      rw [launches_append, launches_scanDependencies, ih]
      rfl

/-- What the results of `StartAll` mean. -/
inductive StartMeaning (env : StartEnv) (processes : List ProcessSpec) (later : StartState) :
    Except StartFault Unit → Prop where
  | launched : StartSound processes later →
      (∀ process ∈ processes, process.name ∈ later.started) →
      StartMeaning env processes later (.ok ())
  | late (before : StartState) (name : String) (rest : List String) (dependency : String)
      (remain : Nat) : env.limit ≤ before.waited → dependency ∈ before.started →
      env.healthy before name rest dependency = false →
      StartMeaning env processes later (.error (.healthTimeout remain))
  | cyclic (remain : Nat) : ¬ Acyclic (Depends processes) →
      StartMeaning env processes later (.error (.deadlock remain))
  | refused (before : StartState) (name error : String) :
      env.startOne before name = some error →
      StartMeaning env processes later (.error (.start name error))

theorem launchReady_sound {ready : List String} (law : StartSound processes state)
    (distinct : ready.Nodup) (new : ∀ name ∈ ready, name ∉ state.started)
    (known : ∀ name ∈ ready, name ∈ processes.map (·.name))
    (met : ∀ name ∈ ready, ∀ dependency, Depends processes name dependency →
      dependency ∈ state.started ∧ .observed dependency true ∈ state.trace)
    (run : launchReady env ready state = (later, result)) :
    StartTrace processes later.trace ∧
      (result = none → StartSound processes later ∧ later.started = state.started ++ ready ∧
        later.waited = state.waited) ∧
      ∀ verdict, result = some verdict → StartMeaning env processes later verdict := by
  induction ready generalizing state with
  | nil =>
    cases run
    refine ⟨law.trace, fun _ => ⟨law, (List.append_nil _).symm, rfl⟩, ?_⟩
    nofun
  | cons name ready ih =>
    rw [List.forall_mem_cons] at new known met
    obtain ⟨apart, distinct⟩ := List.nodup_cons.mp distinct
    have fresh : name ∉ launches state.trace := law.launched ▸ new.1
    have step : ∀ error, StartTrace processes (state.trace ++ [.launched name error]) :=
      law.trace.launch fresh fun dependency depends => (met.1 dependency depends).2
    unfold launchReady at run
    cases answer : env.startOne state name with
    | some error =>
      rw [answer] at run
      cases run
      refine ⟨step (some error), (by intro none; cases none), ?_⟩
      intro verdict same
      cases same
      exact .refused state name error answer
    | none =>
      rw [answer] at run
      have grown : StartSound processes
          { state with trace := state.trace ++ [.launched name none],
                       started := state.started ++ [name] } := by
        refine ⟨step none, ?_, ?_, ?_⟩
        · dsimp only
          rw [launches_append, law.launched]
          rfl
        · intro other there
          rcases of_mem_concat there with old | rfl
          · exact law.known other old
          · exact known.1
        · exact law.ordered.concat name fun dependency depends => (met.1 dependency depends).1
      have later_new : ∀ other ∈ ready, other ∉ state.started ++ [name] := by
        intro other there old
        rcases of_mem_concat old with old | rfl
        · exact new.2 other there old
        · exact apart there
      have later_met : ∀ other ∈ ready, ∀ dependency, Depends processes other dependency →
          dependency ∈ state.started ++ [name] ∧
            .observed dependency true ∈ state.trace ++ [.launched name none] := by
        intro other there dependency depends
        obtain ⟨early, seen⟩ := met.2 other there dependency depends
        exact ⟨List.mem_append_left _ early, List.mem_append_left _ seen⟩
      obtain ⟨trace, goes, stops⟩ := ih grown distinct later_new known.2 later_met run
      refine ⟨trace, fun none => ?_, stops⟩
      obtain ⟨sound, started, waited⟩ := goes none
      refine ⟨sound, ?_, waited⟩
      rw [started, List.append_assoc]
      rfl

theorem exists_unblocked (configured : Configured processes) (acyclic : Acyclic (Depends processes))
    (open_ : state.started.length < processes.length) :
    ∃ process ∈ processes, process.name ∉ state.started ∧
      ∀ dependency ∈ process.dependsOn, dependency ∈ state.started := by
  let waiting := processes.filter (·.name ∉ state.started)
  have nonempty : waiting.map (·.name) ≠ [] := by
    intro none
    have all : ∀ name ∈ processes.map (·.name), name ∈ state.started := by
      intro name there
      obtain ⟨process, member, rfl⟩ := List.mem_map.mp there
      by_contra new
      have left : process ∈ waiting := List.mem_filter.mpr ⟨member, decide_eq_true new⟩
      rw [List.map_eq_nil_iff.mp none] at left
      cases left
    have short := (configured.distinct.subperm all).length_le
    rw [List.length_map] at short
    omega
  obtain ⟨name, there, minimal⟩ := acyclic.exists_minimal nonempty
  obtain ⟨process, left, rfl⟩ := List.mem_map.mp there
  obtain ⟨member, new⟩ := List.mem_filter.mp left
  refine ⟨process, member, of_decide_eq_true new, fun dependency depends => ?_⟩
  by_contra missing
  obtain ⟨other, own, rfl⟩ := List.mem_map.mp (configured.known process member dependency depends)
  have also : other ∈ waiting := List.mem_filter.mpr ⟨own, decide_eq_true missing⟩
  exact minimal other.name (List.mem_map.mpr ⟨other, also, rfl⟩)
    (.single ⟨process, member, rfl, depends⟩)

theorem startRound_sound (configured : Configured processes) (law : StartSound processes state)
    (run : startRound env processes state = (later, result)) :
    StartTrace processes later.trace ∧
      (result = none → StartSound processes later ∧
        (later.started = state.started ∧ later.waited = state.waited + 1 ∧
            state.waited < env.limit ∨
          state.started.length < later.started.length ∧ later.waited = state.waited)) ∧
      ∀ verdict, result = some verdict → StartMeaning env processes later verdict := by
  unfold startRound at run
  split at run
  next open_ =>
    dsimp only at run
    let scan := scanProcesses state.started (env.healthy state) (env.order state processes)
    have perm : ∀ process, process ∈ env.order state processes ↔ process ∈ processes :=
      fun process => (env.order_perm state processes).mem_iff
    have seen : StartSound processes { state with trace := state.trace ++ scan.seen } := by
      have only : launches scan.seen = [] := launches_scanProcesses _
      refine ⟨law.trace.observe only, ?_, law.known, law.ordered⟩
      dsimp only
      rw [launches_append, only, List.append_nil, law.launched]
    split at run
    next idle =>
      split at run
      next waiting =>
        split at run
        next late =>
          cases run
          refine ⟨seen.trace, (by intro none; cases none), ?_⟩
          intro verdict same
          cases same
          obtain ⟨name, rest, dependency, there, ill⟩ := scanProcesses_waiting waiting
          exact .late state name rest dependency _ late there ill
        next early =>
          cases run
          refine ⟨seen.trace, fun _ => ⟨{ seen with },
            .inl ⟨rfl, rfl, Nat.lt_of_not_le early⟩⟩, ?_⟩
          nofun
      next stuck =>
        cases run
        refine ⟨seen.trace, (by intro none; cases none), ?_⟩
        intro verdict same
        cases same
        refine .cyclic _ fun acyclic => ?_
        obtain ⟨process, member, new, all⟩ := exists_unblocked configured acyclic open_
        rcases scanProcesses_started ((perm process).mpr member) new all with ready | waiting
        · exact ready idle
        · exact stuck waiting
    next busy =>
      have distinct : scan.ready.Nodup := by
        refine (scanProcesses_ready_sublist _).nodup ?_
        exact ((env.order_perm state processes).map _).nodup_iff.mpr configured.distinct
      have known : ∀ name ∈ scan.ready, name ∈ processes.map (·.name) := by
        intro name there
        obtain ⟨process, member, rfl, -⟩ := scanProcesses_seen there
        exact List.mem_map.mpr ⟨process, (perm process).mp member, rfl⟩
      have met : ∀ name ∈ scan.ready, ∀ dependency, Depends processes name dependency →
          dependency ∈ state.started ∧
            .observed dependency true ∈ state.trace ++ scan.seen := by
        intro name there dependency depends
        obtain ⟨process, member, same, all⟩ := scanProcesses_seen there
        obtain ⟨other, own, same', depends⟩ := depends
        have one : process = other := by
          refine List.inj_on_of_nodup_map configured.distinct ((perm process).mp member) own ?_
          rw [same, same']
        obtain ⟨early, look⟩ := all dependency (one ▸ depends)
        exact ⟨early, List.mem_append_right _ look⟩
      obtain ⟨trace, goes, stops⟩ := launchReady_sound seen distinct
        (fun name there => scanProcesses_ready_new there) known met run
      refine ⟨trace, fun none => ?_, stops⟩
      obtain ⟨sound, started, waited⟩ := goes none
      refine ⟨sound, .inr ⟨?_, waited⟩⟩
      have some : 0 < scan.ready.length := List.length_pos_iff.mpr busy
      rw [started, List.length_append]
      exact Nat.lt_add_of_pos_right some
  next closed =>
    cases run
    refine ⟨law.trace, (by intro none; cases none), ?_⟩
    intro verdict same
    cases same
    refine .launched law fun process member => ?_
    have distinct : state.started.Nodup := law.launched ▸ law.trace.once
    have inside : state.started ⊆ processes.map (·.name) := law.known
    have full : state.started.Perm (processes.map (·.name)) := by
      refine (distinct.subperm inside).perm_of_length_le ?_
      rw [List.length_map]
      omega
    exact full.mem_iff.mpr (List.mem_map.mpr ⟨process, member, rfl⟩)

theorem startRounds_sound (configured : Configured processes) {rounds : Nat}
    (law : StartSound processes state)
    (enough : (processes.length - state.started.length) + (env.limit - state.waited) < rounds) :
    ∃ later verdict, startRounds env processes rounds state = (later, some verdict) ∧
      StartTrace processes later.trace ∧ StartMeaning env processes later verdict := by
  induction rounds generalizing state with
  | zero => omega
  | succ rounds ih =>
    unfold startRounds
    cases round : startRound env processes state with
    | mk later result =>
      obtain ⟨trace, goes, stops⟩ := startRound_sound configured law round
      cases result with
      | some verdict => exact ⟨later, verdict, rfl, trace, stops verdict rfl⟩
      | none =>
        obtain ⟨sound, moved⟩ := goes rfl
        have short : later.started.length ≤ processes.length := by
          have distinct : later.started.Nodup := sound.launched ▸ sound.trace.once
          have inside : later.started ⊆ processes.map (·.name) := sound.known
          simpa using (distinct.subperm inside).length_le
        refine ih sound ?_
        rcases moved with ⟨same, waited, early⟩ | ⟨more, waited⟩
        · rw [same, waited]
          omega
        · rw [waited]
          omega

/-- What `StartAll` does with a configuration that `validate` accepts, whatever it meets. -/
theorem startAll_sound (env : StartEnv) (accepted : validateConfig quote processes = .ok ()) :
    ∃ later result, startAll env processes = (later, some result) ∧
      StartTrace processes later.trace ∧
      (Acyclic (Depends processes) →
        (∀ remain, result ≠ .error (.deadlock remain)) ∧
        ((∀ state name, env.startOne state name = none) →
          (∀ state name rest dependency, env.limit ≤ state.waited → dependency ∈ state.started →
            env.healthy state name rest dependency = true) →
          result = .ok () ∧ ∀ process ∈ processes, process.name ∈ launches later.trace)) ∧
      (¬Acyclic (Depends processes) → result ≠ .ok ()) := by
  have configured := configured_of_validate accepted
  have first : StartSound processes {} := by
    refine ⟨⟨List.nodup_nil, fun before name error rest split => ?_⟩, rfl, ?_, .nil⟩
    · cases before <;> cases split
    · exact fun name there => by cases there
  obtain ⟨later, result, run, trace, meaning⟩ := startRounds_sound configured first
    (Nat.lt_succ_self (processes.length + env.limit))
  refine ⟨later, result, run, trace, fun acyclic => ⟨?_, fun starts timely => ?_⟩, ?_⟩
  · rintro remain rfl
    cases meaning with
    | cyclic _ cycle => exact cycle acyclic
  · cases meaning with
    | launched sound all => exact ⟨rfl, fun process member => sound.launched ▸ all process member⟩
    | late before name rest dependency _ late there ill =>
      rw [timely before name rest dependency late there] at ill
      cases ill
    | cyclic _ cycle => exact absurd acyclic cycle
    | refused before name error answer =>
      rw [starts before name] at answer
      cases answer
  · rintro cycle rfl
    cases meaning with
    | launched sound all =>
      refine cycle (sound.ordered.acyclic (sound.launched ▸ sound.trace.once) ?_)
      rintro name dependency ⟨process, member, rfl, -⟩
      exact all process member

end Laws

def sampleHealth : HealthCheckConfig := ⟨"process", "", 1, 1, 1⟩

def sampleProcesses : List ProcessSpec :=
  [⟨"api", "api", ["db"], sampleHealth⟩, ⟨"db", "db", [], sampleHealth⟩]

def sampleStartEnv : StartEnv where
  order _ processes := processes
  order_perm _ processes := .refl processes
  healthy state _ _ _ := 10 ≤ state.waited
  startOne _ _ := none
  limit := 600

theorem sampleProcesses_startAll :
    ∃ later result, startAll sampleStartEnv sampleProcesses = (later, some result) ∧
      StartTrace sampleProcesses later.trace ∧
      (Acyclic (Depends sampleProcesses) →
        (∀ remain, result ≠ .error (.deadlock remain)) ∧
        ((∀ state name, sampleStartEnv.startOne state name = none) →
          (∀ state name rest dependency, sampleStartEnv.limit ≤ state.waited →
            dependency ∈ state.started →
            sampleStartEnv.healthy state name rest dependency = true) →
          result = .ok () ∧ ∀ process ∈ sampleProcesses, process.name ∈ launches later.trace)) ∧
      (¬Acyclic (Depends sampleProcesses) → result ≠ .ok ()) :=
  startAll_sound sampleStartEnv (show validateConfig id sampleProcesses = .ok () from rfl)

end MiniOgas
