import MiniOgas.StepSystem
import MiniOgas.Dictionary

namespace MiniOgas

open Steps

inductive ProcessState where
  | stopped
  | stopping
  | starting
  | running
  | healthy
  | crashed
deriving DecidableEq

inductive ManagerCall where
  | start
  | stop
  | restart
  | startAll
  | stopAll

def ManagerCall.starts : ManagerCall → Bool
  | .start | .restart | .startAll => true
  | .stop | .stopAll => false

inductive GoroutineId where
  | caller (n : Nat)
  | monitor (generation : Nat)
deriving DecidableEq

/-- Who calls `startOne`: an operation, or `restartProcess` in a monitor. -/
inductive Launcher where
  | call
  | restart (generation : Nat) (exited : Option Nat)
deriving DecidableEq

/-- Where a goroutine is: the lock section that it enters next, or what it waits for. A child, its
context and its `exited` channel go by the generation that has made them. -/
inductive Goroutine where
  | starting
  | depending
  | stopping (restarts : Bool)
  | waiting (exited : Nat) (restarts : Bool)
  | retiring (restarts : Bool)
  | stoppingAll
  | launching (launcher : Launcher)
  | spawning (generation : Nat) (launcher : Launcher)
  | failing (generation : Nat) (launcher : Launcher)
  | recording (generation : Nat) (launcher : Launcher)
  | monitoring (generation : Nat) (exited : Option Nat)
  | watching (generation : Nat) (exited : Option Nat)
  | draining (generation : Nat) (exited : Option Nat)
  | killing (generation : Nat) (exited : Option Nat)
  | crashing (generation : Nat) (exited : Option Nat)
  | sleeping (generation : Nat) (exited : Option Nat)
  | closing (exited : Option Nat)
deriving DecidableEq

def ManagerCall.first : ManagerCall → Goroutine
  | .start => .starting
  | .stop => .stopping false
  | .restart => .stopping true
  | .startAll => .depending
  | .stopAll => .stoppingAll

/-- What a goroutine meets: `gone` is a child that has exited, and `timesOut` a timer. -/
inductive StepOutcome where
  | proceeds
  | fails
  | gone
  | cancelled
  | healthy
  | unhealthy
  | timesOut
deriving DecidableEq

/-- A `ManagedProcess` with its children and its goroutines; `stopReturned` tells that a `Stop` has
returned nil and that no operation that starts the process has begun since. -/
structure ProcessSystem where
  generation : Nat := 0
  state : ProcessState := .stopped
  crashCount : Nat := 0
  cancel : Option Nat := none
  exited : Option Nat := none
  alive : List Nat := []
  cancelled : List Nat := []
  closed : List Nat := []
  goroutines : Dictionary GoroutineId Goroutine := .empty
  panicked : Bool := false
  stopReturned : Bool := false

/-- `call` begins an operation, `run` lets a goroutine go on, and `exit` is the end of a child. -/
inductive ProcessEvent where
  | call (n : Nat) (operation : ManagerCall)
  | run (id : GoroutineId) (outcome : StepOutcome)
  | exit (generation : Nat)

namespace ProcessSystem

variable (probed : Bool) (system : ProcessSystem) (id : GoroutineId)

def goTo (goroutine : Goroutine) : ProcessSystem :=
  { system with goroutines := system.goroutines.set id goroutine }

def finish : ProcessSystem := { system with goroutines := system.goroutines.pop id }

def panics : ProcessSystem := { system with goroutines := .empty, panicked := true }

/-- The end of `startOne`, for its caller. -/
def returnTo : Launcher → ProcessSystem
  | .call => system.finish id
  | .restart _ exited => system.goTo id (.closing exited)

/-- `proc.Generation++`, and `cancel()` outside the lock. -/
def retire (state : ProcessState) : ProcessSystem :=
  { system with
    generation := system.generation + 1
    cancel := none
    state
    cancelled := system.cancel.toList ++ system.cancelled }

def markHealthy (generation : Nat) : ProcessSystem :=
  if system.generation ≠ generation ∨ system.state = .stopped then system
  else { system with state := .healthy, crashCount := 0 }

/-- The second lock section of `startOne`, after `cmd.Start` has succeeded. -/
def record (generation : Nat) : ProcessSystem :=
  let recorded :=
    if system.generation = generation then
      { system with state := .running, cancel := some generation, exited := some generation }
    else system
  recorded.goTo (.monitor generation) (.monitoring generation recorded.exited)

/-- A goroutine goes on, up to its next lock section or its next wait. -/
def run (goroutine : Goroutine) (outcome : StepOutcome) : ProcessSystem :=
  match goroutine, outcome with
  | .starting, .proceeds =>
    if system.state = .stopped then system.goTo id .depending else system.finish id
  | .depending, .proceeds => system.goTo id (.launching .call)
  | .depending, .fails => system.finish id
  | .stopping restarts, .proceeds =>
    (system.retire .stopping).goTo id (match system.exited with
      | some exited => .waiting exited restarts
      | none => .retiring restarts)
  | .waiting exited restarts, .proceeds =>
    if exited ∈ system.closed then system.goTo id (.retiring restarts) else system
  | .waiting _ _, .timesOut => system.finish id
  | .retiring restarts, .proceeds =>
    let stopped := { system with state := .stopped, exited := none, stopReturned := !restarts }
    if restarts then stopped.goTo id .starting else stopped.finish id
  | .stoppingAll, .proceeds => (system.retire .stopped).finish id
  | .launching launcher, .proceeds =>
    { system with generation := system.generation + 1, state := .starting }.goTo id
      (.spawning (system.generation + 1) launcher)
  | .spawning generation launcher, .proceeds =>
    { system with alive := generation :: system.alive }.goTo id (.recording generation launcher)
  | .spawning generation launcher, .fails =>
    { system with cancelled := generation :: system.cancelled }.goTo id
      (.failing generation launcher)
  | .failing generation launcher, .proceeds =>
    (if system.generation = generation then { system with state := .crashed }
      else system).returnTo id launcher
  | .recording generation launcher, .proceeds => (system.record generation).returnTo id launcher
  | .monitoring generation exited, .proceeds =>
    (if probed then system else system.markHealthy generation).goTo id
      (.watching generation exited)
  | .watching generation exited, .gone =>
    if generation ∈ system.alive then system else system.goTo id (.crashing generation exited)
  | .watching generation exited, .cancelled =>
    if generation ∈ system.cancelled then system.goTo id (.draining generation exited) else system
  | .watching generation _, .healthy => if probed then system.markHealthy generation else system
  | .watching generation exited, .unhealthy =>
    if probed = false then system
    else if system.generation = generation ∧ system.cancel ≠ none then
      { system with cancelled := system.cancel.toList ++ system.cancelled }.goTo id
        (.killing generation exited)
    else system.goTo id (.crashing generation exited)
  | .draining generation exited, .gone =>
    if generation ∈ system.alive then system else system.goTo id (.closing exited)
  | .draining _ exited, .timesOut => system.goTo id (.closing exited)
  | .killing generation exited, .gone =>
    if generation ∈ system.alive then system else system.goTo id (.crashing generation exited)
  | .crashing generation exited, .proceeds =>
    if system.generation ≠ generation ∨ system.state = .stopped then
      system.goTo id (.closing exited)
    else
      { system with state := .crashed, crashCount := system.crashCount + 1 }.goTo id
        (.sleeping generation exited)
  | .sleeping generation exited, .proceeds =>
    if system.generation = generation ∧ system.state = .crashed then
      system.goTo id (.launching (.restart generation exited))
    else system.goTo id (.closing exited)
  | .closing none, .proceeds => system.panics
  | .closing (some exited), .proceeds =>
    if exited ∈ system.closed then system.panics
    else { system with closed := exited :: system.closed }.finish id
  | _, _ => system

def step (system : ProcessSystem) : ProcessEvent → ProcessSystem
  | .call n operation =>
    if system.panicked ∨ (system.goroutines.get? (.caller n)).isSome then system
    else
      { system with stopReturned := system.stopReturned && !operation.starts }.goTo (.caller n)
        operation.first
  | .run id outcome =>
    match system.goroutines.get? id with
    | some goroutine => system.run probed id goroutine outcome
    | none => system
  | .exit generation => { system with alive := system.alive.filter (· ≠ generation) }

end ProcessSystem

end MiniOgas
