import Mathlib.Logic.Function.Basic
import MiniOgas.Serial

namespace Interleaving

open Serial

/-- What a statement does at its view of the data: it writes rows under their locks and the
transaction goes on, or it ends the transaction. -/
inductive Action (P W L R F : Type) where
  | go (locks : List L) (writes : List W) (next : P)
  | commit (reply : R)
  | raise (fault : F)

/-- The transactions of the sessions, statement by statement, and what a write does. -/
structure Protocol (S P T W L R F : Type) where
  start : S → P
  statement : S → P → T → Action P W L R F
  apply : T → W → T

inductive Session (P R F : Type) where
  | running (phase : P)
  | committed (reply : R)
  | failed (fault : F)
  | killed

def Session.isCommitted {P R F : Type} : Session P R F → Bool
  | .committed _ => true
  | _ => false

theorem isCommitted_iff {P R F : Type} {session : Session P R F} :
    session.isCommitted = true ↔ ∃ reply, session = .committed reply := by
  cases session <;> simp [Session.isCommitted]

/-- The committed data, and of every session its uncommitted writes, its locks and where it
is. -/
structure Server (S P T W L R F : Type) where
  data : T
  log : S → List W
  holder : L → Option S
  session : S → Session P R F

/-- A session runs its next statement, or its connection is lost. -/
inductive Event (S : Type) where
  | run (s : S)
  | kill (s : S)
deriving DecidableEq

variable {S P T W L R F : Type}

def Protocol.init (π : Protocol S P T W L R F) (data : T) : Server S P T W L R F :=
  ⟨data, fun _ => [], fun _ => none, fun s => .running (π.start s)⟩

/-- A statement sees what is committed when it runs, and the writes of its own session. -/
def Protocol.view (π : Protocol S P T W L R F) (σ : Server S P T W L R F) (s : S) : T :=
  (σ.log s).foldl π.apply σ.data

variable [DecidableEq S] [DecidableEq L]

def Server.free (σ : Server S P T W L R F) (s : S) (l : L) : Bool := (σ.holder l).all (· = s)

/-- The session goes on, with more locks and more writes. -/
def Server.advance (σ : Server S P T W L R F) (s : S) (locks : List L) (writes : List W)
    (next : P) : Server S P T W L R F where
  data := σ.data
  log := Function.update σ.log s (σ.log s ++ writes)
  holder l := if l ∈ locks then some s else σ.holder l
  session := Function.update σ.session s (.running next)

def Server.finish (σ : Server S P T W L R F) (s : S) (data : T) (status : Session P R F) :
    Server S P T W L R F where
  data := data
  log := Function.update σ.log s []
  holder l := (σ.holder l).filter (· ≠ s)
  session := Function.update σ.session s status

section Effects

variable (σ : Server S P T W L R F) (s : S) (locks : List L) (writes : List W) (next : P) (data : T)
  (status : Session P R F) {r : S}

@[simp] theorem advance_log_self : (σ.advance s locks writes next).log s = σ.log s ++ writes :=
  Function.update_self ..

theorem advance_log_ne (ne : r ≠ s) : (σ.advance s locks writes next).log r = σ.log r :=
  Function.update_of_ne ne ..

@[simp] theorem advance_session_self :
    (σ.advance s locks writes next).session s = .running next :=
  Function.update_self ..

theorem advance_session_ne (ne : r ≠ s) :
    (σ.advance s locks writes next).session r = σ.session r :=
  Function.update_of_ne ne ..

theorem advance_holder_ne (free : ∀ l ∈ locks, σ.holder l = none ∨ σ.holder l = some s) {l : L}
    (ne : r ≠ s) (held : σ.holder l = some r) :
    (σ.advance s locks writes next).holder l = some r := by
  have outside : l ∉ locks := fun member => by
    rcases free l member with none | own
    · rw [held] at none
      cases none
    · rw [held] at own
      exact ne (Option.some.inj own)
  simp [Server.advance, outside, held]

theorem advance_holder_self {l : L} (held : l ∈ locks ∨ σ.holder l = some s) :
    (σ.advance s locks writes next).holder l = some s := by
  unfold Server.advance
  dsimp only
  split
  next => rfl
  next outside => exact held.resolve_left outside

omit [DecidableEq L]

@[simp] theorem finish_log_self : (σ.finish s data status).log s = [] :=
  Function.update_self ..

theorem finish_log_ne (ne : r ≠ s) : (σ.finish s data status).log r = σ.log r :=
  Function.update_of_ne ne ..

@[simp] theorem finish_session_self : (σ.finish s data status).session s = status :=
  Function.update_self ..

theorem finish_session_ne (ne : r ≠ s) : (σ.finish s data status).session r = σ.session r :=
  Function.update_of_ne ne ..

theorem running_of_finish {phase : P} (ended : ∀ phase, status ≠ .running phase)
    (running : (σ.finish s data status).session r = .running phase) :
    r ≠ s ∧ σ.session r = .running phase := by
  by_cases same : r = s
  · rw [same, finish_session_self] at running
    exact absurd running (ended phase)
  · exact ⟨same, finish_session_ne σ s data status same ▸ running⟩

theorem finish_holder_iff {l : L} (ne : r ≠ s) :
    (σ.finish s data status).holder l = some r ↔ σ.holder l = some r := by
  cases held : σ.holder l with
  | none => simp [Server.finish, held]
  | some q =>
    by_cases hq : q = s
    · simp [Server.finish, held, hq, ne.symm]
    · simp only [Server.finish, held, ne_eq, Option.filter_some, hq, not_false_eq_true,
        decide_true, ↓reduceIte]

end Effects

/-- A statement whose locks are held by others waits: it runs again later, on what is committed
by then. -/
def Protocol.step (π : Protocol S P T W L R F) (σ : Server S P T W L R F) :
    Event S → Server S P T W L R F
  | .kill s =>
    match σ.session s with
    | .running _ => σ.finish s σ.data .killed
    | _ => σ
  | .run s =>
    match σ.session s with
    | .running phase =>
      match π.statement s phase (π.view σ s) with
      | .go locks writes next =>
        if locks.all (σ.free s) = true then σ.advance s locks writes next else σ
      | .commit reply => σ.finish s (π.view σ s) (.committed reply)
      | .raise fault => σ.finish s σ.data (.failed fault)
    | _ => σ

def Protocol.exec (π : Protocol S P T W L R F) (σ : Server S P T W L R F)
    (events : List (Event S)) : Server S P T W L R F :=
  events.foldl π.step σ

/-- What one event can do: nothing, let a session go on, or end it with a commit or without. -/
inductive Protocol.Moves (π : Protocol S P T W L R F) (σ : Server S P T W L R F) :
    Server S P T W L R F → Prop
  | same : π.Moves σ σ
  | advanced (s : S) (phase next : P) (locks : List L) (writes : List W)
      (running : σ.session s = .running phase)
      (acts : π.statement s phase (π.view σ s) = .go locks writes next)
      (free : ∀ l ∈ locks, σ.holder l = none ∨ σ.holder l = some s) :
      π.Moves σ (σ.advance s locks writes next)
  | committed (s : S) (phase : P) (reply : R) (running : σ.session s = .running phase)
      (acts : π.statement s phase (π.view σ s) = .commit reply) :
      π.Moves σ (σ.finish s (π.view σ s) (.committed reply))
  | raised (s : S) (phase : P) (fault : F) (running : σ.session s = .running phase)
      (acts : π.statement s phase (π.view σ s) = .raise fault) :
      π.Moves σ (σ.finish s σ.data (.failed fault))
  | killed (s : S) (phase : P) (running : σ.session s = .running phase) :
      π.Moves σ (σ.finish s σ.data .killed)

/-- What the event can do. -/
inductive Protocol.MovesBy (π : Protocol S P T W L R F) (σ : Server S P T W L R F) :
    Event S → Server S P T W L R F → Prop
  | same (event : Event S) : π.MovesBy σ event σ
  | advanced (s : S) (phase next : P) (locks : List L) (writes : List W)
      (running : σ.session s = .running phase)
      (acts : π.statement s phase (π.view σ s) = .go locks writes next)
      (free : ∀ l ∈ locks, σ.holder l = none ∨ σ.holder l = some s) :
      π.MovesBy σ (.run s) (σ.advance s locks writes next)
  | committed (s : S) (phase : P) (reply : R) (running : σ.session s = .running phase)
      (acts : π.statement s phase (π.view σ s) = .commit reply) :
      π.MovesBy σ (.run s) (σ.finish s (π.view σ s) (.committed reply))
  | raised (s : S) (phase : P) (fault : F) (running : σ.session s = .running phase)
      (acts : π.statement s phase (π.view σ s) = .raise fault) :
      π.MovesBy σ (.run s) (σ.finish s σ.data (.failed fault))
  | killed (s : S) (phase : P) (running : σ.session s = .running phase) :
      π.MovesBy σ (.kill s) (σ.finish s σ.data .killed)

variable {π : Protocol S P T W L R F} {σ : Server S P T W L R F} {I : Server S P T W L R F → Prop}
  {C : Server S P T W L R F → Event S → Prop}

theorem view_advance {s : S} {locks : List L} {writes : List W} {next : P} :
    π.view (σ.advance s locks writes next) s = writes.foldl π.apply (π.view σ s) := by
  simp [Protocol.view, Server.advance, List.foldl_append]

omit [DecidableEq L] in
theorem free_eq_true {s : S} {l : L} :
    σ.free s l = true ↔ σ.holder l = none ∨ σ.holder l = some s := by
  unfold Server.free
  cases σ.holder l with
  | none => simp
  | some holder => simp

theorem step_movesBy (π : Protocol S P T W L R F) (σ : Server S P T W L R F) (event : Event S) :
    π.MovesBy σ event (π.step σ event) := by
  cases event with
  | kill s =>
    unfold Protocol.step
    dsimp only
    split
    next phase running => exact .killed s phase running
    next => exact .same _
  | run s =>
    unfold Protocol.step
    dsimp only
    split
    next phase running =>
      split
      next locks writes next acts =>
        split
        next free =>
          refine .advanced s phase next locks writes running acts fun l hl => ?_
          exact free_eq_true.mp (List.all_eq_true.mp free l hl)
        next => exact .same _
      next reply acts => exact .committed s phase reply running acts
      next fault acts => exact .raised s phase fault running acts
    next => exact .same _

theorem step_moves (π : Protocol S P T W L R F) (σ : Server S P T W L R F) (event : Event S) :
    π.Moves σ (π.step σ event) := by
  have moves := step_movesBy π σ event
  generalize π.step σ event = σ' at moves ⊢
  cases moves with
  | same => exact .same
  | advanced s phase next locks writes running acts free =>
    exact .advanced s phase next locks writes running acts free
  | committed s phase reply running acts => exact .committed s phase reply running acts
  | raised s phase fault running acts => exact .raised s phase fault running acts
  | killed s phase running => exact .killed s phase running

section Step

variable {s : S} {phase next : P} {locks : List L} {writes : List W} {reply : R} {fault : F}

theorem step_go (running : σ.session s = .running phase)
    (acts : π.statement s phase (π.view σ s) = .go locks writes next)
    (free : ∀ l ∈ locks, σ.holder l = none ∨ σ.holder l = some s) :
    π.step σ (.run s) = σ.advance s locks writes next := by
  have free : locks.all (σ.free s) = true :=
    List.all_eq_true.mpr fun l hl => free_eq_true.mpr (free l hl)
  simp only [Protocol.step, running, acts, free, ↓reduceIte]

theorem step_commit (running : σ.session s = .running phase)
    (acts : π.statement s phase (π.view σ s) = .commit reply) :
    π.step σ (.run s) = σ.finish s (π.view σ s) (.committed reply) := by
  simp only [Protocol.step, running, acts]

theorem step_raise (running : σ.session s = .running phase)
    (acts : π.statement s phase (π.view σ s) = .raise fault) :
    π.step σ (.run s) = σ.finish s σ.data (.failed fault) := by
  simp only [Protocol.step, running, acts]

end Step

/-- An invariant kept by every move holds after every interleaving. -/
theorem exec_invariant (preserved : ∀ {σ σ'}, I σ → π.Moves σ σ' → I σ') (init : I σ)
    (events : List (Event S)) :
    I (π.exec σ events) := by
  induction events generalizing σ with
  | nil => exact init
  | cons event events ih => exact ih (preserved init (step_moves π σ event))

/-- Every event of the run meets a condition on the state that it runs in. -/
def Protocol.Meets (π : Protocol S P T W L R F) (C : Server S P T W L R F → Event S → Prop) :
    Server S P T W L R F → List (Event S) → Prop
  | _, [] => True
  | σ, event :: events => C σ event ∧ π.Meets C (π.step σ event) events

instance decidableMeets (π : Protocol S P T W L R F) (C : Server S P T W L R F → Event S → Prop)
    [∀ σ event, Decidable (C σ event)] : ∀ σ events, Decidable (π.Meets C σ events)
  | _, [] => inferInstanceAs (Decidable True)
  | σ, event :: events =>
    have := decidableMeets π C (π.step σ event) events
    inferInstanceAs (Decidable (C σ event ∧ π.Meets C (π.step σ event) events))

theorem meets_append {before after : List (Event S)} (meets : π.Meets C σ (before ++ after)) :
    π.Meets C σ before ∧ π.Meets C (π.exec σ before) after := by
  induction before generalizing σ with
  | nil => exact ⟨trivial, meets⟩
  | cons event before ih =>
    obtain ⟨first, later⟩ := ih meets.2
    exact ⟨⟨meets.1, first⟩, later⟩

/-- An invariant kept by every move that meets the condition holds after every run that does. -/
theorem exec_invariant_of_meets
    (preserved : ∀ {σ σ' event}, I σ → C σ event → π.MovesBy σ event σ' → I σ') (init : I σ)
    {events : List (Event S)} (meets : π.Meets C σ events) : I (π.exec σ events) := by
  induction events generalizing σ with
  | nil => exact init
  | cons event events ih =>
    exact ih (preserved init meets.1 (step_movesBy π σ event)) meets.2

theorem exec_append (π : Protocol S P T W L R F) (σ : Server S P T W L R F)
    (before after : List (Event S)) :
    π.exec σ (before ++ after) = π.exec (π.exec σ before) after :=
  List.foldl_append

section Guarded

variable {B : Type} (part : T → B) (Good : B → Prop) (l : L)

def Spares (apply : T → W → T) (w : W) : Prop := ∀ t, part (apply t w) = part t

/-- A write changes the part of the data in a way that depends on the part only. -/
def Confined (apply : T → W → T) (w : W) : Prop :=
  ∀ t t', part t = part t' → part (apply t w) = part (apply t' w)

/-- Every statement that sees the part good leaves it alone, or holds the lock and leaves it good
in its own view. -/
def Guarded (π : Protocol S P T W L R F) : Prop :=
  ∀ s phase t locks writes next, Good (part t) → π.statement s phase t = .go locks writes next →
    (∀ w ∈ writes, Confined part π.apply w) ∧
      ((∀ w ∈ writes, Spares part π.apply w) ∨
        l ∈ locks ∧ Good (part (writes.foldl π.apply t)))

/-- Only the holder of the lock has uncommitted changes of the part, and they are good. -/
structure Sheltered (π : Protocol S P T W L R F) (σ : Server S P T W L R F) : Prop where
  good : Good (part σ.data)
  confined : ∀ s, ∀ w ∈ σ.log s, Confined part π.apply w
  others : ∀ s, σ.holder l ≠ some s → ∀ w ∈ σ.log s, Spares part π.apply w
  held : ∀ s, σ.holder l = some s → Good (part (π.view σ s))

variable {part Good l}

omit [DecidableEq S] [DecidableEq L] in
theorem part_foldl_spares {apply : T → W → T} {ws : List W} (spares : ∀ w ∈ ws, Spares part apply w)
    (t : T) : part (ws.foldl apply t) = part t := by
  induction ws generalizing t with
  | nil => rfl
  | cons w ws ih =>
    rw [List.foldl_cons, ih (fun w hw => spares w (List.mem_cons_of_mem _ hw))]
    exact spares w List.mem_cons_self t

omit [DecidableEq S] [DecidableEq L] in
theorem part_foldl_confined {apply : T → W → T} {ws : List W}
    (confined : ∀ w ∈ ws, Confined part apply w) {t t' : T} (same : part t = part t') :
    part (ws.foldl apply t) = part (ws.foldl apply t') := by
  induction ws generalizing t t' with
  | nil => exact same
  | cons w ws ih =>
    refine ih (fun w hw => confined w (List.mem_cons_of_mem _ hw)) ?_
    exact confined w List.mem_cons_self t t' same

omit [DecidableEq L] in
theorem Sheltered.view (sheltered : Sheltered part Good l π σ) (s : S) :
    Good (part (π.view σ s)) := by
  by_cases holds : σ.holder l = some s
  · exact sheltered.held s holds
  · rw [Protocol.view, part_foldl_spares (sheltered.others s holds)]
    exact sheltered.good

theorem Sheltered.advance (sheltered : Sheltered part Good l π σ) {s : S} {phase next : P}
    {locks : List L} {writes : List W} (guarded : Guarded part Good l π)
    (acts : π.statement s phase (π.view σ s) = .go locks writes next)
    (free : ∀ l ∈ locks, σ.holder l = none ∨ σ.holder l = some s) :
    Sheltered part Good l π (σ.advance s locks writes next) := by
  obtain ⟨confined, effect⟩ := guarded s phase _ locks writes next (sheltered.view s) acts
  have goodView : Good (part (π.view (σ.advance s locks writes next) s)) := by
    rw [view_advance]
    rcases effect with spares | ⟨-, good⟩
    · rw [part_foldl_spares spares]
      exact sheltered.view s
    · exact good
  have log : ∀ r, r ≠ s → (σ.advance s locks writes next).log r = σ.log r :=
    fun r ne => advance_log_ne σ s locks writes next ne
  have holder : ∀ r, r ≠ s → ((σ.advance s locks writes next).holder l = some r ↔
      σ.holder l = some r) := by
    intro r ne
    simp only [Server.advance]
    split
    next mem =>
      rcases free l mem with none | held
      · simp [none, ne.symm]
      · simp [held]
    next => exact Iff.rfl
  constructor
  · exact sheltered.good
  · intro r w hw
    by_cases same : r = s
    · subst same
      rw [advance_log_self, List.mem_append] at hw
      exact hw.elim (sheltered.confined r w) (confined w)
    · rw [log r same] at hw
      exact sheltered.confined r w hw
  · intro r free' w hw
    by_cases same : r = s
    · subst same
      have outside : l ∉ locks := by
        intro mem
        exact free' (by simp [Server.advance, mem])
      have outside' : σ.holder l ≠ some r := by
        simpa [Server.advance, outside] using free'
      rw [advance_log_self, List.mem_append] at hw
      rcases hw with hw | hw
      · exact sheltered.others r outside' w hw
      · rcases effect with spares | ⟨mem, -⟩
        · exact spares w hw
        · exact absurd mem outside
    · rw [log r same] at hw
      exact sheltered.others r (fun h => free' ((holder r same).mpr h)) w hw
  · intro r holds
    by_cases same : r = s
    · subst same
      exact goodView
    · rw [Protocol.view, log r same]
      exact sheltered.held r ((holder r same).mp holds)

omit [DecidableEq L] in
theorem Sheltered.finish (sheltered : Sheltered part Good l π σ) {s : S} {data : T}
    {status : Session P R F} (left : data = σ.data ∨ data = π.view σ s) :
    Sheltered part Good l π (σ.finish s data status) := by
  have log : ∀ r, r ≠ s → (σ.finish s data status).log r = σ.log r :=
    fun r ne => finish_log_ne σ s data status ne
  have holder : ∀ r, r ≠ s → ((σ.finish s data status).holder l = some r ↔
      σ.holder l = some r) := fun r ne => finish_holder_iff σ s data status ne
  have good : Good (part data) := by
    rcases left with rfl | rfl
    · exact sheltered.good
    · exact sheltered.view s
  constructor
  · exact good
  · intro r w hw
    by_cases same : r = s
    · subst same
      simp at hw
    · rw [log r same] at hw
      exact sheltered.confined r w hw
  · intro r free w hw
    by_cases same : r = s
    · subst same
      simp at hw
    · rw [log r same] at hw
      exact sheltered.others r (fun h => free ((holder r same).mpr h)) w hw
  · intro r holds
    by_cases same : r = s
    · subst same
      rw [Protocol.view, finish_log_self]
      exact good
    · -- another session holds the lock, so what is committed spares the part
      have holds := (holder r same).mp holds
      have others := sheltered.others s (by rw [holds]; simpa using same)
      have unchanged : part data = part σ.data := by
        rcases left with rfl | rfl
        · rfl
        · exact part_foldl_spares others σ.data
      rw [Protocol.view, log r same]
      have held := sheltered.held r holds
      rw [Protocol.view, ← part_foldl_confined (sheltered.confined r) unchanged] at held
      exact held

/-- A part of the data that is changed only under a lock, and left good by whoever changes it in
its own view, is good in every committed state. -/
theorem guarded_exec (guarded : Guarded part Good l π) {data : T} (good : Good (part data))
    (events : List (Event S)) : Good (part (π.exec (π.init data) events).data) := by
  have sheltered : Sheltered part Good l π (π.init data) :=
    ⟨good, fun _ _ hw => by simp [Protocol.init] at hw,
      fun _ _ _ hw => by simp [Protocol.init] at hw,
      fun _ holds => by simp [Protocol.init] at holds⟩
  refine (exec_invariant (I := Sheltered part Good l π) ?_ sheltered events).good
  intro σ σ' sheltered moves
  cases moves with
  | same => exact sheltered
  | advanced s phase next locks writes running acts free =>
    exact sheltered.advance guarded acts free
  | committed s phase reply running acts => exact sheltered.finish (.inr rfl)
  | raised s phase fault running acts => exact sheltered.finish (.inl rfl)
  | killed s phase running => exact sheltered.finish (.inl rfl)

end Guarded

/-- A transaction as a program: a statement sees the data, locks and writes rows, and goes on with
what it has read. -/
inductive Script (T W L F R : Type) where
  | done (reply : R)
  | raise (fault : F)
  | stmt (effect : T → List L × List W) (next : T → Script T W L F R)

variable {T W L F R A B : Type}

def Script.bind (script : Script T W L F A) (rest : A → Script T W L F B) : Script T W L F B :=
  match script with
  | .done a => rest a
  | .raise fault => .raise fault
  | .stmt effect next => .stmt effect fun t => (next t).bind rest

instance : Monad (Script T W L F) where
  pure := .done
  bind := .bind

/-- The locks and the writes of a statement that gives a value or raises. -/
def effectOf : Except F (A × List L × List W) → List L × List W
  | .ok (_, effect) => effect
  | .error _ => ([], [])

def restOf : Except F (A × List L × List W) → Script T W L F A
  | .ok (a, _) => .done a
  | .error fault => .raise fault

/-- One statement: it raises, or gives a value and writes rows under their locks. -/
def Script.execute (query : T → Except F (A × List L × List W)) : Script T W L F A :=
  .stmt (fun t => effectOf (query t)) fun t => restOf (query t)

/-- A query, which writes nothing. -/
def Script.select (query : T → Except F A) (locks : List L) : Script T W L F A :=
  .execute fun t => (query t).map fun a => (a, locks, [])

/-- The next statement of a session that runs the script; at its end it commits. -/
def Script.statement (script : Script T W L F R) (t : T) : Action (Script T W L F R) W L R F :=
  match script with
  | .done reply => .commit reply
  | .raise fault => .raise fault
  | .stmt effect next =>
    match next t with
    | .raise fault => .raise fault
    | rest => .go (effect t).1 (effect t).2 rest

def Script.run (apply : T → W → T) (script : Script T W L F R) (t : T) : Except F (R × T) :=
  match script with
  | .done reply => .ok (reply, t)
  | .raise fault => .error fault
  | .stmt effect next => (next t).run apply ((effect t).2.foldl apply t)

def Session.isAnswered {P R F : Type} : Session P R F → Bool
  | .committed _ | .failed _ => true
  | _ => false

/-- Sessions that run scripts. -/
def scriptProtocol {S : Type} (script : S → Script T W L F R) (apply : T → W → T) :
    Protocol S (Script T W L F R) T W L R F :=
  ⟨script, fun _ => Script.statement, apply⟩

/-- Every write of the script, whatever it sees, is of one kind. -/
def Script.Writes (P : W → Prop) : Script T W L F R → Prop
  | .done _ | .raise _ => True
  | .stmt effect next => ∀ t, (∀ w ∈ (effect t).2, P w) ∧ (next t).Writes P

section Run

variable {apply : T → W → T}

theorem run_bind (script : Script T W L F A) (rest : A → Script T W L F B) (t : T) :
    (script >>= rest).run apply t =
      script.run apply t >>= fun result => (rest result.1).run apply result.2 := by
  change (script.bind rest).run apply t = _
  induction script generalizing t with
  | done a => rfl
  | raise fault => rfl
  | stmt effect next ih => exact ih t ((effect t).2.foldl apply t)

theorem run_execute (query : T → Except F (A × List L × List W)) (t : T) :
    (Script.execute query).run apply t =
      query t >>= fun result => .ok (result.1, result.2.2.foldl apply t) := by
  simp only [Script.execute, Script.run]
  cases query t <;> rfl

end Run

section Writes

variable {P : W → Prop}

theorem writes_bind {script : Script T W L F A} {rest : A → Script T W L F B}
    (first : script.Writes P) (later : ∀ a, (rest a).Writes P) : (script >>= rest).Writes P := by
  induction script with
  | done a => exact later a
  | raise fault => exact trivial
  | stmt effect next ih => exact fun t => ⟨(first t).1, ih t (first t).2⟩

theorem writes_execute {query : T → Except F (A × List L × List W)}
    (own : ∀ t result, query t = .ok result → ∀ w ∈ result.2.2, P w) :
    (Script.execute query).Writes P := by
  intro t
  change (∀ w ∈ (effectOf (query t)).2, P w) ∧ (restOf (query t) : Script T W L F A).Writes P
  cases found : query t with
  | ok result => exact ⟨own t result found, trivial⟩
  | error fault => exact ⟨by simp [effectOf], trivial⟩

theorem writes_select (query : T → Except F A) (locks : List L) :
    (Script.select query locks : Script T W L F A).Writes P := by
  refine writes_execute fun t result h => ?_
  cases found : query t with
  | ok a =>
    rw [found] at h
    cases h
    simp
  | error fault =>
    rw [found] at h
    cases h

end Writes

section Step

variable {P : Type} {S : Type} [DecidableEq S] [DecidableEq L] {π : Protocol S P T W L R F}
  {σ : Server S P T W L R F} {s : S} {phase next : P} {locks : List L} {writes : List W}

theorem step_kill (running : σ.session s = .running phase) :
    π.step σ (.kill s) = σ.finish s σ.data .killed := by
  simp only [Protocol.step, running]

theorem step_of_over (ended : ∀ phase, σ.session s ≠ .running phase) {event : Event S}
    (own : event = .run s ∨ event = .kill s) : π.step σ event = σ := by
  rcases own with rfl | rfl <;> unfold Protocol.step <;> dsimp only <;> split
  next phase running => exact absurd running (ended phase)
  next => rfl
  next phase running => exact absurd running (ended phase)
  next => rfl

theorem step_run_go (running : σ.session s = .running phase)
    (acts : π.statement s phase (π.view σ s) = .go locks writes next) :
    ((∀ l ∈ locks, σ.holder l = none ∨ σ.holder l = some s) ∧
      π.step σ (.run s) = σ.advance s locks writes next) ∨ π.step σ (.run s) = σ := by
  by_cases free : ∀ l ∈ locks, σ.holder l = none ∨ σ.holder l = some s
  · exact .inl ⟨free, step_go running acts free⟩
  · have blocked : ¬ locks.all (σ.free s) = true := fun all => free fun l member =>
      free_eq_true.mp (List.all_eq_true.mp all l member)
    right
    simp only [Protocol.step, running, acts, if_neg blocked]

end Step

theorem statement_stmt (effect : T → List L × List W) (next : T → Script T W L F R) (t : T) :
    (∃ fault, next t = .raise fault ∧ (Script.stmt effect next).statement t = .raise fault) ∨
      (∀ fault, next t ≠ .raise fault) ∧
        (Script.stmt effect next).statement t = .go (effect t).1 (effect t).2 (next t) := by
  unfold Script.statement
  dsimp only
  split
  next fault raises => exact .inl ⟨fault, raises, rfl⟩
  next goes => exact .inr ⟨goes, rfl⟩

section Alone

variable {S P : Type} [DecidableEq S] [DecidableEq L] {π : Protocol S P T W L R F}
  {σ : Server S P T W L R F} {s : S} {p : P} {result : Except F (R × T)}

/-- What a session comes to that takes the action and runs on by itself. -/
inductive Protocol.Ends (π : Protocol S P T W L R F) (s : S) :
    Action P W L R F → T → Except F (R × T) → Prop
  | commit (reply : R) (t : T) : π.Ends s (.commit reply) t (.ok (reply, t))
  | raise (fault : F) (t : T) : π.Ends s (.raise fault) t (.error fault)
  | go {t : T} {locks : List L} {writes : List W} {next : P} {result : Except F (R × T)}
      (ends : π.Ends s (π.statement s next (writes.foldl π.apply t)) (writes.foldl π.apply t)
        result) : π.Ends s (.go locks writes next) t result

/-- What a session leaves that has run its transaction by itself. -/
def Server.settle (σ : Server S P T W L R F) (s : S) :
    Except F (R × T) → Server S P T W L R F
  | .ok (reply, data) => σ.finish s data (.committed reply)
  | .error fault => σ.finish s σ.data (.failed fault)

def Server.Alone (σ : Server S P T W L R F) (s : S) : Prop :=
  ∀ l, σ.holder l = none ∨ σ.holder l = some s

theorem alone_advance (alone : σ.Alone s) (locks : List L) (writes : List W) (next : P) :
    (σ.advance s locks writes next).Alone s := by
  intro l
  by_cases mine : l ∈ locks
  · exact .inr (advance_holder_self σ s _ _ _ (.inl mine))
  · simpa [Server.advance, mine] using alone l

theorem finish_advance (alone : σ.Alone s) (locks : List L) (writes : List W) (next : P)
    (data : T) (status : Session P R F) :
    (σ.advance s locks writes next).finish s data status = σ.finish s data status := by
  have released : ((σ.advance s locks writes next).finish s data status).holder =
      (σ.finish s data status).holder := by
    funext l
    rcases alone l with none | own <;> by_cases mine : l ∈ locks <;>
      simp [Server.finish, Server.advance, *]
  simp_all [Server.finish, Server.advance]

/-- A session that no other session hinders runs to the end of its transaction. -/
theorem exec_alone {action : Action P W L R F} {t : T} (ends : π.Ends s action t result)
    (running : σ.session s = .running p) (view : π.view σ s = t)
    (acts : π.statement s p t = action) (alone : σ.Alone s) :
    ∃ n, π.exec σ (List.replicate n (.run s)) = σ.settle s result := by
  induction ends generalizing σ p with
  | commit reply t =>
    subst view
    exact ⟨1, step_commit running acts⟩
  | raise fault t =>
    subst view
    exact ⟨1, step_raise running acts⟩
  | @go t locks writes next result _ ih =>
    subst view
    have seen : π.view (σ.advance s locks writes next) s = writes.foldl π.apply (π.view σ s) :=
      view_advance
    obtain ⟨n, done⟩ := ih (advance_session_self ..) seen rfl (alone_advance alone _ _ _)
    refine ⟨n + 1, ?_⟩
    rw [List.replicate_succ, Protocol.exec, List.foldl_cons,
      step_go running acts fun l _ => alone l]
    refine done.trans ?_
    cases result <;> exact finish_advance alone _ _ _ _ _

/-- Every serial history of an authority whose calls are the transactions is one of the protocol's
runs. -/
theorem exec_serially {Call : Type} (A : Authority Call T R F) (call : S → Call)
    (refines : ∀ s t, π.Ends s (π.statement s (π.start s) t) t (A.attempt (call s) t))
    {order : List S} (distinct : order.Nodup) (free : ∀ l, σ.holder l = none)
    (idle : ∀ s ∈ order, σ.session s = .running (π.start s) ∧ σ.log s = []) :
    ∃ events, π.exec σ events =
        order.foldl (fun σ s => σ.settle s (A.attempt (call s) σ.data)) σ ∧
      (π.exec σ events).data = A.run σ.data (order.map call) := by
  induction order generalizing σ with
  | nil => exact ⟨[], rfl, rfl⟩
  | cons s order ih =>
    obtain ⟨outside, distinct⟩ := List.nodup_cons.mp distinct
    obtain ⟨running, unwritten⟩ := idle s List.mem_cons_self
    have view : π.view σ s = σ.data := by rw [Protocol.view, unwritten, List.foldl_nil]
    obtain ⟨n, settles⟩ := exec_alone (refines s σ.data) running view rfl fun l => .inl (free l)
    have left : ∀ result, (∀ l, (σ.settle s result).holder l = none) ∧ ∀ r ∈ order,
        (σ.settle s result).session r = .running (π.start r) ∧
          (σ.settle s result).log r = [] := by
      rintro (fault | result)
      all_goals
        refine ⟨fun l => by simp [Server.settle, Server.finish, free l], fun r member => ?_⟩
        have ne : r ≠ s := fun same => outside (same ▸ member)
        simpa [Server.settle, Server.finish, ne] using idle r (List.mem_cons_of_mem _ member)
    obtain ⟨events, after, data⟩ := ih distinct (left _).1 (left (A.attempt (call s) σ.data)).2
    have served : (σ.settle s (A.attempt (call s) σ.data)).data = A.serve σ.data (call s) := by
      unfold Authority.serve
      cases A.attempt (call s) σ.data <;> rfl
    rw [served] at data
    rw [← settles, ← exec_append] at after data
    rw [List.foldl_cons, ← settles]
    exact ⟨_, after, data⟩

omit [DecidableEq S] [DecidableEq L] in
theorem ends_script (script : S → Script T W L F R) (apply : T → W → T)
    (p : Script T W L F R) (t : T) :
    (scriptProtocol script apply).Ends s (p.statement t) t (p.run apply t) := by
  induction p generalizing t with
  | done reply => exact .commit reply t
  | raise fault => exact .raise fault t
  | stmt effect next ih =>
    rw [Script.run]
    rcases statement_stmt effect next t with ⟨fault, raises, acts⟩ | ⟨-, acts⟩ <;> rw [acts]
    · rw [raises]
      exact .raise fault t
    · exact .go (ih t _)

end Alone

end Interleaving
