import MiniOgas.AgentRun
import MiniOgas.CommandLaws

namespace MiniOgas

open Bounded Serial

structure ResultFlush where
  now : Timestamp
  answers : Int → String → String → ReportAnswer

structure CommandPoll where
  now : Timestamp
  ttlSeconds : Int
  times : Fields → Timestamp × Timestamp
  before : ResultFlush
  after : ResultFlush

structure ControlLoop where
  commands : List NodeCommand := []
  db : LocalDatabase := .empty
  memory : Option CommandMemory := none

/-- What the centre and the agent do; `centre` is every operation of the centre, also a claim
whose answer is lost, and `broken` is a poll with a crash after some commands. -/
inductive ControlEvent where
  | centre (call : CommandCall)
  | start
  | poll (poll : CommandPoll)
  | broken (poll : CommandPoll) (received : Nat)
  | crash

def NodeCommand.payload (command : NodeCommand) : Fields :=
  [("id", .int command.id), ("command_type", .str command.commandType),
    ("parameters", .obj command.parameters), ("version", .int command.version),
    ("expires_at", jsonTime command.expiresAt)]

def claimPendingCommandsForNode (commands : List NodeCommand) (now : Timestamp) (ttlSeconds : Int)
    (nodeCode : String) : List NodeCommand × List NodeCommand :=
  claimForNode (expireStaleClaims commands now ttlSeconds).2 now nodeCode nodeCode

/-- The loop of `poll_agent_commands`; an agent that raises is down. -/
def receiveAgentCommands (settings : AgentSettings) (times : Fields → Timestamp × Timestamp) :
    List Fields → LocalDatabase → CommandMemory → LocalDatabase × Option CommandMemory
  | [], db, memory => (db, some memory)
  | command :: commands, db, memory =>
    match receiveAgentCommand settings command db memory (times command).1 (times command).2 with
    | some (db, memory) => receiveAgentCommands settings times commands db memory
    | none => (db, none)

def ResultFlush.run (flush : ResultFlush) (db : LocalDatabase) : LocalDatabase :=
  flushPendingCommandResults db flush.now flush.answers

/-- `poll_agent_commands`, given the answer of the centre. -/
def pollAgentCommands (settings : AgentSettings) (poll : CommandPoll) (commands : List Fields)
    (db : LocalDatabase) (memory : CommandMemory) : LocalDatabase × Option CommandMemory :=
  match receiveAgentCommands settings poll.times commands (poll.before.run db) memory with
  | (db, some memory) => (poll.after.run db, some memory)
  | (db, none) => (db, none)

def ControlLoop.claims (nodeCode : String) (loop : ControlLoop) (poll : CommandPoll) :
    List NodeCommand × List NodeCommand :=
  claimPendingCommandsForNode loop.commands poll.now poll.ttlSeconds nodeCode

def ControlLoop.poll (settings : AgentSettings) (nodeCode : String) (loop : ControlLoop)
    (memory : CommandMemory) (poll : CommandPoll) : ControlLoop :=
  let (claimed, commands) := loop.claims nodeCode poll
  let (db, memory) := pollAgentCommands settings poll (claimed.map (·.payload)) loop.db memory
  ⟨commands, db, memory⟩

def ControlLoop.broken (settings : AgentSettings) (nodeCode : String) (loop : ControlLoop)
    (memory : CommandMemory) (poll : CommandPoll) (received : Nat) : ControlLoop :=
  let (claimed, commands) := loop.claims nodeCode poll
  let (db, _) := receiveAgentCommands settings poll.times
    ((claimed.take received).map (·.payload)) (poll.before.run loop.db) memory
  ⟨commands, db, none⟩

def ControlLoop.attempt (settings : AgentSettings) (verifier : CommandVerifier)
    (nodeCode : String) (event : ControlEvent) (loop : ControlLoop) :
    Except ControlFault (Unit × ControlLoop) :=
  match event with
  | .centre call => do
    let (_, commands) ← call.attempt settings.builtins verifier loop.commands
    return ((), { loop with commands := commands })
  | .start => .ok ((), { loop with memory := some (restoreLocalCommandState settings loop.db) })
  | .poll poll => do
    let memory ← orFault loop.memory (.valueError "the agent is down")
    return ((), loop.poll settings nodeCode memory poll)
  | .broken poll received => do
    let memory ← orFault loop.memory (.valueError "the agent is down")
    return ((), loop.broken settings nodeCode memory poll received)
  | .crash => .ok ((), { loop with memory := none })

def controlAuthority (settings : AgentSettings) (verifier : CommandVerifier)
    (nodeCode : String) : Authority ControlEvent ControlLoop Unit ControlFault :=
  ⟨ControlLoop.attempt settings verifier nodeCode⟩

/-- Every command that a poll delivers has a row of its own at the end of the poll. -/
def KeepsDelivered (settings : AgentSettings) (nodeCode : String) (loop : ControlLoop)
    (event : ControlEvent) : Prop :=
  ∀ poll memory, event = .poll poll → loop.memory = some memory →
    ∀ command ∈ (loop.claims nodeCode poll).1, 1 ≤ command.id →
      ((loop.poll settings nodeCode memory poll).db.localCommands.get? command.id).isSome = true

def NodeCommand.localKey (settings : AgentSettings) (command : NodeCommand) : String :=
  agentIdempotencyKey settings command.payload command.id

/-- The commands that a poll delivers have different keys, which no local row has. -/
def KeysUnused (settings : AgentSettings) (nodeCode : String) (loop : ControlLoop)
    (event : ControlEvent) : Prop :=
  ∀ poll, event = .poll poll → loop.memory.isSome = true →
    ((loop.claims nodeCode poll).1.map (·.localKey settings)).Nodup ∧
      ∀ command ∈ (loop.claims nodeCode poll).1, ∀ item ∈ loop.db.localCommands.items,
        item.2.idempotencyKey ≠ command.localKey settings

variable {settings : AgentSettings} {db db' : LocalDatabase} {memory memory' : CommandMemory}
  {command : NodeCommand} {commands : List NodeCommand} {fields : Fields} {commandId version : Int}
  {now storedAt : Timestamp} {times : Fields → Timestamp × Timestamp}

theorem agentCommandId_payload (settings : AgentSettings) (command : NodeCommand) :
    agentCommandId settings command.payload = some (command.id : Int) := by
  by_cases zero : command.id = 0 <;>
    simp [agentCommandId, NodeCommand.payload, Fields.get, Json.or, Json.truthy, zero,
      Builtins.integer]

theorem agentCommandVersion_payload (settings : AgentSettings) (command : NodeCommand) :
    ∃ version, agentCommandVersion settings command.payload = some version := by
  have field : command.payload.get "version" = .int command.version := by
    simp [NodeCommand.payload, Fields.get]
  unfold agentCommandVersion Json.or
  split <;> exact ⟨_, rfl⟩

theorem applyAgentCommand_isSome (id : agentCommandId settings fields = some commandId)
    (versioned : agentCommandVersion settings fields = some version)
    (fresh : appliedCommandRecord db commandId (agentIdempotencyKey settings fields commandId) =
      none) :
    ∃ applied, applyAgentCommand settings fields db memory now storedAt = some applied := by
  unfold applyAgentCommand
  rw [id, Option.bind_eq_bind, Option.bind_some]
  split
  next => exact ⟨_, rfl⟩
  next =>
  rw [versioned, Option.bind_eq_bind, Option.bind_some]
  split
  next => exact ⟨_, rfl⟩
  next targetRate checked =>
  dsimp only
  rw [persistAppliedCommand_of_fresh fresh]
  exact ⟨_, rfl⟩

theorem receiveAgentCommand_isSome (id : agentCommandId settings fields = some commandId)
    (versioned : agentCommandVersion settings fields = some version)
    (known : ∀ id ∈ memory.appliedCommandIds, (db.localCommands.get? id).isSome = true) :
    ∃ received, receiveAgentCommand settings fields db memory now storedAt = some received := by
  unfold receiveAgentCommand
  rw [id, Option.bind_eq_bind, Option.bind_some]
  dsimp only
  split
  next => exact ⟨_, rfl⟩
  next first =>
  by_cases zero : commandId = 0
  · refine ⟨(db, memory), ?_⟩
    unfold applyAgentCommand
    simp [id, zero]
  have fresh : appliedCommandRecord db commandId (agentIdempotencyKey settings fields commandId) =
      none := by
    simpa [zero] using first
  obtain ⟨⟨result, db₁, memory₁⟩, applied⟩ :=
    @applyAgentCommand_isSome _ db memory _ _ _ now storedAt id versioned fresh
  have unknown : commandId ∉ memory.appliedCommandIds := by
    intro member
    obtain ⟨row, found⟩ := Option.isSome_iff_exists.mp (known commandId member)
    rw [get?_eq_none_of_fresh fresh] at found
    cases found
  rw [applied, Option.bind_eq_bind, Option.bind_some]
  rcases applyAgentCommand_cases id zero fresh unknown applied with
    ⟨-, rfl, -, -⟩ | ⟨row, stored, -⟩
  · rw [if_neg (by simp [zero, fresh]), versioned, Option.bind_eq_bind, Option.bind_some,
      persistAppliedCommand_of_fresh fresh]
    exact ⟨_, rfl⟩
  · have found : db₁.localCommands.get? commandId = some row := by
      rw [stored.stored, addCommand_get? (get?_eq_none_of_fresh fresh), if_pos rfl]
    rw [if_pos (.inr (appliedCommandRecord_of_get? found _))]
    exact ⟨_, rfl⟩

def Remembers (db : LocalDatabase) (memory : CommandMemory) : Prop :=
  ∀ id ∈ memory.appliedCommandIds, (db.localCommands.get? id).isSome = true

inductive Takes (settings : AgentSettings) (db : LocalDatabase) (command : NodeCommand) :
    LocalDatabase → Prop
  | ignored (known : (appliedCommandRecord db command.id (command.localKey settings)).isSome =
      true) : Takes settings db command db
  | stored (row : LocalCommand)
      (fresh : appliedCommandRecord db command.id (command.localKey settings) = none)
      (key : row.idempotencyKey = command.localKey settings) :
      Takes settings db command (db.addCommand command.id row)

inductive TakesAll (settings : AgentSettings) :
    LocalDatabase → List NodeCommand → LocalDatabase → Prop
  | nil (db : LocalDatabase) : TakesAll settings db [] db
  | cons {db mid db' : LocalDatabase} {command : NodeCommand} {commands : List NodeCommand}
      (first : Takes settings db command mid) (rest : TakesAll settings mid commands db') :
      TakesAll settings db (command :: commands) db'

theorem remembers_received (known : Remembers db memory)
    (received : receiveAgentCommand settings fields db memory now storedAt =
      some (db', memory')) : Remembers db' memory' := by
  rcases receiveAgentCommand_cases known received with
    ⟨_, -, -, rfl, rfl⟩ | ⟨commandId, row, stored, outcome⟩
  · exact known
  · have get := @addCommand_get? db _ row (get?_eq_none_of_fresh stored.fresh)
    have kept : ∀ id, (db.localCommands.get? id).isSome = true →
        (db'.localCommands.get? id).isSome = true := by
      intro id there
      rw [stored.stored, get]
      split
      next => rfl
      next => exact there
    intro id member
    rcases outcome with ⟨-, rfl, -⟩ | executed
    · exact kept id (known id member)
    · obtain ⟨_, -, -, rfl⟩ := executed.remembered
      rcases List.mem_cons.mp member with rfl | h
      · rw [stored.stored, get, if_pos rfl]
        rfl
      · exact kept id (known id h)

theorem receiveAgentCommand_takes (positive : 1 ≤ command.id) (known : Remembers db memory) :
    ∃ db' memory', receiveAgentCommand settings command.payload db memory now storedAt =
      some (db', memory') ∧ Takes settings db command db' ∧ Remembers db' memory' := by
  have id := agentCommandId_payload settings command
  obtain ⟨version, versioned⟩ := agentCommandVersion_payload settings command
  obtain ⟨⟨db', memory'⟩, received⟩ :=
    @receiveAgentCommand_isSome _ _ _ _ _ _ now storedAt id versioned known
  refine ⟨db', memory', received, ?_, remembers_received known received⟩
  rcases receiveAgentCommand_cases known received with
    ⟨commandId, same, there, rfl, rfl⟩ | ⟨commandId, row, stored, -⟩
  · cases id.symm.trans same
    have nonzero : (command.id : Int) ≠ 0 := by omega
    exact .ignored (there.resolve_left nonzero)
  · cases id.symm.trans stored.id
    obtain ⟨_, _, _, built⟩ := stored.built
    rw [stored.stored]
    exact .stored row stored.fresh (by rw [built]; rfl)

theorem receiveAgentCommands_takes (positive : ∀ command ∈ commands, 1 ≤ command.id)
    (known : Remembers db memory) :
    ∃ db' memory', receiveAgentCommands settings times (commands.map (·.payload)) db memory =
      (db', some memory') ∧ TakesAll settings db commands db' ∧ Remembers db' memory' := by
  induction commands generalizing db memory with
  | nil => exact ⟨db, memory, rfl, .nil db, known⟩
  | cons command commands ih =>
    obtain ⟨mid, memory₁, received, takes, known₁⟩ := receiveAgentCommand_takes
      (positive command List.mem_cons_self) known
    obtain ⟨db', memory', rest, all, known'⟩ :=
      ih (fun other h => positive other (List.mem_cons_of_mem _ h)) known₁
    refine ⟨db', memory', ?_, .cons takes all, known'⟩
    rw [List.map_cons, receiveAgentCommands, received]
    exact rest

theorem TakesAll.isSome_iff (takes : TakesAll settings db commands db') (id : Int)
    (other : ∀ command ∈ commands, (command.id : Int) ≠ id) :
    (db'.localCommands.get? id).isSome = (db.localCommands.get? id).isSome := by
  induction takes with
  | nil => rfl
  | @cons db mid db' command commands first _ ih =>
    rw [ih fun next h => other next (List.mem_cons_of_mem _ h)]
    cases first with
    | ignored => rfl
    | stored row fresh =>
      have different : id ≠ command.id := (other command List.mem_cons_self).symm
      rw [addCommand_get? (get?_eq_none_of_fresh fresh), if_neg different]

theorem TakesAll.own_iff (takes : TakesAll settings db commands db')
    (distinct : (commands.map (·.id)).Nodup)
    (new : ∀ command ∈ commands, db.localCommands.get? command.id = none) :
    (∀ command ∈ commands, (db'.localCommands.get? command.id).isSome = true) ↔
      (commands.map (·.localKey settings)).Nodup ∧
        ∀ command ∈ commands, ∀ item ∈ db.localCommands.items,
          item.2.idempotencyKey ≠ command.localKey settings := by
  induction takes with
  | nil => simp
  | @cons db mid db' command commands first rest ih =>
    rw [List.map_cons, List.nodup_cons] at distinct
    have others : ∀ other ∈ commands, (other.id : Int) ≠ command.id := by
      intro other member same
      exact distinct.1 (List.mem_map.mpr ⟨other, member, Int.ofNat.inj same⟩)
    have own := new command List.mem_cons_self
    cases first with
    | ignored known =>
      -- the row that is known has the key, and is not one of the command
      have left : ¬ (db'.localCommands.get? command.id).isSome = true := by
        rw [rest.isSome_iff _ others, own]
        exact Bool.false_ne_true
      have taken : ∃ item ∈ db.localCommands.items,
          item.2.idempotencyKey = command.localKey settings := by
        by_contra unused
        push Not at unused
        have fresh := appliedCommandRecord_eq_none.mpr fun item there =>
          ⟨fun same => Dictionary.get?_eq_none_iff.mp own
            (List.mem_map.mpr ⟨item, there, same⟩), unused item there⟩
        rw [fresh] at known
        cases known
      constructor
      · exact fun all => absurd (all command List.mem_cons_self) left
      · rintro ⟨-, unused⟩
        obtain ⟨item, there, same⟩ := taken
        exact absurd same (unused command List.mem_cons_self item there)
    | stored row fresh key =>
      have items := @addCommand_items _ _ row (get?_eq_none_of_fresh fresh)
      have later : ∀ other ∈ commands,
          (db.addCommand command.id row).localCommands.get? other.id = none := by
        intro other member
        rw [addCommand_get? (get?_eq_none_of_fresh fresh), if_neg (others other member)]
        exact new other (List.mem_cons_of_mem _ member)
      have stored : (db'.localCommands.get? command.id).isSome = true := by
        rw [rest.isSome_iff _ others, addCommand_get? (get?_eq_none_of_fresh fresh), if_pos rfl]
        rfl
      have unused : ∀ item ∈ db.localCommands.items,
          item.2.idempotencyKey ≠ command.localKey settings :=
        fun item there => (appliedCommandRecord_eq_none.mp fresh item there).2
      rw [List.forall_mem_cons, ih distinct.2 later, items, List.map_cons, List.nodup_cons,
        List.forall_mem_cons]
      simp only [List.mem_append, List.mem_singleton, List.mem_map, not_exists, not_and]
      constructor
      · rintro ⟨-, nodup, free⟩
        refine ⟨⟨fun other member same => ?_, nodup⟩, unused, fun other member item there =>
          free other member item (.inl there)⟩
        exact free other member _ (.inr rfl) (key.trans same.symm)
      · rintro ⟨⟨different, nodup⟩, -, free⟩
        refine ⟨stored, nodup, fun other member item there => ?_⟩
        rcases there with there | rfl
        · exact free other member item there
        · exact fun same => different other member (same.symm.trans key)

end MiniOgas
