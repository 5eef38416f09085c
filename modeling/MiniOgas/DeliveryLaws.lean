import MiniOgas.CommandRetention
import MiniOgas.CommandDelivery

namespace MiniOgas

open Bounded Serial

variable {settings : AgentSettings} {verifier : CommandVerifier} {builtins : Builtins}
  {nodeCode : String} {commands commands' : List NodeCommand} {operation : CommandOperation}
  {call : CommandCall} {reply : CommandReply} {n : Nat} {loop loop' : ControlLoop}
  {event : ControlEvent} {poll : CommandPoll} {memory : CommandMemory} {command : NodeCommand}
  {db : LocalDatabase}

/-- An identifier that was given, and not to a command that is still open. -/
def Claimed (n : Nat) (commands : List NodeCommand) : Prop :=
  n < nextCommandId commands ∧
    ∀ command ∈ commands, command.id = n → command.status.open = false

theorem closed_of_move {old updated : NodeCommand} (move : CommandMove operation old updated)
    (shut : old.status.open = false) : updated.status.open = false := by
  by_contra isOpen
  rw [Bool.not_eq_false] at isOpen
  rw [open_of_moved move isOpen] at shut
  cases shut

theorem claimed_moved (moves : List.Forall₂ (CommandMove operation) commands commands')
    (settled : Claimed n commands) : Claimed n commands' := by
  refine ⟨?_, fun command member same => ?_⟩
  · rw [nextCommandId, map_id_of_moved moves]
    exact settled.1
  · obtain ⟨old, there, move⟩ := exists_left_of_forall₂ moves member
    exact closed_of_move move (settled.2 old there (move.id ▸ same))

theorem claimed_call (effect : CommandEffect builtins call reply commands commands')
    (settled : Claimed n commands) : Claimed n commands' := by
  have below := settled.1
  refine ⟨Nat.lt_of_lt_of_le below effect.nextCommandId_le, effect.forall ?_ ?_⟩
  · exact fun old there updated move same =>
      closed_of_move move (settled.2 old there (move.id ▸ same))
  · intro command fresh same
    omega

theorem positive_moved (moves : List.Forall₂ (CommandMove operation) commands commands')
    (positive : ∀ command ∈ commands, 1 ≤ command.id) : ∀ command ∈ commands', 1 ≤ command.id := by
  intro command member
  obtain ⟨old, there, move⟩ := exists_left_of_forall₂ moves member
  rw [move.id]
  exact positive old there

theorem positive_call (effect : CommandEffect builtins call reply commands commands')
    (positive : ∀ command ∈ commands, 1 ≤ command.id) : ∀ command ∈ commands', 1 ≤ command.id :=
  effect.forall (fun old there _ move => move.id ▸ positive old there)
    fun _ fresh => fresh ▸ Nat.succ_pos _

theorem claims_moves (nodeCode : String) (loop : ControlLoop) (poll : CommandPoll) :
    ∃ mid, List.Forall₂ (CommandMove (.expireStaleClaims poll.ttlSeconds)) loop.commands mid ∧
      List.Forall₂ (CommandMove (.claim nodeCode nodeCode)) mid (loop.claims nodeCode poll).2 :=
  ⟨_, expireStaleClaims_moves _, claimForNode_moves _ _⟩

theorem mem_claimForNode {agentId : String} {now : Timestamp}
    (member : command ∈ (claimForNode commands now nodeCode agentId).1) :
    (∃ old ∈ commands, old.id = command.id ∧ old.status.open = true) ∧
      command ∈ (claimForNode commands now nodeCode agentId).2 ∧ command.status = .claimed := by
  obtain ⟨old, pending, rfl⟩ := List.mem_map.mp member
  obtain ⟨there, chosen⟩ := List.mem_filter.mp pending
  have claimable := (Bool.and_eq_true _ _ ▸ chosen).2
  have isOpen : old.status.open = true := by
    unfold CommandStatus.claimable at claimable
    unfold CommandStatus.open
    simp only [Bool.or_eq_true] at claimable ⊢
    exact claimable.elim (fun h => .inl (.inr h)) .inr
  exact ⟨⟨old, there, rfl, isOpen⟩, List.mem_map.mpr ⟨old, there, by rw [if_pos chosen]⟩, rfl⟩

theorem mem_claims (member : command ∈ (loop.claims nodeCode poll).1) :
    (∃ old ∈ loop.commands, old.id = command.id ∧ old.status.open = true) ∧
      command ∈ (loop.claims nodeCode poll).2 ∧ command.status = .claimed := by
  obtain ⟨⟨expired, there, same, isOpen⟩, listed⟩ := mem_claimForNode member
  refine ⟨?_, listed⟩
  have moves := @expireStaleClaims_moves loop.commands poll.now poll.ttlSeconds
  obtain ⟨old, was, move⟩ := exists_left_of_forall₂ moves there
  exact ⟨old, was, move.id.symm.trans same, open_of_moved move isOpen⟩

theorem claims_distinct (sound : CommandsSound loop.commands) :
    ((loop.claims nodeCode poll).1.map (·.id)).Nodup := by
  have moves := @expireStaleClaims_moves loop.commands poll.now poll.ttlSeconds
  have ids : (loop.claims nodeCode poll).1.map (·.id) =
      (pendingForNode (expireStaleClaims loop.commands poll.now poll.ttlSeconds).2 nodeCode).map
        (·.id) := by
    unfold ControlLoop.claims claimPendingCommandsForNode claimForNode
    rw [List.map_map]
    rfl
  rw [ids]
  refine List.Nodup.sublist (List.filter_sublist.map _) ?_
  rw [map_id_of_moved moves]
  exact sound.increasing.imp Nat.ne_of_lt

theorem claimed_of_claims (sound : CommandsSound (loop.claims nodeCode poll).2)
    (member : command ∈ (loop.claims nodeCode poll).1) :
    Claimed command.id (loop.claims nodeCode poll).2 := by
  obtain ⟨-, listed, claimed⟩ := mem_claims member
  refine ⟨Nat.lt_succ_of_le (le_greatest (List.mem_map_of_mem listed)), fun other there same => ?_⟩
  rw [eq_of_increasing sound.increasing there listed same, claimed]
  rfl

theorem recordedCommands_run (flush : ResultFlush) (db : LocalDatabase) :
    recordedCommands (flush.run db) = recordedCommands db := by
  unfold ResultFlush.run flushPendingCommandResults
  generalize pendingCommandResults db = items
  induction items generalizing db with
  | nil => rfl
  | cons item items ih => rw [List.foldl_cons, ih, recordedCommands_answer]

theorem run_isSome (flush : ResultFlush) (db : LocalDatabase) (id : Int) :
    ((flush.run db).localCommands.get? id).isSome = (db.localCommands.get? id).isSome := by
  rw [Bool.eq_iff_iff, ← mem_recordedIds, ← mem_recordedIds, recordedCommands_run]

theorem unused_iff {key : String} :
    (∀ item ∈ db.localCommands.items, item.2.idempotencyKey ≠ key) ↔
      ∀ item ∈ recordedCommands db, item.2.idempotencyKey ≠ key := by
  unfold recordedCommands
  rw [List.forall_mem_map]
  rfl

theorem Remembers.run (known : Remembers db memory) (flush : ResultFlush) :
    Remembers (flush.run db) memory := by
  intro id member
  rw [run_isSome]
  exact known id member

structure DeliverySound (loop : ControlLoop) : Prop where
  sound : CommandsSound loop.commands
  positive : ∀ command ∈ loop.commands, 1 ≤ command.id
  settled : ∀ id, (loop.db.localCommands.get? id).isSome = true →
    ∃ n : Nat, id = n ∧ Claimed n loop.commands
  remembers : ∀ memory, loop.memory = some memory → Remembers loop.db memory

theorem DeliverySound.claims (sound : DeliverySound loop) (nodeCode : String)
    (poll : CommandPoll) : CommandsSound (loop.claims nodeCode poll).2 ∧
      (∀ command ∈ (loop.claims nodeCode poll).2, 1 ≤ command.id) ∧
      ∀ n, Claimed n loop.commands → Claimed n (loop.claims nodeCode poll).2 := by
  obtain ⟨mid, expired, claimed⟩ := claims_moves nodeCode loop poll
  have first : CommandEffect sampleBuiltins ⟨poll.now, .expireStaleClaims poll.ttlSeconds⟩
      (.transitioned []) loop.commands mid := .moved expired
  have second : CommandEffect sampleBuiltins ⟨poll.now, .claim nodeCode nodeCode⟩
      (.transitioned []) mid (loop.claims nodeCode poll).2 := .moved claimed
  refine ⟨commandsSound_step second (commandsSound_step first sound.sound), ?_, fun n settled => ?_⟩
  · exact positive_moved claimed (positive_moved expired sound.positive)
  · exact claimed_moved claimed (claimed_moved expired settled)

theorem DeliverySound.undelivered (sound : DeliverySound loop)
    (member : command ∈ (loop.claims nodeCode poll).1) :
    loop.db.localCommands.get? command.id = none := by
  by_contra there
  obtain ⟨n, same, settled⟩ := sound.settled command.id (Option.isSome_iff_ne_none.mpr there)
  obtain ⟨⟨old, was, id, isOpen⟩, -⟩ := mem_claims member
  have shut := settled.2 old was (id.trans (Int.ofNat.inj same))
  rw [isOpen] at shut
  cases shut

theorem DeliverySound.claimed_positive (sound : DeliverySound loop)
    (member : command ∈ (loop.claims nodeCode poll).1) : 1 ≤ command.id :=
  (sound.claims nodeCode poll).2.1 command (mem_claims member).2.1

theorem DeliverySound.takes (sound : DeliverySound loop) (running : loop.memory = some memory)
    {commands : List NodeCommand} (delivered : commands ⊆ (loop.claims nodeCode poll).1) :
    ∃ db memory', receiveAgentCommands settings poll.times (commands.map (·.payload))
        (poll.before.run loop.db) memory = (db, some memory') ∧
      TakesAll settings (poll.before.run loop.db) commands db ∧ Remembers db memory' :=
  receiveAgentCommands_takes (fun _ member => sound.claimed_positive (delivered member))
    ((sound.remembers memory running).run poll.before)

theorem DeliverySound.settled_takes (sound : DeliverySound loop) {commands : List NodeCommand}
    (delivered : commands ⊆ (loop.claims nodeCode poll).1)
    (takes : TakesAll settings (poll.before.run loop.db) commands db) (id : Int)
    (there : (db.localCommands.get? id).isSome = true) :
    ∃ n : Nat, id = n ∧ Claimed n (loop.claims nodeCode poll).2 := by
  obtain ⟨soundAfter, -, kept⟩ := sound.claims nodeCode poll
  by_cases own : ∃ command ∈ commands, (command.id : Int) = id
  · obtain ⟨command, member, same⟩ := own
    exact ⟨command.id, same.symm, claimed_of_claims soundAfter (delivered member)⟩
  · have other : ∀ command ∈ commands, (command.id : Int) ≠ id :=
      fun command member same => own ⟨command, member, same⟩
    rw [takes.isSome_iff id other, run_isSome] at there
    obtain ⟨n, same, settled⟩ := sound.settled id there
    exact ⟨n, same, kept n settled⟩

theorem poll_eq {memory' : CommandMemory}
    (received : receiveAgentCommands settings poll.times
      ((loop.claims nodeCode poll).1.map (·.payload)) (poll.before.run loop.db) memory =
        (db, some memory')) :
    loop.poll settings nodeCode memory poll =
      ⟨(loop.claims nodeCode poll).2, poll.after.run db, some memory'⟩ := by
  unfold ControlLoop.poll pollAgentCommands
  dsimp only
  rw [received]

theorem DeliverySound.afterPoll (sound : DeliverySound loop) (running : loop.memory = some memory) :
    DeliverySound (loop.poll settings nodeCode memory poll) := by
  obtain ⟨soundAfter, positive, -⟩ := sound.claims nodeCode poll
  obtain ⟨db, memory', received, takes, known⟩ :=
    @DeliverySound.takes settings nodeCode loop poll memory sound running _ (List.Subset.refl _)
  rw [poll_eq received]
  refine ⟨soundAfter, positive, fun id there => ?_, fun other same => ?_⟩
  · dsimp only at there
    rw [run_isSome] at there
    exact sound.settled_takes (List.Subset.refl _) takes id there
  · cases same
    exact known.run poll.after

theorem DeliverySound.afterBroken (sound : DeliverySound loop) (running : loop.memory = some memory)
    (received : Nat) : DeliverySound (loop.broken settings nodeCode memory poll received) := by
  obtain ⟨soundAfter, positive, -⟩ := sound.claims nodeCode poll
  have delivered := List.take_subset received (loop.claims nodeCode poll).1
  obtain ⟨db, memory', loopDone, takes, -⟩ :=
    @DeliverySound.takes settings nodeCode loop poll memory sound running _ delivered
  have stopped : loop.broken settings nodeCode memory poll received =
      ⟨(loop.claims nodeCode poll).2, db, none⟩ := by
    unfold ControlLoop.broken
    dsimp only
    rw [loopDone]
  rw [stopped]
  exact ⟨soundAfter, positive, fun id there => sound.settled_takes delivered takes id there, nofun⟩

theorem DeliverySound.step (sound : DeliverySound loop)
    (h : loop.attempt settings verifier nodeCode event = .ok ((), loop')) :
    DeliverySound loop' := by
  cases event with
  | centre call =>
    obtain ⟨⟨reply, commands⟩, attempted, h⟩ := of_bind h
    cases h
    have effect := command_effect attempted
    refine ⟨commandsSound_step effect sound.sound, positive_call effect sound.positive,
      fun id there => ?_, sound.remembers⟩
    obtain ⟨n, same, settled⟩ := sound.settled id there
    exact ⟨n, same, claimed_call effect settled⟩
  | start =>
    cases h
    refine { sound with remembers := fun memory same => ?_ }
    cases same
    exact nofun
  | poll poll =>
    obtain ⟨memory, running, h⟩ := of_bind h
    cases h
    exact sound.afterPoll (orFault_eq_ok.mp running)
  | broken poll received =>
    obtain ⟨memory, running, h⟩ := of_bind h
    cases h
    exact sound.afterBroken (orFault_eq_ok.mp running) received
  | crash =>
    cases h
    exact { sound with remembers := nofun }

theorem deliverySound_initial : DeliverySound {} := by
  refine ⟨commandsSound_empty, fun command member => ?_, fun id there => ?_, fun memory same => ?_⟩
  · cases member
  · cases there
  · cases same

theorem keepsDelivered_iff (sound : DeliverySound loop) :
    KeepsDelivered settings nodeCode loop event ↔ KeysUnused settings nodeCode loop event := by
  have polled : ∀ poll memory, loop.memory = some memory →
      ((∀ command ∈ (loop.claims nodeCode poll).1,
        ((loop.poll settings nodeCode memory poll).db.localCommands.get? command.id).isSome =
          true) ↔
      ((loop.claims nodeCode poll).1.map (·.localKey settings)).Nodup ∧
        ∀ command ∈ (loop.claims nodeCode poll).1, ∀ item ∈ loop.db.localCommands.items,
          item.2.idempotencyKey ≠ command.localKey settings) := by
    intro poll memory running
    obtain ⟨db, memory', received, takes, -⟩ :=
      @DeliverySound.takes settings nodeCode loop poll memory sound running _ (List.Subset.refl _)
    rw [poll_eq received]
    have own := takes.own_iff (claims_distinct sound.sound) fun command member => by
      have new := sound.undelivered member
      rw [← Option.not_isSome_iff_eq_none, run_isSome, new]
      nofun
    simp only [run_isSome, own, unused_iff, recordedCommands_run]
  constructor
  · intro keeps poll same running
    obtain ⟨memory, running⟩ := Option.isSome_iff_exists.mp running
    exact (polled poll memory running).mp fun command member =>
      keeps poll memory same running command member (sound.claimed_positive member)
  · intro unused poll memory same running command member _
    exact (polled poll memory running).mpr (unused poll same (by rw [running]; rfl)) command member

/-- In every run the polls keep all that they deliver if and only if the keys of each poll are
different, and unused. -/
theorem keepsDelivered_along_iff (settings : AgentSettings) (verifier : CommandVerifier)
    (nodeCode : String) (events : List ControlEvent) :
    (controlAuthority settings verifier nodeCode).Along (KeepsDelivered settings nodeCode) {}
        events ↔
      (controlAuthority settings verifier nodeCode).Along (KeysUnused settings nodeCode) {}
        events := by
  constructor
  · intro along
    refine Authority.along_invariant (I := DeliverySound) ?_ ?_ deliverySound_initial along
    · exact fun sound _ h => sound.step h
    · exact fun sound keeps => (keepsDelivered_iff sound).mp keeps
  · intro along
    refine Authority.along_invariant (I := DeliverySound) ?_ ?_ deliverySound_initial along
    · exact fun sound _ h => sound.step h
    · exact fun sound unused => (keepsDelivered_iff sound).mpr unused

def sampleSettings : AgentSettings := ⟨sampleBuiltins, fun _ => none, 2⟩

def samplePoll : CommandPoll where
  now := 1
  ttlSeconds := 120
  times _ := (2, 3)
  before := ⟨2, fun _ _ _ => ⟨true, 200, ""⟩⟩
  after := ⟨3, fun _ _ _ => ⟨true, 200, ""⟩⟩

def sampleDispatchRate : ControlEvent :=
  .centre ⟨0, .create { sampleRateRequest "milling-workshop-01" with
    parameters := [("target_rate", .float (7 / 10)),
      ("idempotency_key", .str "dispatch:O-1:milling-workshop-01:10:60")] }⟩

def sampleRedispatch : List ControlEvent :=
  [.start, sampleDispatchRate, .poll samplePoll] ++
    (List.replicate commandCapacity (sampleRate "node-0")).map .centre ++ [sampleDispatchRate]

/-- The agent takes the new command for the old one, and drops it. -/
theorem poll_drops_redispatch : ¬∀ (settings : AgentSettings) (verifier : CommandVerifier)
    (nodeCode : String) (events : List ControlEvent),
    (controlAuthority settings verifier nodeCode).Along (KeepsDelivered settings nodeCode) {}
      events := by
  intro h
  have along := (Authority.along_append.mp (h sampleSettings .standard "milling-workshop-01"
    (sampleRedispatch ++ [.poll samplePoll]))).2.1
  generalize reached : (controlAuthority sampleSettings .standard "milling-workshop-01").run {}
    sampleRedispatch = loop at along
  have polled : ((loop.claims "milling-workshop-01" samplePoll).1.map (·.id),
      loop.memory.map fun memory => ((loop.poll sampleSettings "milling-workshop-01" memory
        samplePoll).db.localCommands.get? ((102 : Nat) : Int)).isNone) = ([102], some true) := by
    rw [← reached]
    decide +kernel
  obtain ⟨delivered, dropped⟩ := Prod.mk.inj polled
  obtain ⟨memory, running, dropped⟩ := Option.map_eq_some_iff.mp dropped
  obtain ⟨command, only, id⟩ := List.map_eq_singleton_iff.mp delivered
  have kept := along samplePoll memory rfl running command
    (by rw [only]; exact List.mem_cons_self) (by omega)
  rw [id, Option.isNone_iff_eq_none.mp dropped] at kept
  cases kept

end MiniOgas
