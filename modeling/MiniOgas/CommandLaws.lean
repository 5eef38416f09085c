import MiniOgas.CommandEffects

namespace MiniOgas

open Bounded Serial

variable {builtins : Builtins} {verifier : CommandVerifier} {commands commands' : List NodeCommand}
  {now : Timestamp} {operation : CommandOperation} {command updated : NodeCommand}
  {reply : CommandReply} {call : CommandCall} {nodeCode commandType : String}

structure CommandsSound (commands : List NodeCommand) : Prop where
  increasing : (commands.map (·.id)).Pairwise (· < ·)
  sole : ∀ nodeCode commandType, commands.countP (·.isOpen nodeCode commandType) ≤ 1
  bounded : commands.length ≤ commandCapacity

theorem open_of_moved (move : CommandMove operation command updated)
    (isOpen : updated.status.open = true) : command.status.open = true := by
  have status := move.status
  generalize updated.status = toStatus at status isOpen
  cases status with
  | stay => exact isOpen
  | result _ normalized =>
    rcases normalizedResult_cases normalized with rfl | rfl <;> cases isOpen
  | approve waiting => rw [waiting]; rfl
  | verify _ verdict => rcases verdict with rfl | rfl | rfl <;> cases isOpen
  | claim | review | reject | cancel | expire | supersede => cases isOpen

theorem isOpen_of_moved (move : CommandMove operation command updated)
    (isOpen : updated.isOpen nodeCode commandType = true) :
    command.isOpen nodeCode commandType = true := by
  simp only [NodeCommand.isOpen, Bool.and_eq_true, decide_eq_true_eq] at isOpen ⊢
  obtain ⟨⟨ofNode, ofType⟩, isOpen⟩ := isOpen
  exact ⟨⟨move.nodeCode ▸ ofNode, move.commandType ▸ ofType⟩, open_of_moved move isOpen⟩

theorem map_id_of_moved (moves : List.Forall₂ (CommandMove operation) commands commands') :
    commands'.map (·.id) = commands.map (·.id) :=
  map_eq_of_forall₂ (fun _ _ move => move.id) moves

theorem countP_isOpen_of_moved (moves : List.Forall₂ (CommandMove operation) commands commands')
    (nodeCode commandType : String) :
    commands'.countP (·.isOpen nodeCode commandType) ≤
      commands.countP (·.isOpen nodeCode commandType) :=
  countP_le_of_forall₂ (fun _ _ move => isOpen_of_moved move) moves

theorem countP_isOpen_superseded (commands : List NodeCommand) (nodeCode commandType : String)
    (replacementId : Nat) :
    (supersedePending commands now nodeCode commandType replacementId).2.countP
      (·.isOpen nodeCode commandType) = 0 := by
  rw [List.countP_eq_zero]
  intro command member
  obtain ⟨old, -, rfl⟩ := List.mem_map.mp member
  split
  next => simp [NodeCommand.isOpen, NodeCommand.supersede, CommandStatus.open]
  next h => exact h

theorem commandsSound_step (effect : CommandEffect builtins call reply commands commands')
    (sound : CommandsSound commands) : CommandsSound commands' := by
  cases effect with
  | moved moves =>
    refine ⟨?_, fun nodeCode commandType => ?_, ?_⟩
    · rw [map_id_of_moved moves]
      exact sound.increasing
    · exact (countP_isOpen_of_moved moves nodeCode commandType).trans
        (sound.sole nodeCode commandType)
    · rw [← moves.length_eq]
      exact sound.bounded
  | @created request command _ ofNode ofType fresh _ kept =>
    have moves := replaces_moves call.operation commands call.now request
    rw [kept]
    refine ⟨?_, fun nodeCode commandType => ?_, length_keepLast_le _ _⟩
    · refine List.Pairwise.sublist ((keepLast_sublist _ _).map _) ?_
      rw [List.map_append, map_id_of_moved moves]
      have above : greatest (commands.map (·.id)) < command.id := fresh ▸ Nat.lt_succ_self _
      exact increasing_append sound.increasing above
    · refine ((keepLast_sublist _ _).countP_le).trans ?_
      rw [List.countP_append, List.countP_singleton]
      have before := (countP_isOpen_of_moved moves nodeCode commandType).trans
        (sound.sole nodeCode commandType)
      split
      next isOpen =>
        simp only [NodeCommand.isOpen, Bool.and_eq_true, decide_eq_true_eq] at isOpen
        rw [← isOpen.1.1, ← isOpen.1.2, ofNode, ofType, CommandRequest.replaces,
          countP_isOpen_superseded]
      next => omega

theorem commandsSound_empty : CommandsSound [] :=
  ⟨List.Pairwise.nil, fun _ _ => Nat.zero_le _, Nat.zero_le _⟩

theorem commandsSound_run (builtins : Builtins) (verifier : CommandVerifier)
    (calls : List CommandCall) :
    CommandsSound ((commandAuthority builtins verifier).run [] calls) := by
  refine Authority.invariant (I := CommandsSound) ?_ calls commandsSound_empty
  intro commands call reply commands' sound h
  exact commandsSound_step (command_effect h) sound

/-- A command that was once in the list: a later creation gets a greater identifier, and what
has its identifier is the same command. -/
def Recalls (once : NodeCommand) (commands : List NodeCommand) : Prop :=
  once.id < nextCommandId commands ∧
    ∀ command ∈ commands, command.id = once.id → command.identity = once.identity

variable {once : NodeCommand}

theorem eq_of_increasing {xs : List NodeCommand} (increasing : (xs.map (·.id)).Pairwise (· < ·))
    {first second : NodeCommand} (hfirst : first ∈ xs) (hsecond : second ∈ xs)
    (same : first.id = second.id) : first = second := by
  have distinct : (xs.map (·.id)).Nodup := increasing.imp fun lt => Nat.ne_of_lt lt
  exact List.inj_on_of_nodup_map distinct hfirst hsecond same

theorem recalls_of_mem (sound : CommandsSound commands) (member : once ∈ commands) :
    Recalls once commands := by
  refine ⟨Nat.lt_succ_of_le (le_greatest (List.mem_map_of_mem member)), ?_⟩
  intro command other same
  rw [eq_of_increasing sound.increasing other member same]

theorem CommandEffect.nextCommandId_le
    (effect : CommandEffect builtins call reply commands commands') :
    nextCommandId commands ≤ nextCommandId commands' := by
  cases effect with
  | moved moves => rw [nextCommandId, nextCommandId, map_id_of_moved moves]
  | @created request command _ _ _ fresh _ kept =>
    have listed : command.id ∈ commands'.map (·.id) := by
      rw [kept]
      exact List.mem_map_of_mem (mem_keepLast_append _ _ _)
    exact fresh ▸ Nat.le_succ_of_le (le_greatest listed)

theorem CommandEffect.forall {P : NodeCommand → Prop}
    (effect : CommandEffect builtins call reply commands commands')
    (moved : ∀ command ∈ commands, ∀ updated,
      CommandMove call.operation command updated → P updated)
    (fresh : ∀ command, command.id = nextCommandId commands → P command) :
    ∀ command ∈ commands', P command := by
  have each : ∀ {xs}, List.Forall₂ (CommandMove call.operation) commands xs →
      ∀ command ∈ xs, P command := by
    intro xs moves updated member
    obtain ⟨command, there, move⟩ := exists_left_of_forall₂ moves member
    exact moved command there updated move
  cases effect with
  | moved moves => exact each moves
  | created _ _ _ own _ kept =>
    intro command member
    rw [kept] at member
    rcases of_mem_keepLast_append member with old | rfl
    · exact each (replaces_moves _ _ _ _) command old
    · exact fresh command own

theorem recalls_step (effect : CommandEffect builtins call reply commands commands')
    (recalls : Recalls once commands) : Recalls once commands' := by
  have above := recalls.1
  refine ⟨Nat.lt_of_lt_of_le above effect.nextCommandId_le, effect.forall ?_ ?_⟩
  · exact fun old there updated move same => move.same.trans (recalls.2 old there (move.id ▸ same))
  · intro command fresh same
    omega

/-- In every run the identifiers of the listed commands increase, an identifier that was once
in the list is not given again, and a node has at most one open command of a type. -/
theorem commandIds_run (builtins : Builtins) (verifier : CommandVerifier)
    (calls : List CommandCall) :
    (((commandAuthority builtins verifier).run [] calls).map (·.id)).Pairwise (· < ·) ∧
    (∀ once ∈ (commandAuthority builtins verifier).run [] calls, ∀ later : List CommandCall,
      Recalls once ((commandAuthority builtins verifier).run [] (calls ++ later))) ∧
    (∀ request now command transitions commands',
      createCommand builtins ((commandAuthority builtins verifier).run [] calls) now request =
        .ok ((command, transitions, true), commands') →
      command.id = nextCommandId ((commandAuthority builtins verifier).run [] calls)) ∧
    ∀ nodeCode commandType, ((commandAuthority builtins verifier).run [] calls).countP
      (·.isOpen nodeCode commandType) ≤ 1 := by
  have sound := commandsSound_run builtins verifier calls
  refine ⟨sound.increasing, fun once member later => ?_, ?_, sound.sole⟩
  · rw [Authority.run_append]
    refine Authority.invariant (I := Recalls once) ?_ later (recalls_of_mem sound member)
    intro commands call reply commands' recalls h
    exact recalls_step (command_effect h) recalls
  · intro request now command transitions commands' h
    unfold createCommand at h
    split at h
    next => cases h
    next =>
      obtain ⟨ttlSeconds, -, h⟩ := of_bind h
      cases h
      rfl

end MiniOgas
