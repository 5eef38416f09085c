import MiniOgas.CommandTerminal

namespace MiniOgas

open Bounded Serial

variable {builtins : Builtins} {verifier : CommandVerifier} {commands commands' : List NodeCommand}
  {now : Timestamp} {command : NodeCommand} {request : CommandRequest} {call : CommandCall}

/-- A transition of the reply says that the command was superseded. -/
def CommandReply.Supersedes (reply : CommandReply) (commandId : Nat) : Prop :=
  ∃ transition ∈ reply.transitions, transition.command.id = commandId ∧
    transition.command.status = .superseded

/-- The call leaves every live command in the list, unless it supersedes it. -/
def RemembersLive (builtins : Builtins) (verifier : CommandVerifier)
    (commands : List NodeCommand) (call : CommandCall) : Prop :=
  ∀ command ∈ commands, command.status.terminal = false →
    (∃ kept ∈ (commandAuthority builtins verifier).serve commands call, kept.id = command.id) ∨
    ∃ reply commands', (commandAuthority builtins verifier).attempt call commands =
      .ok (reply, commands') ∧ reply.Supersedes command.id

/-- The call appends a command to a full list whose oldest command is live, and is not one
that the new command supersedes. -/
def CrowdsOut (builtins : Builtins) (commands : List NodeCommand) (call : CommandCall) : Prop :=
  ∃ request oldest, call.Appends builtins commands request ∧
    commands.length = commandCapacity ∧ commands.head? = some oldest ∧
    oldest.status.terminal = false ∧ oldest.isOpen request.nodeCode request.commandType = false

theorem createCommand_of_fresh (unused : repeatedCommand builtins commands request = none)
    (converts : (request.ttlSeconds builtins (nextCommandId commands)).isSome = true) :
    ∃ command, command.id = nextCommandId commands ∧
      createCommand builtins commands now request =
        .ok ((command, (request.replaces commands now).1, true),
          keepLast commandCapacity ((request.replaces commands now).2 ++ [command])) := by
  obtain ⟨ttlSeconds, converted⟩ := Option.isSome_iff_exists.mp converts
  refine ⟨request.command now (nextCommandId commands) ttlSeconds, rfl, ?_⟩
  unfold createCommand
  rw [unused]
  exact bind_eq_ok.mpr ⟨ttlSeconds, orFault_eq_ok.mpr converted, rfl⟩

theorem attempt_of_appends (appends : call.Appends builtins commands request) :
    ∃ reply command, command.id = nextCommandId commands ∧
      reply.transitions = (request.replaces commands call.now).1 ∧
      (commandAuthority builtins verifier).attempt call commands = .ok (reply,
        keepLast commandCapacity ((request.replaces commands call.now).2 ++ [command])) := by
  obtain ⟨requested, unused, converts⟩ := appends
  obtain ⟨command, hid, created⟩ := @createCommand_of_fresh _ _ call.now _ unused converts
  change ∃ reply command, _ ∧ _ ∧ call.attempt builtins verifier commands = _
  unfold CommandCall.attempt
  unfold CommandCall.request at requested
  split at requested
  next asked hop =>
    cases requested
    rw [hop]
    exact ⟨_, command, hid, rfl, bind_eq_ok.mpr ⟨_, created, rfl⟩⟩
  next commandId actor hop =>
    rw [hop]
    obtain ⟨source, found, rfl⟩ := Option.map_eq_some_iff.mp requested
    obtain ⟨found, retryable⟩ := Option.filter_eq_some_iff.mp found
    have retried : retry builtins commands call.now commandId actor =
        .ok ((command, ((source.retryRequest actor).replaces commands call.now).1),
          keepLast commandCapacity
            (((source.retryRequest actor).replaces commands call.now).2 ++ [command])) := by
      refine bind_eq_ok.mpr ⟨source, orFault_eq_ok.mpr found, ?_⟩
      refine bind_eq_ok.mpr ⟨(), check_eq_ok.mpr retryable, ?_⟩
      exact bind_eq_ok.mpr ⟨_, created, rfl⟩
    exact ⟨_, command, hid, rfl, bind_eq_ok.mpr ⟨_, retried, rfl⟩⟩
  next => cases requested

theorem supersedes_iff {reply : CommandReply} (sound : CommandsSound commands)
    (reported : reply.transitions = (request.replaces commands now).1)
    (member : command ∈ commands) : reply.Supersedes command.id ↔
      command.isOpen request.nodeCode request.commandType = true := by
  unfold CommandReply.Supersedes
  rw [reported]
  constructor
  · rintro ⟨transition, there, same, -⟩
    obtain ⟨other, hother, rfl⟩ := List.mem_map.mp there
    obtain ⟨hother, isOpen⟩ := List.mem_filter.mp hother
    rw [← eq_of_increasing sound.increasing hother member same]
    exact isOpen
  · intro isOpen
    exact ⟨_, List.mem_map_of_mem (List.mem_filter.mpr ⟨member, isOpen⟩), rfl, rfl⟩

theorem remembersLive_of_not_appends
    (not : ∀ request, ¬ call.Appends builtins commands request) :
    RemembersLive builtins verifier commands call := by
  intro command member _
  refine .inl ?_
  rcases (commandAuthority builtins verifier).serve_cases commands call with same | ⟨reply, h⟩
  · rw [same]
    exact ⟨command, member, rfl⟩
  · cases command_effect h with
    | moved moves =>
      obtain ⟨kept, there, move⟩ := exists_right_of_forall₂ moves member
      exact ⟨kept, there, move.id⟩
    | created appends => exact absurd appends (not _)

theorem oldest_dropped {oldest new : NodeCommand} {rest replaced : List NodeCommand}
    (sound : CommandsSound (oldest :: rest)) (fresh : new.id = nextCommandId (oldest :: rest))
    (full : (oldest :: rest).length = commandCapacity)
    (moves : List.Forall₂ (CommandMove call.operation) (oldest :: rest) replaced) :
    ∀ kept ∈ keepLast commandCapacity (replaced ++ [new]), kept.id ≠ oldest.id := by
  have above := (List.pairwise_cons.mp sound.increasing).1
  have length : replaced.length = commandCapacity := moves.length_eq.symm.trans full
  rw [keepLast_append _ length.le, if_pos length]
  cases moves with
  | cons move others =>
    intro kept there same
    rcases of_mem_concat there with there | rfl
    · obtain ⟨old, hold, move⟩ := exists_left_of_forall₂ others there
      have later : oldest.id < old.id := above old.id (List.mem_map_of_mem hold)
      have := move.id
      omega
    · have most : oldest.id ≤ greatest ((oldest :: rest).map (·.id)) :=
        le_greatest List.mem_cons_self
      rw [nextCommandId] at fresh
      omega

theorem kept_of_not_oldest {new : NodeCommand} {replaced : List NodeCommand}
    (sound : CommandsSound commands) (member : command ∈ commands)
    (younger : commands.length = commandCapacity → commands.head? ≠ some command)
    (moves : List.Forall₂ (CommandMove call.operation) commands replaced) :
    ∃ kept ∈ keepLast commandCapacity (replaced ++ [new]), kept.id = command.id := by
  have length := moves.length_eq
  rw [keepLast_append _ (length ▸ sound.bounded)]
  split
  next full =>
    cases moves with
    | nil => cases member
    | cons move others =>
      have ne := younger (length.trans full)
      rcases List.mem_cons.mp member with rfl | member
      · exact absurd rfl ne
      · obtain ⟨kept, there, move⟩ := exists_right_of_forall₂ others member
        exact ⟨kept, List.mem_append_left _ there, move.id⟩
  next =>
    obtain ⟨kept, there, move⟩ := exists_right_of_forall₂ moves member
    exact ⟨kept, List.mem_append_left _ there, move.id⟩

theorem remembersLive_iff (sound : CommandsSound commands) :
    RemembersLive builtins verifier commands call ↔ ¬ CrowdsOut builtins commands call := by
  by_cases some : ∃ request, call.Appends builtins commands request
  · obtain ⟨request, appends⟩ := some
    obtain ⟨reply, new, fresh, reported, attempted⟩ :=
      @attempt_of_appends _ verifier _ _ _ appends
    have served := Authority.serve_of_ok attempted
    have moves := replaces_moves call.operation commands call.now request
    constructor
    · rintro remembers ⟨asked, oldest, asks, full, first, live, other⟩
      cases appends.1.symm.trans asks.1
      obtain ⟨rest, rfl⟩ := List.head?_eq_some_iff.mp first
      rcases remembers oldest List.mem_cons_self live with ⟨kept, there, same⟩ | ⟨_, _, h, reports⟩
      · rw [served] at there
        exact oldest_dropped sound fresh full moves kept there same
      · cases attempted.symm.trans h
        rw [supersedes_iff sound reported List.mem_cons_self, other] at reports
        cases reports
    · intro room command member live
      by_cases younger : commands.length = commandCapacity → commands.head? ≠ some command
      · rw [served]
        exact .inl (kept_of_not_oldest sound member younger moves)
      · simp only [Classical.not_imp, not_not] at younger
        refine .inr ⟨reply, _, attempted, (supersedes_iff sound reported member).mpr ?_⟩
        by_contra other
        exact room ⟨request, command, appends, younger.1, younger.2, live,
          eq_false_of_ne_true other⟩
  · have not : ∀ request, ¬ call.Appends builtins commands request :=
      fun request appends => some ⟨request, appends⟩
    refine iff_of_true (remembersLive_of_not_appends not) ?_
    rintro ⟨request, _, appends, -⟩
    exact not request appends

/-- In every run no live command is forgotten, if and only if no call crowds one out. -/
theorem remembersLive_along_iff (builtins : Builtins) (verifier : CommandVerifier)
    (calls : List CommandCall) :
    (commandAuthority builtins verifier).Along (RemembersLive builtins verifier) [] calls ↔
      (commandAuthority builtins verifier).Along
        (fun commands call => ¬ CrowdsOut builtins commands call) [] calls := by
  constructor
  · intro along
    refine Authority.along_invariant (I := CommandsSound) ?_ ?_ commandsSound_empty along
    · exact fun sound _ h => commandsSound_step (command_effect h) sound
    · exact fun sound remembers => (remembersLive_iff sound).mp remembers
  · intro along
    refine Authority.along_invariant (I := CommandsSound) ?_ ?_ commandsSound_empty along
    · exact fun sound _ h => commandsSound_step (command_effect h) sound
    · exact fun sound room => (remembersLive_iff sound).mpr room

def sampleRates (n : Nat) : List CommandCall :=
  (List.range n).map fun i => sampleRate s!"node-{i}"

/-- One rate command after a hundred others, each for another node: the first one is gone. -/
theorem create_command_forgets_pending : ¬ ∀ (builtins : Builtins) (verifier : CommandVerifier)
    (calls : List CommandCall),
    (commandAuthority builtins verifier).Along (RemembersLive builtins verifier) [] calls := by
  intro h
  have along := (Authority.along_append.mp (h sampleBuiltins .standard
    (sampleRates commandCapacity ++ [sampleRate "node-100"]))).2.1
  have sound := commandsSound_run sampleBuiltins .standard (sampleRates commandCapacity)
  generalize hcommands : (commandAuthority sampleBuiltins .standard).run []
    (sampleRates commandCapacity) = commands at along sound
  refine (remembersLive_iff sound).mp along ?_
  have full : commands.length = commandCapacity := by
    rw [← hcommands]
    decide +kernel
  have first : commands.head?.map (fun command => (command.nodeCode, command.status)) =
      some ("node-0", .pending) := by
    rw [← hcommands]
    decide +kernel
  have unused : (repeatedCommand sampleBuiltins commands (sampleRateRequest "node-100")).isNone =
      true := by
    rw [← hcommands]
    decide +kernel
  obtain ⟨oldest, hfirst, same⟩ := Option.map_eq_some_iff.mp first
  obtain ⟨ofNode, pending⟩ := Prod.mk.inj same
  refine ⟨sampleRateRequest "node-100", oldest, ⟨rfl, Option.isNone_iff_eq_none.mp unused, rfl⟩,
    full, hfirst, by rw [pending]; rfl, ?_⟩
  simp [NodeCommand.isOpen, ofNode, sampleRateRequest]

end MiniOgas
