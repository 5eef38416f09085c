import MiniOgas.CommandLaws

namespace MiniOgas

open Bounded Serial

variable {builtins : Builtins} {verifier : CommandVerifier} {commands commands' : List NodeCommand}
  {operation : CommandOperation} {command updated once : NodeCommand}
  {reply : CommandReply} {call : CommandCall} {commandId : Nat}

/-- A result reports that a command was carried out after the command has failed. -/
def LateSuccess (commandId : Nat) (commands : List NodeCommand) (call : CommandCall) : Prop :=
  ∃ command ∈ commands, command.id = commandId ∧ command.status = .failed ∧
    ∃ status message, normalizedResult status = some .applied ∧
      call.operation = .recordResult command.nodeCode command.id status message

def HasStatus (commandId : Nat) (status : CommandStatus) (commands : List NodeCommand) : Prop :=
  ∀ command ∈ commands, command.id = commandId → command.status = status

theorem status_of_moved (member : command ∈ commands)
    (move : CommandMove call.operation command updated)
    (late : ¬ LateSuccess command.id commands call)
    (terminal : command.status.terminal = true) : updated.status = command.status := by
  have status := move.status
  generalize updated.status = toStatus at status
  cases status with
  | stay => rfl
  | @result status message _ called normalized accepts =>
    have failed : command.status = .failed := by
      cases h : command.status <;> rw [h] at terminal accepts <;> first | rfl | contradiction
    rcases normalizedResult_cases normalized with rfl | rfl
    · exact absurd ⟨command, member, rfl, failed, status, message, normalized, called⟩ late
    · exact failed.symm
  | claim claimable => cases h : command.status <;> rw [h] at claimable terminal <;> contradiction
  | approve waiting | review waiting | reject waiting =>
    rw [waiting] at terminal
    cases terminal
  | cancel _ live =>
    rw [terminal] at live
    cases live.1
  | expire _ claimed =>
    rw [claimed] at terminal
    cases terminal
  | supersede isOpen => cases h : command.status <;> rw [h] at isOpen terminal <;> contradiction
  | verify carriedOut =>
    rcases carriedOut with h | h <;> rw [h] at terminal <;> cases terminal

theorem hasStatus_step (effect : CommandEffect builtins call reply commands commands')
    (recalls : Recalls once commands) (late : ¬ LateSuccess once.id commands call)
    (terminal : once.status.terminal = true) (kept : HasStatus once.id once.status commands) :
    HasStatus once.id once.status commands' := by
  have above := recalls.1
  refine effect.forall (fun command there updated move same => ?_) fun command fresh same => ?_
  · have same : command.id = once.id := move.id ▸ same
    have status := kept command there same
    rw [← status]
    exact status_of_moved there move (same ▸ late) (status ▸ terminal)
  · omega

theorem exists_applied (sound : CommandsSound commands)
    (late : LateSuccess commandId commands call) :
    ∃ command ∈ (commandAuthority builtins verifier).serve commands call,
      command.id = commandId ∧ command.status = .applied := by
  obtain ⟨command, member, rfl, failed, status, message, normalized, called⟩ := late
  have found : commands.find? (fun row => row.id = command.id && row.nodeCode = command.nodeCode) =
      some command := by
    have some : (commands.find? fun row => row.id = command.id &&
        row.nodeCode = command.nodeCode).isSome = true := by
      rw [List.find?_isSome]
      exact ⟨command, member, by simp⟩
    obtain ⟨other, found⟩ := Option.isSome_iff_exists.mp some
    have named := List.find?_some found
    simp only [Bool.and_eq_true, decide_eq_true_eq] at named
    rw [found, eq_of_increasing sound.increasing (List.mem_of_find?_eq_some found) member named.1]
  have recorded : recordResult commands call.now command.nodeCode command.id status message =
      .ok ((command.withResult call.now .applied message, true),
        modifyFirst (fun row => row.id = command.id && row.nodeCode = command.nodeCode)
          (fun _ => command.withResult call.now .applied message) commands) := by
    simp [recordResult, findCommandForNode, found, orFault, normalized, failed, check, ok_bind,
      CommandStatus.acceptsResult]
  have attempted : (commandAuthority builtins verifier).attempt call commands =
      .ok (.updated (command.withResult call.now .applied message) true,
        modifyFirst (fun row => row.id = command.id && row.nodeCode = command.nodeCode)
          (fun _ => command.withResult call.now .applied message) commands) := by
    change CommandCall.attempt builtins verifier call commands = _
    unfold CommandCall.attempt
    rw [called]
    exact bind_eq_ok.mpr ⟨_, recorded, rfl⟩
  rw [Authority.serve_of_ok attempted]
  exact ⟨_, mem_modifyFirst found, rfl, rfl⟩

/-- A command that has ended keeps its status as long as the list holds it, if and only if no
late report of success reaches it. -/
theorem status_kept_iff (builtins : Builtins) (verifier : CommandVerifier)
    (calls later : List CommandCall) (ended : NodeCommand)
    (member : ended ∈ (commandAuthority builtins verifier).run [] calls)
    (terminal : ended.status.terminal = true) :
    (∀ prior, prior <+: later → HasStatus ended.id ended.status
        ((commandAuthority builtins verifier).run [] (calls ++ prior))) ↔
      (commandAuthority builtins verifier).Along
        (fun commands call => ¬ LateSuccess ended.id commands call)
        ((commandAuthority builtins verifier).run [] calls) later := by
  have sound := commandsSound_run builtins verifier calls
  have recalls := recalls_of_mem sound member
  have own : HasStatus ended.id ended.status
      ((commandAuthority builtins verifier).run [] calls) :=
    fun command other same => by rw [eq_of_increasing sound.increasing other member same]
  simp only [Authority.run_append]
  generalize (commandAuthority builtins verifier).run [] calls = commands at sound recalls own
  constructor
  · intro kept
    clear own recalls member
    induction later generalizing commands with
    | nil => trivial
    | cons call later ih =>
      have next : CommandsSound ((commandAuthority builtins verifier).serve commands call) := by
        rcases (commandAuthority builtins verifier).serve_cases commands call with same | ⟨_, h⟩
        · rw [same]
          exact sound
        · exact commandsSound_step (command_effect h) sound
      refine ⟨fun late => ?_, ih _ next fun prior hprior => ?_⟩
      · obtain ⟨command, there, same, failed, -⟩ := id late
        have before := kept [] List.nil_prefix command there same
        obtain ⟨updated, there', same', applied⟩ := exists_applied sound late
        have after := kept [call] (List.prefix_append [call] later) updated there' same'
        rw [applied, ← before, failed] at after
        cases after
      · exact kept (call :: prior) (List.prefix_cons_inj call |>.mpr hprior)
  · rintro along prior ⟨rest, rfl⟩
    refine (Authority.invariant_along (I := fun commands => Recalls ended commands ∧
      HasStatus ended.id ended.status commands) ?_ ⟨recalls, own⟩
      (Authority.along_append.mp along).1).2
    intro commands call reply commands' holds late h
    have effect := command_effect h
    exact ⟨recalls_step effect holds.1, hasStatus_step effect holds.1 late terminal holds.2⟩

def sampleRateRequest (nodeCode : String) : CommandRequest where
  nodeCode := nodeCode
  commandType := "set_target_rate"
  riskLevel := "low"
  status := .pending
  operator := "planner"
  parameters := [("target_rate", .float (7 / 10))]

def sampleRate (nodeCode : String) : CommandCall := ⟨0, .create (sampleRateRequest nodeCode)⟩

def sampleResult (status message : String) : CommandCall :=
  ⟨1, .recordResult "milling-workshop-01" 1 status message⟩

def sampleFailedRate : List CommandCall :=
  [sampleRate "milling-workshop-01", sampleResult "failed" "actuator error"]

theorem sampleFailedRate_run :
    ∃ ended, (commandAuthority sampleBuiltins .standard).run [] sampleFailedRate = [ended] ∧
      ended.id = 1 ∧ ended.status = .failed := by
  have listed : ((commandAuthority sampleBuiltins .standard).run [] sampleFailedRate).map
      (fun command => (command.id, command.status)) = [(1, .failed)] := by
    decide +kernel
  obtain ⟨ended, only, same⟩ := List.map_eq_singleton_iff.mp listed
  exact ⟨ended, only, (Prod.mk.inj same).1, (Prod.mk.inj same).2⟩

/-- A failure that is reported again stays a failure. -/
theorem status_kept_iff_failed_again :
    HasStatus 1 .failed ((commandAuthority sampleBuiltins .standard).run []
      (sampleFailedRate ++ [sampleResult "failed" "no answer"])) := by
  obtain ⟨ended, only, hid, failed⟩ := sampleFailedRate_run
  have kept := (status_kept_iff sampleBuiltins .standard sampleFailedRate
    [sampleResult "failed" "no answer"] ended (by rw [only]; exact List.mem_singleton_self ended)
    (by rw [failed]; rfl)).mpr ?_ _ (List.prefix_refl _)
  · rwa [hid, failed] at kept
  · refine ⟨?_, trivial⟩
    rintro ⟨command, -, -, -, status, message, normalized, called⟩
    rw [sampleResult, CommandOperation.recordResult.injEq] at called
    rw [← called.2.2.1] at normalized
    cases normalized

/-- A report of success revives the failed command. -/
theorem record_result_revives_failed : ¬ ∀ (builtins : Builtins) (verifier : CommandVerifier)
    (calls later : List CommandCall) (ended : NodeCommand),
    ended ∈ (commandAuthority builtins verifier).run [] calls → ended.status.terminal = true →
    HasStatus ended.id ended.status
      ((commandAuthority builtins verifier).run [] (calls ++ later)) := by
  intro h
  obtain ⟨ended, only, hid, failed⟩ := sampleFailedRate_run
  have kept := h sampleBuiltins .standard sampleFailedRate [sampleResult "executed" "applied"] ended
    (by rw [only]; exact List.mem_singleton_self ended) (by rw [failed]; rfl)
  have listed : ((commandAuthority sampleBuiltins .standard).run []
      (sampleFailedRate ++ [sampleResult "executed" "applied"])).map
        (fun command => (command.id, command.status)) = [(1, .applied)] := by
    decide +kernel
  obtain ⟨revived, only, same⟩ := List.map_eq_singleton_iff.mp listed
  have := kept revived (by rw [only]; exact List.mem_singleton_self revived)
    ((Prod.mk.inj same).1.trans hid.symm)
  rw [failed, (Prod.mk.inj same).2] at this
  cases this

end MiniOgas
